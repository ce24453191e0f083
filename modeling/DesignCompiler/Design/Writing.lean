import DesignCompiler.Design.Node

/-!
Contract: writing design trees as JSON.

Owns:
- the order of the entries: the declared fields first, in a fixed order, and then the others in the
  order in which they were read;
- the omission of absent fields and of other entries that are null.

Does not own: the text of the JSON written.
-/

set_option autoImplicit false

namespace DesignCompiler.Design

def entry? (key : String) : Option Json → Fields
  | some value => [(key, value)]
  | none => []

def numberEntry (key : String) (value : Option Number) : Fields :=
  entry? key (value.map .number)

def textEntry (key : String) (value : Option String) : Fields :=
  entry? key (value.map .string)

/-- The entries that are not null. -/
def presentExtras (extras : Fields) : Fields :=
  extras.filter fun entry => !entry.2.isNull

def Color.channels (color : Color) : Fields :=
  [("r", .number color.red), ("g", .number color.green), ("b", .number color.blue),
   ("a", .number color.alpha)]

def Color.toJson (color : Color) : Json :=
  .object (color.channels ++ presentExtras color.extras)

def Box.toJson (box : Box) : Json :=
  .object ([("x", .number box.x), ("y", .number box.y), ("width", .number box.width),
    ("height", .number box.height)] ++ presentExtras box.extras)

def Paint.toJson (paint : Paint) : Json :=
  .object ([("type", .string paint.kind)] ++ entry? "visible" (paint.visible.map .bool)
    ++ entry? "color" (paint.color.map Color.toJson) ++ numberEntry "opacity" paint.opacity
    ++ presentExtras paint.extras)

def TextStyle.toJson (style : TextStyle) : Json :=
  .object (numberEntry "fontSize" style.fontSize ++ textEntry "fontFamily" style.fontFamily
    ++ numberEntry "fontWeight" style.fontWeight ++ numberEntry "letterSpacing" style.letterSpacing
    ++ numberEntry "lineHeightPx" style.lineHeight ++ textEntry "textAlignHorizontal" style.align
    ++ presentExtras style.extras)

def Attributes.entriesBeforeChildren (a : Attributes) : Fields :=
  [("id", .string a.id), ("name", .string a.name)]
    ++ entry? "absoluteBoundingBox" (a.box.map Box.toJson)
    ++ entry? "backgroundColor" (a.background.map Color.toJson)
    ++ [("fills", .array (a.fills.map Paint.toJson)),
      ("strokes", .array (a.strokes.map Paint.toJson))]
    ++ numberEntry "cornerRadius" a.cornerRadius ++ numberEntry "opacity" a.opacity
    ++ textEntry "layoutMode" a.layoutMode ++ textEntry "primaryAxisAlignItems" a.primaryAlign
    ++ textEntry "counterAxisAlignItems" a.counterAlign ++ numberEntry "paddingLeft" a.paddingLeft
    ++ numberEntry "paddingRight" a.paddingRight ++ numberEntry "paddingTop" a.paddingTop
    ++ numberEntry "paddingBottom" a.paddingBottom ++ numberEntry "itemSpacing" a.itemSpacing
    ++ numberEntry "layoutGrow" a.layoutGrow

def Attributes.entriesAfterChildren (a : Attributes) : Fields :=
  [("type", .string a.kind.tag)]
    ++ (match a.kind with
      | .text characters style =>
        textEntry "characters" characters ++ entry? "style" (style.map TextStyle.toJson)
      | _ => [])
    ++ presentExtras a.extras

mutual

def Node.toJson : Node → Json
  | ⟨attributes, children⟩ =>
    .object (attributes.entriesBeforeChildren ++ [("children", .array (Node.toJsons children))]
      ++ attributes.entriesAfterChildren)

def Node.toJsons : List Node → List Json
  | [] => []
  | node :: rest => Node.toJson node :: Node.toJsons rest

end

end DesignCompiler.Design
