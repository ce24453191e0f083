import DesignCompiler.Style.Color

/-!
Contract: the style declaration of a node.

Owns:
- `Property`, the style properties in the order in which they are declared;
- `Property.value?`, the value that each property has for a node, if it has one;
- `declaration?`, the properties of a node that have values.

A length of zero is never declared.  A border is one pixel wide and opaque.

Does not own: how a declaration is written, see `DesignCompiler.Markup`.
-/

set_option autoImplicit false

namespace DesignCompiler.Style

open DesignCompiler.Design

inductive Property where
  | width | height | backgroundColor | borderRadius | border | opacity
  | display | flexDirection | justifyContent | alignItems
  | paddingLeft | paddingRight | paddingTop | paddingBottom | gap | flexGrow
  | fontSize | fontFamily | fontWeight | letterSpacing | lineHeight | textAlign
deriving DecidableEq

namespace Property

def all : List Property :=
  [.width, .height, .backgroundColor, .borderRadius, .border, .opacity,
   .display, .flexDirection, .justifyContent, .alignItems,
   .paddingLeft, .paddingRight, .paddingTop, .paddingBottom, .gap, .flexGrow,
   .fontSize, .fontFamily, .fontWeight, .letterSpacing, .lineHeight, .textAlign]

def name : Property → String
  | width => "width"
  | height => "height"
  | backgroundColor => "backgroundColor"
  | borderRadius => "borderRadius"
  | border => "border"
  | opacity => "opacity"
  | display => "display"
  | flexDirection => "flexDirection"
  | justifyContent => "justifyContent"
  | alignItems => "alignItems"
  | paddingLeft => "paddingLeft"
  | paddingRight => "paddingRight"
  | paddingTop => "paddingTop"
  | paddingBottom => "paddingBottom"
  | gap => "gap"
  | flexGrow => "flexGrow"
  | fontSize => "fontSize"
  | fontFamily => "fontFamily"
  | fontWeight => "fontWeight"
  | letterSpacing => "letterSpacing"
  | lineHeight => "lineHeight"
  | textAlign => "textAlign"

end Property

inductive Value where
  | text (value : String)
  | number (value : Number)

def Value.toJson : Value → Json
  | .text value => .string value
  | .number value => .number value

def pixels (n : Number) : String :=
  n.cssText ++ "px"

/-- A length that is declared unless it is absent or zero. -/
def length? (n : Option Number) : Option Value :=
  (n.filter fun n => !n.isZero).map fun n => .text (pixels n)

/-- A number that is declared unless it is absent or zero. -/
def weight? (n : Option Number) : Option Value :=
  (n.filter fun n => !n.isZero).map fun n => .number n.plain

/-- Where the children stand along the axis of the layout. -/
def primaryAlignment : List (String × String) :=
  [("MIN", "flex-start"), ("CENTER", "center"), ("MAX", "flex-end"),
   ("SPACE_BETWEEN", "space-between")]

/-- Where the children stand across the axis of the layout. -/
def counterAlignment : List (String × String) :=
  [("MIN", "flex-start"), ("CENTER", "center"), ("MAX", "flex-end")]

def textAlignment : List (String × String) :=
  [("LEFT", "left"), ("CENTER", "center"), ("RIGHT", "right"), ("JUSTIFIED", "justify")]

/-- The value that a table gives for a name, or the default. -/
def choice (table : List (String × String)) (name : Option String) (default : String) : Value :=
  .text ((name.bind fun name => table.lookup name).getD default)

/-- The first paint of a list with its colour, if it is solid, coloured and not hidden. -/
def firstSolid? : List Paint → Option (Paint × Color)
  | [] => none
  | paint :: _ =>
    if paint.visible = some false ∨ paint.kind ≠ "SOLID" then none
    else paint.color.map fun color => (paint, color)

/-- The background: the colour of the first fill, with the fill's own opacity, stands in the place
of the background colour. -/
def background? (a : Attributes) : Except ColorFault (Option String) := do
  let flat ← a.background.mapM Color.cssText?
  match firstSolid? a.fills with
  | some (paint, color) => do
    let painted ← Color.cssText? { color with alpha := paint.opacity.getD 1 }
    .ok (some painted)
  | none => .ok flat

def border? (a : Attributes) : Except ColorFault (Option String) :=
  match firstSolid? a.strokes with
  | some (_, color) => do
    let painted ← Color.cssText? { color with alpha := 1 }
    .ok (some ("1px solid " ++ painted))
  | none => .ok none

/-- The mode of the automatic layout, if the node has one. -/
def layout? (a : Attributes) : Option String :=
  a.layoutMode.filter fun mode => !mode.isEmpty

def typography? (a : Attributes) : Option TextStyle :=
  match a.kind with
  | .text _ style => style
  | _ => none

def Property.value? (a : Attributes) : Property → Except ColorFault (Option Value)
  | .width => .ok (a.box.map fun box => .text (pixels box.width))
  | .height => .ok (a.box.map fun box => .text (pixels box.height))
  | .backgroundColor => do .ok ((← background? a).map .text)
  | .borderRadius => .ok (length? a.cornerRadius)
  | .border => do .ok ((← border? a).map .text)
  | .opacity => .ok ((a.opacity.filter fun n => n.lt 1).map fun n => .number n.plain)
  | .display => .ok ((layout? a).map fun _ => .text "flex")
  | .flexDirection =>
    .ok ((layout? a).map fun mode => .text (if mode = "HORIZONTAL" then "row" else "column"))
  | .justifyContent =>
    .ok ((layout? a).map fun _ => choice primaryAlignment a.primaryAlign "flex-start")
  | .alignItems =>
    .ok ((layout? a).map fun _ => choice counterAlignment a.counterAlign "flex-start")
  | .paddingLeft => .ok ((layout? a).bind fun _ => length? a.paddingLeft)
  | .paddingRight => .ok ((layout? a).bind fun _ => length? a.paddingRight)
  | .paddingTop => .ok ((layout? a).bind fun _ => length? a.paddingTop)
  | .paddingBottom => .ok ((layout? a).bind fun _ => length? a.paddingBottom)
  | .gap => .ok ((layout? a).bind fun _ => length? a.itemSpacing)
  | .flexGrow => .ok ((a.layoutGrow.filter fun n => Number.lt 0 n).map fun n => .number n.plain)
  | .fontSize => .ok ((typography? a).bind fun style => length? style.fontSize)
  | .fontFamily =>
    .ok ((typography? a).bind fun style =>
      (style.fontFamily.filter fun family => !family.isEmpty).map .text)
  | .fontWeight => .ok ((typography? a).bind fun style => weight? style.fontWeight)
  | .letterSpacing => .ok ((typography? a).bind fun style => length? style.letterSpacing)
  | .lineHeight => .ok ((typography? a).bind fun style => length? style.lineHeight)
  | .textAlign => .ok ((typography? a).map fun style => choice textAlignment style.align "left")

abbrev Declaration := List (Property × Value)

/-- The values of some properties, of which those without one are left out. -/
def valuesOf (a : Attributes) : List Property → Except ColorFault Declaration
  | [] => .ok []
  | property :: rest => do
    let value ← property.value? a
    let values ← valuesOf a rest
    .ok (value.toList.map (property, ·) ++ values)

def declaration? (a : Attributes) : Except ColorFault Declaration :=
  valuesOf a Property.all

def Declaration.toFields (declaration : Declaration) : Fields :=
  declaration.map fun entry => (entry.1.name, entry.2.toJson)

end DesignCompiler.Style
