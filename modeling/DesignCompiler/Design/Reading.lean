import DesignCompiler.Design.Field

/-!
Contract: reading design trees from JSON.

Owns:
- the declared fields of every record and their lenient reading: a malformed optional field counts
  as absent, a colour or box with a malformed member counts as absent as a whole, and a malformed
  paint is a blank one, so that no other paint changes its place;
- `Defect`, what makes a tree unreadable, and `defects`, all of them with the paths to them;
- `Node.read`, which yields a tree exactly for values without defects;
- `Report`, the words in which the defects are told.  They are a parameter, as nothing depends on
  what they are.

Trees may be nested to any depth: no limit on the nesting of calls is part of the reading, nor of
anything that is made of a tree.

Does not own: the reading of single values, see `DesignCompiler.Design.Field`.
-/

set_option autoImplicit false

namespace DesignCompiler.Design

/-! ## Records -/

def colorFields : List String := ["r", "g", "b", "a"]

/-- Reads a colour; none if it is no object or a channel is malformed. -/
def Color.read? : Json → Option Color
  | .object fields => do
    let red ← requiredNumber fields "r" 0
    let green ← requiredNumber fields "g" 0
    let blue ← requiredNumber fields "b" 0
    let alpha ← requiredNumber fields "a" 1
    some ⟨red, green, blue, alpha, extrasOf colorFields fields⟩
  | _ => none

inductive ChannelFault where
  /-- A text that denotes no number. -/
  | notNumeral
  /-- A value that is neither a number nor a text. -/
  | notNumber

def channelFault? (value : Json) : Option ChannelFault :=
  match number? value, value with
  | some _, _ => none
  | none, .string _ => some .notNumeral
  | none, _ => some .notNumber

/-- The malformed channels of a colour, in the order of its fields; none for what is no object. -/
def Color.faults? : Json → Option (List (String × ChannelFault))
  | .object fields => some (colorFields.filterMap fun name =>
      ((field? fields name).bind channelFault?).map (name, ·))
  | _ => none

def boxFields : List String := ["x", "y", "width", "height"]

/-- Reads a box; none if it is no object or a member is malformed. -/
def Box.read? : Json → Option Box
  | .object fields => do
    let x ← requiredNumber fields "x" 0
    let y ← requiredNumber fields "y" 0
    let width ← requiredNumber fields "width" 0
    let height ← requiredNumber fields "height" 0
    some ⟨x, y, width, height, extrasOf boxFields fields⟩
  | _ => none

def paintFields : List String := ["type", "visible", "color", "opacity"]

/-- Reads a paint; a value that is no object is a blank one. -/
def Paint.read : Json → Paint
  | .object fields =>
    { kind := (optionalText fields "type").getD ""
      visible := (field? fields "visible").bind flag?
      color := (field? fields "color").bind Color.read?
      opacity := optionalNumber fields "opacity"
      extras := extrasOf paintFields fields }
  | _ => {}

def readPaints : Option Json → List Paint
  | some (.array items) => items.map Paint.read
  | _ => []

def textStyleFields : List String :=
  ["fontSize", "fontFamily", "fontWeight", "letterSpacing", "lineHeightPx", "textAlignHorizontal"]

/-- Reads a typography; none if it is no object. -/
def TextStyle.read? : Json → Option TextStyle
  | .object fields => some
    { fontSize := optionalNumber fields "fontSize"
      fontFamily := optionalText fields "fontFamily"
      fontWeight := optionalNumber fields "fontWeight"
      letterSpacing := optionalNumber fields "letterSpacing"
      lineHeight := optionalNumber fields "lineHeightPx"
      align := optionalText fields "textAlignHorizontal"
      extras := extrasOf textStyleFields fields }
  | _ => none

/-! ## Nodes -/

def commonFields : List String :=
  ["id", "name", "absoluteBoundingBox", "backgroundColor", "fills", "strokes", "cornerRadius",
   "opacity", "layoutMode", "primaryAxisAlignItems", "counterAxisAlignItems", "paddingLeft",
   "paddingRight", "paddingTop", "paddingBottom", "itemSpacing", "layoutGrow", "children", "type"]

def textFields : List String := ["characters", "style"]

def readKind (fields : Fields) : Kind :=
  match fields.lookup "type" with
  | some (.string "FRAME") => .frame
  | some (.string "COMPONENT") => .component
  | some (.string "INSTANCE") => .copy
  | some (.string "TEXT") =>
    .text (optionalText fields "characters") ((field? fields "style").bind TextStyle.read?)
  | some (.string tag) => .other tag
  | _ => .other "OTHER"

def Kind.declaredFields : Kind → List String
  | .text _ _ => commonFields ++ textFields
  | _ => commonFields

def readAttributes (fields : Fields) : Attributes :=
  let kind := readKind fields
  { id := (optionalText fields "id").getD ""
    name := (optionalText fields "name").getD ""
    box := (field? fields "absoluteBoundingBox").bind Box.read?
    background := (field? fields "backgroundColor").bind Color.read?
    fills := readPaints (field? fields "fills")
    strokes := readPaints (field? fields "strokes")
    cornerRadius := optionalNumber fields "cornerRadius"
    opacity := optionalNumber fields "opacity"
    layoutMode := optionalText fields "layoutMode"
    primaryAlign := optionalText fields "primaryAxisAlignItems"
    counterAlign := optionalText fields "counterAxisAlignItems"
    paddingLeft := optionalNumber fields "paddingLeft"
    paddingRight := optionalNumber fields "paddingRight"
    paddingTop := optionalNumber fields "paddingTop"
    paddingBottom := optionalNumber fields "paddingBottom"
    itemSpacing := optionalNumber fields "itemSpacing"
    layoutGrow := optionalNumber fields "layoutGrow"
    kind := kind
    extras := extrasOf kind.declaredFields fields }

mutual

/-- The tree that a value describes; what is no object describes a bare node. -/
def buildNode : Json → Node
  | .object fields => ⟨readAttributes fields, buildChildren fields⟩
  | _ => ⟨{}, []⟩

def buildChildren : List (String × Json) → List Node
  | [] => []
  | (key, .array items) :: rest =>
    if key = "children" then buildNodes items else buildChildren rest
  | (key, _) :: rest => if key = "children" then [] else buildChildren rest

def buildNodes : List Json → List Node
  | [] => []
  | item :: rest => buildNode item :: buildNodes rest

end

/-! ## Defects -/

inductive PathStep where
  | key (name : String)
  | index (position : Nat)
deriving DecidableEq

inductive DefectKind where
  | notObject
  | childrenNotList
  | typeNotText
deriving DecidableEq

structure Defect where
  path : List PathStep
  kind : DefectKind
deriving DecidableEq

/-- The defect seen from further outside. -/
def Defect.under (steps : List PathStep) (defect : Defect) : Defect :=
  { defect with path := steps ++ defect.path }

/-- The name under which a node appears in paths: its own tag if its kind is told apart. -/
def pathTag (fields : Fields) : String :=
  match readKind fields with
  | .other _ => "OTHER"
  | kind => kind.tag

def typeDefects (fields : Fields) : List Defect :=
  match fields.lookup "type" with
  | none | some (.string _) => []
  | some _ => [⟨[.key "type"], .typeNotText⟩]

mutual

/-- All defects of a tree, children before their parent's own type. -/
def defects : Json → List Defect
  | .object fields =>
    (childrenDefects fields ++ typeDefects fields).map (.under [.key (pathTag fields)])
  | _ => [⟨[.key "OTHER"], .notObject⟩]

/-- The defects below the children among the entries of an object. -/
def childrenDefects : List (String × Json) → List Defect
  | [] => []
  | (key, .null) :: rest => if key = "children" then [] else childrenDefects rest
  | (key, .array items) :: rest =>
    if key = "children" then itemDefects 0 items else childrenDefects rest
  | (key, _) :: rest =>
    if key = "children" then [⟨[.key "children"], .childrenNotList⟩] else childrenDefects rest

/-- The defects of the items of a list of children, the first of which has the given position. -/
def itemDefects : Nat → List Json → List Defect
  | _, [] => []
  | position, item :: rest =>
    (defects item).map (.under [.key "children", .index position])
      ++ itemDefects (position + 1) rest

end

/-- Whether the type of a node is a list or an object, so that no kind can be looked up by it. -/
def hasCompoundType (fields : Fields) : Bool :=
  match fields.lookup "type" with
  | some (.array _) | some (.object _) => true
  | _ => false

mutual

/-- Whether a node that is reached through lists of children has a compound type. -/
def reachesCompoundType : Json → Bool
  | .object fields => hasCompoundType fields || childrenReachCompoundType fields
  | _ => false

def childrenReachCompoundType : List (String × Json) → Bool
  | [] => false
  | (key, .array items) :: rest =>
    if key = "children" then itemsReachCompoundType items else childrenReachCompoundType rest
  | (key, _) :: rest => if key = "children" then false else childrenReachCompoundType rest

def itemsReachCompoundType : List Json → Bool
  | [] => false
  | item :: rest => reachesCompoundType item || itemsReachCompoundType rest

end

inductive ReadError where
  /-- Some type is a list or an object. -/
  | compoundType
  /-- The shape of the tree is wrong at these places. -/
  | defective (defects : List Defect)

/-- What a message about a tree of a wrong shape begins with. -/
def ReadError.message : ReadError → String
  | .compoundType => "node type is not a text"
  | .defective _ => "Invalid design node data"

/-- The words in which the defects of a value are reported. -/
abbrev Report := Json → List Defect → String

/-- The message about a value that describes no tree.  Without words for its defects, they are not
told. -/
def ReadError.messageAbout (report : Option Report) (value : Json) (error : ReadError) : String :=
  match report, error with
  | some words, .defective found => error.message ++ ": " ++ words value found
  | _, _ => error.message

/-- A value that describes no tree is refused. -/
structure Refusal where
  error : ReadError
  message : String

instance : Coe Refusal ReadError := ⟨Refusal.error⟩

def Node.read (value : Json) : Except ReadError Node :=
  if reachesCompoundType value then .error .compoundType
  else
    match defects value with
    | [] => .ok (buildNode value)
    | found => .error (.defective found)

end DesignCompiler.Design
