import DesignCompiler.Json.Basic

/-!
Contract: design trees.

Owns:
- `Color`, `Box`, `Paint` and `TextStyle`, the records that a node may carry;
- `Kind`, the node kinds that are told apart, every other one keeping its tag;
- `Attributes` and `Node`, a node being its attributes with its children in order.

Every record keeps the entries it does not declare, so that nothing is lost when it is written
back.

Does not own: how records are read from JSON and written to it, see `DesignCompiler.Design.Reading`
and `DesignCompiler.Design.Writing`.
-/

set_option autoImplicit false

namespace DesignCompiler.Design

/-- A colour.  Channels between zero and one are meant, but any number is kept. -/
structure Color where
  red : Number := 0
  green : Number := 0
  blue : Number := 0
  alpha : Number := 1
  extras : Fields := []

/-- The absolute place and size of a node. -/
structure Box where
  x : Number := 0
  y : Number := 0
  width : Number := 0
  height : Number := 0
  extras : Fields := []

/-- One entry of a node's fills or strokes. -/
structure Paint where
  kind : String := ""
  visible : Option Bool := none
  color : Option Color := none
  opacity : Option Number := none
  extras : Fields := []

structure TextStyle where
  fontSize : Option Number := none
  fontFamily : Option String := none
  fontWeight : Option Number := none
  letterSpacing : Option Number := none
  lineHeight : Option Number := none
  align : Option String := none
  extras : Fields := []

inductive Kind where
  | frame
  | component
  /-- A use of a component. -/
  | copy
  | text (characters : Option String) (style : Option TextStyle)
  /-- Any other kind, by its tag. -/
  | other (tag : String)

def Kind.tag : Kind → String
  | .frame => "FRAME"
  | .component => "COMPONENT"
  | .copy => "INSTANCE"
  | .text _ _ => "TEXT"
  | .other tag => tag

/-- The kinds that are listed as the frames of a file. -/
def Kind.isFrameLike : Kind → Bool
  | .frame | .component | .copy => true
  | _ => false

/-- Everything a node says about itself. -/
structure Attributes where
  id : String := ""
  name : String := ""
  box : Option Box := none
  background : Option Color := none
  fills : List Paint := []
  strokes : List Paint := []
  cornerRadius : Option Number := none
  opacity : Option Number := none
  /-- The direction of the automatic layout; a node without one lays nothing out. -/
  layoutMode : Option String := none
  primaryAlign : Option String := none
  counterAlign : Option String := none
  paddingLeft : Option Number := none
  paddingRight : Option Number := none
  paddingTop : Option Number := none
  paddingBottom : Option Number := none
  itemSpacing : Option Number := none
  layoutGrow : Option Number := none
  kind : Kind := .other "OTHER"
  extras : Fields := []

structure Node where
  attributes : Attributes
  children : List Node

namespace Node

mutual

/-- The frame-like nodes of a tree, every node before its children. -/
def frames : Node → List Node
  | ⟨attributes, children⟩ =>
    (if attributes.kind.isFrameLike then [⟨attributes, children⟩] else []) ++ framesOf children

def framesOf : List Node → List Node
  | [] => []
  | node :: rest => frames node ++ framesOf rest

end

end Node

end DesignCompiler.Design
