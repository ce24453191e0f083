import DesignCompiler.Json.Reader
import DesignCompiler.Json.Text
import DesignCompiler.Style.Declaration

/-!
Contract: the markup of a design tree.

Owns:
- `indentRest`, which moves all lines of a text but the first;
- `styleLiteral`, a style declaration as an object literal that stands at a depth of nesting, and
  `styleLiteral?`, which refuses integers of more digits than are ever written and depths to which
  no text can be indented;
- `Design.Node.markup?`, one element for every node: a text node shows its characters, any other
  node its children.

The markup of a tree is made of literals that are not refused: the integers of a design have as many
digits as they had in its own text, and its depths are counted from a root.

Does not own: the source file around the markup, see `DesignCompiler.Component.Template`.
-/

set_option autoImplicit false

namespace DesignCompiler

/-- Two spaces for every level of a depth; depths below zero have no margin. -/
def margin (depth : Int) : List Char :=
  List.replicate (2 * depth).toNat ' '

/-- Puts spaces in front of every line but the first. -/
def indentRest (spaces : List Char) (cs : List Char) : List Char :=
  cs.flatMap fun c => if c = '\n' then '\n' :: spaces else [c]

/-- A style declaration as an object literal.  Its lines after the first are indented so that its
closing brace stands one level inside the element that carries it. -/
def styleLiteral (fields : Fields) (depth : Int) : List Char :=
  indentRest (margin (depth + 1)) ((Json.object fields).chars .indented 0)

/-- The greatest machine integer, 2 ^ 63 - 1: no text is longer, none is repeated more often. -/
def maxIndex : Int :=
  9223372036854775807

/-- Why there is no literal. -/
inductive LiteralError where
  /-- An integer in it has too many digits. -/
  | longInteger
  /-- Its depth is no machine integer. -/
  | farDepth
  /-- Its lines would begin with more spaces than a text can have. -/
  | longMargin
deriving DecidableEq

def LiteralError.message : LiteralError → String
  | .longInteger => "Exceeds the limit (4300 digits) for integer string conversion; "
      ++ "use sys.set_int_max_str_digits() to increase the limit"
  | .farDepth => "cannot fit 'int' into an index-sized integer"
  | .longMargin => "repeated string is too long"

/-- The margin of a depth, made by repeating two spaces. -/
def margin? (depth : Int) : Except LiteralError (List Char) :=
  if depth < -maxIndex - 1 ∨ maxIndex < depth then .error .farDepth
  else if maxIndex < 2 * depth then .error .longMargin
  else .ok (margin depth)

namespace Json

mutual

/-- Whether all integers in a value have few enough digits to be written, which are as many as are
read. -/
def isWritable : Json → Bool
  | .number (.int i) => (Nat.toDigits 10 i.natAbs).length ≤ Reader.maxIntegerDigits
  | .array items => itemsAreWritable items
  | .object fields => fieldsAreWritable fields
  | _ => true

def itemsAreWritable : List Json → Bool
  | [] => true
  | item :: rest => isWritable item && itemsAreWritable rest

def fieldsAreWritable : List (String × Json) → Bool
  | [] => true
  | (_, value) :: rest => isWritable value && fieldsAreWritable rest

end

end Json

/-- A style declaration as an object literal, if it can be written and then indented. -/
def styleLiteral? (fields : Fields) (depth : Int) : Except LiteralError (List Char) :=
  if (Json.object fields).isWritable then
    (margin? (depth + 1)).map fun spaces =>
      indentRest spaces ((Json.object fields).chars .indented 0)
  else .error .longInteger

/-- The characters that a node shows, if it is a text that has any. -/
def Design.Kind.shownText? : Design.Kind → Option String
  | .text (some characters) _ => if characters.isEmpty then none else some characters
  | _ => none

namespace Design.Node

def elementStart (fields : Fields) (depth : Int) : List Char :=
  margin depth ++ "<div style=\x7b".toList ++ styleLiteral fields depth

/-- An element around an inside that brings its own margin. -/
def element (fields : Fields) (depth : Int) (inside : List Char) : List Char :=
  elementStart fields depth ++ "\x7d>\n".toList ++ inside ++ '\n' :: margin depth ++ "</div>".toList

def emptyElement (fields : Fields) (depth : Int) : List Char :=
  elementStart fields depth ++ "\x7d />".toList

/-- The inside of an element that shows a text: a string literal in braces. -/
def textLine (text : String) (depth : Int) : List Char :=
  margin depth ++ ' ' :: ' ' :: '{' :: Json.stringChars false text ++ ['}']

mutual

def markupChars? (depth : Int) : Node → Except ColorFault (List Char)
  | ⟨attributes, children⟩ => do
    let style ← Style.declaration? attributes
    match attributes.kind.shownText?, children with
    | some text, _ => .ok (element style.toFields depth (textLine text depth))
    | none, [] => .ok (emptyElement style.toFields depth)
    | none, first :: rest => do
      let head ← markupChars? (depth + 1) first
      let tail ← siblingsChars? (depth + 1) rest
      .ok (element style.toFields depth (head ++ tail))

/-- The markup of the children after the first, each on lines of its own. -/
def siblingsChars? (depth : Int) : List Node → Except ColorFault (List Char)
  | [] => .ok []
  | child :: rest => do
    let head ← markupChars? depth child
    let tail ← siblingsChars? depth rest
    .ok ('\n' :: head ++ tail)

end

def markup? (node : Node) (depth : Int) : Except ColorFault String :=
  (node.markupChars? depth).map String.ofList

end Design.Node

end DesignCompiler
