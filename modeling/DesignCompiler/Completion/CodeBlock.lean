import DesignCompiler.Text.Blank
import DesignCompiler.Text.WordCharacter

/-!
Contract: the code in an answer of a language model.

Owns:
- `opened?`, the text after the line that opens a block of code;
- `closed?`, the text before the next line that closes one;
- `codeBlock`, the first block of a text, or the whole text in the absence of any, trimmed.

Does not own: where the text comes from, see `DesignCompiler.Completion.Answer`.
-/

set_option autoImplicit false

namespace DesignCompiler.Completion

def isTagCharacter (c : Char) : Bool :=
  Text.isWordCharacter c || c == '+' || c == '-'

/-- The blanks that may stand between the tag and the end of its line. -/
def isLineBlank (c : Char) : Bool :=
  Text.isBlank c && c != '\n'

/-- The text after an opening fence: three backticks, a tag, blanks and the end of the line. -/
def opened? : List Char → Option (List Char)
  | '\x60' :: '\x60' :: '\x60' :: rest =>
    match (rest.dropWhile isTagCharacter).dropWhile isLineBlank with
    | '\n' :: code => some code
    | _ => none
  | _ => none

/-- The text before the first closing fence: the end of a line and three backticks. -/
def closed? : List Char → Option (List Char)
  | '\n' :: '\x60' :: '\x60' :: '\x60' :: _ => some []
  | c :: rest => (closed? rest).map (c :: ·)
  | [] => none

def firstBlock? : List Char → Option (List Char)
  | [] => none
  | c :: rest =>
    match (opened? (c :: rest)).bind closed? with
    | some code => some code
    | none => firstBlock? rest

def codeBlock (content : String) : String :=
  Text.strip (((firstBlock? content.toList).map String.ofList).getD content)

end DesignCompiler.Completion
