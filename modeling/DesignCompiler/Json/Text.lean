import DesignCompiler.Json.Basic
import DesignCompiler.Number.Layout
import DesignCompiler.Text.Hexadecimal

/-!
Contract: the JSON text of a value.

Owns:
- `Json.Style`, the choices of a JSON text: on one line or indented, any characters or ASCII only;
- the escapes of strings;
- `Json.chars` and `Json.render`.

Integers of any length are written.  Those of a text that was read are never longer than what is
written; for others see `DesignCompiler.styleLiteral?`.

Does not own: reading JSON, see `DesignCompiler.Json.Reader`.
-/

set_option autoImplicit false

namespace DesignCompiler.Json

structure Style where
  /-- How many spaces each level of nesting is indented by; none writes everything on one line. -/
  indent : Option Nat
  /-- Whether characters beyond ASCII are escaped. -/
  ascii : Bool

/-- On one line, with a space after each comma and colon. -/
def Style.line : Style := ⟨none, false⟩

def Style.asciiLine : Style := ⟨none, true⟩

/-- One entry a line, two spaces a level. -/
def Style.indented : Style := ⟨some 2, false⟩

/-- What stands between a bracket and the entry next to it. -/
def Style.gap (style : Style) (depth : Nat) : List Char :=
  match style.indent with
  | none => []
  | some width => '\n' :: List.replicate (width * depth) ' '

def Style.separator (style : Style) (depth : Nat) : List Char :=
  match style.indent with
  | none => [',', ' ']
  | some _ => ',' :: style.gap depth

def unitEscape (unit : Nat) : List Char :=
  '\\' :: 'u' :: Text.hexPadded 4 unit

def codeEscape (c : Char) : List Char :=
  if c.toNat < 0x10000 then unitEscape c.toNat
  else
    let offset := c.toNat - 0x10000
    unitEscape (0xD800 + offset / 0x400) ++ unitEscape (0xDC00 + offset % 0x400)

/-- One character inside a string: the quotation mark, the backslash and the control characters
are escaped, and in ASCII style everything that is not a visible ASCII character or a space. -/
def escapedChar (ascii : Bool) (c : Char) : List Char :=
  match c with
  | '"' => ['\\', '"']
  | '\\' => ['\\', '\\']
  | '\n' => ['\\', 'n']
  | '\r' => ['\\', 'r']
  | '\t' => ['\\', 't']
  | '\x08' => ['\\', 'b']
  | '\x0C' => ['\\', 'f']
  | c =>
    if c.toNat < 0x20 then unitEscape c.toNat
    else if ascii && 0x7F ≤ c.toNat then codeEscape c
    else [c]

def stringChars (ascii : Bool) (s : String) : List Char :=
  '"' :: s.toList.flatMap (escapedChar ascii) ++ ['"']

/-- The text of a number.  The values without digits have names that only lenient readers know. -/
def numberChars : Number → List Char
  | .int value => integerChars value
  | .float .nan => ['N', 'a', 'N']
  | .float (.infinite negative) =>
    (if negative then ['-'] else []) ++ ['I', 'n', 'f', 'i', 'n', 'i', 't', 'y']
  | .float value => Layout.full.chars Binary64.Finite.shortest value

mutual

def chars (style : Style) (depth : Nat) : Json → List Char
  | .null => ['n', 'u', 'l', 'l']
  | .bool true => ['t', 'r', 'u', 'e']
  | .bool false => ['f', 'a', 'l', 's', 'e']
  | .number value => numberChars value
  | .string value => stringChars style.ascii value
  | .array [] => ['[', ']']
  | .array (first :: rest) =>
    '[' :: style.gap (depth + 1) ++ chars style (depth + 1) first
      ++ itemsChars style (depth + 1) rest ++ style.gap depth ++ [']']
  | .object [] => ['{', '}']
  | .object ((key, first) :: rest) =>
    '{' :: style.gap (depth + 1) ++ stringChars style.ascii key ++ [':', ' ']
      ++ chars style (depth + 1) first ++ fieldsChars style (depth + 1) rest
      ++ style.gap depth ++ ['}']

def itemsChars (style : Style) (depth : Nat) : List Json → List Char
  | [] => []
  | item :: rest => style.separator depth ++ chars style depth item ++ itemsChars style depth rest

def fieldsChars (style : Style) (depth : Nat) : List (String × Json) → List Char
  | [] => []
  | (key, value) :: rest =>
    style.separator depth ++ stringChars style.ascii key ++ [':', ' '] ++ chars style depth value
      ++ fieldsChars style depth rest

end

def render (style : Style) (value : Json) : String :=
  String.ofList (value.chars style 0)

end DesignCompiler.Json
