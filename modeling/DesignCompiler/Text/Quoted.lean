import DesignCompiler.Text.Printable
import DesignCompiler.Text.Hexadecimal

/-!
Contract: quoted text, the form in which a text is shown inside a message.

Owns:
- the choice of the quotation mark: a single one, or a double one where the text holds single
  ones only;
- the escapes of the mark, the backslash and the characters that cannot be shown.

Does not own: the escapes of JSON strings, see `DesignCompiler.Json.Text`.
-/

set_option autoImplicit false

namespace DesignCompiler.Text

def quotationMark (cs : List Char) : Char :=
  if cs.contains '\'' && !cs.contains '"' then '"' else '\''

def quotedChar (mark c : Char) : List Char :=
  if c = mark || c = '\\' then ['\\', c]
  else if c = '\t' then ['\\', 't']
  else if c = '\n' then ['\\', 'n']
  else if c = '\r' then ['\\', 'r']
  else if isPrintable c then [c]
  else if c.toNat ≤ 0xFF then '\\' :: 'x' :: hexPadded 2 c.toNat
  else if c.toNat ≤ 0xFFFF then '\\' :: 'u' :: hexPadded 4 c.toNat
  else '\\' :: 'U' :: hexPadded 8 c.toNat

def quoted (s : String) : String :=
  let mark := quotationMark s.toList
  String.ofList (mark :: s.toList.flatMap (quotedChar mark) ++ [mark])

end DesignCompiler.Text
