import DesignCompiler.Text.Hexadecimal
import DesignCompiler.Text.Utf8

/-!
Contract: percent-encoded text.

Owns:
- `percentBytes`, the bytes that a text with percent escapes stands for;
- `percentDecoded`, the text of these bytes.

A percent sign that no two hexadecimal digits follow stands for itself, and bytes that are no UTF-8
are replaced.

Does not own: which parts of an address are encoded, see `DesignCompiler.Http.Url`.
-/

set_option autoImplicit false

namespace DesignCompiler.Http

def escapedByte? (high low : Char) : Option UInt8 := do
  let high ← Text.hexValue high
  let low ← Text.hexValue low
  some (UInt8.ofNat (high * 16 + low))

def percentBytes : List Char → List UInt8
  | [] => []
  | [a] => String.utf8EncodeChar a
  | [a, b] => String.utf8EncodeChar a ++ String.utf8EncodeChar b
  | a :: b :: c :: rest =>
    match if a = '%' then escapedByte? b c else none with
    | some byte => byte :: percentBytes rest
    | none => String.utf8EncodeChar a ++ percentBytes (b :: c :: rest)

def percentDecoded (cs : List Char) : List Char :=
  Text.utf8Lossy (percentBytes cs)

end DesignCompiler.Http
