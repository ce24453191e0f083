import DesignCompiler.Text.Utf8

/-!
Contract: the text of a body of bytes whose encoding is told by its first bytes.

Owns:
- `Encoding.detect`, which looks at byte order marks and, as the first characters of the text
  are ASCII, at zero bytes;
- `decode`, which refuses bytes that are malformed in the encoding found.

Does not own: UTF-8 itself, see `DesignCompiler.Text.Utf8`.
-/

set_option autoImplicit false

namespace DesignCompiler.Text

inductive ByteOrder where
  | big
  | little

inductive Encoding where
  | utf8
  | utf16 (order : ByteOrder)
  | utf32 (order : ByteOrder)

/-- The encoding of a body and the body without its byte order mark. -/
def Encoding.detect (bytes : List UInt8) : Encoding × List UInt8 :=
  match bytes with
  | 0x00 :: 0x00 :: 0xFE :: 0xFF :: rest => (.utf32 .big, rest)
  | 0xFF :: 0xFE :: 0x00 :: 0x00 :: rest => (.utf32 .little, rest)
  | 0xFE :: 0xFF :: rest => (.utf16 .big, rest)
  | 0xFF :: 0xFE :: rest => (.utf16 .little, rest)
  | 0xEF :: 0xBB :: 0xBF :: rest => (.utf8, rest)
  | a :: b :: c :: d :: _ =>
    if a = 0 then (if b = 0 then .utf32 .big else .utf16 .big, bytes)
    else if b = 0 then (if c = 0 ∧ d = 0 then .utf32 .little else .utf16 .little, bytes)
    else (.utf8, bytes)
  | [a, b] =>
    if a = 0 then (.utf16 .big, bytes)
    else if b = 0 then (.utf16 .little, bytes)
    else (.utf8, bytes)
  | _ => (.utf8, bytes)

/-- The units of two bytes each; none if a byte is left over. -/
def units16 (order : ByteOrder) : List UInt8 → Option (List Nat)
  | [] => some []
  | [_] => none
  | a :: b :: rest =>
    let unit := match order with
      | .big => a.toNat * 256 + b.toNat
      | .little => b.toNat * 256 + a.toNat
    (units16 order rest).map (unit :: ·)

/-- The units of four bytes each; none if bytes are left over. -/
def units32 (order : ByteOrder) : List UInt8 → Option (List Nat)
  | [] => some []
  | a :: b :: c :: d :: rest =>
    let unit := match order with
      | .big => ((a.toNat * 256 + b.toNat) * 256 + c.toNat) * 256 + d.toNat
      | .little => ((d.toNat * 256 + c.toNat) * 256 + b.toNat) * 256 + a.toNat
    (units32 order rest).map (unit :: ·)
  | _ => none

/-- The character of a code point, none for surrogates and values beyond the last one. -/
def charOfCodePoint (n : Nat) : Option Char :=
  if n.isValidChar then some (Char.ofNat n) else none

/-- Joins surrogate pairs; none if a surrogate stands alone. -/
def charsOfUnits16 : List Nat → Option (List Char)
  | [] => some []
  | high :: low :: rest =>
    if 0xD800 ≤ high ∧ high < 0xDC00 ∧ 0xDC00 ≤ low ∧ low < 0xE000 then do
      let c ← charOfCodePoint (0x10000 + (high - 0xD800) * 0x400 + (low - 0xDC00))
      (charsOfUnits16 rest).map (c :: ·)
    else do
      let c ← charOfCodePoint high
      (charsOfUnits16 (low :: rest)).map (c :: ·)
  | [unit] => (charOfCodePoint unit).map ([·])

/-- The text of a body, none if the body is malformed in its encoding. -/
def decode (bytes : List UInt8) : Option (List Char) :=
  match Encoding.detect bytes with
  | (.utf8, rest) => utf8Strict rest
  | (.utf16 order, rest) => (units16 order rest).bind charsOfUnits16
  | (.utf32 order, rest) => (units32 order rest).bind (·.mapM charOfCodePoint)

end DesignCompiler.Text
