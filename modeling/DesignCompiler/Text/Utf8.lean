/-!
Contract: UTF-8.

Owns:
- `utf8Bytes`, the encoding of a text;
- `utf8Pieces`, the decoder: it yields a character for every well-formed sequence and a gap for
  every longest beginning of such a sequence that is broken off;
- the two readings of a decoded text: `utf8Strict` refuses gaps, `utf8Lossy` writes the
  replacement character for each.

Does not own: byte order marks and the other encodings, see `DesignCompiler.Text.Encoding`.
-/

set_option autoImplicit false

namespace DesignCompiler.Text

def utf8Bytes (cs : List Char) : List UInt8 :=
  cs.flatMap String.utf8EncodeChar

/-- A sequence that has begun: the bits read so far, how many bytes are missing, and the range in
which the next byte has to lie. -/
structure Utf8Pending where
  /-- The value of the bits read so far. -/
  bits : Nat
  /-- How many bytes are still missing, the next one not counted. -/
  further : Nat
  /-- The least next byte. -/
  lowest : Nat
  /-- The greatest next byte. -/
  highest : Nat

/-- What the first byte of a sequence says. -/
inductive Utf8Lead where
  /-- The byte is an ASCII character. -/
  | single (c : Char)
  /-- The byte begins a longer sequence. -/
  | begins (pending : Utf8Pending)
  /-- No sequence begins with the byte. -/
  | stray

/-- Classifies the first byte of a sequence.  The ranges for the second byte leave out overlong
forms, surrogates and values beyond the last code point. -/
def utf8Lead (byte : UInt8) : Utf8Lead :=
  let n := byte.toNat
  if n < 0x80 then .single (Char.ofNat n)
  else if n < 0xC2 then .stray
  else if n < 0xE0 then .begins ⟨n - 0xC0, 0, 0x80, 0xBF⟩
  else if n = 0xE0 then .begins ⟨0, 1, 0xA0, 0xBF⟩
  else if n = 0xED then .begins ⟨0xD, 1, 0x80, 0x9F⟩
  else if n < 0xF0 then .begins ⟨n - 0xE0, 1, 0x80, 0xBF⟩
  else if n = 0xF0 then .begins ⟨0, 2, 0x90, 0xBF⟩
  else if n < 0xF4 then .begins ⟨n - 0xF0, 2, 0x80, 0xBF⟩
  else if n = 0xF4 then .begins ⟨4, 2, 0x80, 0x8F⟩
  else .stray

/-- Decodes bytes after an optional beginning of a sequence; `none` is a gap. -/
def utf8Pieces : Option Utf8Pending → List UInt8 → List (Option Char)
  | none, [] => []
  | some _, [] => [none]
  | none, byte :: rest =>
    match utf8Lead byte with
    | .single c => some c :: utf8Pieces none rest
    | .begins pending => utf8Pieces (some pending) rest
    | .stray => none :: utf8Pieces none rest
  | some pending, byte :: rest =>
    if pending.lowest ≤ byte.toNat ∧ byte.toNat ≤ pending.highest then
      let bits := pending.bits * 64 + (byte.toNat - 0x80)
      match pending.further with
      | 0 => some (Char.ofNat bits) :: utf8Pieces none rest
      | further + 1 => utf8Pieces (some ⟨bits, further, 0x80, 0xBF⟩) rest
    else
      match utf8Lead byte with
      | .single c => none :: some c :: utf8Pieces none rest
      | .begins next => none :: utf8Pieces (some next) rest
      | .stray => none :: none :: utf8Pieces none rest

def utf8Strict (bytes : List UInt8) : Option (List Char) :=
  (utf8Pieces none bytes).mapM id

/-- The text that bytes encode, with a replacement character for every gap. -/
def utf8Lossy (bytes : List UInt8) : List Char :=
  (utf8Pieces none bytes).map fun piece => piece.getD '\uFFFD'

end DesignCompiler.Text
