/-!
Contract: hexadecimal digits.

Owns:
- `hexDigit` and `hexValue`, one digit and its value;
- `hexPadded`, a number with a least count of digits.

Does not own: the escapes in which such numbers stand.
-/

set_option autoImplicit false

namespace DesignCompiler.Text

/-- The lower-case digit of a value below sixteen. -/
def hexDigit (value : Nat) : Char :=
  if value < 10 then Char.ofNat (0x30 + value) else Char.ofNat (0x57 + value)

/-- The value of a hexadecimal digit of either case. -/
def hexValue (c : Char) : Option Nat :=
  if '0' ≤ c ∧ c ≤ '9' then some (c.toNat - 0x30)
  else if 'a' ≤ c ∧ c ≤ 'f' then some (c.toNat - 0x57)
  else if 'A' ≤ c ∧ c ≤ 'F' then some (c.toNat - 0x37)
  else none

/-- The last `width` hexadecimal digits of a number, the most significant first. -/
def hexPadded : Nat → Nat → List Char
  | 0, _ => []
  | width + 1, value => hexPadded width (value / 16) ++ [hexDigit (value % 16)]

end DesignCompiler.Text
