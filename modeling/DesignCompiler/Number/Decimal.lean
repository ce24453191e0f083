import DesignCompiler.Number.Binary64

/-!
Contract: decimal numbers and the doubles nearest to them.

Owns:
- `Decimal`, whole digits with a power of ten;
- `Decimal.trimmed`, which takes zeros from the end of the digits;
- `Decimal.toBinary64`, rounding to nearest.

Does not own: the texts of numbers.
-/

set_option autoImplicit false

namespace DesignCompiler

/-- The number `digits * 10 ^ exponent`. -/
structure Decimal where
  digits : Nat
  exponent : Int
deriving DecidableEq

namespace Decimal

def digitChars (d : Decimal) : List Char :=
  Nat.toDigits 10 d.digits

def leadingExponent (d : Decimal) : Int :=
  d.exponent + d.digitChars.length - 1

def ratio (d : Decimal) : Nat × Nat :=
  match d.exponent with
  | .ofNat n => (d.digits * Nat.pow 10 n, 1)
  | .negSucc n => (d.digits, Nat.pow 10 (n + 1))

/-- Takes up to `limit` zeros from the end of the digits. -/
def trimUpTo : Nat → Decimal → Decimal
  | 0, d => d
  | limit + 1, d =>
    if d.digits ≠ 0 ∧ d.digits % 10 = 0 then trimUpTo limit ⟨d.digits / 10, d.exponent + 1⟩ else d

def trimmed (d : Decimal) : Decimal :=
  trimUpTo d.digitChars.length d

/-- The double nearest to a decimal number.  Numbers of at least `10 ^ 400` are infinite and those
below `10 ^ (-400)` are zero, so that their powers of ten need not be formed. -/
def toBinary64 (negative : Bool) (d : Decimal) : Binary64 :=
  if d.digits = 0 ∨ d.leadingExponent < -400 then Binary64.ofRatio negative 0 1
  else if 400 ≤ d.leadingExponent then .infinite negative
  else Binary64.ofRatio negative d.ratio.1 d.ratio.2

end Decimal

end DesignCompiler
