import DesignCompiler.Number.Decimal

/-!
Contract: the shortest decimal digits that read back as a given double.

Owns:
- `Binary64.Finite.decimal?`, the decimal number of a given count of digits that is nearest to a
  value among those that read back as it;
- `Binary64.Finite.shortest`, the one with the fewest digits;
- `Binary64.Finite.rounded`, rounding to a given count of digits.

Does not own: where the point stands, see `DesignCompiler.Number.Layout`.
-/

set_option autoImplicit false

namespace DesignCompiler.Binary64.Finite

def ratio (value : Finite) : Nat × Nat :=
  (value.steps, Nat.pow 2 unitExponent)

/-- The power of ten of the first decimal digit of a positive quotient. -/
def leadingExponent (numerator denominator : Nat) : Int :=
  if denominator ≤ numerator then
    ((Nat.toDigits 10 (numerator / denominator)).length : Int) - 1
  else
    let places := (Nat.toDigits 10 (denominator / numerator)).length
    if denominator ≤ numerator * Nat.pow 10 (places - 1) then -((places - 1 : Nat) : Int)
    else -(places : Int)

def shifted (value : Finite) (exponent : Int) : Nat × Nat :=
  match exponent with
  | .ofNat n => (value.ratio.1, value.ratio.2 * Nat.pow 10 n)
  | .negSucc n => (value.ratio.1 * Nat.pow 10 (n + 1), value.ratio.2)

/-- The value's neighbours among the whole multiples of a power of ten, the nearer first; of two
equally near ones the even one is first. -/
def neighbours (value : Finite) (exponent : Int) : List Decimal :=
  let (numerator, denominator) := value.shifted exponent
  let below := numerator / denominator
  let nearer := roundHalfEven numerator denominator
  if nearer = below then [⟨below, exponent⟩, ⟨below + 1, exponent⟩]
  else [⟨below + 1, exponent⟩, ⟨below, exponent⟩]

def exponentFor (value : Finite) (count : Nat) : Int :=
  leadingExponent value.ratio.1 value.ratio.2 + 1 - count

def isReadBy (value : Finite) (d : Decimal) : Bool :=
  d.toBinary64 value.negative = .finite value

/-- The nearest decimal number with `count` digits that reads back as the value. -/
def decimal? (value : Finite) (count : Nat) : Option Decimal :=
  (value.neighbours (value.exponentFor count)).find? value.isReadBy

def exact (value : Finite) : Decimal :=
  ⟨value.steps * Nat.pow 5 unitExponent, -(unitExponent : Int)⟩

/-- The fewest digits that read back as the value, and of those the nearest.  Seventeen digits
always suffice; the exact digits stand behind them so that nothing hangs on it. -/
def shortest (value : Finite) : Decimal :=
  if value.significand = 0 then ⟨0, 0⟩
  else (((List.range' 1 17).findSome? value.decimal?).getD value.exact).trimmed

/-- The value rounded to `count` digits, a half to the even neighbour. -/
def rounded (value : Finite) (count : Nat) : Decimal :=
  if value.significand = 0 then ⟨0, 0⟩
  else
    let exponent := value.exponentFor count
    let (numerator, denominator) := value.shifted exponent
    (Decimal.mk (roundHalfEven numerator denominator) exponent).trimmed

end DesignCompiler.Binary64.Finite
