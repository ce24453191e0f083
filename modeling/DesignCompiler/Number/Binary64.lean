/-!
Contract: double-precision binary numbers, exactly.

Owns:
- `Binary64`, with one representation for every value and both signs of zero;
- `Binary64.nearest`, rounding to the nearest value, a half to the even neighbour;
- the few operations that colours, waits and comparisons need.

Does not own: decimal digits, see `DesignCompiler.Number.Decimal`, nor the machine's own
floating-point unit, about which nothing can be proved.
-/

set_option autoImplicit false

namespace DesignCompiler

/-- How many powers of two lie between the least positive value and one. -/
def Binary64.unitExponent : Nat := 1074

/-- A finite value, `significand * 2 ^ exponent` times the least positive value `2 ^ (-1074)`, with
a sign.  The significand is as large as its 53 bits allow unless the exponent is least. -/
structure Binary64.Finite where
  /-- Whether the sign is minus; it tells the two zeros apart. -/
  negative : Bool
  /-- The significant bits as a whole number. -/
  significand : Nat
  /-- The power of two, counted from the least one. -/
  exponent : Nat
  /-- The significand has at most 53 bits. -/
  significand_lt : significand < Nat.pow 2 53
  /-- Larger values are infinite. -/
  exponent_le : exponent ≤ 2045
  /-- No other significand and exponent denote the same value. -/
  canonical : exponent = 0 ∨ Nat.pow 2 52 ≤ significand
deriving DecidableEq

inductive Binary64 where
  | nan
  | infinite (negative : Bool)
  | finite (value : Binary64.Finite)
deriving DecidableEq

/-- A quotient rounded to a whole number, a half to the even one. -/
def roundHalfEven (numerator denominator : Nat) : Nat :=
  let quotient := numerator / denominator
  let remainder := numerator % denominator
  if 2 * remainder < denominator then quotient
  else if denominator < 2 * remainder then quotient + 1
  else if quotient % 2 = 0 then quotient
  else quotient + 1

namespace Binary64

/-- The distance of a finite value from zero, counted in least positive values. -/
def Finite.steps (value : Finite) : Nat :=
  value.significand * Nat.pow 2 value.exponent

def Finite.signedSteps (value : Finite) : Int :=
  if value.negative then -(value.steps : Int) else value.steps

/-- The value with a rounded significand, which may just have reached 54 bits. -/
def pack (negative : Bool) (significand exponent : Nat) : Binary64 :=
  if fits : significand < Nat.pow 2 53 ∧ exponent ≤ 2045
      ∧ (exponent = 0 ∨ Nat.pow 2 52 ≤ significand) then
    .finite ⟨negative, significand, exponent, fits.1, fits.2.1, fits.2.2⟩
  else if carries : significand = Nat.pow 2 53 ∧ exponent + 1 ≤ 2045 then
    .finite ⟨negative, Nat.pow 2 52, exponent + 1, by decide, carries.2, .inr (Nat.le_refl _)⟩
  else
    .infinite negative

/-- The value nearest to a quotient of least positive values. -/
def nearest (negative : Bool) (numerator denominator : Nat) : Binary64 :=
  let exponent := Nat.log2 (numerator / denominator) - 52
  pack negative (roundHalfEven numerator (denominator * Nat.pow 2 exponent)) exponent

def ofRatio (negative : Bool) (numerator denominator : Nat) : Binary64 :=
  nearest negative (numerator * Nat.pow 2 unitExponent) denominator

def ofSteps (steps : Int) : Binary64 :=
  nearest (steps < 0) steps.natAbs 1

def isFinite : Binary64 → Bool
  | .finite _ => true
  | _ => false

/-- The value nearest to an integer, none if it is too large for a finite one. -/
def ofInt? (i : Int) : Option Binary64 :=
  (some (ofRatio (i < 0) i.natAbs 1)).filter isFinite

def zero : Binary64 :=
  .finite ⟨false, 0, 0, by decide, by decide, .inl rfl⟩

/-- The integer that a value equals, if it equals one. -/
def toInt? : Binary64 → Option Int
  | .finite value =>
    if value.steps % Nat.pow 2 unitExponent = 0 then
      let magnitude : Int := (value.steps / Nat.pow 2 unitExponent : Nat)
      some (if value.negative then -magnitude else magnitude)
    else none
  | _ => none

def isZero : Binary64 → Bool
  | .finite value => value.significand == 0
  | _ => false

/-- The sign of a value; an undefined one has none. -/
def isNegative : Binary64 → Bool
  | .nan => false
  | .infinite negative => negative
  | .finite value => value.negative

/-- A value multiplied by a positive whole number. -/
def scale (factor : Nat) : Binary64 → Binary64
  | .finite value => nearest value.negative (value.steps * factor) 1
  | other => other

def addHalf : Binary64 → Binary64
  | .finite value => ofSteps (value.signedSteps + (Nat.pow 2 (unitExponent - 1) : Nat))
  | other => other

/-- The negative power `2 ^ (-n)`. -/
def inversePower (n : Nat) : Binary64 :=
  ofRatio false 1 (Nat.pow 2 n)

end Binary64

end DesignCompiler
