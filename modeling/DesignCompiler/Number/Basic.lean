import DesignCompiler.Number.Binary64

/-!
Contract: numbers that remember whether they were written as integers or with a fraction.

Owns:
- `Number`, an integer of any size or a double;
- comparison, the lesser of two numbers, and `Number.plain`.

Does not own: the texts of numbers.
-/

set_option autoImplicit false

namespace DesignCompiler

/-- An integer or a double. -/
inductive Number where
  | int (value : Int)
  | float (value : Binary64)
deriving DecidableEq

namespace Number

/-- Where a number lies: below, among or above the finite ones, and among these its count of least
positive doubles.  An undefined number lies nowhere. -/
def position : Number → Option (Int × Int)
  | .int value => some (0, value * (Nat.pow 2 Binary64.unitExponent : Nat))
  | .float .nan => none
  | .float (.infinite negative) => some (if negative then -1 else 1, 0)
  | .float (.finite value) => some (0, value.signedSteps)

/-- The exact order of numbers; an undefined number is not less than any, nor any less than it. -/
def lt (a b : Number) : Bool :=
  match a.position, b.position with
  | some p, some q => p.1 < q.1 || (p.1 == q.1 && p.2 < q.2)
  | _, _ => false

/-- The lesser of two numbers, the first unless the second is less. -/
def least (a b : Number) : Number :=
  if b.lt a then b else a

def isZero : Number → Bool
  | .int value => value == 0
  | .float value => value.isZero

/-- Writes an integral double as an integer, so that it prints without a fraction. -/
def plain : Number → Number
  | .int value => .int value
  | .float value =>
    match value.toInt? with
    | some i => .int i
    | none => .float value

instance : OfNat Number 0 := ⟨.int 0⟩
instance : OfNat Number 1 := ⟨.int 1⟩

/-- The number as a double, none if it is an integer beyond all finite doubles. -/
def toBinary64? : Number → Option Binary64
  | .int value => Binary64.ofInt? value
  | .float value => some value

end Number

end DesignCompiler
