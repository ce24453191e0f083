import DesignCompiler.Number.Basic
import Mathlib.Algebra.Order.Field.Rat
import Mathlib.Tactic.NormNum

/-!
Contract: the rational numbers that finite numbers stand for.

Owns:
- `Binary64.Finite.value` and `Number.value?`, the exact value of a number;
- the order and the lesser of two numbers, which are those of their values.

Does not own: the texts of numbers, nor the values of these texts.
-/

set_option autoImplicit false

namespace DesignCompiler

def Binary64.Finite.value (x : Binary64.Finite) : ℚ :=
  x.signedSteps / 2 ^ Binary64.unitExponent

namespace Number

/-- The rational number that a number stands for; none for an infinity and the undefined number. -/
def value? : Number → Option ℚ
  | .int i => some i
  | .float (.finite x) => some x.value
  | .float _ => none

@[simp] theorem value?_int (i : Int) : (Number.int i).value? = some (i : ℚ) :=
  rfl

@[simp] theorem value?_finite (x : Binary64.Finite) :
    (Number.float (.finite x)).value? = some x.value :=
  rfl

/-- A number with a value lies among the finite ones, where its value is counted in least positive
doubles. -/
theorem exists_position {n : Number} {q : ℚ} (isValue : n.value? = some q) :
    ∃ steps : Int, n.position = some (0, steps) ∧ (steps : ℚ) = q * 2 ^ Binary64.unitExponent := by
  have unit_ne_zero : (2 : ℚ) ^ Binary64.unitExponent ≠ 0 := by positivity
  cases n with
  | int i =>
      cases isValue
      refine ⟨_, rfl, ?_⟩
      rw [Nat.pow_eq]
      push_cast
      rfl
  | float x =>
      cases x with
      | nan => cases isValue
      | infinite negative => cases isValue
      | finite x =>
          cases isValue
          exact ⟨_, rfl, (div_mul_cancel₀ _ unit_ne_zero).symm⟩

/-- Numbers are ordered by their values. -/
theorem lt_iff {a b : Number} {p q : ℚ} (left : a.value? = some p) (right : b.value? = some q) :
    a.lt b = true ↔ p < q := by
  obtain ⟨steps, place, counted⟩ := exists_position left
  obtain ⟨steps', place', counted'⟩ := exists_position right
  have unit_pos : (0 : ℚ) < 2 ^ Binary64.unitExponent := by positivity
  have ordered : a.lt b = true ↔ steps < steps' := by
    rw [lt, place, place']
    simp
  rw [ordered, ← Int.cast_lt (R := ℚ), counted, counted', mul_lt_mul_iff_left₀ unit_pos]

/-- The lesser of two numbers has the lesser of their values. -/
theorem value?_least {a b : Number} {p q : ℚ} (left : a.value? = some p)
    (right : b.value? = some q) : (a.least b).value? = some (min p q) := by
  unfold least
  by_cases less : q < p
  · rw [if_pos ((lt_iff right left).mpr less), right, min_eq_right less.le]
  · rw [if_neg (mt (lt_iff right left).mp less), left, min_eq_left (not_lt.mp less)]

end Number

end DesignCompiler
