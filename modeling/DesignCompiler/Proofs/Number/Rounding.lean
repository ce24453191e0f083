import DesignCompiler.Proofs.Number.Range
import Mathlib.Algebra.Order.Ring.Nat

/-!
Contract: rounding to doubles.

Owns:
- the rounding of quotients, which does not depend on how the quotient is written;
- that finite values are rounded to themselves;
- `overflow`, from where on whole counts of least positive values are rounded to an infinity.

Does not own: decimal numbers, see `DesignCompiler.Proofs.Number.Decimal`.
-/

set_option autoImplicit false

namespace DesignCompiler

/-! ### Quotients -/

private theorem roundHalfEven_mul_mul {factor : Nat} (positive : 0 < factor)
    (numerator denominator : Nat) :
    roundHalfEven (factor * numerator) (factor * denominator) =
      roundHalfEven numerator denominator := by
  have same (a b : Nat) : 2 * (factor * a) < factor * b ↔ 2 * a < b := by
    rw [Nat.mul_left_comm]
    exact Nat.mul_lt_mul_left positive
  have same' (a b : Nat) : factor * b < 2 * (factor * a) ↔ b < 2 * a := by
    rw [Nat.mul_left_comm]
    exact Nat.mul_lt_mul_left positive
  unfold roundHalfEven
  rw [Nat.mul_div_mul_left _ _ positive, Nat.mul_mod_mul_left]
  simp only [same, same']

theorem roundHalfEven_le {numerator denominator bound : Nat}
    (below : numerator < bound * denominator) : roundHalfEven numerator denominator ≤ bound := by
  have positive : 0 < denominator := Nat.pos_of_ne_zero fun zero => by simp [zero] at below
  have quotient : numerator / denominator < bound := (Nat.div_lt_iff_lt_mul positive).mpr below
  unfold roundHalfEven
  simp only
  split_ifs <;> omega

theorem le_roundHalfEven {numerator denominator bound : Nat} (positive : 0 < denominator)
    (above : bound * denominator ≤ numerator) : bound ≤ roundHalfEven numerator denominator := by
  have quotient : bound ≤ numerator / denominator := (Nat.le_div_iff_mul_le positive).mpr above
  unfold roundHalfEven
  simp only
  split_ifs <;> omega

/-- Halfway to an even number rounding reaches this number. -/
theorem roundHalfEven_lt_even_iff (numerator : Nat) {denominator half : Nat}
    (positive : 0 < denominator) (nonzero : 0 < half) :
    roundHalfEven numerator denominator < 2 * half ↔
      2 * numerator < (4 * half - 1) * denominator := by
  have split := Nat.div_add_mod numerator denominator
  have remainder := Nat.mod_lt numerator positive
  unfold roundHalfEven
  generalize numerator / denominator = quotient at split ⊢
  generalize numerator % denominator = rest at split remainder ⊢
  subst split
  obtain below | reached | above : quotient + 1 < 2 * half ∨ 2 * half = quotient + 1 ∨
      2 * half ≤ quotient := by omega
  · have small : 2 * (denominator * quotient + rest) < (4 * half - 1) * denominator :=
      calc 2 * (denominator * quotient + rest)
          < (2 * quotient + 2) * denominator := by
            rw [Nat.add_mul, Nat.mul_add, Nat.mul_comm denominator, Nat.mul_assoc]
            omega
        _ ≤ (4 * half - 1) * denominator := Nat.mul_le_mul_right _ (by omega)
    refine iff_of_true ?_ small
    simp only
    split_ifs <;> omega
  · have factor : 4 * half - 1 = 2 * quotient + 1 := by omega
    have odd : quotient % 2 ≠ 0 := by omega
    rw [factor, reached, Nat.mul_add, Nat.add_mul, Nat.mul_comm denominator, Nat.mul_assoc,
      Nat.one_mul]
    simp only [odd, if_false]
    split_ifs <;> omega
  · have large : (4 * half - 1) * denominator ≤ 2 * (denominator * quotient + rest) :=
      calc (4 * half - 1) * denominator
          ≤ (2 * quotient) * denominator := Nat.mul_le_mul_right _ (by omega)
        _ ≤ 2 * (denominator * quotient + rest) := by
            rw [Nat.mul_assoc, Nat.mul_comm quotient]
            omega
    refine iff_of_false ?_ (Nat.not_lt.mpr large)
    simp only
    split_ifs <;> omega

namespace Binary64

/-- How a quotient is written makes no difference for the nearest value. -/
theorem nearest_mul_mul {factor : Nat} (positive : 0 < factor) (negative : Bool)
    (numerator denominator : Nat) :
    nearest negative (factor * numerator) (factor * denominator) =
      nearest negative numerator denominator := by
  unfold nearest
  rw [Nat.mul_div_mul_left _ _ positive]
  simp only [Nat.mul_assoc, roundHalfEven_mul_mul positive]

theorem ofRatio_mul_mul {factor : Nat} (positive : 0 < factor) (negative : Bool)
    (numerator denominator : Nat) :
    ofRatio negative (factor * numerator) (factor * denominator) =
      ofRatio negative numerator denominator := by
  unfold ofRatio
  rw [Nat.mul_assoc, nearest_mul_mul positive]

/-! ### Whole counts of least positive values -/

theorem lt_two_pow_of_log2 (n : Nat) : n < 2 ^ 53 * 2 ^ (n.log2 - 52) := by
  rw [← Nat.pow_add]
  calc n < 2 ^ (n.log2 + 1) := Nat.lt_log2_self
    _ ≤ 2 ^ (53 + (n.log2 - 52)) := Nat.pow_le_pow_right (by decide) (by omega)

theorem two_pow_le_of_log2 {n : Nat} (large : n.log2 - 52 ≠ 0) :
    2 ^ 52 * 2 ^ (n.log2 - 52) ≤ n := by
  have nonzero : n ≠ 0 := by
    rintro rfl
    exact large rfl
  rw [← Nat.pow_add, Nat.add_sub_cancel' (by omega)]
  exact Nat.log2_self_le nonzero

/-- A finite value is nearest to itself. -/
theorem nearest_steps (value : Finite) : nearest value.negative value.steps 1 = .finite value := by
  have exponent : value.steps.log2 - 52 = value.exponent := by
    unfold Finite.steps
    rcases value.canonical with least | normal
    · have fits := value.significand_lt
      rw [least, Nat.pow_eq, Nat.pow_zero, Nat.mul_one]
      by_cases zero : value.significand = 0
      · rw [zero]
        decide
      · have := (Nat.log2_lt zero).mpr fits
        omega
    · have log : (value.significand * 2 ^ value.exponent).log2 = value.exponent + 52 := by
        have positive : 0 < value.significand := Nat.lt_of_lt_of_le (by decide) normal
        have nonzero := Nat.mul_ne_zero (Nat.ne_of_gt positive)
          (Nat.ne_of_gt (Nat.two_pow_pos value.exponent))
        rw [Nat.log2_eq_iff nonzero, Nat.add_assoc, Nat.pow_add, Nat.pow_add,
          Nat.mul_comm (2 ^ value.exponent), Nat.mul_comm (2 ^ value.exponent)]
        exact ⟨Nat.mul_le_mul_right _ normal,
          Nat.mul_lt_mul_of_pos_right value.significand_lt (Nat.two_pow_pos _)⟩
      rw [Nat.pow_eq, log, Nat.add_sub_cancel]
  have significand : roundHalfEven value.steps (1 * Nat.pow 2 value.exponent) =
      value.significand := by
    rw [Nat.one_mul]
    exact roundHalfEven_mul _ _ (Nat.two_pow_pos _)
  unfold nearest
  rw [Nat.div_one, exponent]
  simp only [significand]
  rw [pack, dif_pos ⟨value.significand_lt, value.exponent_le, value.canonical⟩]

/-- The least whole count of least positive values that is rounded to an infinity: halfway between
the greatest finite value and the top of the range. -/
def overflow : Nat :=
  (2 ^ 54 - 1) * 2 ^ 2044

theorem isFinite_pack_iff {negative : Bool} {significand exponent : Nat}
    (fits : significand ≤ 2 ^ 53) (normal : exponent = 0 ∨ 2 ^ 52 ≤ significand) :
    (pack negative significand exponent).isFinite = true ↔
      exponent < 2045 ∨ exponent = 2045 ∧ significand < 2 ^ 53 := by
  unfold pack
  simp only [Nat.pow_eq]
  split_ifs with isFit carries
  · simp only [isFinite, true_iff]
    omega
  · simp only [isFinite, true_iff]
    omega
  · simp only [isFinite, Bool.false_eq_true, false_iff]
    omega

/-- Counts below the overflow are rounded to finite values, and no others are. -/
theorem isFinite_nearest_iff {negative : Bool} {n : Nat} :
    (nearest negative n 1).isFinite = true ↔ n < overflow := by
  have above := lt_two_pow_of_log2 n
  have below := two_pow_le_of_log2 (n := n)
  unfold nearest overflow
  rw [Nat.div_one]
  generalize n.log2 - 52 = exponent at above below ⊢
  -- The power stays a variable, for it is too large to be computed.
  generalize isTop : 2044 = top
  have positive := Nat.two_pow_pos exponent
  have carried := roundHalfEven_le above
  have normal : exponent = 0 ∨ 2 ^ 52 ≤ roundHalfEven n (2 ^ exponent) := by
    by_cases least : exponent = 0
    · exact Or.inl least
    · exact Or.inr (le_roundHalfEven positive (below least))
  simp only [Nat.one_mul, Nat.pow_eq]
  rw [isFinite_pack_iff carried normal]
  obtain small | rfl | large : exponent ≤ top ∨ exponent = top + 1 ∨ top + 2 ≤ exponent := by
    omega
  · refine iff_of_true (Or.inl (by omega)) ?_
    have scaled : 2 ^ exponent ≤ 2 ^ top := Nat.pow_le_pow_right Nat.two_pos small
    omega
  · have double : 2 * ((2 ^ 54 - 1) * 2 ^ top) = (4 * 2 ^ 52 - 1) * 2 ^ (top + 1) := by
      rw [Nat.pow_succ 2 top]
      omega
    have halves := roundHalfEven_lt_even_iff n positive (Nat.two_pow_pos 52)
    rw [← double] at halves
    constructor
    · rintro (small | ⟨-, fits⟩)
      · omega
      · exact Nat.lt_of_mul_lt_mul_left (halves.mp fits)
    · intro small
      exact Or.inr ⟨by omega, halves.mpr (Nat.mul_lt_mul_of_pos_left small Nat.two_pos)⟩
  · refine iff_of_false (by omega) ?_
    have scaled : 2 ^ (top + 2) ≤ 2 ^ exponent := Nat.pow_le_pow_right Nat.two_pos large
    have least := below (by omega)
    rw [Nat.pow_add] at scaled
    omega

theorem pack_cases (negative : Bool) (significand exponent : Nat) :
    (∃ value, pack negative significand exponent = .finite value) ∨
      pack negative significand exponent = .infinite negative := by
  unfold pack
  split_ifs
  · exact Or.inl ⟨_, rfl⟩
  · exact Or.inl ⟨_, rfl⟩
  · exact Or.inr rfl

/-- A count below the overflow is rounded to a finite value, and every other one to an infinity. -/
theorem nearest_cases (negative : Bool) (n : Nat) :
    (n < overflow ∧ ∃ value, nearest negative n 1 = .finite value) ∨
      (overflow ≤ n ∧ nearest negative n 1 = .infinite negative) := by
  have finite : (nearest negative n 1).isFinite = true ↔ n < overflow := isFinite_nearest_iff
  have packed : (∃ value, nearest negative n 1 = .finite value) ∨
      nearest negative n 1 = .infinite negative := pack_cases negative _ _
  rcases packed with ⟨value, isFinite⟩ | isInfinite
  · rw [isFinite] at finite
    exact Or.inl ⟨finite.mp rfl, value, isFinite⟩
  · rw [isInfinite] at finite
    have large : ¬ n < overflow := fun small => nomatch finite.mpr small
    exact Or.inr ⟨Nat.le_of_not_lt large, isInfinite⟩

/-- An integer below the overflow is near to a finite value, and every other one is too large. -/
theorem ofInt?_cases (i : Int) :
    (i.natAbs * 2 ^ unitExponent < overflow ∧ ∃ value, ofInt? i = some (.finite value)) ∨
      (overflow ≤ i.natAbs * 2 ^ unitExponent ∧ ofInt? i = none) := by
  unfold ofInt? ofRatio
  rw [Nat.pow_eq]
  rcases nearest_cases (i < 0) (i.natAbs * 2 ^ unitExponent) with
    ⟨small, value, isFinite⟩ | ⟨large, isInfinite⟩
  · rw [isFinite]
    exact Or.inl ⟨small, value, rfl⟩
  · rw [isInfinite]
    exact Or.inr ⟨large, rfl⟩

private theorem Finite.natAbs_signedSteps (value : Finite) :
    value.signedSteps.natAbs = value.steps := by
  unfold signedSteps
  split <;> simp

/-- A finite value stays below the overflow when it is increased by one half. -/
theorem Finite.natAbs_addHalf_lt (value : Finite) :
    (value.signedSteps + (Nat.pow 2 (unitExponent - 1) : Nat)).natAbs < overflow := by
  have size := value.natAbs_signedSteps
  have fits : value.significand ≤ 2 ^ 53 - 1 := Nat.le_sub_one_of_lt value.significand_lt
  have exponent := value.exponent_le
  unfold Finite.steps at size
  rw [Nat.pow_eq] at size
  unfold overflow unitExponent
  generalize isTop : 2044 = top
  generalize isHalf : 1074 - 1 = half
  have bound : value.significand * 2 ^ value.exponent ≤ (2 ^ 53 - 1) * 2 ^ (top + 1) :=
    Nat.mul_le_mul fits (Nat.pow_le_pow_right Nat.two_pos (by omega))
  have smaller : 2 ^ half < 2 ^ top := Nat.pow_lt_pow_right Nat.one_lt_two (by omega)
  rw [Nat.pow_succ 2 top, ← size] at bound
  have sum := Int.natAbs_add_le value.signedSteps (2 ^ half : Nat)
  rw [Int.natAbs_natCast] at sum
  rw [Nat.pow_eq]
  generalize (value.signedSteps + (2 ^ half : Nat)).natAbs = total at sum ⊢
  generalize value.signedSteps.natAbs = distance at bound sum
  omega

end Binary64

end DesignCompiler
