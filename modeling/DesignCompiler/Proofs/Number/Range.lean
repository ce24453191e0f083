import DesignCompiler.Number.Basic
import Mathlib.Algebra.Group.Nat.Defs

/-!
Contract: which numbers lie in the range of the finite doubles.

Owns:
- `Number.IsFinite`, the numbers that a finite double stands for;
- the place of a finite number in the exact order, below `2 ^ 1024`;
- the lesser of a power of two and a finite number, which is finite again.

Does not own: the texts of numbers, see `DesignCompiler.Number.Layout`.
-/

set_option autoImplicit false

namespace DesignCompiler

/-- A number that some finite double stands for: a finite double itself, or an integer that is not
beyond all of them. -/
def Number.IsFinite (n : Number) : Prop :=
  ∃ value, n.toBinary64? = some (.finite value)

theorem Number.isFinite_iff (n : Number) :
    n.IsFinite ↔ n.toBinary64?.any Binary64.isFinite = true := by
  unfold Number.IsFinite
  generalize n.toBinary64? = converted
  rcases converted with _ | (_ | _ | value) <;> simp [Binary64.isFinite]

instance (n : Number) : Decidable n.IsFinite :=
  decidable_of_iff _ n.isFinite_iff.symm

namespace Binary64

/-- The least power of two, counted in least positive values, that no finite double reaches. -/
def topExponent : Nat := 2098

/-! ### Rounding whole multiples -/

theorem roundHalfEven_mul (quotient denominator : Nat) (positive : 0 < denominator) :
    roundHalfEven (quotient * denominator) denominator = quotient := by
  unfold roundHalfEven
  rw [Nat.mul_div_cancel _ positive, Nat.mul_mod_left]
  simp [positive]

/-- A power of two below the top of the range is rounded to itself. -/
theorem ofRatio_two_pow (k : Nat) (below : k + unitExponent < topExponent) :
    ∃ value, ofRatio false (2 ^ k) 1 = .finite value := by
  have scaled : 2 ^ k * Nat.pow 2 unitExponent = 2 ^ (k + unitExponent) := by
    rw [Nat.pow_eq, ← Nat.pow_add]
  have shift : k + unitExponent - 52 + 52 = k + unitExponent := by
    simp only [unitExponent]
    omega
  have significand :
      roundHalfEven (2 ^ (k + unitExponent)) (1 * Nat.pow 2 (k + unitExponent - 52)) =
        2 ^ 52 := by
    rw [Nat.pow_eq, Nat.one_mul]
    conv => lhs; arg 1; rw [← shift, Nat.pow_add, Nat.mul_comm]
    exact roundHalfEven_mul _ _ (Nat.two_pow_pos _)
  have fits : (2 ^ 52 : Nat) < Nat.pow 2 53 ∧ k + unitExponent - 52 ≤ 2045 ∧
      (k + unitExponent - 52 = 0 ∨ Nat.pow 2 52 ≤ 2 ^ 52) := by
    refine ⟨by decide, ?_, Or.inr (Nat.le_refl _)⟩
    simp only [topExponent] at below
    omega
  refine ⟨⟨false, 2 ^ 52, k + unitExponent - 52, fits.1, fits.2.1, fits.2.2⟩, ?_⟩
  unfold ofRatio nearest
  rw [scaled, Nat.div_one, Nat.log2_two_pow]
  show pack false (roundHalfEven _ _) (k + unitExponent - 52) = _
  rw [significand, pack, dif_pos fits]

/-- An integer is not beyond all finite doubles exactly if it rounds to one of them. -/
theorem ofInt?_eq_some_iff (i : Int) (value : Finite) :
    ofInt? i = some (.finite value) ↔ ofRatio (i < 0) i.natAbs 1 = .finite value := by
  unfold ofInt?
  generalize ofRatio (i < 0) i.natAbs 1 = rounded
  cases rounded <;> simp [isFinite]

/-! ### The size of finite doubles -/

private theorem Finite.signedSteps_le (value : Finite) : value.signedSteps ≤ value.steps := by
  unfold signedSteps
  split <;> omega

theorem Finite.steps_lt (value : Finite) : value.steps < 2 ^ topExponent := by
  have exponentLe : 53 + value.exponent ≤ topExponent := by
    have := value.exponent_le
    simp only [topExponent]
    omega
  calc value.significand * Nat.pow 2 value.exponent
      < 2 ^ 53 * 2 ^ value.exponent :=
        Nat.mul_lt_mul_of_pos_right value.significand_lt (Nat.two_pow_pos _)
    _ = 2 ^ (53 + value.exponent) := (Nat.pow_add 2 53 value.exponent).symm
    _ ≤ 2 ^ topExponent := Nat.pow_le_pow_right (by decide) exponentLe

/-- An integral double lies below the top of the range. -/
theorem natAbs_lt_of_toInt? {value : Binary64} {i : Int} (isInteger : value.toInt? = some i) :
    i.natAbs < 2 ^ (topExponent - unitExponent) := by
  unfold toInt? at isInteger
  split at isInteger
  · next value =>
      split at isInteger
      · have below : value.steps / Nat.pow 2 unitExponent < 2 ^ (topExponent - unitExponent) := by
          refine Nat.div_lt_of_lt_mul (Nat.lt_of_lt_of_eq value.steps_lt ?_)
          rw [Nat.pow_eq, ← Nat.pow_add, Nat.add_sub_cancel' (by decide)]
        obtain rfl := Option.some.inj isInteger
        split
        · rwa [Int.natAbs_neg, Int.natAbs_natCast]
        · rwa [Int.natAbs_natCast]
      · cases isInteger
  · cases isInteger

private theorem exponent_le_of_pack_finite {negative : Bool} {significand exponent : Nat}
    {value : Finite}
    (packed : pack negative significand exponent = .finite value) : exponent ≤ 2045 := by
  unfold pack at packed
  split at packed
  · next fits => exact fits.2.1
  · split at packed
    · next carries => exact Nat.le_of_succ_le carries.2
    · cases packed

/-- What rounds to a finite double lies below the top of the range. -/
theorem lt_of_ofRatio_finite {negative : Bool} {n : Nat} {value : Finite}
    (rounded : ofRatio negative n 1 = .finite value) :
    n * 2 ^ unitExponent < 2 ^ topExponent := by
  by_cases isZero : n = 0
  · rw [isZero, Nat.zero_mul]
    exact Nat.two_pow_pos _
  · have nonzero : n * 2 ^ unitExponent ≠ 0 :=
      Nat.mul_ne_zero isZero (Nat.ne_of_gt (Nat.two_pow_pos _))
    have exponentLe : (n * 2 ^ unitExponent).log2 - 52 ≤ 2045 := by
      simp only [ofRatio, nearest, Nat.div_one, Nat.pow_eq] at rounded
      generalize (n * 2 ^ unitExponent).log2 = log at rounded ⊢
      exact exponent_le_of_pack_finite rounded
    have logLt : (n * 2 ^ unitExponent).log2 < topExponent := by
      generalize (n * 2 ^ unitExponent).log2 = log at exponentLe ⊢
      simp only [topExponent]
      omega
    exact (Nat.log2_lt nonzero).mp logLt

end Binary64

namespace Number

open Binary64

/-- A finite number has a place among the finite ones, and it is not above the top of the range. -/
theorem IsFinite.position_lt {n : Number} (finite : n.IsFinite) :
    ∃ place, n.position = some (0, place) ∧ place < (2 ^ topExponent : Nat) := by
  obtain ⟨value, converted⟩ := finite
  cases n with
  | int i =>
      refine ⟨_, rfl, ?_⟩
      have bound : i.natAbs * 2 ^ unitExponent < 2 ^ topExponent :=
        lt_of_ofRatio_finite ((ofInt?_eq_some_iff i value).mp converted)
      rw [Nat.pow_eq]
      generalize 2 ^ unitExponent = unit at bound ⊢
      calc i * (unit : Int)
          ≤ i.natAbs * (unit : Int) :=
            Int.mul_le_mul_of_nonneg_right Int.le_natAbs (Int.natCast_nonneg unit)
        _ = ((i.natAbs * unit : Nat) : Int) := (Int.natCast_mul _ _).symm
        _ < (2 ^ topExponent : Nat) := Int.ofNat_lt.mpr bound
  | float x =>
      simp only [toBinary64?, Option.some.injEq] at converted
      subst converted
      refine ⟨_, rfl, ?_⟩
      exact Int.lt_of_le_of_lt value.signedSteps_le (Int.ofNat_lt.mpr value.steps_lt)

/-- The lesser of a power of two and a finite number is finite. -/
theorem isFinite_least_two_pow (k : Nat) {cap : Number} (finite : cap.IsFinite) :
    ((Number.int (Nat.pow 2 k : Nat)).least cap).IsFinite := by
  unfold least
  split
  · exact finite
  · next notLess =>
      obtain ⟨place, position, bound⟩ := finite.position_lt
      -- The cap is not below the power, so the power is not above the top of the range either.
      have powerLe : ((2 ^ (k + unitExponent) : Nat) : Int) ≤ place := by
        rw [lt, position] at notLess
        simp only [Number.position, Nat.pow_eq] at notLess
        rw [Nat.pow_add, Int.natCast_mul]
        generalize 2 ^ unitExponent = unit at notLess ⊢
        simpa using notLess
      have below : k + unitExponent < topExponent :=
        (Nat.pow_lt_pow_iff_right (by decide)).mp
          (Int.ofNat_lt.mp (Int.lt_of_le_of_lt powerLe bound))
      obtain ⟨value, rounded⟩ := ofRatio_two_pow k below
      refine ⟨value, (ofInt?_eq_some_iff _ value).mpr ?_⟩
      have notNegative : decide (((Nat.pow 2 k : Nat) : Int) < 0) = false :=
        decide_eq_false (Int.not_lt.mpr (Int.natCast_nonneg _))
      rw [notNegative, Int.natAbs_natCast]
      exact rounded

/-- The lesser of two finite numbers is finite. -/
theorem isFinite_least {a b : Number} (left : a.IsFinite) (right : b.IsFinite) :
    (a.least b).IsFinite := by
  unfold least
  split
  · exact right
  · exact left

end Number

end DesignCompiler
