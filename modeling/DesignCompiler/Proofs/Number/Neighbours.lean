import DesignCompiler.Proofs.Number.Nearest
import Mathlib.Data.Nat.Cast.Order.Field

/-!
Contract: the decimal numbers with a given count of digits that read back as a finite double.

Owns:
- the power of ten of the first digit of a double;
- the multiples of a power of ten next to a double, and which of them reads back as it;
- the law that a number with so many digits is found if some number with so many digits reads back,
  and that the one that is found is nearest to the double;
- the law that seventeen digits suffice.

Does not own: the least count of digits, see `DesignCompiler.Proofs.Number.Shortest`.
-/

set_option autoImplicit false

namespace DesignCompiler.Binary64.Finite

open Decimal

variable {v : Finite} {d d' : Decimal}

/-! ### The distance from zero -/

theorem steps_pos (nonzero : v.significand ≠ 0) : 0 < v.steps :=
  Nat.mul_pos (Nat.pos_of_ne_zero nonzero) (Nat.two_pow_pos _)

theorem magnitude_pos (nonzero : v.significand ≠ 0) : 0 < v.magnitude := by
  have positive : (0 : ℚ) < v.steps := Nat.cast_pos.mpr (steps_pos nonzero)
  unfold magnitude
  positivity

theorem magnitude_of_zero (isZero : v.significand = 0) : v.magnitude = 0 := by
  rw [magnitude, steps, isZero, Nat.zero_mul, Nat.cast_zero, zero_div]

theorem magnitude_eq_iff {n : Nat} : v.magnitude = n ↔ v.steps = n * 2 ^ unitExponent := by
  unfold magnitude
  rw [div_eq_iff (by positivity)]
  exact_mod_cast Iff.rfl

private theorem ratio_eq_magnitude (v : Finite) : (v.ratio.1 : ℚ) / v.ratio.2 = v.magnitude := by
  simp only [ratio, magnitude, Nat.pow_eq]
  push_cast
  rfl

theorem ratio_pos (v : Finite) : 0 < v.ratio.2 := by
  simp only [ratio, Nat.pow_eq]
  positivity

/-! ### The first digit -/

section FirstDigit

variable {numerator denominator : Nat}

private theorem digits_quotient (positive : 0 < denominator) (large : denominator ≤ numerator) :
    ∃ zeros, (Nat.toDigits 10 (numerator / denominator)).length = zeros + 1 ∧
      (10 : ℚ) ^ zeros * denominator ≤ numerator ∧
      (numerator : ℚ) < 10 ^ (zeros + 1) * denominator := by
  have quotient : 0 < numerator / denominator := Nat.div_pos large positive
  have lower := pow_length_toDigits_le quotient
  have upper := lt_pow_length_toDigits (numerator / denominator)
  obtain ⟨zeros, length⟩ := Nat.exists_eq_succ_of_ne_zero
    (Nat.ne_of_gt (List.length_pos_iff.mpr
      (Nat.toDigits_ne_nil (b := 10) (n := numerator / denominator))))
  rw [length] at lower upper
  rw [Nat.succ_sub_one, Nat.le_div_iff_mul_le positive] at lower
  rw [Nat.div_lt_iff_lt_mul positive] at upper
  exact ⟨zeros, length, by exact_mod_cast lower, by exact_mod_cast upper⟩

private theorem leadingExponent_of_le (positive : 0 < denominator)
    (large : denominator ≤ numerator) :
    leadingExponent numerator denominator = Int.log 10 ((numerator : ℚ) / denominator) := by
  have positive' : (0 : ℚ) < denominator := Nat.cast_pos.mpr positive
  have quotient : (0 : ℚ) < numerator / denominator :=
    div_pos (Nat.cast_pos.mpr (positive.trans_le large)) positive'
  obtain ⟨zeros, length, lower, upper⟩ := digits_quotient positive large
  unfold leadingExponent
  rw [if_pos large, length, Nat.cast_succ, add_sub_cancel_right]
  refine (log_eq quotient ?_ ?_).symm
  · rw [zpow_natCast, le_div_iff₀ positive']
    exact lower
  · rw [← Nat.cast_succ, zpow_natCast, div_lt_iff₀ positive']
    exact upper

private theorem leadingExponent_of_lt (positive : 0 < numerator) (small : numerator < denominator) :
    leadingExponent numerator denominator = Int.log 10 ((numerator : ℚ) / denominator) := by
  have positive' : (0 : ℚ) < denominator := Nat.cast_pos.mpr (positive.trans small)
  have quotient : (0 : ℚ) < numerator / denominator := div_pos (Nat.cast_pos.mpr positive) positive'
  obtain ⟨zeros, length, lower, upper⟩ := digits_quotient positive small.le
  have power : (0 : ℚ) < 10 ^ zeros := by positivity
  have reaches (count : Nat) : (10 : ℚ) ^ (-(count : Int)) ≤ numerator / denominator ↔
      (denominator : ℚ) ≤ 10 ^ count * numerator := by
    rw [zpow_neg, zpow_natCast, inv_eq_one_div, div_le_div_iff₀ (by positivity) positive',
      one_mul, mul_comm]
  unfold leadingExponent
  simp only [if_neg (Nat.not_le.mpr small), length, Nat.add_sub_cancel, Nat.pow_eq]
  split_ifs with reached
  · have reached' : (denominator : ℚ) ≤ 10 ^ zeros * numerator := by
      rw [mul_comm]
      exact_mod_cast reached
    refine (log_eq quotient ((reaches zeros).mpr reached') ?_).symm
    rw [zpow_add_one₀ (by norm_num), zpow_neg, zpow_natCast, div_lt_iff₀ positive', mul_assoc,
      lt_inv_mul_iff₀ power]
    linarith
  · have missed : ¬ (denominator : ℚ) ≤ 10 ^ zeros * numerator := by
      rw [mul_comm]
      exact_mod_cast reached
    refine (log_eq quotient ((reaches (zeros + 1)).mpr upper.le) ?_).symm
    have next : -((zeros + 1 : Nat) : Int) + 1 = -(zeros : Int) := by omega
    rw [next, ← not_le, reaches zeros]
    exact missed

/-- The power of ten of the first digit of a quotient is the greatest one that is not above it. -/
theorem leadingExponent_eq_log (positive : 0 < numerator) (positive' : 0 < denominator) :
    leadingExponent numerator denominator = Int.log 10 ((numerator : ℚ) / denominator) := by
  rcases Nat.lt_or_ge numerator denominator with small | large
  · exact leadingExponent_of_lt positive small
  · exact leadingExponent_of_le positive' large

end FirstDigit

/-! ### Reading back -/

theorem value_exact (v : Finite) : v.exact.value = v.magnitude := by
  unfold exact Decimal.value magnitude
  simp only [Nat.pow_eq]
  generalize unitExponent = unit
  have powers : (10 : ℚ) ^ unit = 5 ^ unit * 2 ^ unit := by
    rw [← mul_pow]
    norm_num
  rw [zpow_neg, zpow_natCast, powers]
  push_cast
  field_simp

theorem isReadBy_exact (nonzero : v.significand ≠ 0) : v.isReadBy v.exact = true :=
  decide_eq_true (toBinary64_exact nonzero)

/-- What lies between a double and a number that reads back as it reads back too. -/
theorem isReadBy_of_between (nonzero : v.significand ≠ 0) (read : v.isReadBy d = true)
    (between : d.value ≤ d'.value ∧ d'.value ≤ v.magnitude ∨
      v.magnitude ≤ d'.value ∧ d'.value ≤ d.value) : v.isReadBy d' = true := by
  have exact := isReadBy_exact nonzero
  rw [isReadBy_iff] at read exact ⊢
  rw [← value_exact v] at between
  rcases between with ⟨low, high⟩ | ⟨low, high⟩
  · have := nearestSteps_mono low
    have := nearestSteps_mono high
    omega
  · have := nearestSteps_mono low
    have := nearestSteps_mono high
    omega

theorem digits_ne_zero_of_isReadBy (nonzero : v.significand ≠ 0) (read : v.isReadBy d = true) :
    d.digits ≠ 0 := by
  intro zero
  have steps := isReadBy_iff.mp read
  rw [nearestSteps_eq_zero (Or.inl zero)] at steps
  exact Nat.ne_of_lt (steps_pos nonzero) steps

/-! ### The neighbours among the multiples of a power of ten -/

private theorem shifted_pos (v : Finite) (exponent : Int) : 0 < (v.shifted exponent).2 := by
  have positive := v.ratio_pos
  cases exponent with
  | ofNat n =>
      simp only [shifted, Nat.pow_eq]
      positivity
  | negSucc n =>
      simp only [shifted]
      exact positive

private theorem shifted_eq (v : Finite) (exponent : Int) :
    ((v.shifted exponent).1 : ℚ) / (v.shifted exponent).2 = v.magnitude / 10 ^ exponent := by
  rw [← ratio_eq_magnitude]
  cases exponent with
  | ofNat n =>
      simp only [shifted, Nat.pow_eq, Int.ofNat_eq_natCast, zpow_natCast]
      push_cast
      rw [div_div]
  | negSucc n =>
      simp only [shifted, Nat.pow_eq, zpow_negSucc]
      push_cast
      rw [div_inv_eq_mul, mul_div_right_comm]

/-- The count of whole multiples of a power of ten below a double. -/
def multiples (v : Finite) (exponent : Int) : Nat :=
  (v.shifted exponent).1 / (v.shifted exponent).2

private theorem multiples_le (v : Finite) (exponent : Int) :
    (v.multiples exponent : ℚ) ≤ v.magnitude / 10 ^ exponent := by
  rw [← shifted_eq]
  exact Nat.cast_div_le

private theorem lt_multiples (v : Finite) (exponent : Int) :
    v.magnitude / 10 ^ exponent < (v.multiples exponent + 1 : Nat) := by
  rw [← shifted_eq, div_lt_iff₀ (Nat.cast_pos.mpr (v.shifted_pos exponent))]
  exact_mod_cast Nat.lt_mul_of_div_lt (Nat.lt_succ_self _) (v.shifted_pos exponent)

/-- A double is rounded to a multiple that is at most one half away, and even if it is exactly one
half away. -/
theorem abs_roundHalfEven_sub_le (v : Finite) (exponent : Int) :
    let nearer := roundHalfEven (v.shifted exponent).1 (v.shifted exponent).2
    |(nearer : ℚ) - v.magnitude / 10 ^ exponent| ≤ 1 / 2 ∧
      (|(nearer : ℚ) - v.magnitude / 10 ^ exponent| = 1 / 2 → nearer % 2 = 0) := by
  intro nearer
  have positive := v.shifted_pos exponent
  obtain ⟨above, below⟩ := roundHalfEven_bounds (v.shifted exponent).1 positive
  have even := even_roundHalfEven (v.shifted exponent).1 positive
  rw [shifted_eq] at above below even
  constructor
  · rw [abs_le]
    constructor <;> linarith
  · intro isHalf
    rcases (abs_eq (by norm_num)).mp isHalf with isAbove | isBelow
    · exact even (Or.inl (by linarith))
    · exact even (Or.inr (by linarith))

/-- The neighbours are the multiples on both sides, and the first of them is at most one half away,
or even if it is exactly one half away. -/
theorem neighbours_cases (v : Finite) (exponent : Int) :
    ∃ nearer farther, v.neighbours exponent = [⟨nearer, exponent⟩, ⟨farther, exponent⟩] ∧
      (nearer = v.multiples exponent ∧ farther = v.multiples exponent + 1 ∨
        nearer = v.multiples exponent + 1 ∧ farther = v.multiples exponent) ∧
      |(nearer : ℚ) - v.magnitude / 10 ^ exponent| ≤ 1 / 2 ∧
      (|(nearer : ℚ) - v.magnitude / 10 ^ exponent| = 1 / 2 → nearer % 2 = 0) := by
  have cases := roundHalfEven_eq_or (v.shifted exponent).1 (v.shifted exponent).2
  obtain ⟨half, tie⟩ := v.abs_roundHalfEven_sub_le exponent
  unfold neighbours
  simp only
  split_ifs with isBelow
  · exact ⟨_, _, rfl, Or.inl ⟨rfl, rfl⟩, isBelow ▸ half, isBelow ▸ tie⟩
  · have isAbove := cases.resolve_left isBelow
    exact ⟨_, _, rfl, Or.inr ⟨rfl, rfl⟩, isAbove ▸ half, isAbove ▸ tie⟩

theorem abs_sub_lt_of_ne {nearer n : Nat} {quotient : ℚ} (half : |(nearer : ℚ) - quotient| ≤ 1 / 2)
    (other : n ≠ nearer) : 1 / 2 ≤ |(n : ℚ) - quotient| := by
  rw [abs_le] at half
  rcases Nat.lt_or_gt_of_ne other with less | greater
  · have step : ((n + 1 : Nat) : ℚ) ≤ nearer := Nat.cast_le.mpr less
    push_cast at step
    refine le_abs.mpr (Or.inr ?_)
    linarith
  · have step : ((nearer + 1 : Nat) : ℚ) ≤ n := Nat.cast_le.mpr greater
    push_cast at step
    refine le_abs.mpr (Or.inl ?_)
    linarith

private theorem abs_sub_le_of_between {m n : Nat} {quotient : ℚ}
    (between : (quotient ≤ m ∧ m ≤ n) ∨ (n ≤ m ∧ (m : ℚ) ≤ quotient)) :
    |(m : ℚ) - quotient| ≤ |(n : ℚ) - quotient| ∧
      (|(m : ℚ) - quotient| = |(n : ℚ) - quotient| → m = n) := by
  rcases between with ⟨low, high⟩ | ⟨low, high⟩
  · have high' : (m : ℚ) ≤ n := Nat.cast_le.mpr high
    rw [abs_of_nonneg (by linarith), abs_of_nonneg (by linarith)]
    exact ⟨by linarith, fun same => Nat.cast_injective (R := ℚ) (by linarith)⟩
  · have low' : (n : ℚ) ≤ m := Nat.cast_le.mpr low
    rw [abs_of_nonpos (by linarith), abs_of_nonpos (by linarith)]
    exact ⟨by linarith, fun same => Nat.cast_injective (R := ℚ) (by linarith)⟩

theorem value_le_value {exponent : Int} {m n : Nat} :
    (Decimal.mk m exponent).value ≤ (Decimal.mk n exponent).value ↔ m ≤ n := by
  have power : (0 : ℚ) < 10 ^ exponent := by positivity
  unfold Decimal.value
  rw [mul_le_mul_iff_left₀ power, Nat.cast_le]

private theorem value_le_magnitude {exponent : Int} {n : Nat} (v : Finite) :
    (Decimal.mk n exponent).value ≤ v.magnitude ↔ n ≤ v.multiples exponent := by
  have power : (0 : ℚ) < 10 ^ exponent := by positivity
  unfold Decimal.value
  rw [← le_div_iff₀ power]
  constructor
  · intro atMost
    exact Nat.le_of_lt_succ (Nat.cast_lt.mp (atMost.trans_lt (v.lt_multiples exponent)))
  · intro atMost
    exact (Nat.cast_le.mpr atMost).trans (v.multiples_le exponent)

/-- If some multiple reads back as a double, then so does the one next to the double on its side. -/
theorem farther_of_isReadBy {exponent : Int} (nonzero : v.significand ≠ 0) {n : Nat}
    (read : v.isReadBy ⟨n, exponent⟩ = true) :
    (n ≤ v.multiples exponent → v.isReadBy ⟨v.multiples exponent, exponent⟩ = true) ∧
      (v.multiples exponent < n → v.isReadBy ⟨v.multiples exponent + 1, exponent⟩ = true) := by
  constructor
  · intro below
    refine isReadBy_of_between nonzero read (Or.inl ⟨value_le_value.mpr below, ?_⟩)
    exact (value_le_magnitude v).mpr (Nat.le_refl _)
  · intro above
    refine isReadBy_of_between nonzero read (Or.inr ⟨?_, value_le_value.mpr above⟩)
    exact le_of_not_ge ((value_le_magnitude v).not.mpr (Nat.not_succ_le_self _))

/-- The neighbour that is found is nearest to a double among the multiples that read back as it, and
even if another one is equally near. -/
theorem distance_of_find? {exponent : Int} (nonzero : v.significand ≠ 0)
    (found : (v.neighbours exponent).find? v.isReadBy = some d) {n : Nat}
    (read : v.isReadBy ⟨n, exponent⟩ = true) :
    |(d.digits : ℚ) - v.magnitude / 10 ^ exponent| ≤ |(n : ℚ) - v.magnitude / 10 ^ exponent| ∧
      (n ≠ d.digits → |(d.digits : ℚ) - v.magnitude / 10 ^ exponent| =
        |(n : ℚ) - v.magnitude / 10 ^ exponent| → d.digits % 2 = 0) := by
  -- Either the nearest multiple is found, or nothing on its side of the double reads back.
  obtain ⟨nearer, farther, areNeighbours, sides, half, even⟩ := v.neighbours_cases exponent
  obtain ⟨readBelow, readAbove⟩ := farther_of_isReadBy nonzero read
  have lower := v.multiples_le exponent
  have upper := v.lt_multiples exponent
  push_cast at upper
  rw [areNeighbours, List.find?_cons] at found
  cases readNearer : v.isReadBy ⟨nearer, exponent⟩ with
  | true =>
      rw [readNearer] at found
      cases found
      by_cases same : n = nearer
      · rw [same]
        exact ⟨le_refl _, fun other => absurd rfl other⟩
      · have far := abs_sub_lt_of_ne half same
        exact ⟨half.trans far, fun _ tie => even (le_antisymm half (tie ▸ far))⟩
  | false =>
      have isFarther : d = ⟨farther, exponent⟩ := by
        rw [readNearer] at found
        exact List.mem_singleton.mp (List.mem_of_find?_eq_some found)
      have between : (v.magnitude / 10 ^ exponent ≤ (farther : ℚ) ∧ farther ≤ n) ∨
          (n ≤ farther ∧ (farther : ℚ) ≤ v.magnitude / 10 ^ exponent) := by
        rcases sides with ⟨isBelow, isAbove⟩ | ⟨isAbove, isBelow⟩
        · refine Or.inl ⟨by rw [isAbove]; push_cast; exact upper.le, ?_⟩
          by_contra less
          rw [isBelow, readBelow (by omega)] at readNearer
          cases readNearer
        · refine Or.inr ⟨?_, by rw [isBelow]; exact lower⟩
          by_contra greater
          rw [isAbove, readAbove (by omega)] at readNearer
          cases readNearer
      obtain ⟨atMost, same⟩ := abs_sub_le_of_between between
      rw [isFarther]
      exact ⟨atMost, fun other tie => absurd (same tie).symm other⟩

/-! ### Decimal numbers with a given count of digits -/

theorem exponentFor_eq (nonzero : v.significand ≠ 0) (count : Nat) :
    v.exponentFor count = Int.log 10 v.magnitude + 1 - count := by
  have positive : 0 < v.ratio.1 := steps_pos nonzero
  rw [exponentFor, leadingExponent_eq_log positive v.ratio_pos, ratio_eq_magnitude]

/-- With so many digits before the place that is chosen for them, a double has its first digit in
front. -/
theorem first_le_magnitude (nonzero : v.significand ≠ 0) (places : Nat) :
    10 ^ places * 10 ^ v.exponentFor (places + 1) ≤ v.magnitude := by
  rw [← zpow_natCast, ← zpow_add₀ (by norm_num), ← le_log_iff (magnitude_pos nonzero),
    exponentFor_eq nonzero]
  omega

private theorem magnitude_lt_next (nonzero : v.significand ≠ 0) (count : Nat) :
    v.magnitude < 10 ^ count * 10 ^ v.exponentFor count := by
  rw [← zpow_natCast, ← zpow_add₀ (by norm_num), ← log_lt_iff (magnitude_pos nonzero),
    exponentFor_eq nonzero]
  omega

theorem distance_eq (v : Finite) (d : Decimal) :
    |d.value - v.magnitude| =
      |(d.digits : ℚ) - v.magnitude / 10 ^ d.exponent| * 10 ^ d.exponent := by
  have power : (0 : ℚ) < 10 ^ d.exponent := by positivity
  rw [← abs_of_pos power, ← abs_mul, abs_of_pos power, sub_mul, div_mul_cancel₀ _ power.ne']
  rfl

private theorem isReadBy_padded (v : Finite) (d : Decimal) (zeros : Nat) :
    v.isReadBy (d.padded zeros) = v.isReadBy d := by
  unfold isReadBy
  rw [toBinary64_padded]

/-- If some number with so many digits reads back as a double, then so does a multiple of the power
of ten that leaves so many digits, and this one is not farther away. -/
theorem exists_multiple_of_isReadBy (nonzero : v.significand ≠ 0) {count : Nat}
    (short : d.digits < 10 ^ count) (read : v.isReadBy d = true) :
    ∃ n, v.isReadBy ⟨n, v.exponentFor count⟩ = true ∧
      |(Decimal.mk n (v.exponentFor count)).value - v.magnitude| ≤ |d.value - v.magnitude| := by
  rcases le_or_gt (v.exponentFor count) d.exponent with coarse | fine
  · have isPadded : d.padded (d.exponent - v.exponentFor count).toNat =
        ⟨d.digits * 10 ^ (d.exponent - v.exponentFor count).toNat, v.exponentFor count⟩ := by
      simp only [padded, Decimal.mk.injEq, true_and]
      omega
    refine ⟨d.digits * 10 ^ (d.exponent - v.exponentFor count).toNat, ?_, ?_⟩
    · rw [← isPadded, isReadBy_padded]
      exact read
    · rw [← isPadded, value_padded]
  · -- The number has its digits too far behind, so it is below the first power of ten.
    obtain ⟨places, rfl⟩ : ∃ places, count = places + 1 := by
      refine Nat.exists_eq_succ_of_ne_zero fun none => ?_
      rw [none] at short
      exact digits_ne_zero_of_isReadBy nonzero read (Nat.lt_one_iff.mp short)
    have lower : (Decimal.mk (10 ^ places) (v.exponentFor (places + 1))).value ≤ v.magnitude := by
      rw [Decimal.value, Nat.cast_pow, Nat.cast_ofNat]
      exact first_le_magnitude nonzero places
    have less : d.value ≤ (Decimal.mk (10 ^ places) (v.exponentFor (places + 1))).value := by
      have digits : (d.digits : ℚ) ≤ 10 ^ (places + 1) := by exact_mod_cast short.le
      have exponents : (10 : ℚ) ^ d.exponent ≤ 10 ^ (v.exponentFor (places + 1) - 1) :=
        zpow_le_zpow_right₀ (by norm_num) (by omega)
      calc d.value
          ≤ 10 ^ (places + 1) * 10 ^ (v.exponentFor (places + 1) - 1) :=
            mul_le_mul digits exponents (by positivity) (by positivity)
        _ = (Decimal.mk (10 ^ places) (v.exponentFor (places + 1))).value := by
            rw [Decimal.value, zpow_sub_one₀ (by norm_num), pow_succ]
            push_cast
            field_simp
    -- This power of ten is between the number and the double.
    refine ⟨10 ^ places, isReadBy_of_between nonzero read (Or.inl ⟨less, lower⟩), ?_⟩
    rw [abs_of_nonpos (by linarith), abs_of_nonpos (by linarith)]
    linarith

theorem decimal?_ne_none (nonzero : v.significand ≠ 0) {count : Nat}
    (short : d.digits < 10 ^ count) (read : v.isReadBy d = true) : v.decimal? count ≠ none := by
  obtain ⟨n, readMultiple, -⟩ := exists_multiple_of_isReadBy nonzero short read
  obtain ⟨nearer, farther, areNeighbours, sides, -⟩ := v.neighbours_cases (v.exponentFor count)
  obtain ⟨readBelow, readAbove⟩ := farther_of_isReadBy nonzero readMultiple
  unfold decimal?
  rw [areNeighbours, ← Option.isSome_iff_ne_none, List.find?_isSome]
  simp only [List.mem_cons, List.not_mem_nil, or_false, exists_eq_or_imp, exists_eq_left]
  rcases Nat.lt_or_ge (v.multiples (v.exponentFor count)) n with above | below
  · have isRead := readAbove above
    rcases sides with ⟨-, rfl⟩ | ⟨rfl, -⟩
    · exact Or.inr isRead
    · exact Or.inl isRead
  · have isRead := readBelow below
    rcases sides with ⟨rfl, -⟩ | ⟨-, rfl⟩
    · exact Or.inl isRead
    · exact Or.inr isRead

theorem exponent_of_decimal? {count : Nat} (found : v.decimal? count = some d) :
    d.exponent = v.exponentFor count := by
  obtain ⟨nearer, farther, areNeighbours, -⟩ := v.neighbours_cases (v.exponentFor count)
  have isNeighbour := List.mem_of_find?_eq_some found
  rw [areNeighbours] at isNeighbour
  simp only [List.mem_cons, List.not_mem_nil, or_false] at isNeighbour
  rcases isNeighbour with rfl | rfl <;> rfl

/-- The number that is found is nearest to a double among those with so many digits that read back
as it. -/
theorem distance_of_decimal? (nonzero : v.significand ≠ 0) {count : Nat}
    (found : v.decimal? count = some d) (short : d'.digits < 10 ^ count)
    (read : v.isReadBy d' = true) : |d.value - v.magnitude| ≤ |d'.value - v.magnitude| := by
  obtain ⟨n, readMultiple, closer⟩ := exists_multiple_of_isReadBy nonzero short read
  refine le_trans ?_ closer
  rw [distance_eq, distance_eq, exponent_of_decimal? found]
  exact mul_le_mul_of_nonneg_right (distance_of_find? nonzero found readMultiple).1 (by positivity)

/-! ### Seventeen digits -/

/-- Seventeen digits suffice for every double. -/
theorem decimal?_seventeen (nonzero : v.significand ≠ 0) : v.decimal? 17 ≠ none := by
  obtain ⟨nearer, farther, areNeighbours, -, half, -⟩ := v.neighbours_cases (v.exponentFor 17)
  have power : (0 : ℚ) < 10 ^ v.exponentFor 17 := by positivity
  have close : |(Decimal.mk nearer (v.exponentFor 17)).value - v.magnitude| * 2 ^ 54 <
      v.magnitude := by
    have first := first_le_magnitude nonzero 16
    have scaled := mul_le_mul_of_nonneg_right half power.le
    rw [distance_eq]
    simp only
    linarith
  have read := isReadBy_of_close close
  unfold decimal?
  rw [areNeighbours, ← Option.isSome_iff_ne_none, List.find?_isSome]
  exact ⟨_, List.mem_cons_self, read⟩

/-- The shortest digits are those that are found with some count of digits and with no smaller one,
less the zeros at their end. -/
theorem exists_decimal? (nonzero : v.significand ≠ 0) :
    ∃ count d, v.decimal? (count + 1) = some d ∧ v.shortest = d.trimmed ∧
      ∀ fewer, 0 < fewer → fewer < count + 1 → v.decimal? fewer = none := by
  unfold shortest
  rw [if_neg nonzero]
  cases found : (List.range' 1 17).findSome? v.decimal? with
  | none =>
      have none17 := List.findSome?_eq_none_iff.mp found 17 (by decide)
      exact absurd none17 (decimal?_seventeen nonzero)
  | some d =>
      obtain ⟨before, count, after, parts, isDecimal, noneBefore⟩ :=
        List.findSome?_eq_some_iff.mp found
      obtain ⟨k, -, isBefore, isAfter⟩ := List.range'_eq_append_iff.mp parts
      have isNext := (List.range'_eq_cons_iff.mp isAfter.symm).1
      have isCount : count = k + 1 := by omega
      refine ⟨k, d, isCount ▸ isDecimal, rfl, fun fewer positive less => ?_⟩
      apply noneBefore
      rw [isBefore, List.mem_range'_1]
      omega

theorem digits_le_of_decimal? (nonzero : v.significand ≠ 0) {count : Nat}
    (found : v.decimal? count = some d) : d.digits ≤ 10 ^ count := by
  obtain ⟨nearer, farther, areNeighbours, sides, -⟩ := v.neighbours_cases (v.exponentFor count)
  have isNeighbour := List.mem_of_find?_eq_some found
  rw [areNeighbours] at isNeighbour
  simp only [List.mem_cons, List.not_mem_nil, or_false] at isNeighbour
  have below : v.multiples (v.exponentFor count) < 10 ^ count := by
    have less : v.magnitude / 10 ^ v.exponentFor count < 10 ^ count := by
      rw [div_lt_iff₀ (by positivity)]
      exact magnitude_lt_next nonzero count
    exact_mod_cast (v.multiples_le _).trans_lt less
  rcases isNeighbour with rfl | rfl <;> simp only <;> omega

end DesignCompiler.Binary64.Finite
