import DesignCompiler.Proofs.Number.Decimal
import DesignCompiler.Proofs.Number.Value
import Mathlib.Algebra.Order.Field.Power
import Mathlib.Algebra.Order.Floor.Semifield
import Mathlib.Data.Int.Log
import Mathlib.Data.Nat.Log
import Mathlib.Data.Rat.Floor
import Mathlib.Tactic.FieldSimp
import Mathlib.Tactic.Linarith
import Mathlib.Tactic.Positivity

/-!
Contract: the order in which quotients and decimal numbers are rounded to doubles.

Owns:
- `roundedSteps`, the count of least positive values to which a quotient of them is rounded, which
  never falls where the quotient grows;
- that a quotient close to a double is rounded to it;
- the same of decimal numbers, for which the limits of their exponents make no difference.

Does not own: the shortest digits, see `DesignCompiler.Proofs.Number.Shortest`.
-/

set_option autoImplicit false

namespace DesignCompiler

/-! ### Whole numbers next to a quotient -/

section Quotients

variable {numerator denominator numerator' denominator' : Nat}

/-- A rounded quotient is at most one half away from it, and even if it is exactly one half. -/
theorem roundHalfEven_half (numerator : Nat) (positive : 0 < denominator) :
    2 * (roundHalfEven numerator denominator * denominator) ≤ 2 * numerator + denominator ∧
      2 * numerator ≤ 2 * (roundHalfEven numerator denominator * denominator) + denominator ∧
      (2 * (roundHalfEven numerator denominator * denominator) = 2 * numerator + denominator ∨
        2 * numerator = 2 * (roundHalfEven numerator denominator * denominator) + denominator →
        roundHalfEven numerator denominator % 2 = 0) := by
  have split := Nat.div_add_mod numerator denominator
  have remainder := Nat.mod_lt numerator positive
  unfold roundHalfEven
  generalize numerator / denominator = quotient at split ⊢
  generalize numerator % denominator = rest at split remainder ⊢
  rw [Nat.mul_comm] at split
  have next : (quotient + 1) * denominator = quotient * denominator + denominator :=
    Nat.succ_mul quotient denominator
  simp only
  split_ifs <;> omega

theorem roundHalfEven_eq_or (numerator denominator : Nat) :
    roundHalfEven numerator denominator = numerator / denominator ∨
      roundHalfEven numerator denominator = numerator / denominator + 1 := by
  unfold roundHalfEven
  simp only
  split_ifs <;> simp

theorem roundHalfEven_bounds (numerator : Nat) (positive : 0 < denominator) :
    (roundHalfEven numerator denominator : ℚ) ≤ numerator / denominator + 1 / 2 ∧
      (numerator : ℚ) / denominator ≤ roundHalfEven numerator denominator + 1 / 2 := by
  have positive' : (0 : ℚ) < denominator := Nat.cast_pos.mpr positive
  obtain ⟨above, below, -⟩ := roundHalfEven_half numerator positive
  have above' := (Nat.cast_le (α := ℚ)).mpr above
  have below' := (Nat.cast_le (α := ℚ)).mpr below
  push_cast at above' below'
  constructor
  · rw [div_add' _ _ _ positive'.ne', le_div_iff₀ positive']
    linarith
  · rw [div_le_iff₀ positive']
    linarith

theorem even_roundHalfEven (numerator : Nat) (positive : 0 < denominator)
    (tie : (roundHalfEven numerator denominator : ℚ) = numerator / denominator + 1 / 2 ∨
      (numerator : ℚ) / denominator = roundHalfEven numerator denominator + 1 / 2) :
    roundHalfEven numerator denominator % 2 = 0 := by
  have nonzero : (denominator : ℚ) ≠ 0 := Nat.cast_ne_zero.mpr positive.ne'
  refine (roundHalfEven_half numerator positive).2.2 (tie.imp (fun above => ?_) fun below => ?_)
  · rw [div_add' _ _ _ nonzero, eq_div_iff nonzero] at above
    have scaled : (2 * (roundHalfEven numerator denominator * denominator) : ℚ) =
        2 * numerator + denominator := by
      linarith
    exact_mod_cast scaled
  · rw [div_eq_iff nonzero] at below
    have scaled : (2 * numerator : ℚ) =
        2 * (roundHalfEven numerator denominator * denominator) + denominator := by
      linarith
    exact_mod_cast scaled

/-- A rounded quotient never falls where the quotient grows. -/
theorem roundHalfEven_mono (positive : 0 < denominator) (positive' : 0 < denominator')
    (ordered : (numerator : ℚ) / denominator ≤ numerator' / denominator') :
    roundHalfEven numerator denominator ≤ roundHalfEven numerator' denominator' := by
  by_contra falls
  have step : ((roundHalfEven numerator' denominator' + 1 : Nat) : ℚ) ≤
      roundHalfEven numerator denominator :=
    Nat.cast_le.mpr (Nat.lt_of_not_le falls)
  rw [Nat.cast_succ] at step
  have above := (roundHalfEven_bounds numerator positive).1
  have below := (roundHalfEven_bounds numerator' positive').2
  -- Both quotients are halfway between the same two whole numbers, which would both be even.
  have even : roundHalfEven numerator denominator % 2 = 0 :=
    even_roundHalfEven _ positive (Or.inl (by linarith))
  have even' : roundHalfEven numerator' denominator' % 2 = 0 :=
    even_roundHalfEven _ positive' (Or.inr (by linarith))
  have next : (roundHalfEven numerator denominator : ℚ) =
      (roundHalfEven numerator' denominator' + 1 : Nat) := by
    rw [Nat.cast_succ]
    linarith
  have odd := Nat.cast_injective next
  omega

/-- A quotient less than one half away from a whole number is rounded to it. -/
theorem roundHalfEven_eq_of_close {n : Nat} (positive : 0 < denominator)
    (below : (n : ℚ) < numerator / denominator + 1 / 2)
    (above : (numerator : ℚ) / denominator < n + 1 / 2) :
    roundHalfEven numerator denominator = n := by
  obtain ⟨upper, lower⟩ := roundHalfEven_bounds numerator positive
  have less : (roundHalfEven numerator denominator : ℚ) < (n + 1 : Nat) := by
    push_cast
    linarith
  have greater : (n : ℚ) < (roundHalfEven numerator denominator + 1 : Nat) := by
    push_cast
    linarith
  have less' := Nat.cast_lt.mp less
  have greater' := Nat.cast_lt.mp greater
  omega

end Quotients

namespace Binary64

variable {numerator denominator numerator' denominator' : Nat}

/-! ### Whole counts of least positive values next to a quotient -/

/-- The power of two, counted from the least one, of which a quotient is rounded to a multiple. -/
def roundingExponent (numerator denominator : Nat) : Nat :=
  Nat.log2 (numerator / denominator) - 52

/-- The count of least positive values to which a quotient of them is rounded. -/
def roundedSteps (numerator denominator : Nat) : Nat :=
  roundHalfEven numerator (denominator * 2 ^ roundingExponent numerator denominator) *
    2 ^ roundingExponent numerator denominator

private theorem lt_of_roundingExponent (numerator : Nat) (positive : 0 < denominator) :
    numerator < 2 ^ 53 * (denominator * 2 ^ roundingExponent numerator denominator) := by
  have below := lt_two_pow_of_log2 (numerator / denominator)
  rw [Nat.div_lt_iff_lt_mul positive, Nat.mul_assoc] at below
  rw [Nat.mul_comm denominator]
  exact below

private theorem le_of_roundingExponent (positive : 0 < denominator)
    (large : roundingExponent numerator denominator ≠ 0) :
    2 ^ 52 * (denominator * 2 ^ roundingExponent numerator denominator) ≤ numerator := by
  have above := two_pow_le_of_log2 large
  rw [Nat.le_div_iff_mul_le positive, Nat.mul_assoc] at above
  rw [Nat.mul_comm denominator]
  exact above

private theorem roundHalfEven_le_two_pow (numerator : Nat) (positive : 0 < denominator) :
    roundHalfEven numerator (denominator * 2 ^ roundingExponent numerator denominator) ≤ 2 ^ 53 :=
  roundHalfEven_le (lt_of_roundingExponent numerator positive)

private theorem two_pow_le_roundHalfEven (numerator : Nat) (positive : 0 < denominator) :
    roundingExponent numerator denominator = 0 ∨ 2 ^ 52 ≤
      roundHalfEven numerator (denominator * 2 ^ roundingExponent numerator denominator) := by
  by_cases least : roundingExponent numerator denominator = 0
  · exact Or.inl least
  · have positive' := Nat.mul_pos positive
      (Nat.two_pow_pos (roundingExponent numerator denominator))
    exact Or.inr (le_roundHalfEven positive' (le_of_roundingExponent positive least))

/-- Finite values differ in their signs or in their distances from zero. -/
theorem Finite.eq_of_steps {v w : Finite} (sign : v.negative = w.negative)
    (distance : v.steps = w.steps) : v = w := by
  have left := nearest_steps v
  rw [sign, distance, nearest_steps w] at left
  exact (finite.inj left).symm

private theorem steps_of_pack {negative : Bool} {significand exponent : Nat} {value : Finite}
    (packed : pack negative significand exponent = .finite value) :
    value.negative = negative ∧ value.steps = significand * 2 ^ exponent := by
  unfold pack at packed
  split_ifs at packed with fits carries
  · cases packed
    exact ⟨rfl, rfl⟩
  · cases packed
    refine ⟨rfl, ?_⟩
    simp only [Finite.steps, Nat.pow_eq]
    rw [carries.1, Nat.pow_eq, Nat.pow_succ, Nat.pow_succ 2 52]
    ring

private theorem two_pow_le_of_pack {negative sign : Bool} {significand exponent : Nat}
    (fits : significand ≤ 2 ^ 53) (normal : exponent = 0 ∨ 2 ^ 52 ≤ significand)
    (packed : pack negative significand exponent = .infinite sign) :
    2 ^ topExponent ≤ significand * 2 ^ exponent := by
  have notFinite : ¬ (pack negative significand exponent).isFinite = true := by
    rw [packed]
    exact Bool.false_ne_true
  rw [isFinite_pack_iff fits normal] at notFinite
  obtain large | ⟨isTop, carried⟩ : 2046 ≤ exponent ∨ exponent = 2045 ∧ significand = 2 ^ 53 := by
    omega
  · have least : topExponent ≤ 52 + exponent := Nat.add_le_add_left large 52
    calc 2 ^ topExponent ≤ 2 ^ (52 + exponent) := Nat.pow_le_pow_right Nat.two_pos least
      _ = 2 ^ 52 * 2 ^ exponent := Nat.pow_add 2 52 exponent
      _ ≤ significand * 2 ^ exponent :=
        Nat.mul_le_mul_right _ (normal.resolve_left (by omega))
  · have least : topExponent ≤ 53 + exponent := Nat.add_le_add_left (Nat.le_of_eq isTop.symm) 53
    rw [carried, ← Nat.pow_add]
    exact Nat.pow_le_pow_right Nat.two_pos least

/-- The finite value nearest to a quotient has the rounded count of least positive values. -/
theorem nearest_eq_finite_iff {negative : Bool} {value : Finite} (positive : 0 < denominator) :
    nearest negative numerator denominator = .finite value ↔
      value.negative = negative ∧ value.steps = roundedSteps numerator denominator := by
  constructor
  · exact steps_of_pack
  · rintro ⟨sign, distance⟩
    subst sign
    have packed := pack_cases value.negative
      (roundHalfEven numerator (denominator * 2 ^ roundingExponent numerator denominator))
      (roundingExponent numerator denominator)
    rcases packed with ⟨other, isFinite⟩ | isInfinite
    · obtain ⟨sign, steps⟩ := steps_of_pack isFinite
      rw [Finite.eq_of_steps sign (steps.trans distance.symm)] at isFinite
      exact isFinite
    · have large := two_pow_le_of_pack (roundHalfEven_le_two_pow numerator positive)
        (two_pow_le_roundHalfEven _ positive) isInfinite
      exact absurd (distance.symm.trans_lt value.steps_lt) (Nat.not_lt.mpr large)

private theorem roundingExponent_mono
    (ordered : (numerator : ℚ) / denominator ≤ numerator' / denominator') :
    roundingExponent numerator denominator ≤ roundingExponent numerator' denominator' := by
  have quotients : numerator / denominator ≤ numerator' / denominator' := by
    rw [← Nat.floor_div_eq_div (K := ℚ), ← Nat.floor_div_eq_div (K := ℚ)]
    exact Nat.floor_mono ordered
  unfold roundingExponent
  rw [Nat.log2_eq_log_two, Nat.log2_eq_log_two]
  exact Nat.sub_le_sub_right (Nat.log_mono_right quotients) 52

/-- The rounded count never falls where the quotient grows. -/
theorem roundedSteps_mono (positive : 0 < denominator) (positive' : 0 < denominator')
    (ordered : (numerator : ℚ) / denominator ≤ numerator' / denominator') :
    roundedSteps numerator denominator ≤ roundedSteps numerator' denominator' := by
  have upper := roundHalfEven_le_two_pow numerator positive
  have lower := two_pow_le_roundHalfEven numerator' positive'
  have exponents := roundingExponent_mono ordered
  unfold roundedSteps
  generalize roundingExponent numerator denominator = exponent at upper exponents ⊢
  generalize roundingExponent numerator' denominator' = exponent' at lower exponents ⊢
  have power := Nat.two_pow_pos exponent
  -- Where the step grows, the greatest count of small steps is at most the least of large ones.
  rcases Nat.eq_or_lt_of_le exponents with rfl | less
  · refine Nat.mul_le_mul_right _ (roundHalfEven_mono (Nat.mul_pos positive power)
      (Nat.mul_pos positive' power) ?_)
    push_cast
    rw [← div_div, ← div_div]
    exact div_le_div_of_nonneg_right ordered (by positivity)
  · calc _ ≤ 2 ^ 53 * 2 ^ exponent := Nat.mul_le_mul_right _ upper
      _ = 2 ^ 52 * 2 ^ (exponent + 1) := by ring
      _ ≤ 2 ^ 52 * 2 ^ exponent' :=
        Nat.mul_le_mul_left _ (Nat.pow_le_pow_right Nat.two_pos less)
      _ ≤ _ := Nat.mul_le_mul_right _ (lower.resolve_left (by omega))

/-- A quotient that is less than half a step away from a multiple of the step is rounded to it. -/
theorem roundedSteps_eq_mul (numerator n : Nat) (positive : 0 < denominator)
    (close : |(numerator : ℚ) / denominator - n * 2 ^ roundingExponent numerator denominator| <
      2 ^ roundingExponent numerator denominator / 2) :
    roundedSteps numerator denominator = n * 2 ^ roundingExponent numerator denominator := by
  unfold roundedSteps
  generalize roundingExponent numerator denominator = exponent at close ⊢
  have power : (0 : ℚ) < 2 ^ exponent := by positivity
  obtain ⟨above, below⟩ := abs_lt.mp close
  refine congrArg (· * 2 ^ exponent)
    (roundHalfEven_eq_of_close (Nat.mul_pos positive (Nat.two_pow_pos exponent)) ?_ ?_)
  · push_cast
    rw [← div_div, div_add' _ _ _ power.ne', lt_div_iff₀ power]
    linarith
  · push_cast
    rw [← div_div, div_lt_iff₀ power]
    linarith

private theorem quotient_lt (numerator : Nat) (positive : 0 < denominator) :
    (numerator : ℚ) / denominator < 2 ^ 53 * 2 ^ roundingExponent numerator denominator := by
  have below := (Nat.cast_lt (α := ℚ)).mpr (lt_of_roundingExponent numerator positive)
  rw [div_lt_iff₀ (Nat.cast_pos.mpr positive), mul_assoc, mul_comm _ (denominator : ℚ)]
  exact_mod_cast below

private theorem le_quotient (numerator : Nat) (positive : 0 < denominator)
    (large : roundingExponent numerator denominator ≠ 0) :
    2 ^ 52 * 2 ^ roundingExponent numerator denominator ≤ (numerator : ℚ) / denominator := by
  have above := (Nat.cast_le (α := ℚ)).mpr (le_of_roundingExponent positive large)
  rw [le_div_iff₀ (Nat.cast_pos.mpr positive), mul_assoc, mul_comm _ (denominator : ℚ)]
  exact_mod_cast above

/-- A quotient is at most half a step away from the value to which it is rounded: one half of the
least positive value, or `2 ^ (-53)` times the value. -/
theorem abs_sub_roundedSteps_le (numerator : Nat) (positive : 0 < denominator) :
    |(numerator : ℚ) / denominator - roundedSteps numerator denominator| ≤ 1 / 2 ∨
      |(numerator : ℚ) / denominator - roundedSteps numerator denominator| * 2 ^ 53 ≤
        roundedSteps numerator denominator := by
  have normal := two_pow_le_roundHalfEven numerator positive
  have bounds := roundHalfEven_bounds numerator
    (Nat.mul_pos positive (Nat.two_pow_pos (roundingExponent numerator denominator)))
  unfold roundedSteps
  generalize roundHalfEven numerator _ = rounded at normal bounds ⊢
  generalize roundingExponent numerator denominator = exponent at normal bounds ⊢
  have power : (0 : ℚ) < 2 ^ exponent := by positivity
  push_cast at bounds ⊢
  rw [← div_div] at bounds
  obtain ⟨above, below⟩ := bounds
  rw [div_add' _ _ _ power.ne', le_div_iff₀ power] at above
  rw [div_le_iff₀ power] at below
  have close : |(numerator : ℚ) / denominator - rounded * 2 ^ exponent| ≤ 2 ^ exponent / 2 := by
    rw [abs_le]
    constructor <;> linarith
  rcases normal with least | normal
  · rw [least, pow_zero] at close ⊢
    exact Or.inl close
  · have normal' : (2 ^ 52 : ℚ) ≤ rounded := by exact_mod_cast normal
    have large := mul_le_mul_of_nonneg_right normal' power.le
    exact Or.inr (by linarith)

/-- A value right above a quotient that is rounded to multiples of a smaller step is the least one
of its exponent. -/
theorem steps_of_less {significand exponent exponent' : Nat} {quotient : ℚ}
    (less : exponent < exponent') (normal : 2 ^ 52 ≤ significand)
    (upper : quotient < 2 ^ 53 * 2 ^ exponent)
    (close : -(significand * 2 ^ exponent' / 2 ^ 54) < quotient - significand * 2 ^ exponent') :
    significand * 2 ^ exponent' = 2 ^ 53 * 2 ^ exponent := by
  have power : (0 : ℚ) < 2 ^ exponent' := by positivity
  have double : (2 : ℚ) * 2 ^ exponent ≤ 2 ^ exponent' := by
    rw [← pow_succ']
    exact pow_le_pow_right₀ one_le_two less
  have isLeast : significand = 2 ^ 52 := by
    by_contra other
    have more : ((2 ^ 52 + 1 : Nat) : ℚ) ≤ significand := Nat.cast_le.mpr (by omega)
    have bound := mul_le_mul_of_nonneg_right more power.le
    push_cast at bound
    linarith
  have isNext : exponent' = exponent + 1 := by
    by_contra other
    have quadruple : (2 : ℚ) ^ 2 * 2 ^ exponent ≤ 2 ^ exponent' := by
      rw [← pow_add]
      exact pow_le_pow_right₀ one_le_two (by omega)
    rw [isLeast] at close
    push_cast at close
    linarith
  rw [isLeast, isNext]
  ring

/-- A quotient that is closer to a value than `2 ^ (-54)` times the value is rounded to it. -/
theorem roundedSteps_of_close {value : Finite} (positive : 0 < denominator)
    (close : |(numerator : ℚ) / denominator - value.steps| * 2 ^ 54 < value.steps) :
    roundedSteps numerator denominator = value.steps := by
  have upper := quotient_lt numerator positive
  have lower := le_quotient numerator positive
  have rounded (n : Nat) := roundedSteps_eq_mul numerator n positive
  have fits : ((value.significand + 1 : Nat) : ℚ) ≤ (2 ^ 53 : Nat) :=
    Nat.cast_le.mpr value.significand_lt
  have normal := value.canonical
  unfold Finite.steps at close ⊢
  simp only [Nat.pow_eq] at close normal ⊢
  push_cast at close fits
  generalize (numerator : ℚ) / denominator = quotient at close upper lower rounded
  generalize roundingExponent numerator denominator = exponent at upper lower rounded
  generalize value.significand = significand at close fits normal ⊢
  have power : (0 : ℚ) < 2 ^ value.exponent := by positivity
  have bound := mul_le_mul_of_nonneg_right fits power.le
  obtain ⟨above, below⟩ := abs_lt.mp ((lt_div_iff₀ (by positivity)).mpr close)
  -- The quotient may still have the smaller step if the value is a power of two right above it.
  rcases lt_trichotomy exponent value.exponent with less | same | greater
  · have isNormal := normal.resolve_left (Nat.ne_of_gt (Nat.zero_lt_of_lt less))
    have same := steps_of_less less isNormal upper above
    have same' := congrArg (Nat.cast (R := ℚ)) same
    push_cast at same'
    rw [same'] at above below
    rw [same]
    refine rounded (2 ^ 53) (abs_lt.mpr ⟨?_, ?_⟩) <;> push_cast <;> linarith
  · subst same
    refine rounded significand (abs_lt.mpr ⟨?_, ?_⟩) <;> linarith
  · have double : (2 : ℚ) * 2 ^ value.exponent ≤ 2 ^ exponent := by
      rw [← pow_succ']
      exact pow_le_pow_right₀ one_le_two greater
    have large := lower (Nat.ne_of_gt (Nat.zero_lt_of_lt greater))
    linarith

end Binary64

/-! ### Decimal numbers -/

namespace Decimal

open Binary64

def value (d : Decimal) : ℚ :=
  d.digits * 10 ^ d.exponent

variable {d d' : Decimal}

theorem ratio_pos (d : Decimal) : 0 < d.ratio.2 := by
  unfold ratio
  split
  · exact Nat.one_pos
  · exact Nat.pow_pos (by decide)

private theorem ratio_eq_value (d : Decimal) : (d.ratio.1 : ℚ) / d.ratio.2 = d.value := by
  obtain ⟨digits, exponent⟩ := d
  cases exponent with
  | ofNat n => simp [ratio, value]
  | negSucc n =>
      simp only [ratio, value, Nat.pow_eq, zpow_negSucc]
      push_cast
      rw [div_eq_mul_inv]

theorem value_pos (nonzero : d.digits ≠ 0) : 0 < d.value := by
  have positive : (0 : ℚ) < d.digits := Nat.cast_pos.mpr (Nat.pos_of_ne_zero nonzero)
  unfold value
  positivity

theorem value_one (exponent : Int) : (Decimal.mk 1 exponent).value = 10 ^ exponent := by
  rw [value, Nat.cast_one, one_mul]

theorem value_whole (n : Nat) : (Decimal.mk n 0).value = n := by
  rw [value, zpow_zero, mul_one]

theorem value_padded (d : Decimal) (zeros : Nat) : (d.padded zeros).value = d.value := by
  simp only [value, padded]
  rw [zpow_sub₀ (by norm_num), zpow_natCast]
  push_cast
  field_simp

theorem le_log_iff {x : ℚ} (positive : 0 < x) {exponent : Int} :
    exponent ≤ Int.log 10 x ↔ 10 ^ exponent ≤ x :=
  (Int.zpow_le_iff_le_log (by decide) positive).symm

theorem log_lt_iff {x : ℚ} (positive : 0 < x) {exponent : Int} :
    Int.log 10 x < exponent ↔ x < 10 ^ exponent :=
  (Int.lt_zpow_iff_log_lt (by decide) positive).symm

theorem log_eq {x : ℚ} (positive : 0 < x) {exponent : Int} (lower : 10 ^ exponent ≤ x)
    (upper : x < 10 ^ (exponent + 1)) : Int.log 10 x = exponent :=
  le_antisymm (Int.lt_add_one_iff.mp ((log_lt_iff positive).mpr upper))
    ((le_log_iff positive).mpr lower)

theorem lt_pow_length_toDigits (n : Nat) : n < 10 ^ (Nat.toDigits 10 n).length :=
  (Nat.length_toDigits_le_iff (by decide) (List.length_pos_iff.mpr Nat.toDigits_ne_nil)).mp
    (Nat.le_refl _)

theorem pow_length_toDigits_le {n : Nat} (positive : 0 < n) :
    10 ^ ((Nat.toDigits 10 n).length - 1) ≤ n := by
  by_cases single : (Nat.toDigits 10 n).length - 1 = 0
  · rw [single]
    exact positive
  · have shorter := Nat.length_toDigits_le_iff (n := n) (b := 10) (by decide)
      (Nat.pos_of_ne_zero single)
    omega

/-- The power of ten of the first digit is the greatest one that is not above the number. -/
theorem leadingExponent_eq_log (nonzero : d.digits ≠ 0) :
    d.leadingExponent = Int.log 10 d.value := by
  have positive := value_pos nonzero
  have power : (0 : ℚ) < 10 ^ d.exponent := by positivity
  have lower := (Nat.cast_le (α := ℚ)).mpr (pow_length_toDigits_le (Nat.pos_of_ne_zero nonzero))
  have upper := (Nat.cast_lt (α := ℚ)).mpr (lt_pow_length_toDigits d.digits)
  have hasDigits := List.length_pos_iff.mpr (Nat.toDigits_ne_nil (b := 10) (n := d.digits))
  have length : d.leadingExponent = d.exponent + (Nat.toDigits 10 d.digits).length - 1 := rfl
  push_cast at lower upper
  refine (log_eq positive ?_ ?_).symm
  · have split : d.leadingExponent =
        ((Nat.toDigits 10 d.digits).length - 1 : Nat) + d.exponent := by
      omega
    rw [split, zpow_add₀ (by norm_num), zpow_natCast]
    exact mul_le_mul_of_nonneg_right lower power.le
  · have split : d.leadingExponent + 1 = (Nat.toDigits 10 d.digits).length + d.exponent := by
      omega
    rw [split, zpow_add₀ (by norm_num), zpow_natCast]
    exact mul_lt_mul_of_pos_right upper power

/-- The count of least positive values to which a decimal number is rounded. -/
def nearestSteps (d : Decimal) : Nat :=
  roundedSteps (d.ratio.1 * 2 ^ unitExponent) d.ratio.2

private theorem quotient_eq_value (d : Decimal) :
    ((d.ratio.1 * 2 ^ unitExponent : Nat) : ℚ) / d.ratio.2 = d.value * 2 ^ unitExponent := by
  rw [← ratio_eq_value, Nat.cast_mul, Nat.cast_pow, Nat.cast_two, mul_div_right_comm]

/-- The nearest double never falls where the number grows. -/
theorem nearestSteps_mono (ordered : d.value ≤ d'.value) : d.nearestSteps ≤ d'.nearestSteps := by
  apply roundedSteps_mono d.ratio_pos d'.ratio_pos
  rw [quotient_eq_value, quotient_eq_value]
  exact mul_le_mul_of_nonneg_right ordered (by positivity)

/-- A number below the limits of exponents is rounded to zero. -/
theorem nearestSteps_eq_zero (small : d.digits = 0 ∨ d.leadingExponent < -400) :
    d.nearestSteps = 0 := by
  have ordered : d.value ≤ (Decimal.mk 1 (-400)).value := by
    rw [value_one]
    by_cases zero : d.digits = 0
    · rw [value, zero, Nat.cast_zero, zero_mul]
      positivity
    · have less := small.resolve_left zero
      rw [leadingExponent_eq_log zero, log_lt_iff (value_pos zero)] at less
      exact less.le
  have isZero : (Decimal.mk 1 (-400)).nearestSteps = 0 := by decide +kernel
  exact Nat.eq_zero_of_le_zero (isZero ▸ nearestSteps_mono ordered)

/-- A number above the limits of exponents is not rounded to a finite value. -/
theorem two_pow_le_nearestSteps (large : 400 ≤ d.leadingExponent) (nonzero : d.digits ≠ 0) :
    2 ^ topExponent ≤ d.nearestSteps := by
  rw [leadingExponent_eq_log nonzero, le_log_iff (value_pos nonzero), ← value_one] at large
  have beyond : 2 ^ topExponent ≤ (Decimal.mk 1 400).nearestSteps := by decide +kernel
  exact beyond.trans (nearestSteps_mono large)

/-- A decimal number is read as the finite double with its sign and its rounded count of least
positive values. -/
theorem toBinary64_eq_finite_iff {negative : Bool} {v : Finite} :
    d.toBinary64 negative = .finite v ↔ v.negative = negative ∧ v.steps = d.nearestSteps := by
  unfold toBinary64
  split_ifs with small large
  · have isZero : roundedSteps 0 1 = 0 := rfl
    rw [nearestSteps_eq_zero small, ofRatio, Nat.zero_mul, nearest_eq_finite_iff Nat.one_pos,
      isZero]
  · have nonzero : d.digits ≠ 0 := fun zero => small (Or.inl zero)
    have beyond := two_pow_le_nearestSteps large nonzero
    constructor
    · intro isFinite
      cases isFinite
    · rintro ⟨-, distance⟩
      exact absurd (distance.symm.trans_lt v.steps_lt) (Nat.not_lt.mpr beyond)
  · rw [ofRatio, Nat.pow_eq, nearest_eq_finite_iff d.ratio_pos, nearestSteps]

end Decimal

namespace Binary64.Finite

variable {v : Finite} {d d' : Decimal}

/-- The distance of a finite double from zero. -/
def magnitude (v : Finite) : ℚ :=
  v.steps / 2 ^ unitExponent

/-- A decimal number reads back as a double if they agree apart from the sign. -/
theorem isReadBy_iff : v.isReadBy d = true ↔ d.nearestSteps = v.steps := by
  unfold isReadBy
  rw [decide_eq_true_iff, Decimal.toBinary64_eq_finite_iff, eq_comm (a := d.nearestSteps)]
  exact and_iff_right rfl

/-- A decimal number that reads back as a double is as close to it as doubles are apart. -/
theorem close_of_isReadBy (read : v.isReadBy d = true) :
    |d.value * 2 ^ unitExponent - v.steps| ≤ 1 / 2 ∨
      |d.value * 2 ^ unitExponent - v.steps| * 2 ^ 53 ≤ v.steps := by
  rw [← isReadBy_iff.mp read, ← Decimal.quotient_eq_value]
  exact abs_sub_roundedSteps_le _ d.ratio_pos

/-- A decimal number that is closer to a double than `2 ^ (-54)` times the double reads back as
it. -/
theorem isReadBy_of_close (close : |d.value - v.magnitude| * 2 ^ 54 < v.magnitude) :
    v.isReadBy d = true := by
  have unit : (0 : ℚ) < 2 ^ unitExponent := by positivity
  apply isReadBy_iff.mpr
  apply roundedSteps_of_close d.ratio_pos
  rw [Decimal.quotient_eq_value]
  unfold magnitude at close
  generalize (2 : ℚ) ^ unitExponent = scale at close unit ⊢
  have scaled : d.value * scale - v.steps = (d.value - v.steps / scale) * scale := by
    field_simp
  rw [scaled, abs_mul, abs_of_pos unit, mul_right_comm, ← lt_div_iff₀ unit]
  exact close

end Binary64.Finite

end DesignCompiler
