import DesignCompiler.Proofs.Number.Neighbours
import Mathlib.Data.Nat.Prime.Basic

/-!
Contract: the shortest digits of a finite double.

Owns:
- `Binary64.Finite.IsShortest`, the decimal numbers that read back as a double with the fewest
  digits and, of these, are nearest to it;
- the law that `Binary64.Finite.shortest` gives such a number for every double but the zeros, and
  that there are no others;
- the law that the shortest digits denote whole numbers up to `2 ^ 53` exactly.

Does not own: where the point stands, see `DesignCompiler.Proofs.Number.ScriptText`.
-/

set_option autoImplicit false

namespace DesignCompiler.Binary64.Finite

open Decimal

variable {v : Finite} {d d' : Decimal}

/-! ### Zeros at the end -/

private theorem digits_trimUpTo_mod {limit : Nat} (nonzero : d.digits ≠ 0)
    (short : d.digits < 10 ^ limit) :
    (trimUpTo limit d).digits % 10 ≠ 0 := by
  induction limit generalizing d with
  | zero => exact absurd (Nat.lt_one_iff.mp short) nonzero
  | succ limit inductionHypothesis =>
      unfold trimUpTo
      split
      next divisible =>
        rw [Nat.pow_succ] at short
        refine inductionHypothesis ?_ ?_ <;> simp only <;> omega
      next others => exact fun divisible => others ⟨nonzero, divisible⟩

theorem digits_trimmed_mod (nonzero : d.digits ≠ 0) : d.trimmed.digits % 10 ≠ 0 :=
  digits_trimUpTo_mod nonzero (lt_pow_length_toDigits d.digits)

theorem digitChars_length_le_iff {count : Nat} (positive : 0 < count) :
    d.digitChars.length ≤ count ↔ d.digits < 10 ^ count :=
  Nat.length_toDigits_le_iff (by decide) positive

/-! ### The shortest digits -/

/-- A decimal number reads back as a double, with the fewest digits; no other number with so many
digits that reads back is nearer, and where another one with the same place of its last digit is as
near, its last digit is even. -/
structure IsShortest (v : Finite) (d : Decimal) : Prop where
  isRead : v.isReadBy d = true
  fewest : ∀ other, v.isReadBy other = true → d.digitChars.length ≤ other.digitChars.length
  nearest : ∀ other, v.isReadBy other = true →
    other.digitChars.length = d.digitChars.length →
    |d.value - v.magnitude| ≤ |other.value - v.magnitude|
  even : ∀ other, v.isReadBy other = true →
    other.digitChars.length = d.digitChars.length → other.exponent = d.exponent → other ≠ d →
    |d.value - v.magnitude| = |other.value - v.magnitude| → d.digits % 2 = 0

private theorem exists_padded_trimmed (d : Decimal) : ∃ zeros, d = d.trimmed.padded zeros :=
  exists_padded_trimUpTo _ d

theorem value_trimmed (d : Decimal) : d.trimmed.value = d.value := by
  obtain ⟨zeros, isPadded⟩ := exists_padded_trimmed d
  rw [← value_padded _ zeros, ← isPadded]

private theorem isReadBy_trimmed (v : Finite) (d : Decimal) :
    v.isReadBy d.trimmed = v.isReadBy d := by
  unfold isReadBy
  rw [toBinary64_trimmed]

/-- Digits that do not end with a zero, of which zeros make a number that is not above a power of
ten. -/
theorem lt_pow_of_mul_pow_le {digits zeros count : Nat} (lastDigit : digits % 10 ≠ 0)
    (atMost : digits * 10 ^ zeros ≤ 10 ^ (count + 1)) :
    digits < 10 ^ (count + 1) ∧ (zeros = 0 ∨ digits < 10 ^ count ∨ digits = 1 ∧ count = 0) := by
  have next : 10 ^ (count + 1) = 10 * 10 ^ count := Nat.pow_succ'
  cases zeros with
  | zero =>
      rw [Nat.pow_zero, Nat.mul_one] at atMost
      exact ⟨by omega, Or.inl rfl⟩
  | succ zeros =>
      have tenfold : digits * 10 ≤ digits * 10 ^ (zeros + 1) := by
        rw [Nat.pow_succ']
        exact Nat.mul_le_mul_left _ (Nat.le_mul_of_pos_right _ (Nat.pow_pos (by decide)))
      refine ⟨by omega, Or.inr ?_⟩
      cases count with
      | zero =>
          rw [Nat.pow_zero] at next
          exact Or.inr ⟨by omega, rfl⟩
      | succ count =>
          have further : 10 ^ (count + 1) = 10 * 10 ^ count := Nat.pow_succ'
          exact Or.inl (by omega)

private theorem length_digitChars_trimmed_le (nonzero : v.significand ≠ 0) {count : Nat}
    (found : v.decimal? (count + 1) = some d) : d.trimmed.digitChars.length ≤ count + 1 := by
  have lastDigit := digits_trimmed_mod (digits_ne_zero_of_isReadBy nonzero (List.find?_some found))
  have atMost := digits_le_of_decimal? nonzero found
  obtain ⟨zeros, isPadded⟩ := exists_padded_trimmed d
  have digits : d.digits = d.trimmed.digits * 10 ^ zeros := congrArg Decimal.digits isPadded
  rw [digits] at atMost
  exact (digitChars_length_le_iff (Nat.succ_pos count)).mpr
    (lt_pow_of_mul_pow_le lastDigit atMost).1

/-- No zeros are taken from the end of the number that is found if it keeps its count of digits,
unless it is a power of ten right above the double. -/
theorem eq_or_of_trimmed (nonzero : v.significand ≠ 0) {count : Nat}
    (found : v.decimal? (count + 1) = some d)
    (sameLength : d.trimmed.digitChars.length = count + 1) :
    d.trimmed = d ∨ d.trimmed.digits = 1 ∧ v.magnitude < d.trimmed.value := by
  have lastDigit := digits_trimmed_mod (digits_ne_zero_of_isReadBy nonzero (List.find?_some found))
  have atMost := digits_le_of_decimal? nonzero found
  obtain ⟨zeros, isPadded⟩ := exists_padded_trimmed d
  have digits : d.digits = d.trimmed.digits * 10 ^ zeros := congrArg Decimal.digits isPadded
  have exponent : d.exponent = d.trimmed.exponent - zeros := congrArg Decimal.exponent isPadded
  rw [digits] at atMost
  rcases (lt_pow_of_mul_pow_le lastDigit atMost).2 with noZeros | few | ⟨isOne, rfl⟩
  · refine Or.inl ?_
    rw [noZeros, padded_zero] at isPadded
    exact isPadded.symm
  · have length : (Nat.toDigits 10 d.trimmed.digits).length = count + 1 := sameLength
    have positive : 0 < d.trimmed.digits := by omega
    have atLeast := pow_length_toDigits_le positive
    rw [length, Nat.add_sub_cancel] at atLeast
    omega
  · rw [isOne, Nat.one_mul] at atMost
    have zeros_le : zeros ≤ 1 := (Nat.pow_le_pow_iff_right (by decide)).mp atMost
    rcases Nat.le_one_iff_eq_zero_or_eq_one.mp zeros_le with noZeros | oneZero
    · refine Or.inl ?_
      rw [noZeros, padded_zero] at isPadded
      exact isPadded.symm
    · refine Or.inr ⟨isOne, ?_⟩
      have place : d.trimmed.exponent = Int.log 10 v.magnitude + 1 := by
        have found' := exponent_of_decimal? found
        rw [exponentFor_eq nonzero] at found'
        omega
      rw [Decimal.value, isOne, place, Nat.cast_one, one_mul, ← log_lt_iff (magnitude_pos nonzero)]
      exact Int.lt_succ _

/-- A power of ten above the double is nearer to it than the other multiples of its place. -/
theorem not_tie_of_digits_eq_one (isOne : d.digits = 1) (above : v.magnitude < d.value)
    {digits : Nat} (nonzero : digits ≠ 0) (different : (⟨digits, d.exponent⟩ : Decimal) ≠ d) :
    |d.value - v.magnitude| ≠ |(⟨digits, d.exponent⟩ : Decimal).value - v.magnitude| := by
  have isPower : d = ⟨1, d.exponent⟩ := by
    rw [← isOne]
  have more : ¬ digits ≤ 1 := by
    intro atMost
    have alsoOne : digits = 1 := Nat.le_antisymm atMost (Nat.pos_of_ne_zero nonzero)
    rw [alsoOne, ← isPower] at different
    exact different rfl
  rw [← value_le_value, ← isPower, not_le] at more
  rw [abs_of_pos (by linarith), abs_of_pos (by linarith)]
  exact fun tie => more.ne (sub_left_inj.mp tie)

/-- Of two numbers with the same place of their last digit that are as near, the even one is
found. -/
theorem digits_trimmed_mod_two (nonzero : v.significand ≠ 0) {count : Nat}
    (found : v.decimal? (count + 1) = some d)
    (sameLength : d.trimmed.digitChars.length = count + 1) {digits : Nat}
    (readOther : v.isReadBy ⟨digits, d.trimmed.exponent⟩ = true)
    (different : (⟨digits, d.trimmed.exponent⟩ : Decimal) ≠ d.trimmed)
    (tie : |d.trimmed.value - v.magnitude| =
      |(⟨digits, d.trimmed.exponent⟩ : Decimal).value - v.magnitude|) :
    d.trimmed.digits % 2 = 0 := by
  rcases eq_or_of_trimmed nonzero found sameLength with same | ⟨isOne, above⟩
  · rw [same] at readOther different tie ⊢
    rw [distance_eq, distance_eq, mul_left_inj' (by positivity)] at tie
    have place := exponent_of_decimal? found
    have otherDigits : digits ≠ d.digits := by
      rintro rfl
      exact different rfl
    simp only [place] at readOther tie
    exact (distance_of_find? nonzero found readOther).2 otherDigits tie
  · have positive := digits_ne_zero_of_isReadBy nonzero readOther
    exact absurd tie (not_tie_of_digits_eq_one isOne above positive different)

theorem isShortest_shortest (nonzero : v.significand ≠ 0) : v.IsShortest v.shortest := by
  obtain ⟨count, d, found, isTrimmed, noFewer⟩ := exists_decimal? nonzero
  have read : v.isReadBy d.trimmed = true := by
    rw [isReadBy_trimmed]
    exact List.find?_some found
  have atLeast (other : Decimal) (readOther : v.isReadBy other = true) :
      count + 1 ≤ other.digitChars.length := by
    by_contra shorter
    have hasDigits : 0 < other.digitChars.length := List.length_pos_iff.mpr Nat.toDigits_ne_nil
    have short := (digitChars_length_le_iff hasDigits).mp (Nat.le_refl _)
    exact decimal?_ne_none nonzero short readOther (noFewer _ hasDigits (Nat.lt_of_not_le shorter))
  have length : d.trimmed.digitChars.length = count + 1 :=
    Nat.le_antisymm (length_digitChars_trimmed_le nonzero found) (atLeast _ read)
  have short {other : Decimal}
      (sameLength : other.digitChars.length = d.trimmed.digitChars.length) :
      other.digits < 10 ^ (count + 1) :=
    (digitChars_length_le_iff (Nat.succ_pos count)).mp (sameLength.trans length).le
  rw [isTrimmed]
  refine ⟨read, fun other readOther => ?_, fun other readOther sameLength => ?_,
    fun other readOther _ samePlace different tie => ?_⟩
  · rw [length]
    exact atLeast other readOther
  · rw [value_trimmed]
    exact distance_of_decimal? nonzero found (short sameLength) readOther
  · obtain ⟨digits, exponent⟩ := other
    simp only at samePlace
    subst samePlace
    exact digits_trimmed_mod_two nonzero found length readOther different tie

theorem digits_shortest_mod (nonzero : v.significand ≠ 0) : v.shortest.digits % 10 ≠ 0 := by
  obtain ⟨count, d, found, isTrimmed, -⟩ := exists_decimal? nonzero
  rw [isTrimmed]
  exact digits_trimmed_mod (digits_ne_zero_of_isReadBy nonzero (List.find?_some found))

theorem nearestSteps_shortest (nonzero : v.significand ≠ 0) : v.shortest.nearestSteps = v.steps :=
  isReadBy_iff.mp (isShortest_shortest nonzero).isRead

theorem digits_shortest_ne_zero (nonzero : v.significand ≠ 0) : v.shortest.digits ≠ 0 :=
  digits_ne_zero_of_isReadBy nonzero (isShortest_shortest nonzero).isRead

theorem isReadBy_of_value (nonzero : v.significand ≠ 0) (isValue : d.value = v.magnitude) :
    v.isReadBy d = true :=
  isReadBy_of_between nonzero (isReadBy_exact nonzero)
    (Or.inl ⟨((value_exact v).trans isValue.symm).le, isValue.le⟩)

/-- The shortest digits denote a double exactly if exact digits are not longer. -/
theorem value_shortest_of_length_le (nonzero : v.significand ≠ 0) (isValue : d.value = v.magnitude)
    (short : d.digitChars.length ≤ v.shortest.digitChars.length) :
    v.shortest.value = v.magnitude := by
  have isShortest := isShortest_shortest nonzero
  have read := isReadBy_of_value nonzero isValue
  have closest := isShortest.nearest d read (Nat.le_antisymm short (isShortest.fewest d read))
  rw [isValue, sub_self, abs_zero] at closest
  exact sub_eq_zero.mp (abs_nonpos_iff.mp closest)

/-! ### There are no others -/

private theorem eq_of_value_of_length (nonzero : d.digits ≠ 0) (nonzero' : d'.digits ≠ 0)
    (sameValue : d.value = d'.value) (sameLength : d.digitChars.length = d'.digitChars.length) :
    d = d' := by
  have leading : d.leadingExponent = d'.leadingExponent := by
    rw [Decimal.leadingExponent_eq_log nonzero, Decimal.leadingExponent_eq_log nonzero', sameValue]
  obtain ⟨digits, exponent⟩ := d
  obtain ⟨digits', exponent'⟩ := d'
  have sameExponent : exponent = exponent' := by
    simp only [Decimal.leadingExponent] at leading
    omega
  subst sameExponent
  have sameDigits : digits = digits' :=
    Nat.le_antisymm (value_le_value.mp sameValue.le) (value_le_value.mp sameValue.ge)
  rw [sameDigits]

private theorem length_toDigits_mono {m n : Nat} (ordered : m ≤ n) :
    (Nat.toDigits 10 m).length ≤ (Nat.toDigits 10 n).length :=
  (Nat.length_toDigits_le_iff (by decide) (List.length_pos_iff.mpr Nat.toDigits_ne_nil)).mpr
    (ordered.trans_lt (lt_pow_length_toDigits n))

/-- Only the least doubles are so far apart that a power of ten and the number with one digit below
it are near to the same double, and none of these is halfway between them. -/
theorem ne_halfway {steps unit : Nat} {exponent : Int} (nonzero : steps ≠ 0) (large : 4 ≤ unit)
    (close : |(10 : ℚ) ^ exponent * 2 ^ unit - steps| ≤ 1 / 2 ∨
      |(10 : ℚ) ^ exponent * 2 ^ unit - steps| * 2 ^ 53 ≤ steps) :
    20 * (steps : ℚ) ≠ 19 * (10 ^ exponent * 2 ^ unit) := by
  intro halfway
  have positive : (0 : ℚ) < steps := Nat.cast_pos.mpr (Nat.pos_of_ne_zero nonzero)
  have small : 2 * steps ≤ 19 := by
    have distance : 10 ^ exponent * 2 ^ unit - (steps : ℚ) = steps / 19 := by
      linarith
    rw [distance, abs_of_pos (by positivity)] at close
    have half : (steps : ℚ) / 19 ≤ 1 / 2 := close.resolve_right (by linarith)
    have small' : 2 * (steps : ℚ) ≤ 19 := by linarith
    exact_mod_cast small'
  cases exponent with
  | ofNat zeros =>
      rw [Int.ofNat_eq_natCast, zpow_natCast] at halfway
      have whole : 20 * steps = 19 * (10 ^ zeros * 2 ^ unit) := by exact_mod_cast halfway
      have least : 2 ^ 4 ≤ 10 ^ zeros * 2 ^ unit :=
        (Nat.pow_le_pow_right Nat.two_pos large).trans
          (Nat.le_mul_of_pos_left _ (Nat.pow_pos (by decide)))
      omega
  | negSucc n =>
      rw [zpow_negSucc, ← div_eq_inv_mul, mul_div_assoc', eq_div_iff (by positivity)] at halfway
      have whole : 20 * steps * 10 ^ (n + 1) = 19 * 2 ^ unit := by exact_mod_cast halfway
      have factor : 5 ∣ 19 * 2 ^ unit := by
        rw [← whole]
        exact Nat.dvd_mul_right_of_dvd (Nat.dvd_mul_right_of_dvd (by decide) _) _
      rcases (Nat.Prime.dvd_mul Nat.prime_five).mp factor with divides | divides
      · exact absurd divides (by decide)
      · exact absurd (Nat.prime_five.dvd_of_dvd_pow divides) (by decide)

private theorem IsShortest.length_eq (left : v.IsShortest d) (right : v.IsShortest d') :
    d.digitChars.length = d'.digitChars.length :=
  Nat.le_antisymm (left.fewest _ right.isRead) (right.fewest _ left.isRead)

theorem IsShortest.distance_eq (left : v.IsShortest d) (right : v.IsShortest d') :
    |d.value - v.magnitude| = |d'.value - v.magnitude| :=
  le_antisymm (left.nearest _ right.isRead (left.length_eq right).symm)
    (right.nearest _ left.isRead (left.length_eq right))

private theorem length_digitChars_of_lt {digit : Nat} (isDigit : digit < 10) (exponent : Int) :
    (Decimal.mk digit exponent).digitChars.length = 1 := by
  rw [Decimal.digitChars, Nat.toDigits_of_lt_base isDigit]
  rfl

section Between

variable {c : Decimal} (nonzero : v.significand ≠ 0) (left : v.IsShortest d)
  (right : v.IsShortest d') (below : d.value < v.magnitude) (above : v.magnitude < d'.value)

include nonzero left right

private theorem IsShortest.isReadBy_of_le (low : d.value ≤ c.value) (high : c.value ≤ d'.value) :
    v.isReadBy c = true := by
  rcases le_total c.value v.magnitude with less | greater
  · exact isReadBy_of_between nonzero left.isRead (Or.inl ⟨low, less⟩)
  · exact isReadBy_of_between nonzero right.isRead (Or.inr ⟨greater, high⟩)

include below above

/-- Between two numbers with the fewest digits on both sides of a double there is none. -/
theorem IsShortest.not_inside (low : d.value < c.value) (high : c.value < d'.value)
    (length : c.digitChars.length = d.digitChars.length) : False := by
  have closest := left.nearest c (left.isReadBy_of_le nonzero right low.le high.le) length
  have distance := left.distance_eq right
  rw [abs_of_neg (by linarith), abs_of_pos (by linarith)] at distance
  rw [abs_of_neg (by linarith)] at closest
  rcases le_abs.mp closest with isAbove | isBelow <;> linarith

/-- They do not have their last digits at the same place: both digits would be even, and a number
with an odd one would be in between. -/
theorem IsShortest.exponent_ne : d.exponent ≠ d'.exponent := by
  intro sameExponent
  have sameLength := left.length_eq right
  have sameDistance := left.distance_eq right
  have different : d' ≠ d := by
    rintro rfl
    exact lt_irrefl _ (below.trans above)
  have even := left.even d' right.isRead sameLength.symm sameExponent.symm different sameDistance
  have even' := right.even d left.isRead sameLength sameExponent different.symm sameDistance.symm
  obtain ⟨digits, exponent⟩ := d
  obtain ⟨digits', exponent'⟩ := d'
  simp only at sameExponent even even'
  subst sameExponent
  have ordered : digits < digits' := by
    have ordered := not_le_of_gt (below.trans above)
    rw [value_le_value] at ordered
    omega
  have low : (Decimal.mk digits exponent).value < (Decimal.mk (digits + 1) exponent).value :=
    lt_of_not_ge (value_le_value.not.mpr (by omega))
  have high : (Decimal.mk (digits + 1) exponent).value < (Decimal.mk digits' exponent).value :=
    lt_of_not_ge (value_le_value.not.mpr (by omega))
  refine left.not_inside nonzero right below above low high (Nat.le_antisymm ?_ ?_)
  · rw [sameLength]
    exact length_toDigits_mono ordered
  · exact length_toDigits_mono (Nat.le_succ digits)

/-- If their first digits are at different places, they have single digits and the greater one is a
power of ten. -/
theorem IsShortest.eq_power (less : d.leadingExponent < d'.leadingExponent) :
    d.digitChars.length = 1 ∧ v.isReadBy ⟨1, d'.leadingExponent⟩ = true ∧
      d'.value = 10 ^ d'.leadingExponent := by
  have digits := digits_ne_zero_of_isReadBy nonzero left.isRead
  have digits' := digits_ne_zero_of_isReadBy nonzero right.isRead
  have low : d.value < (Decimal.mk 1 d'.leadingExponent).value := by
    rw [value_one, ← log_lt_iff (value_pos digits), ← Decimal.leadingExponent_eq_log digits]
    exact less
  have high : (Decimal.mk 1 d'.leadingExponent).value ≤ d'.value := by
    rw [value_one, ← le_log_iff (value_pos digits'), ← Decimal.leadingExponent_eq_log digits']
  have read := left.isReadBy_of_le nonzero right low.le high
  have one := length_digitChars_of_lt (by decide : 1 < 10) d'.leadingExponent
  have single : d.digitChars.length = 1 := by
    refine Nat.le_antisymm ?_ (List.length_pos_iff.mpr Nat.toDigits_ne_nil)
    rw [← one]
    exact left.fewest _ read
  refine ⟨single, read, ?_⟩
  rw [← value_one]
  by_contra other
  exact left.not_inside nonzero right below above low (lt_of_le_of_ne high (Ne.symm other))
    (one.trans single.symm)

/-- The smaller one has the digit nine right below this power. -/
theorem IsShortest.eq_nine (less : d.leadingExponent < d'.leadingExponent) :
    10 * d.value = 9 * d'.value := by
  obtain ⟨single, -, isPower⟩ := left.eq_power nonzero right below above less
  have nine : 10 * (Decimal.mk 9 (d'.leadingExponent - 1)).value = 9 * d'.value := by
    rw [isPower, Decimal.value, zpow_sub_one₀ (by norm_num)]
    push_cast
    ring
  have low : d.value ≤ (Decimal.mk 9 (d'.leadingExponent - 1)).value := by
    have digit : (d.digits : ℚ) ≤ 9 := by
      exact_mod_cast Nat.le_of_lt_succ ((digitChars_length_le_iff Nat.one_pos).mp single.le)
    have place : (10 : ℚ) ^ d.exponent ≤ 10 ^ (d'.leadingExponent - 1) := by
      have first : d.leadingExponent = d.exponent := by
        rw [Decimal.leadingExponent, single]
        omega
      exact zpow_le_zpow_right₀ (by norm_num) (by omega)
    exact mul_le_mul digit place (by positivity) (by positivity)
  have positive := value_pos (digits_ne_zero_of_isReadBy nonzero right.isRead)
  have isNine : d.value = (Decimal.mk 9 (d'.leadingExponent - 1)).value := by
    by_contra other
    exact left.not_inside nonzero right below above (lt_of_le_of_ne low other) (by linarith)
      ((length_digitChars_of_lt (by decide) _).trans single.symm)
  rw [isNine, nine]

/-- So their first digits are at the same place: the double would be halfway between a power of ten
and the number with the digit nine right below it. -/
theorem IsShortest.leadingExponent_eq : d.leadingExponent = d'.leadingExponent := by
  have ordered : d.leadingExponent ≤ d'.leadingExponent := by
    have digits := digits_ne_zero_of_isReadBy nonzero left.isRead
    have digits' := digits_ne_zero_of_isReadBy nonzero right.isRead
    rw [Decimal.leadingExponent_eq_log digits, Decimal.leadingExponent_eq_log digits']
    exact Int.log_mono_right (Decimal.value_pos digits) (below.trans above).le
  by_contra different
  have less : d.leadingExponent < d'.leadingExponent := lt_of_le_of_ne ordered different
  obtain ⟨-, read, isPower⟩ := left.eq_power nonzero right below above less
  have isNine := left.eq_nine nonzero right below above less
  have close := close_of_isReadBy read
  rw [value_one] at close
  refine ne_halfway (Nat.ne_of_gt (steps_pos nonzero)) (by decide) close ?_
  have halfway : 20 * v.magnitude = 19 * 10 ^ d'.leadingExponent := by
    have distance := left.distance_eq right
    rw [abs_of_neg (by linarith), abs_of_pos (by linarith)] at distance
    linarith
  have unit : (0 : ℚ) < 2 ^ unitExponent := by positivity
  rw [magnitude, mul_div_assoc', div_eq_iff unit.ne', mul_assoc] at halfway
  exact halfway

/-- Of two numbers with the fewest digits none is below and the other above the double. -/
theorem IsShortest.not_between : False := by
  have leading := left.leadingExponent_eq nonzero right below above
  have sameLength := left.length_eq right
  refine left.exponent_ne nonzero right below above ?_
  unfold Decimal.leadingExponent at leading
  omega

end Between

/-- The fewest and nearest digits of a double are unique. -/
theorem IsShortest.eq (nonzero : v.significand ≠ 0) (left : v.IsShortest d)
    (right : v.IsShortest d') : d = d' := by
  have digits := digits_ne_zero_of_isReadBy nonzero left.isRead
  have digits' := digits_ne_zero_of_isReadBy nonzero right.isRead
  refine eq_of_value_of_length digits digits' ?_ (left.length_eq right)
  rcases abs_eq_abs.mp (left.distance_eq right) with same | opposite
  · linarith
  · by_contra different
    rcases lt_or_gt_of_ne different with less | greater
    · exact left.not_between nonzero right (by linarith) (by linarith)
    · exact right.not_between nonzero left (by linarith) (by linarith)

/-! ### Whole numbers -/

private theorem roundedSteps_of_dvd {n : Nat} (multiple : 2 ^ roundingExponent n 1 ∣ n) :
    roundedSteps n 1 = n := by
  unfold roundedSteps
  generalize roundingExponent n 1 = exponent at multiple ⊢
  obtain ⟨quotient, rfl⟩ := multiple
  rw [Nat.one_mul, Nat.mul_comm (2 ^ exponent) quotient,
    roundHalfEven_mul _ _ (Nat.two_pow_pos exponent)]

/-- Whole numbers up to `2 ^ 53` are doubles. -/
theorem nearestSteps_whole {n : Nat} (small : n ≤ 2 ^ 53) :
    (Decimal.mk n 0).nearestSteps = n * 2 ^ unitExponent := by
  rcases Nat.eq_or_lt_of_le small with rfl | less
  · decide +kernel
  · have numerator :
        (Decimal.mk n 0).nearestSteps = roundedSteps (n * 1 * 2 ^ unitExponent) 1 := rfl
    rw [numerator, Nat.mul_one]
    apply roundedSteps_of_dvd
    have exponent : roundingExponent (n * 2 ^ unitExponent) 1 ≤ unitExponent := by
      unfold roundingExponent
      rw [Nat.div_one]
      generalize unitExponent = unit
      by_cases zero : n * 2 ^ unit = 0
      · rw [zero]
        exact Nat.zero_le _
      · have log : (n * 2 ^ unit).log2 < 53 + unit := by
          rw [Nat.log2_lt zero, Nat.pow_add]
          exact Nat.mul_lt_mul_of_pos_right less (Nat.two_pow_pos unit)
        omega
    exact Nat.dvd_mul_left_of_dvd (Nat.pow_dvd_pow 2 exponent) n

private theorem nearestSteps_eq_of_value (same : d.value = d'.value) :
    d.nearestSteps = d'.nearestSteps :=
  Nat.le_antisymm (nearestSteps_mono same.le) (nearestSteps_mono same.ge)

/-- An even number that is rounded to a whole number up to `2 ^ 53` is this number. -/
theorem eq_of_nearestSteps_even {m n : Nat} (even : m % 2 = 0) (small : n ≤ 2 ^ 53)
    (rounded : (Decimal.mk m 0).nearestSteps = n * 2 ^ unitExponent) : m = n := by
  have unit : 0 < 2 ^ unitExponent := Nat.two_pow_pos _
  have notAbove : m ≤ 2 ^ 53 := by
    by_contra above
    have isDouble : (Decimal.mk (2 ^ 53 + 2) 0).nearestSteps = (2 ^ 53 + 2) * 2 ^ unitExponent := by
      decide +kernel
    have atMost := nearestSteps_mono
      (value_le_value.mpr (show 2 ^ 53 + 2 ≤ m by omega) :
        (Decimal.mk (2 ^ 53 + 2) 0).value ≤ (Decimal.mk m 0).value)
    rw [rounded, isDouble] at atMost
    have := Nat.le_of_mul_le_mul_right atMost unit
    omega
  rw [nearestSteps_whole notAbove] at rounded
  exact Nat.eq_of_mul_eq_mul_right unit rounded

/-- A decimal number with less digits than a whole number up to `2 ^ 53` that reads back as it
denotes it. -/
theorem value_eq_of_shorter {n : Nat} (whole : v.magnitude = n) (small : n ≤ 2 ^ 53)
    (shorter : d.digits < n) (read : v.isReadBy d = true) : d.value = n := by
  have reads : d.nearestSteps = n * 2 ^ unitExponent :=
    (isReadBy_iff.mp read).trans (magnitude_eq_iff.mp whole)
  rcases le_or_gt d.exponent 0 with fraction | multiple
  · -- The number is at most the preceding whole number, and this one is a double too.
    have atMost : d.value ≤ (Decimal.mk (n - 1) 0).value := by
      have power : (10 : ℚ) ^ d.exponent ≤ 1 := zpow_le_one_of_nonpos₀ (by norm_num) fraction
      have digits : (d.digits : ℚ) ≤ (n - 1 : Nat) := Nat.cast_le.mpr (Nat.le_sub_one_of_lt shorter)
      rw [value_whole]
      exact (mul_le_of_le_one_right (Nat.cast_nonneg _) power).trans digits
    have steps := nearestSteps_mono atMost
    rw [reads, nearestSteps_whole (by omega)] at steps
    have := Nat.le_of_mul_le_mul_right steps (Nat.two_pow_pos unitExponent)
    omega
  · -- The number is whole and even, and even numbers next to those up to `2 ^ 53` are doubles.
    obtain ⟨zeros, isExponent⟩ : ∃ zeros : Nat, d.exponent = (zeros + 1 : Nat) :=
      ⟨(d.exponent - 1).toNat, by omega⟩
    have isWhole : d.value = (d.digits * 10 ^ (zeros + 1) : Nat) := by
      rw [Decimal.value, isExponent, zpow_natCast]
      push_cast
      rfl
    have even : d.digits * 10 ^ (zeros + 1) % 2 = 0 := by
      have tenfold : d.digits * 10 ^ (zeros + 1) = 10 * (d.digits * 10 ^ zeros) := by ring
      omega
    have rounded := nearestSteps_eq_of_value ((value_whole _).trans isWhole.symm)
    rw [isWhole, eq_of_nearestSteps_even even small (rounded.trans reads)]

/-- The shortest digits denote a whole number up to `2 ^ 53` exactly. -/
theorem value_shortest_of_small {n : Nat} (whole : v.magnitude = n) (small : n ≤ 2 ^ 53) :
    v.shortest.value = n := by
  by_cases zero : v.significand = 0
  · rw [shortest, if_pos zero, ← whole, magnitude_of_zero zero, Decimal.value, Nat.cast_zero,
      zero_mul]
  have isValue : (Decimal.mk n 0).value = v.magnitude := (value_whole n).trans whole.symm
  by_cases short : (Decimal.mk n 0).digitChars.length ≤ v.shortest.digitChars.length
  · rw [value_shortest_of_length_le zero isValue short, whole]
  · have length : v.shortest.digitChars.length < (Nat.toDigits 10 n).length :=
      Nat.lt_of_not_le short
    have positive : 0 < n := by
      have positive := magnitude_pos zero
      rw [whole] at positive
      exact Nat.cast_pos.mp positive
    have shorter : v.shortest.digits < n :=
      calc v.shortest.digits
          < 10 ^ v.shortest.digitChars.length := lt_pow_length_toDigits _
        _ ≤ 10 ^ ((Nat.toDigits 10 n).length - 1) :=
          Nat.pow_le_pow_right (by decide) (Nat.le_sub_one_of_lt length)
        _ ≤ n := pow_length_toDigits_le positive
    exact value_eq_of_shorter whole small shorter (isShortest_shortest zero).isRead

end DesignCompiler.Binary64.Finite
