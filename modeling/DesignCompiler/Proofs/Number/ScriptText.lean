import DesignCompiler.Number.Layout
import DesignCompiler.Proofs.Number.Numeral
import DesignCompiler.Proofs.Number.Shortest

/-!
Contract: the texts of doubles in style values, against those that scripts print.

Owns:
- `scriptDigits` and `IsScriptText`, which doubles ECMAScript prints as which texts;
- `Binary64.Finite.millionth`, the double from which on a text has no exponent;
- the law which doubles have such a text in style values.

Does not own: the values of these texts, see `DesignCompiler.Proofs.Number.StyleText`.
-/

set_option autoImplicit false

namespace DesignCompiler

open Binary64 Binary64.Finite

/-- Digits with the point behind so many of them, as scripts print them. -/
def scriptDigits (digits : List Char) (point : Int) : List Char :=
  if digits.length ≤ point ∧ point ≤ 21 then
    digits ++ List.replicate (point - digits.length).toNat '0'
  else if 0 < point ∧ point ≤ 21 then
    digits.take point.toNat ++ '.' :: digits.drop point.toNat
  else if -6 < point ∧ point ≤ 0 then
    '0' :: '.' :: List.replicate (-point).toNat '0' ++ digits
  else
    digits.take 1 ++ (if digits.length = 1 then [] else '.' :: digits.drop 1) ++
      'e' :: (if 0 < point then '+' else '-') :: Nat.toDigits 10 (point - 1).natAbs

/-- A double and a text that scripts print it as: the shortest digits that read back as the double,
with the point behind the first digit or zeros around them. -/
inductive IsScriptText : Binary64 → String → Prop
  | nan : IsScriptText .nan "NaN"
  | infinite (negative : Bool) :
      IsScriptText (.infinite negative) (if negative then "-Infinity" else "Infinity")
  | zero {v : Finite} (isZero : v.significand = 0) : IsScriptText (.finite v) "0"
  | finite {v : Finite} {d : Decimal} (nonzero : v.significand ≠ 0) (isShortest : v.IsShortest d) :
      IsScriptText (.finite v) (String.ofList
        ((if v.negative then ['-'] else []) ++ scriptDigits d.digitChars (d.leadingExponent + 1)))

variable {v : Finite} {d : Decimal}

/-! ### The layout -/

private theorem isDigit_digitChars (d : Decimal) : ∀ c ∈ d.digitChars, c.isDigit = true :=
  isDigit_toDigits

/-- Decimal numbers in style values are laid out as scripts do it. -/
theorem decimalChars_css (nonzero : d.digits ≠ 0) :
    Layout.css.decimalChars d = scriptDigits d.digitChars (d.leadingExponent + 1) := by
  have exponent (n : Int) : Layout.exponentChars Layout.css.exponentWidth (n - 1) =
      (if 0 < n then '+' else '-') :: Nat.toDigits 10 (n - 1).natAbs := by
    have sign : (if n - 1 < 0 then '-' else '+') = (if 0 < n then '+' else '-') := by
      split_ifs <;> first | rfl | omega
    have width : 1 - (Nat.toDigits 10 (n - 1).natAbs).length = 0 :=
      Nat.sub_eq_zero_of_le (List.length_pos_iff.mpr Nat.toDigits_ne_nil)
    show _ :: List.replicate (1 - _) '0' ++ _ = _
    rw [sign, width]
    rfl
  rw [Layout.decimalChars_eq rfl ⟨by decide, by decide⟩ nonzero]
  dsimp only
  rw [exponent]
  rfl

/-! ### Whole numbers -/

/-- A double stands for an integer exactly if its distance from zero is a whole number. -/
theorem toInt?_cases (v : Finite) :
    (∃ n : Nat, v.magnitude = n ∧
        (Binary64.finite v).toInt? = some (if v.negative then -(n : Int) else n)) ∨
      ((∀ n : Nat, v.magnitude ≠ n) ∧ (Binary64.finite v).toInt? = none) := by
  have unit : 0 < 2 ^ unitExponent := Nat.two_pow_pos _
  unfold toInt?
  simp only [Nat.pow_eq, ne_eq, magnitude_eq_iff]
  generalize 2 ^ unitExponent = scale at unit ⊢
  by_cases divisible : v.steps % scale = 0
  · rw [if_pos divisible]
    exact Or.inl
      ⟨v.steps / scale, (Nat.div_mul_cancel (Nat.dvd_of_mod_eq_zero divisible)).symm, rfl⟩
  · rw [if_neg divisible]
    refine Or.inr ⟨fun n isMultiple => divisible ?_, rfl⟩
    rw [isMultiple, Nat.mul_mod_left]

/-- A number without zeros at its end that is whole has no digits behind the point. -/
theorem exists_zeros_of_whole (lastDigit : d.digits % 10 ≠ 0) {n : Nat} (whole : d.value = n) :
    ∃ zeros : Nat, d.exponent = zeros ∧ n = d.digits * 10 ^ zeros := by
  obtain ⟨digits, exponent⟩ := d
  unfold Decimal.value at whole
  cases exponent with
  | ofNat zeros =>
      rw [Int.ofNat_eq_natCast, zpow_natCast] at whole
      exact ⟨zeros, rfl, by exact_mod_cast whole.symm⟩
  | negSucc k =>
      rw [zpow_negSucc, ← div_eq_mul_inv, div_eq_iff (by positivity)] at whole
      have multiple : digits = n * 10 ^ (k + 1) := by exact_mod_cast whole
      rw [multiple, Nat.pow_succ, ← Nat.mul_assoc, Nat.mul_mod_left] at lastDigit
      exact absurd rfl lastDigit

/-- Digits that denote a whole number below `10 ^ 21` are printed as the digits of this number. -/
theorem scriptDigits_of_whole (lastDigit : d.digits % 10 ≠ 0) {n : Nat} (whole : d.value = n)
    (small : n < 10 ^ 21) :
    scriptDigits d.digitChars (d.leadingExponent + 1) = Nat.toDigits 10 n := by
  have positive : 0 < d.digits := Nat.pos_of_ne_zero fun zero => lastDigit (by rw [zero])
  obtain ⟨zeros, isExponent, isProduct⟩ := exists_zeros_of_whole lastDigit whole
  have length : (Nat.toDigits 10 n).length = d.digitChars.length + zeros := by
    rw [isProduct]
    exact length_toDigits_mul_pow positive zeros
  have short : (Nat.toDigits 10 n).length ≤ 21 :=
    (Nat.length_toDigits_le_iff (by decide) (by decide)).mpr small
  have point : d.leadingExponent + 1 = zeros + d.digitChars.length := by
    rw [← isExponent]
    exact Int.sub_add_cancel _ _
  have behind : (d.leadingExponent + 1 - d.digitChars.length).toNat = zeros := by omega
  unfold scriptDigits
  rw [if_pos ⟨by omega, by omega⟩, behind, isProduct, toDigits_mul_pow positive]
  rfl

/-- An exponent is printed where the point is too far away from the digits. -/
theorem mem_scriptDigits_iff {digits : List Char} (isDigit : ∀ c ∈ digits, c.isDigit = true)
    (point : Int) : 'e' ∈ scriptDigits digits point ↔ ¬ (-6 < point ∧ point ≤ 21) := by
  have noLetter : 'e' ∉ digits := fun isChar => nomatch isDigit _ isChar
  have noZeros (count : Nat) : 'e' ∉ List.replicate count '0' := fun isChar =>
    nomatch Layout.isDigit_replicate_zero count _ isChar
  have notTaken (count : Nat) : 'e' ∉ digits.take count := mt List.mem_of_mem_take noLetter
  have notDropped (count : Nat) : 'e' ∉ digits.drop count := mt List.mem_of_mem_drop noLetter
  unfold scriptDigits
  split_ifs with whole inside before
  · refine iff_of_false ?_ (not_not_intro (by omega))
    simp [noLetter, noZeros]
  · refine iff_of_false ?_ (not_not_intro (by omega))
    simp [notTaken, notDropped]
  · refine iff_of_false ?_ (not_not_intro (by omega))
    simp [noLetter, noZeros]
  all_goals exact iff_of_true (by simp) (by omega)

/-- Digits that are printed as the digits of a whole number denote it. -/
theorem value_of_scriptDigits {n : Nat}
    (printed : scriptDigits d.digitChars (d.leadingExponent + 1) = Nat.toDigits 10 n) :
    d.value = n := by
  have noPoint : '.' ∉ Nat.toDigits 10 n := fun isChar => nomatch isDigit_toDigits _ isChar
  have noLetter : 'e' ∉ Nat.toDigits 10 n := fun isChar => nomatch isDigit_toDigits _ isChar
  have point : d.leadingExponent + 1 = d.exponent + d.digitChars.length := Int.sub_add_cancel _ _
  rw [← printed, mem_scriptDigits_iff (isDigit_digitChars d), not_not] at noLetter
  rw [← printed] at noPoint
  unfold scriptDigits at printed noPoint
  by_cases whole : d.digitChars.length ≤ d.leadingExponent + 1 ∧ d.leadingExponent + 1 ≤ 21
  · obtain ⟨zeros, isExponent⟩ : ∃ zeros : Nat, d.exponent = zeros :=
      Int.eq_ofNat_of_zero_le (by omega)
    have behind : (d.leadingExponent + 1 - d.digitChars.length).toNat = zeros := by omega
    rw [if_pos whole, behind] at printed
    have number : n = d.digits * 10 ^ zeros := by
      rw [← Layout.ofDigitChars_append_zeros, ← Nat.ofDigitChars_ten_toDigits (n := n), ← printed]
      rfl
    rw [Decimal.value, isExponent, number, zpow_natCast]
    push_cast
    rfl
  · rw [if_neg whole] at noPoint
    split_ifs at noPoint
    · simp at noPoint
    · simp at noPoint
    all_goals omega

/-! ### Where the exponent begins -/

def Binary64.Finite.millionth : Finite :=
  ⟨false, 4722366482869645, 1002, by decide, by decide, Or.inr (by decide)⟩

private theorem toBinary64_millionth :
    (Decimal.mk 1 (-6)).toBinary64 false = .finite millionth := by
  decide +kernel

theorem magnitude_le_iff {v w : Finite} : v.magnitude ≤ w.magnitude ↔ v.steps ≤ w.steps := by
  unfold magnitude
  rw [div_le_div_iff_of_pos_right (by positivity), Nat.cast_le]

private theorem shortest_of_millionth (steps : v.steps = millionth.steps) :
    v.shortest = ⟨1, -6⟩ := by
  have signed (negative : Bool) :
      ({ millionth with negative := negative } : Finite).shortest = ⟨1, -6⟩ := by
    cases negative <;> decide +kernel
  have isMillionth : v = { millionth with negative := v.negative } := Finite.eq_of_steps rfl steps
  rw [isMillionth]
  exact signed v.negative

theorem le_leadingExponent_shortest_iff (nonzero : v.significand ≠ 0) :
    -6 ≤ v.shortest.leadingExponent ↔ millionth.magnitude ≤ v.magnitude := by
  have digits := digits_shortest_ne_zero nonzero
  have isMillionth : (Decimal.mk 1 (-6)).nearestSteps = millionth.steps :=
    (Decimal.toBinary64_eq_finite_iff.mp toBinary64_millionth).2.symm
  rw [Decimal.leadingExponent_eq_log digits, Decimal.le_log_iff (Decimal.value_pos digits),
    ← Decimal.value_one, magnitude_le_iff]
  constructor
  · intro atLeast
    rw [← isMillionth, ← nearestSteps_shortest nonzero]
    exact Decimal.nearestSteps_mono atLeast
  · -- Digits below a millionth could only read back as its double, which has other shortest digits.
    intro atLeast
    by_contra less
    have atMost := Decimal.nearestSteps_mono (lt_of_not_ge less).le
    rw [isMillionth, nearestSteps_shortest nonzero] at atMost
    rw [shortest_of_millionth (Nat.le_antisymm atMost atLeast)] at less
    exact less (le_refl _)

private theorem nearestSteps_ten_pow :
    (Decimal.mk 1 21).nearestSteps = 10 ^ 21 * 2 ^ unitExponent := by
  decide +kernel

theorem ten_pow_le_magnitude_iff :
    10 ^ 21 ≤ v.magnitude ↔ (Decimal.mk 1 21).nearestSteps ≤ v.steps := by
  unfold magnitude
  rw [nearestSteps_ten_pow, le_div_iff₀ (by positivity)]
  exact_mod_cast Iff.rfl

theorem leadingExponent_shortest_lt_iff (nonzero : v.significand ≠ 0) :
    v.shortest.leadingExponent < 21 ↔ v.magnitude < 10 ^ 21 := by
  have digits := digits_shortest_ne_zero nonzero
  rw [Decimal.leadingExponent_eq_log digits, Decimal.log_lt_iff (Decimal.value_pos digits),
    ← Decimal.value_one, ← not_le, ← not_le, not_iff_not, ten_pow_le_magnitude_iff]
  constructor
  · intro atLeast
    rw [← nearestSteps_shortest nonzero]
    exact Decimal.nearestSteps_mono atLeast
  · -- Digits below this power could only read back as the power itself, which has a single digit.
    intro atLeast
    by_contra less
    have atMost := Decimal.nearestSteps_mono (lt_of_not_ge less).le
    rw [nearestSteps_shortest nonzero] at atMost
    have isPower : (Decimal.mk 1 21).value = v.magnitude := by
      have steps : v.steps = 10 ^ 21 * 2 ^ unitExponent :=
        (Nat.le_antisymm atMost atLeast).trans nearestSteps_ten_pow
      rw [Decimal.value_one, magnitude, steps, eq_div_iff (by positivity), zpow_ofNat]
      push_cast
      rfl
    have isShortest := value_shortest_of_length_le nonzero isPower (Layout.length_digitChars _)
    rw [isPower, isShortest] at less
    exact less (le_refl _)

/-! ### The texts of doubles -/

private theorem isScriptText_shortest (nonzero : v.significand ≠ 0) :
    IsScriptText (.finite v) (String.ofList ((if v.negative then ['-'] else []) ++
      scriptDigits v.shortest.digitChars (v.shortest.leadingExponent + 1))) :=
  .finite nonzero (isShortest_shortest nonzero)

theorem IsScriptText.eq {x : Binary64} {text text' : String} (isText : IsScriptText x text)
    (isText' : IsScriptText x text') : text = text' := by
  cases isText with
  | nan =>
      cases isText'
      rfl
  | infinite negative =>
      cases isText'
      rfl
  | zero isZero =>
      cases isText' with
      | zero => rfl
      | finite nonzero => exact absurd isZero nonzero
  | finite nonzero isShortest =>
      cases isText' with
      | zero isZero => exact absurd isZero nonzero
      | finite _ isShortest' => rw [isShortest.eq nonzero isShortest']

/-- Scripts print every double in one way. -/
theorem existsUnique_isScriptText (x : Binary64) : ∃! text, IsScriptText x text := by
  have exists_text : ∃ text, IsScriptText x text := by
    cases x with
    | nan => exact ⟨_, .nan⟩
    | infinite negative => exact ⟨_, .infinite negative⟩
    | finite v =>
        by_cases zero : v.significand = 0
        · exact ⟨_, .zero zero⟩
        · exact ⟨_, isScriptText_shortest zero⟩
  obtain ⟨text, isText⟩ := exists_text
  exact ⟨text, isText, fun other isOther => isOther.eq isText⟩

private theorem integerChars_signed {negative : Bool} {n : Nat} (nonzero : n ≠ 0) :
    integerChars (if negative then -(n : Int) else n) =
      (if negative then ['-'] else []) ++ Nat.toDigits 10 n := by
  unfold integerChars
  cases negative with
  | false => simp
  | true =>
      have isNegative : -(n : Int) < 0 := by omega
      rw [if_pos rfl, if_pos rfl, if_pos isNegative, Int.natAbs_neg, Int.natAbs_natCast]
      rfl

theorem cssText_of_zero (isZero : v.significand = 0) :
    (Number.float (.finite v)).cssText = "0" := by
  rcases toInt?_cases v with ⟨n, isWhole, integral⟩ | ⟨notWhole, -⟩
  · rw [magnitude_of_zero isZero, eq_comm, Nat.cast_eq_zero] at isWhole
    rw [isWhole] at integral
    simp only [Number.cssText, integral]
    cases v.negative <;> rfl
  · exact absurd (magnitude_of_zero isZero) (by simpa using notWhole 0)

/-- The text of a double that is not zero: all digits of a whole number below `10 ^ 21`, and the
shortest digits of every other one. -/
theorem cssText_cases (nonzero : v.significand ≠ 0) :
    (∃ n : Nat, v.magnitude = n ∧ 0 < n ∧ n < 10 ^ 21 ∧ (Number.float (.finite v)).cssText =
        String.ofList ((if v.negative then ['-'] else []) ++ Nat.toDigits 10 n)) ∨
      ((∀ n : Nat, v.magnitude = n → 10 ^ 21 ≤ n) ∧ (Number.float (.finite v)).cssText =
        String.ofList ((if v.negative then ['-'] else []) ++
          scriptDigits v.shortest.digitChars (v.shortest.leadingExponent + 1))) := by
  have layout := decimalChars_css (digits_shortest_ne_zero nonzero)
  rcases toInt?_cases v with ⟨n, isWhole, integral⟩ | ⟨notWhole, integral⟩
  · have positive : 0 < n := by
      have positive := magnitude_pos nonzero
      rw [isWhole] at positive
      exact Nat.cast_pos.mp positive
    have size : (if v.negative then -(n : Int) else n).natAbs = n := by
      cases v.negative <;> simp
    simp only [Number.cssText, integral, size, Nat.pow_eq]
    by_cases small : n < 10 ^ 21
    · rw [if_pos small, integerChars_signed positive.ne']
      exact Or.inl ⟨n, isWhole, positive, small, rfl⟩
    · rw [if_neg small, Layout.chars, layout]
      refine Or.inr ⟨fun m isWhole' => ?_, rfl⟩
      have same : m = n := Nat.cast_injective (isWhole'.symm.trans isWhole)
      omega
  · simp only [Number.cssText, integral]
    rw [Layout.chars, layout]
    exact Or.inr ⟨fun n isWhole => absurd isWhole (notWhole n), rfl⟩

/-- A double that is printed with its shortest digits, or with digits that denote the same number,
has the text that scripts print. -/
theorem isScriptText_cssText
    (exact : ∀ n : Nat, v.magnitude = n → n < 10 ^ 21 → v.shortest.value = n) :
    IsScriptText (.finite v) (Number.float (.finite v)).cssText := by
  by_cases zero : v.significand = 0
  · rw [cssText_of_zero zero]
    exact .zero zero
  have isScript := isScriptText_shortest zero
  rcases cssText_cases zero with ⟨n, isWhole, -, small, isText⟩ | ⟨-, isText⟩
  · have digits := scriptDigits_of_whole (digits_shortest_mod zero) (exact n isWhole small) small
    rw [isText, ← digits]
    exact isScript
  · rw [isText]
    exact isScript

/-- Where the text of a whole number is the one that scripts print, the shortest digits denote this
number. -/
theorem value_shortest_of_isScriptText {n : Nat} (whole : v.magnitude = n) (small : n < 10 ^ 21)
    (isScript : IsScriptText (.finite v) (Number.float (.finite v)).cssText) :
    v.shortest.value = n := by
  by_cases zero : v.significand = 0
  · have isZero : n = 0 := by
      rw [magnitude_of_zero zero] at whole
      exact_mod_cast whole.symm
    exact value_shortest_of_small whole (isZero ▸ Nat.zero_le _)
  rcases cssText_cases zero with ⟨m, isWhole, -, -, isText⟩ | ⟨others, -⟩
  · have same := isScript.eq (isScriptText_shortest zero)
    rw [isText] at same
    rw [← whole, isWhole]
    exact value_of_scriptDigits (List.append_cancel_left (String.ofList_injective same)).symm
  · exact absurd small (Nat.not_lt.mpr (others n whole))

private theorem magnitude_millionth_lt_one : millionth.magnitude < 1 := by
  have steps : millionth.steps < 2 ^ unitExponent := by decide +kernel
  unfold magnitude
  rw [div_lt_one (by positivity)]
  exact_mod_cast steps

/-- A text has an exponent for the small and for the large doubles. -/
theorem mem_cssText_iff (v : Finite) : 'e' ∈ (Number.float (.finite v)).cssText.toList ↔
    v.significand ≠ 0 ∧ (v.magnitude < millionth.magnitude ∨ 10 ^ 21 ≤ v.magnitude) := by
  by_cases zero : v.significand = 0
  · rw [cssText_of_zero zero]
    exact iff_of_false (by decide) fun large => large.1 zero
  have noSign : 'e' ∉ (if v.negative then ['-'] else []) := by
    cases v.negative <;> decide
  rcases cssText_cases zero with ⟨n, isWhole, positive, small, isText⟩ | ⟨-, isText⟩
  · have noLetter : 'e' ∉ Nat.toDigits 10 n := fun isChar => nomatch isDigit_toDigits _ isChar
    have least : (1 : ℚ) ≤ n := by exact_mod_cast positive
    have small' : (n : ℚ) < 10 ^ 21 := by exact_mod_cast small
    have limit := magnitude_millionth_lt_one
    rw [isText, String.toList_ofList, isWhole, List.mem_append]
    refine iff_of_false (not_or.mpr ⟨noSign, noLetter⟩) ?_
    rintro ⟨-, below | above⟩ <;> linarith
  · have small := (le_leadingExponent_shortest_iff zero).not
    have large := (leadingExponent_shortest_lt_iff zero).not
    rw [not_le, not_le] at small
    rw [not_lt, not_lt] at large
    rw [isText, String.toList_ofList, List.mem_append, or_iff_right noSign,
      mem_scriptDigits_iff (isDigit_digitChars _), ← small, ← large]
    omega

/-- Which doubles have the text in style values that scripts print: the finite ones, unless they are
whole numbers below `10 ^ 21` and have further digits behind the shortest ones. -/
theorem cssText_matches_scripts (x : Binary64) :
    (IsScriptText x (Number.float x).cssText ↔
      ∃ v, x = .finite v ∧ ∀ n : Nat, v.magnitude = n → n < 10 ^ 21 → v.shortest.value = n) ∧
    ∀ v, x = .finite v →
      (v.magnitude ≤ 2 ^ 53 → IsScriptText x (Number.float x).cssText) ∧
      ('e' ∈ (Number.float x).cssText.toList ↔
        v.significand ≠ 0 ∧ (v.magnitude < millionth.magnitude ∨ 10 ^ 21 ≤ v.magnitude)) := by
  refine ⟨?_, ?_⟩
  · cases x with
    | nan =>
        refine iff_of_false (fun isScript => ?_) nofun
        exact absurd (isScript.eq .nan) (by decide)
    | infinite negative =>
        refine iff_of_false (fun isScript => ?_) nofun
        exact absurd (isScript.eq (.infinite negative)) (by cases negative <;> decide)
    | finite v =>
        constructor
        · intro isScript
          exact ⟨v, rfl, fun n whole small => value_shortest_of_isScriptText whole small isScript⟩
        · rintro ⟨w, same, exact⟩
          cases same
          exact isScriptText_cssText exact
  · rintro v rfl
    refine ⟨fun small => isScriptText_cssText fun n whole _ => value_shortest_of_small whole ?_,
      mem_cssText_iff v⟩
    rw [whole] at small
    exact_mod_cast small

def Binary64.Finite.twoPowSixty : Finite :=
  ⟨false, 2 ^ 52, 1082, by decide, by decide, Or.inr (by decide)⟩

/-- Scripts print zeros behind the shortest digits of `2 ^ 60`, and the text in style values has its
other digits there. -/
theorem cssText_of_two_pow_sixty :
    Binary64.ofRatio false (2 ^ 60) 1 = .finite twoPowSixty ∧
      (Number.float (.finite twoPowSixty)).cssText = "1152921504606846976" ∧
      IsScriptText (.finite twoPowSixty) "1152921504606847000" ∧
      ¬ IsScriptText (.finite twoPowSixty) (Number.float (.finite twoPowSixty)).cssText := by
  have isDouble : Binary64.ofRatio false (2 ^ 60) 1 = .finite twoPowSixty := by decide +kernel
  have isText : (Number.float (.finite twoPowSixty)).cssText = "1152921504606846976" := by
    decide +kernel
  have isShortest : twoPowSixty.shortest = ⟨1152921504606847, 3⟩ := by decide +kernel
  have isScript := isScriptText_shortest (v := twoPowSixty) (by decide)
  rw [isShortest] at isScript
  have isPrinted : IsScriptText (.finite twoPowSixty) "1152921504606847000" := isScript
  refine ⟨isDouble, isText, isPrinted, fun isSame => ?_⟩
  rw [isText] at isSame
  exact absurd (isSame.eq isPrinted) (by decide)

end DesignCompiler
