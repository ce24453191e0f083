import DesignCompiler.Proofs.Number.Numeral
import DesignCompiler.Proofs.Number.Shortest

/-!
Contract: the texts of numbers with six significant digits.

Owns:
- `IsNearestWhole`, the whole number to which a number is rounded, a half to the even one;
- `IsBriefDecimal`, a number rounded to its sixth significant digit, and `briefDigits`, where the
  point stands among the digits;
- `Number.IsBriefText`, the text of a number with six significant digits;
- the law that `Number.briefText?` gives this text, and no other text is one.

Does not own: what is said with such texts, see `DesignCompiler.Proofs.CommandLine.Progress`.
-/

set_option autoImplicit false

namespace DesignCompiler

open Binary64 Binary64.Finite

/-! ### Rounding -/

/-- A whole number is nearest to a number, and it is even if another one is as near. -/
structure IsNearestWhole (x : ℚ) (n : Nat) : Prop where
  nearest : ∀ m : Nat, |(n : ℚ) - x| ≤ |(m : ℚ) - x|
  even : ∀ m : Nat, m ≠ n → |(n : ℚ) - x| = |(m : ℚ) - x| → n % 2 = 0

private theorem IsNearestWhole.not_lt {x : ℚ} {m n : Nat} (left : IsNearestWhole x m)
    (right : IsNearestWhole x n) : ¬ m < n := by
  intro less
  have tie : |(m : ℚ) - x| = |(n : ℚ) - x| := le_antisymm (left.nearest n) (right.nearest m)
  have even := left.even n less.ne' tie
  have even' := right.even m less.ne tie.symm
  -- The whole number between two even ones that are equally near is nearer than both.
  have between := left.nearest (m + 1)
  have far : ((m + 2 : Nat) : ℚ) ≤ n := Nat.cast_le.mpr (by omega)
  push_cast at between far
  rcases abs_eq_abs.mp tie with same | opposite
  · linarith
  · rw [abs_of_nonpos (by linarith)] at between
    rcases le_abs.mp between with above | below <;> linarith

/-- There is one whole number to which a number is rounded. -/
theorem IsNearestWhole.eq {x : ℚ} {m n : Nat} (left : IsNearestWhole x m)
    (right : IsNearestWhole x n) : m = n :=
  Nat.le_antisymm (Nat.le_of_not_lt (right.not_lt left)) (Nat.le_of_not_lt (left.not_lt right))

/-- What a one in the place of the sixth significant digit of a number stands for. -/
def sixthPlace (x : ℚ) : ℚ :=
  10 ^ (Int.log 10 x - 5)

/-- A decimal number is another number rounded in the place of its sixth significant digit, and does
not end with a zero. -/
structure IsBriefDecimal (x : ℚ) (d : Decimal) : Prop where
  rounded : ∃ n : Nat, IsNearestWhole (x / sixthPlace x) n ∧ d.value = n * sixthPlace x
  lastDigit : d.digits % 10 ≠ 0

private theorem le_exponent_of_value_eq {d d' : Decimal} (lastDigit : d.digits % 10 ≠ 0)
    (same : d.value = d'.value) : d'.exponent ≤ d.exponent := by
  by_contra greater
  obtain ⟨zeros, isExponent⟩ : ∃ zeros : Nat, d'.exponent = d.exponent + (zeros + 1 : Nat) :=
    ⟨(d'.exponent - d.exponent - 1).toNat, by omega⟩
  have power : (10 : ℚ) ^ d.exponent ≠ 0 := by positivity
  rw [Decimal.value, Decimal.value, isExponent, zpow_add₀ (by norm_num), mul_left_comm,
    mul_comm (d.digits : ℚ), mul_right_inj' power, zpow_natCast] at same
  have multiple : d.digits = d'.digits * 10 ^ (zeros + 1) := by exact_mod_cast same
  rw [multiple, Nat.pow_succ, ← Nat.mul_assoc, Nat.mul_mod_left] at lastDigit
  exact lastDigit rfl

/-- Decimal numbers that do not end with zeros are known by their values. -/
theorem Decimal.eq_of_value_eq {d d' : Decimal} (lastDigit : d.digits % 10 ≠ 0)
    (lastDigit' : d'.digits % 10 ≠ 0) (same : d.value = d'.value) : d = d' := by
  have exponent := Int.le_antisymm (le_exponent_of_value_eq lastDigit' same.symm)
    (le_exponent_of_value_eq lastDigit same)
  obtain ⟨digits, place⟩ := d
  obtain ⟨digits', place'⟩ := d'
  simp only at exponent
  subst exponent
  have power : (10 : ℚ) ^ place ≠ 0 := by positivity
  have sameDigits : digits = digits' := by
    have scaled := mul_right_cancel₀ power same
    exact_mod_cast scaled
  rw [sameDigits]

theorem IsBriefDecimal.eq {x : ℚ} {d d' : Decimal} (left : IsBriefDecimal x d)
    (right : IsBriefDecimal x d') : d = d' := by
  obtain ⟨n, isNearest, value⟩ := left.rounded
  obtain ⟨n', isNearest', value'⟩ := right.rounded
  refine Decimal.eq_of_value_eq left.lastDigit right.lastDigit ?_
  rw [value, value', isNearest.eq isNearest']

section

variable {v : Finite} (nonzero : v.significand ≠ 0)

include nonzero

private theorem sixthPlace_magnitude : sixthPlace v.magnitude = 10 ^ v.exponentFor 6 := by
  have place : Int.log 10 v.magnitude - 5 = v.exponentFor 6 := by
    rw [exponentFor_eq nonzero]
    omega
  rw [sixthPlace, place]

private theorem isBriefDecimal_rounded : IsBriefDecimal v.magnitude (v.rounded 6) := by
  obtain ⟨half, even⟩ := v.abs_roundHalfEven_sub_le (v.exponentFor 6)
  have isRounded : v.rounded 6 = (Decimal.mk (roundHalfEven (v.shifted (v.exponentFor 6)).1
      (v.shifted (v.exponentFor 6)).2) (v.exponentFor 6)).trimmed := by
    unfold Finite.rounded
    rw [if_neg nonzero]
  have power : (0 : ℚ) < 10 ^ v.exponentFor 6 := by positivity
  have large : (10 : ℚ) ^ 5 ≤ v.magnitude / 10 ^ v.exponentFor 6 := by
    rw [le_div_iff₀ power]
    exact first_le_magnitude nonzero 5
  rw [isRounded]
  generalize roundHalfEven (v.shifted (v.exponentFor 6)).1 (v.shifted (v.exponentFor 6)).2 = n
    at half even
  have positive : n ≠ 0 := by
    rintro rfl
    rw [abs_le] at half
    push_cast at half
    linarith
  refine ⟨⟨n, ⟨fun m => ?_, fun m other tie => ?_⟩, ?_⟩, digits_trimmed_mod positive⟩
  · rw [sixthPlace_magnitude nonzero]
    by_cases same : m = n
    · rw [same]
    · exact half.trans (abs_sub_lt_of_ne half same)
  · rw [sixthPlace_magnitude nonzero] at tie
    exact even (le_antisymm half (tie ▸ abs_sub_lt_of_ne half other))
  · rw [value_trimmed, sixthPlace_magnitude nonzero]
    rfl

end

/-! ### Texts -/

/-- Digits with the point behind so many of them: among the first six places or behind at most three
zeros, and otherwise behind the first digit, with an exponent of at least two digits. -/
def briefDigits (digits : List Char) (point : Int) : List Char :=
  if digits.length ≤ point ∧ point ≤ 6 then
    digits ++ List.replicate (point - digits.length).toNat '0'
  else if 0 < point ∧ point ≤ 6 then
    digits.take point.toNat ++ '.' :: digits.drop point.toNat
  else if -4 < point ∧ point ≤ 0 then
    '0' :: '.' :: List.replicate (-point).toNat '0' ++ digits
  else
    digits.take 1 ++ (if digits.length = 1 then [] else '.' :: digits.drop 1) ++
      'e' :: (if 0 < point then '+' else '-') ::
        ((if (point - 1).natAbs < 10 then ['0'] else []) ++ Nat.toDigits 10 (point - 1).natAbs)

/-- A double and its text with six significant digits. -/
inductive Binary64.IsBriefText : Binary64 → String → Prop
  | nan : IsBriefText .nan "nan"
  | infinite (negative : Bool) :
      IsBriefText (.infinite negative) (if negative then "-inf" else "inf")
  | zero {v : Finite} (isZero : v.significand = 0) :
      IsBriefText (.finite v) (if v.negative then "-0" else "0")
  | finite {v : Finite} {d : Decimal} (nonzero : v.significand ≠ 0)
      (isBrief : IsBriefDecimal v.magnitude d) :
      IsBriefText (.finite v) (String.ofList
        ((if v.negative then ['-'] else []) ++ briefDigits d.digitChars (d.leadingExponent + 1)))

/-- A number and the text of the nearest double with six significant digits. -/
def Number.IsBriefText (n : Number) (text : String) : Prop :=
  ∃ x, n.toBinary64? = some x ∧ Binary64.IsBriefText x text

theorem Binary64.IsBriefText.eq {x : Binary64} {text text' : String}
    (isText : Binary64.IsBriefText x text) (isText' : Binary64.IsBriefText x text') :
    text = text' := by
  cases isText with
  | nan =>
      cases isText'
      rfl
  | infinite negative =>
      cases isText'
      rfl
  | zero isZero =>
      cases isText' with
      | zero => rfl
      | finite nonzero => exact absurd isZero nonzero
  | finite nonzero isBrief =>
      cases isText' with
      | zero isZero => exact absurd isZero nonzero
      | finite _ isBrief' => rw [isBrief.eq isBrief']

/-- Decimal numbers in messages are laid out with an exponent of at least two digits. -/
theorem decimalChars_brief {d : Decimal} (nonzero : d.digits ≠ 0) :
    Layout.brief.decimalChars d = briefDigits d.digitChars (d.leadingExponent + 1) := by
  have exponent (n : Int) : Layout.exponentChars Layout.brief.exponentWidth (n - 1) =
      (if 0 < n then '+' else '-') ::
        ((if (n - 1).natAbs < 10 then ['0'] else []) ++ Nat.toDigits 10 (n - 1).natAbs) := by
    have sign : (if n - 1 < 0 then '-' else '+') = (if 0 < n then '+' else '-') := by
      split_ifs <;> first | rfl | omega
    have hasDigits : 0 < (Nat.toDigits 10 (n - 1).natAbs).length :=
      List.length_pos_iff.mpr Nat.toDigits_ne_nil
    have single : (Nat.toDigits 10 (n - 1).natAbs).length ≤ 1 ↔ (n - 1).natAbs < 10 :=
      Nat.length_toDigits_le_iff (by decide) (by decide)
    have width : List.replicate (2 - (Nat.toDigits 10 (n - 1).natAbs).length) '0' =
        if (n - 1).natAbs < 10 then ['0'] else [] := by
      split_ifs with small
      · have one : 2 - (Nat.toDigits 10 (n - 1).natAbs).length = 1 := by omega
        rw [one]
        rfl
      · have none : 2 - (Nat.toDigits 10 (n - 1).natAbs).length = 0 := by omega
        rw [none]
        rfl
    show _ :: List.replicate (2 - _) '0' ++ _ = _
    rw [sign, width]
    rfl
  rw [Layout.decimalChars_eq rfl ⟨by decide, by decide⟩ nonzero]
  dsimp only
  rw [exponent]
  rfl

private theorem isBriefText_chars (x : Binary64) : Binary64.IsBriefText x
    (String.ofList (Layout.brief.chars (fun finite => finite.rounded 6) x)) := by
  cases x with
  | nan => exact .nan
  | infinite negative => cases negative <;> exact .infinite _
  | finite v =>
      by_cases zero : v.significand = 0
      · have isZero : v.rounded 6 = ⟨0, 0⟩ := if_pos zero
        have isText := Binary64.IsBriefText.zero zero
        rw [Layout.chars, isZero]
        cases sign : v.negative <;> rw [sign] at isText <;> exact isText
      · have isBrief := isBriefDecimal_rounded zero
        have digits : (v.rounded 6).digits ≠ 0 := fun isZero => isBrief.lastDigit (by rw [isZero])
        rw [Layout.chars, decimalChars_brief digits]
        exact .finite zero isBrief

/-- The text of seconds is their text with six significant digits. -/
theorem Number.briefText?_eq_some_iff {n : Number} {text : String} :
    n.briefText? = some text ↔ n.IsBriefText text := by
  unfold Number.briefText? Number.IsBriefText
  rw [Option.map_eq_some_iff]
  constructor
  · rintro ⟨x, converted, rfl⟩
    exact ⟨x, converted, isBriefText_chars x⟩
  · rintro ⟨x, converted, isText⟩
    exact ⟨x, converted, (isBriefText_chars x).eq isText⟩

example : (Number.float (.inversePower 1)).briefText? = some "0.5" := by decide +kernel

end DesignCompiler
