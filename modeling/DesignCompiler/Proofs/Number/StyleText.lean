import DesignCompiler.Proofs.Number.Reading
import DesignCompiler.Proofs.Number.ScriptText

/-!
Contract: what the texts of numbers in style values say about the numbers.

Owns:
- `NumberForm`, the forms of these texts;
- `Number.IsKeptBy`, the texts from which a number can be told: their form, the rational number that
  they denote and the number that is read from them;
- the law that the text of every finite number in style values is such a text.

Does not own: which texts scripts print, see `DesignCompiler.Proofs.Number.ScriptText`.
-/

set_option autoImplicit false

namespace DesignCompiler

open Binary64 Binary64.Finite

/-! ### The forms -/

structure IsDigits (cs : List Char) : Prop where
  ne_nil : cs ≠ []
  isDigit : ∀ c ∈ cs, c.isDigit = true

/-- The digits before a point: a zero, or digits that do not begin with a zero. -/
structure IsWhole (cs : List Char) : Prop extends IsDigits cs where
  leading : cs = ['0'] ∨ cs.head? ≠ some '0'

/-- The digits behind a point, which do not end with a zero. -/
structure IsFraction (cs : List Char) : Prop extends IsDigits cs where
  trailing : cs.getLast? ≠ some '0'

/-- The sign of an exponent and its digits, which do not begin with a zero. -/
def IsExponent (cs : List Char) : Prop :=
  ∃ sign digits, cs = sign :: digits ∧ (sign = '+' ∨ sign = '-') ∧ IsDigits digits ∧
    digits.head? ≠ some '0'

/-- The text of a number without its sign, with or without an exponent. -/
inductive NumberForm : Bool → List Char → Prop
  | whole {whole : List Char} (isWhole : IsWhole whole) : NumberForm false whole
  | fraction {whole fraction : List Char} (isWhole : IsWhole whole)
      (isFraction : IsFraction fraction) : NumberForm false (whole ++ '.' :: fraction)
  | power {digit : Char} {exponent : List Char} (isDigit : digit.isDigit = true)
      (nonzero : digit ≠ '0') (isExponent : IsExponent exponent) :
      NumberForm true (digit :: 'e' :: exponent)
  | fractionPower {digit : Char} {fraction exponent : List Char} (isDigit : digit.isDigit = true)
      (nonzero : digit ≠ '0') (isFraction : IsFraction fraction)
      (isExponent : IsExponent exponent) :
      NumberForm true (digit :: '.' :: fraction ++ 'e' :: exponent)

private theorem isWhole_toDigits (n : Nat) : IsWhole (Nat.toDigits 10 n) := by
  refine ⟨⟨Nat.toDigits_ne_nil, isDigit_toDigits⟩, ?_⟩
  rcases Nat.eq_zero_or_pos n with rfl | positive
  · exact Or.inl rfl
  · exact Or.inr (head?_toDigits_ne_zero positive)

/-- The digits of a number that is no multiple of ten do not end with a zero. -/
theorem getLast?_toDigits {n : Nat} (lastDigit : n % 10 ≠ 0) :
    (Nat.toDigits 10 n).getLast? ≠ some '0' := by
  have last (digit : Nat) (small : digit < 10) (nonzero : digit ≠ 0) :
      (Nat.toDigits 10 digit).getLast? ≠ some '0' := by
    rw [Nat.toDigits_of_lt_base small]
    intro isZero
    exact nonzero (Nat.digitChar_eq_zero.mp (Option.some.inj isZero))
  by_cases small : n < 10
  · exact last n small (by omega)
  · have split := Nat.toDigits_append_toDigits (b := 10) (n := n / 10) (d := n % 10) (by decide)
      (by omega) (Nat.mod_lt n (by decide))
    rw [Nat.div_add_mod] at split
    rw [← split, List.getLast?_append_of_ne_nil _ Nat.toDigits_ne_nil]
    exact last _ (Nat.mod_lt n (by decide)) lastDigit

private theorem isExponent_digits {n : Nat} (positive : 0 < n) (isAbove : Prop)
    [Decidable isAbove] :
    IsExponent ((if isAbove then '+' else '-') :: Nat.toDigits 10 n) := by
  refine ⟨_, _, rfl, ?_, ⟨Nat.toDigits_ne_nil, isDigit_toDigits⟩, head?_toDigits_ne_zero positive⟩
  split
  · exact Or.inl rfl
  · exact Or.inr rfl

section Digits

variable {digits : List Char}

private theorem IsDigits.append_zeros (isDigits : IsDigits digits)
    (leading : digits.head? ≠ some '0')
    (zeros : Nat) : IsWhole (digits ++ List.replicate zeros '0') := by
  refine ⟨⟨List.append_ne_nil_of_left_ne_nil isDigits.ne_nil _, ?_⟩, Or.inr ?_⟩
  · exact List.forall_mem_append.mpr ⟨isDigits.isDigit, Layout.isDigit_replicate_zero _⟩
  · rw [List.head?_append_of_ne_nil _ isDigits.ne_nil]
    exact leading

private theorem IsDigits.zeros_append (isDigits : IsDigits digits)
    (trailing : digits.getLast? ≠ some '0')
    (zeros : Nat) : IsFraction (List.replicate zeros '0' ++ digits) := by
  refine ⟨⟨List.append_ne_nil_of_right_ne_nil _ isDigits.ne_nil, ?_⟩, ?_⟩
  · exact List.forall_mem_append.mpr ⟨Layout.isDigit_replicate_zero _, isDigits.isDigit⟩
  · rw [List.getLast?_append_of_ne_nil _ isDigits.ne_nil]
    exact trailing

theorem IsDigits.take (isDigits : IsDigits digits) (leading : digits.head? ≠ some '0') {count : Nat}
    (positive : 0 < count) : IsWhole (digits.take count) := by
  refine ⟨⟨?_, fun c isChar => isDigits.isDigit c (List.mem_of_mem_take isChar)⟩, Or.inr ?_⟩
  · simp only [ne_eq, List.take_eq_nil_iff, isDigits.ne_nil, or_false]
    omega
  · rw [List.head?_take, if_neg (by omega)]
    exact leading

theorem IsDigits.drop (isDigits : IsDigits digits) (count : Nat)
    (trailing : digits.getLast? ≠ some '0') (short : count < digits.length) :
    IsFraction (digits.drop count) := by
  refine ⟨⟨?_, fun c isChar => isDigits.isDigit c (List.mem_of_mem_drop isChar)⟩, ?_⟩
  · rw [ne_eq, List.drop_eq_nil_iff, Nat.not_le]
    exact short
  · rw [List.getLast?_drop, if_neg (Nat.not_le.mpr short)]
    exact trailing

private theorem numberForm_exponential {exponent : List Char} (isDigits : IsDigits digits)
    (leading : digits.head? ≠ some '0') (trailing : digits.getLast? ≠ some '0')
    (isExponent : IsExponent exponent) :
    NumberForm true (digits.take 1 ++ (if digits.length = 1 then [] else '.' :: digits.drop 1) ++
      'e' :: exponent) := by
  cases digits with
  | nil => exact absurd rfl isDigits.ne_nil
  | cons first rest =>
      have isFirst := isDigits.isDigit first List.mem_cons_self
      have nonzero : first ≠ '0' := fun isZero => leading (congrArg some isZero)
      cases rest with
      | nil => exact .power isFirst nonzero isExponent
      | cons second rest =>
          exact .fractionPower isFirst nonzero (isDigits.drop 1 trailing (by simp))
            isExponent

/-- Digits that neither begin nor end with a zero have one of the forms when they are printed. -/
theorem numberForm_scriptDigits (isDigits : IsDigits digits) (leading : digits.head? ≠ some '0')
    (trailing : digits.getLast? ≠ some '0') (point : Int) :
    NumberForm (decide (¬ (-6 < point ∧ point ≤ 21))) (scriptDigits digits point) := by
  have hasDigits := List.length_pos_iff.mpr isDigits.ne_nil
  unfold scriptDigits
  split
  · rw [decide_eq_false (not_not_intro (by omega))]
    exact .whole (isDigits.append_zeros leading _)
  split
  · rw [decide_eq_false (not_not_intro (by omega))]
    exact .fraction (isDigits.take leading (by omega)) (isDigits.drop _ trailing (by omega))
  split
  · rw [decide_eq_false (not_not_intro (by omega))]
    exact .fraction (isWhole_toDigits 0) (isDigits.zeros_append trailing _)
  · rw [decide_eq_true (by omega)]
    exact numberForm_exponential isDigits leading trailing (isExponent_digits (by omega) _)

end Digits

/-- A text has the letter of the exponent only where it has an exponent. -/
theorem NumberForm.mem_iff {exponential : Bool} {body : List Char}
    (form : NumberForm exponential body) (negative : Bool) :
    'e' ∈ (if negative then ['-'] else []) ++ body ↔ exponential = true := by
  have noSign : 'e' ∉ (if negative then ['-'] else []) := by
    cases negative <;> decide
  have noDigit {digits : List Char} (isDigits : IsDigits digits) : 'e' ∉ digits :=
    fun isChar => nomatch isDigits.isDigit _ isChar
  rw [List.mem_append, or_iff_right noSign]
  cases form with
  | whole isWhole => exact iff_of_false (noDigit isWhole.toIsDigits) Bool.false_ne_true
  | fraction isWhole isFraction =>
      refine iff_of_false ?_ Bool.false_ne_true
      simp [noDigit isWhole.toIsDigits, noDigit isFraction.toIsDigits]
  | power => exact iff_of_true (by simp) rfl
  | fractionPower => exact iff_of_true (by simp) rfl

/-! ### The values -/

/-- A number has an exponent in its text: a double, not zero, below a millionth or from `10 ^ 21`
on. -/
def Number.IsExtreme (n : Number) (q : ℚ) : Prop :=
  (∃ x, n = .float x) ∧ (0 < |q| ∧ |q| < millionth.value ∨ 10 ^ 21 ≤ |q|)

/-- A number has all its digits in its text: an integer, or a whole double below `10 ^ 21`. -/
def Number.IsPlain (n : Number) (q : ℚ) : Prop :=
  (∃ i, n = .int i) ∨ ∃ i : Int, q = i ∧ |q| < 10 ^ 21

/-- A text from which a number with a value can be told. -/
structure Number.IsKeptBy (n : Number) (q : ℚ) (text : String) : Prop where
  /-- The text has one of the forms, with an exponent only if the number is extreme. -/
  form : ∃ (negative exponential : Bool) (body : List Char),
    text.toList = (if negative then ['-'] else []) ++ body ∧ NumberForm exponential body ∧
      (exponential = true ↔ n.IsExtreme q)
  /-- The text of a plain number denotes it. -/
  plain : n.IsPlain q → denoted? text = some q
  /-- The text of every other number denotes what the text denotes that keeps integers and doubles
  apart. -/
  others : ¬ n.IsPlain q → ∃ r, denoted? text = some r ∧ denoted? n.text = some r
  /-- An integer is read back. -/
  readInteger : ∀ i, n = .int i → readInteger? text = some i
  /-- A double is read back, either zero as plus zero. -/
  readDouble : ∀ v, n = .float (.finite v) →
    readDouble? text = some (if v.significand = 0 then .zero else .finite v)

variable {v : Finite}

private theorem value_eq (v : Finite) : v.value = (if v.negative then -1 else 1) * v.magnitude := by
  unfold Finite.value magnitude signedSteps
  cases v.negative <;> simp [neg_div]

private theorem abs_value (v : Finite) : |v.value| = v.magnitude := by
  have nonneg : 0 ≤ v.magnitude := by
    unfold magnitude
    positivity
  rw [value_eq, abs_mul, abs_of_nonneg nonneg]
  cases v.negative <;> simp

theorem isExtreme_iff : (Number.float (.finite v)).IsExtreme v.value ↔
    v.significand ≠ 0 ∧ (v.magnitude < millionth.magnitude ∨ 10 ^ 21 ≤ v.magnitude) := by
  have limit : millionth.value = millionth.magnitude := by
    rw [value_eq]
    exact one_mul _
  rw [Number.IsExtreme, and_iff_right ⟨_, rfl⟩, abs_value, limit]
  by_cases zero : v.significand = 0
  · rw [magnitude_of_zero zero]
    refine iff_of_false ?_ fun large => large.1 zero
    norm_num
  · rw [and_iff_right (magnitude_pos zero), and_iff_right zero]

private theorem value_integerNumeral (i : Int) : (Json.integerNumeral i).value = ⟨i.natAbs, 0⟩ := by
  simp [Numeral.value, Json.integerNumeral]

private theorem integerNumeral_chars (i : Int) :
    (Json.integerNumeral i).chars 0 = Nat.toDigits 10 i.natAbs :=
  List.append_nil _

/-- The text of an integer keeps it. -/
theorem isKeptBy_integerChars (i : Int) :
    (Number.int i).IsKeptBy i (String.ofList (integerChars i)) where
  form := by
    refine ⟨decide (i < 0), false, Nat.toDigits 10 i.natAbs, ?_, .whole (isWhole_toDigits _), ?_⟩
    · rw [String.toList_ofList, Json.integerChars_eq, integerNumeral_chars]
    · refine iff_of_false Bool.false_ne_true ?_
      rintro ⟨⟨x, isFloat⟩, -⟩
      cases isFloat
  plain := by
    intro _
    have signed : (if decide (i < 0) = true then -1 else 1) * (i.natAbs : ℚ) = i := by
      have signed := congrArg (Int.cast (R := ℚ)) (Json.signed_natAbs i)
      rw [← signed]
      split_ifs <;> simp
    rw [Json.integerChars_eq, denoted?_numeral, value_integerNumeral, Decimal.value_whole, signed]
  others := fun other => absurd (Or.inl ⟨i, rfl⟩) other
  readInteger := by
    intro j same
    cases same
    exact readInteger?_integerChars i
  readDouble := by
    intro v isFloat
    cases isFloat

private theorem isPlain_of_whole {n : Nat} (whole : v.magnitude = n) (small : n < 10 ^ 21) :
    (Number.float (.finite v)).IsPlain v.value := by
  refine Or.inr ⟨if v.negative then -(n : Int) else n, ?_, ?_⟩
  · rw [value_eq, whole]
    cases v.negative <;> simp
  · rw [abs_value, whole]
    exact_mod_cast small

private theorem not_isPlain (others : ∀ n : Nat, v.magnitude = n → 10 ^ 21 ≤ n) :
    ¬ (Number.float (.finite v)).IsPlain v.value := by
  rintro (⟨i, isInteger⟩ | ⟨i, isWhole, small⟩)
  · cases isInteger
  · have whole : v.magnitude = (i.natAbs : Nat) := by
      rw [← abs_value, isWhole, Nat.cast_natAbs, Int.cast_abs]
    rw [abs_value, whole] at small
    exact absurd (others _ whole) (Nat.not_le.mpr (by exact_mod_cast small))

/-- Either zero is printed as the integer. -/
theorem isKeptBy_of_zero (isZero : v.significand = 0) :
    (Number.float (.finite v)).IsKeptBy v.value "0" := by
  have whole : v.magnitude = (0 : Nat) := by
    rw [magnitude_of_zero isZero, Nat.cast_zero]
  have noValue : v.value = 0 := by
    rw [value_eq, magnitude_of_zero isZero, mul_zero]
  have read : readDouble? "0" = some .zero := by decide +kernel
  refine ⟨⟨false, false, ['0'], rfl, .whole (isWhole_toDigits 0), ?_⟩, fun _ => ?_,
    fun other => absurd (isPlain_of_whole whole (by decide)) other, fun _ isInteger => ?_, ?_⟩
  · exact iff_of_false Bool.false_ne_true fun extreme => (isExtreme_iff.mp extreme).1 isZero
  · rw [noValue]
    exact (isKeptBy_integerChars 0).plain (Or.inl ⟨0, rfl⟩)
  · cases isInteger
  · intro w same
    cases same
    rw [if_pos isZero]
    exact read

/-- A whole double is printed with all its digits. -/
theorem isKeptBy_of_whole {n : Nat} (nonzero : v.significand ≠ 0) (whole : v.magnitude = n)
    (small : n < 10 ^ 21) (isText : (Number.float (.finite v)).cssText =
      String.ofList ((if v.negative then ['-'] else []) ++ Nat.toDigits 10 n)) :
    (Number.float (.finite v)).IsKeptBy v.value (Number.float (.finite v)).cssText := by
  have form : NumberForm false (Nat.toDigits 10 n) := .whole (isWhole_toDigits n)
  have digits : (Json.integerNumeral n).chars 0 = Nat.toDigits 10 n := integerNumeral_chars n
  have isValue : (Decimal.mk n 0).value = v.magnitude := by
    rw [Decimal.value_whole, whole]
  have numeral : (Json.integerNumeral n).value = ⟨n, 0⟩ := value_integerNumeral n
  refine ⟨⟨v.negative, false, _, ?_, form, ?_⟩, fun _ => ?_,
    fun other => absurd (isPlain_of_whole whole small) other, fun _ isInteger => ?_, ?_⟩
  · rw [isText, String.toList_ofList]
  · rw [isExtreme_iff, ← mem_cssText_iff, isText, String.toList_ofList, form.mem_iff]
  · rw [isText, ← digits, denoted?_numeral, numeral, isValue, value_eq]
  · cases isInteger
  · intro w same
    cases same
    rw [isText, ← digits, readDouble?_numeral, numeral, if_neg nonzero]
    exact congrArg some (of_decide_eq_true (isReadBy_of_value nonzero isValue))

/-- Every other double is printed with its shortest digits. -/
theorem isKeptBy_of_shortest (nonzero : v.significand ≠ 0)
    (others : ∀ n : Nat, v.magnitude = n → 10 ^ 21 ≤ n)
    (isText : (Number.float (.finite v)).cssText = String.ofList
      ((if v.negative then ['-'] else []) ++
        scriptDigits v.shortest.digitChars (v.shortest.leadingExponent + 1))) :
    (Number.float (.finite v)).IsKeptBy v.value (Number.float (.finite v)).cssText := by
  have digits := digits_shortest_ne_zero nonzero
  have form : NumberForm _
      (scriptDigits v.shortest.digitChars (v.shortest.leadingExponent + 1)) :=
    numberForm_scriptDigits ⟨Nat.toDigits_ne_nil, isDigit_toDigits⟩
      (head?_toDigits_ne_zero (Nat.pos_of_ne_zero digits))
      (getLast?_toDigits (digits_shortest_mod nonzero)) _
  -- Both layouts show the same decimal number, with different counts of zeros behind it.
  obtain ⟨numeral, isNumeral, ⟨zeros, isPadded⟩, -⟩ :=
    Layout.css.shows_decimalChars v.plain_shortest
  obtain ⟨numeral', isNumeral', ⟨zeros', isPadded'⟩, -⟩ :=
    Layout.full.shows_decimalChars v.plain_shortest
  have isText' := isText
  rw [← decimalChars_css digits, isNumeral] at isText'
  have isRepr : (Number.float (.finite v)).text = String.ofList
      ((if v.negative then ['-'] else []) ++ numeral'.chars Layout.full.exponentWidth) := by
    rw [← isNumeral']
    rfl
  refine ⟨⟨v.negative, _, _, ?_, form, ?_⟩, fun isPlain => absurd isPlain (not_isPlain others),
    fun _ => ?_, fun _ isInteger => ?_, ?_⟩
  · rw [isText, String.toList_ofList]
  · rw [isExtreme_iff, ← mem_cssText_iff, isText, String.toList_ofList, form.mem_iff]
  · rw [isText', isRepr, denoted?_numeral, denoted?_numeral, isPadded, isPadded',
      Decimal.value_padded, Decimal.value_padded]
    exact ⟨_, rfl, rfl⟩
  · cases isInteger
  · intro w same
    cases same
    rw [isText', readDouble?_numeral, isPadded, Decimal.toBinary64_padded, toBinary64_shortest,
      if_neg nonzero]

/-- The text of a finite number in style values keeps the number. -/
theorem Number.isKeptBy_cssText {n : Number} {q : ℚ} (isValue : n.value? = some q) :
    n.IsKeptBy q n.cssText := by
  cases n with
  | int i =>
      cases isValue
      exact isKeptBy_integerChars i
  | float x =>
      cases x with
      | nan => cases isValue
      | infinite negative => cases isValue
      | finite v =>
          cases isValue
          by_cases zero : v.significand = 0
          · rw [cssText_of_zero zero]
            exact isKeptBy_of_zero zero
          rcases cssText_cases zero with ⟨n, isWhole, -, small, isText⟩ | ⟨others, isText⟩
          · exact isKeptBy_of_whole zero isWhole small isText
          · exact isKeptBy_of_shortest zero others isText

/-- The double nearest to a millionth, which has an exponent only in the text that keeps integers
and doubles apart. -/
theorem Number.isKeptBy_cssText_of_millionth :
    (Number.float (.finite millionth)).value? = some millionth.value ∧
      (Number.float (.finite millionth)).cssText = "0.000001" ∧
      (Number.float (.finite millionth)).text = "1e-06" ∧
      (Number.float (.finite millionth)).IsKeptBy millionth.value "0.000001" := by
  have isText : (Number.float (.finite millionth)).cssText = "0.000001" := by decide +kernel
  have isKept := Number.isKeptBy_cssText (Number.value?_finite millionth)
  rw [isText] at isKept
  exact ⟨Number.value?_finite millionth, isText, by decide +kernel, isKept⟩

end DesignCompiler
