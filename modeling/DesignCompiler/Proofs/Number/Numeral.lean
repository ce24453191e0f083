import DesignCompiler.Number.Layout
import DesignCompiler.Proofs.Number.Decimal

/-!
Contract: the texts of decimal numbers, taken apart.

Owns:
- `Numeral`, the digits before and after the point and the exponent, none of which is malformed;
- the law that every layout of a decimal number is the text of a numeral of the same value.

Does not own: reading numerals, see `DesignCompiler.Proofs.Json.Number`.
-/

set_option autoImplicit false

namespace DesignCompiler

theorem isDigit_toDigits {n : Nat} : ∀ c ∈ Nat.toDigits 10 n, c.isDigit = true :=
  fun _ isChar => Nat.isDigit_of_mem_toDigits (by decide) (by decide) isChar

/-- The digits of a positive number do not begin with a zero. -/
theorem head?_toDigits_ne_zero {n : Nat} (positive : 0 < n) :
    (Nat.toDigits 10 n).head? ≠ some '0' := by
  induction n using Nat.strongRecOn with
  | ind n inductionHypothesis =>
      rw [Nat.toDigits_eq_if (by decide)]
      split
      next small =>
        intro isZero
        have digit : n.digitChar = '0' := Option.some.inj isZero
        exact Nat.ne_of_gt positive (Nat.digitChar_eq_zero.mp digit)
      next large =>
        have ofQuotient := inductionHypothesis (n / 10) (by omega) (by omega)
        cases isDigits : Nat.toDigits 10 (n / 10) with
        | nil => exact absurd isDigits Nat.toDigits_ne_nil
        | cons first rest =>
            rw [isDigits] at ofQuotient
            exact ofQuotient

structure Numeral where
  whole : List Char
  fraction : List Char
  exponent : Option Int
  whole_ne_nil : whole ≠ []
  isDigit_whole : ∀ c ∈ whole, c.isDigit = true
  /-- Only a single zero begins with a zero. -/
  leading : whole = ['0'] ∨ whole.head? ≠ some '0'
  isDigit_fraction : ∀ c ∈ fraction, c.isDigit = true

namespace Numeral

def tail (numeral : Numeral) (width : Nat) : List Char :=
  (if numeral.fraction = [] then [] else '.' :: numeral.fraction) ++
    numeral.exponent.elim [] fun exponent => 'e' :: Layout.exponentChars width exponent

def chars (numeral : Numeral) (width : Nat) : List Char :=
  numeral.whole ++ numeral.tail width

def value (numeral : Numeral) : Decimal :=
  ⟨Nat.ofDigitChars 10 (numeral.whole ++ numeral.fraction) 0,
    numeral.exponent.getD 0 - numeral.fraction.length⟩

end Numeral

namespace Layout

variable {d : Decimal}

/-- The text of a decimal number is the one of a numeral of the same value. -/
def Shows (layout : Layout) (d : Decimal) (text : List Char) : Prop :=
  ∃ numeral : Numeral, text = numeral.chars layout.exponentWidth ∧
    (∃ zeros, numeral.value = d.padded zeros) ∧
    (layout.keepsFraction = true → numeral.fraction ≠ [] ∨ numeral.exponent ≠ none)

private theorem shows_exponentialChars (layout : Layout) (nonzero : d.digits ≠ 0) :
    layout.Shows d (layout.exponentialChars d) := by
  have digits := isDigit_toDigits (n := d.digits)
  have leading := head?_toDigits_ne_zero (Nat.pos_of_ne_zero nonzero)
  have value : Nat.ofDigitChars 10 (Nat.toDigits 10 d.digits) 0 = d.digits :=
    Nat.ofDigitChars_ten_toDigits
  have exponent : d.leadingExponent = d.exponent + (Nat.toDigits 10 d.digits).length - 1 := rfl
  unfold exponentialChars
  unfold Decimal.digitChars
  cases isDigits : Nat.toDigits 10 d.digits with
  | nil => exact absurd isDigits Nat.toDigits_ne_nil
  | cons first rest =>
      rw [isDigits] at digits leading value exponent
      obtain ⟨isFirst, areRest⟩ := List.forall_mem_cons.mp digits
      refine ⟨⟨[first], rest, some d.leadingExponent, List.cons_ne_nil _ _, ?_, Or.inr leading,
        areRest⟩, ?_, ⟨0, ?_⟩, ?_⟩
      · simpa using isFirst
      · cases rest <;> simp [Numeral.chars, Numeral.tail]
      · simp only [Numeral.value, List.singleton_append, value, Decimal.padded_zero]
        obtain ⟨digits, exponent⟩ := d
        simp only [Option.getD_some, Decimal.mk.injEq, true_and]
        simp only [List.length_cons] at exponent
        omega
      · intro _
        exact Or.inr (Option.some_ne_none _)

/-- Digits of which zeros make up the end. -/
theorem ofDigitChars_append_zeros (digits zeros : Nat) :
    Nat.ofDigitChars 10 (Nat.toDigits 10 digits ++ List.replicate zeros '0') 0 =
      digits * 10 ^ zeros := by
  rw [Nat.ofDigitChars_append, Nat.ofDigitChars_ten_toDigits, Nat.ofDigitChars_replicate_zero,
    Nat.mul_comm]

theorem isDigit_replicate_zero (zeros : Nat) :
    ∀ c ∈ List.replicate zeros '0', c.isDigit = true := by
  intro c isChar
  rw [List.eq_of_mem_replicate isChar]
  rfl

/-- An exponent is a sign and digits that make up its magnitude. -/
theorem exists_exponentDigits (width : Nat) (exponent : Int) :
    ∃ digits, exponentChars width exponent = (if exponent < 0 then '-' else '+') :: digits ∧
      digits ≠ [] ∧ (∀ c ∈ digits, c.isDigit = true) ∧
      Nat.ofDigitChars 10 digits 0 = exponent.natAbs := by
  refine ⟨List.replicate (width - (Nat.toDigits 10 exponent.natAbs).length) '0' ++
    Nat.toDigits 10 exponent.natAbs, rfl, ?_, ?_, ?_⟩
  · exact List.append_ne_nil_of_right_ne_nil _ Nat.toDigits_ne_nil
  · exact List.forall_mem_append.mpr ⟨isDigit_replicate_zero _, isDigit_toDigits⟩
  · rw [Nat.ofDigitChars_append, Nat.ofDigitChars_replicate_zero, Nat.mul_zero,
      Nat.ofDigitChars_ten_toDigits]

private theorem head?_toDigits_append (digits : Nat) (rest : List Char) :
    (Nat.toDigits 10 digits ++ rest).head? = (Nat.toDigits 10 digits).head? := by
  cases isDigits : Nat.toDigits 10 digits with
  | nil => exact absurd isDigits Nat.toDigits_ne_nil
  | cons first rest => rfl

/-- Digits with zeros after them, and a fraction of one zero if the layout keeps it. -/
theorem shows_integer (layout : Layout) {digits n : Nat} (plain : digits ≠ 0 ∨ n = 0) :
    layout.Shows ⟨digits, n⟩ (layout.positionalChars ⟨digits, n⟩) := by
  have zeros := isDigit_replicate_zero n
  have leading : Nat.toDigits 10 digits ++ List.replicate n '0' = ['0'] ∨
      (Nat.toDigits 10 digits ++ List.replicate n '0').head? ≠ some '0' := by
    rw [head?_toDigits_append]
    by_cases zero : digits = 0
    · have noZeros : n = 0 := plain.resolve_left (not_not_intro zero)
      rw [zero, noZeros]
      exact Or.inl rfl
    · exact Or.inr (head?_toDigits_ne_zero (Nat.pos_of_ne_zero zero))
  refine ⟨⟨Nat.toDigits 10 digits ++ List.replicate n '0',
    if layout.keepsFraction then ['0'] else [], none, ?_, ?_, leading, ?_⟩, ?_,
    ⟨n + (if layout.keepsFraction then 1 else 0), ?_⟩, ?_⟩
  · simp [Nat.toDigits_ne_nil]
  · exact List.forall_mem_append.mpr ⟨isDigit_toDigits, zeros⟩
  · split <;> simp
  · cases keeps : layout.keepsFraction <;>
      simp [positionalChars, Decimal.digitChars, Numeral.chars, Numeral.tail, keeps]
  · have value := ofDigitChars_append_zeros digits
    cases layout.keepsFraction with
    | false => simp [Numeral.value, Decimal.padded, value]
    | true =>
        have one : List.replicate n '0' ++ ['0'] = List.replicate (n + 1) '0' :=
          (List.replicate_succ').symm
        simp [Numeral.value, Decimal.padded, value, one]
  · intro keeps
    simp [keeps]

/-- The text of a decimal number without exponent, none of whose digits stand before the point. -/
theorem shows_small (layout : Layout) {digits places : Nat}
    (small : (Nat.toDigits 10 digits).length ≤ places) :
    layout.Shows ⟨digits, -places⟩ ('0' :: '.' ::
      List.replicate (places - (Nat.toDigits 10 digits).length) '0' ++ Nat.toDigits 10 digits) := by
  have zeros := isDigit_replicate_zero (places - (Nat.toDigits 10 digits).length)
  refine ⟨⟨['0'], List.replicate (places - (Nat.toDigits 10 digits).length) '0' ++
    Nat.toDigits 10 digits, none, List.cons_ne_nil _ _, by simp, Or.inl rfl, ?_⟩, ?_, ⟨0, ?_⟩, ?_⟩
  · exact List.forall_mem_append.mpr ⟨zeros, isDigit_toDigits⟩
  · simp [Numeral.chars, Numeral.tail, Nat.toDigits_ne_nil]
  · have value : Nat.ofDigitChars 10 (['0'] ++ (List.replicate
        (places - (Nat.toDigits 10 digits).length) '0' ++ Nat.toDigits 10 digits)) 0 = digits := by
      rw [Nat.ofDigitChars_append, Nat.ofDigitChars_append, Nat.ofDigitChars_replicate_zero]
      show Nat.ofDigitChars 10 _ (10 ^ _ * 0) = _
      rw [Nat.mul_zero, Nat.ofDigitChars_ten_toDigits]
    simp only [Numeral.value, value, Decimal.padded_zero, List.length_append,
      List.length_replicate, Option.getD_none, Decimal.mk.injEq, true_and]
    omega
  · intro _
    refine Or.inl ?_
    simp [Nat.toDigits_ne_nil]

/-- The text of a decimal number without exponent, with digits on both sides of the point. -/
theorem shows_mixed (layout : Layout) {digits places : Nat}
    (large : places < (Nat.toDigits 10 digits).length) (positive : 0 < places) :
    layout.Shows ⟨digits, -places⟩
      ((Nat.toDigits 10 digits).take ((Nat.toDigits 10 digits).length - places) ++
        '.' :: (Nat.toDigits 10 digits).drop ((Nat.toDigits 10 digits).length - places)) := by
  have nonzero : digits ≠ 0 := by
    rintro rfl
    rw [Nat.toDigits_zero, List.length_singleton] at large
    omega
  have isDigit := isDigit_toDigits (n := digits)
  have leading := head?_toDigits_ne_zero (Nat.pos_of_ne_zero nonzero)
  have value : Nat.ofDigitChars 10 (Nat.toDigits 10 digits) 0 = digits :=
    Nat.ofDigitChars_ten_toDigits
  generalize Nat.toDigits 10 digits = chars at large isDigit leading value ⊢
  have wholeLength : (chars.take (chars.length - places)).length = chars.length - places := by
    rw [List.length_take]
    omega
  have fractionLength : (chars.drop (chars.length - places)).length = places := by
    rw [List.length_drop]
    omega
  have hasFraction : chars.drop (chars.length - places) ≠ [] := by
    rw [← List.length_pos_iff, fractionLength]
    exact positive
  refine ⟨⟨chars.take (chars.length - places), chars.drop (chars.length - places), none, ?_,
    fun c isChar => isDigit c (List.mem_of_mem_take isChar), Or.inr ?_,
    fun c isChar => isDigit c (List.mem_of_mem_drop isChar)⟩, ?_, ⟨0, ?_⟩, ?_⟩
  · rw [← List.length_pos_iff, wholeLength]
    omega
  · rw [List.head?_take, if_neg (by omega)]
    exact leading
  · simp only [Numeral.chars, Numeral.tail, hasFraction, if_false, Option.elim_none,
      List.append_nil]
  · simp only [Numeral.value, List.take_append_drop, value, fractionLength, Decimal.padded_zero,
      Option.getD_none, Int.zero_sub]
  · intro _
    exact Or.inl hasFraction

private theorem shows_positionalChars (layout : Layout) (plain : d.digits ≠ 0 ∨ d.exponent = 0) :
    layout.Shows d (layout.positionalChars d) := by
  obtain ⟨digits, exponent⟩ := d
  cases exponent with
  | ofNat n => exact shows_integer layout (plain.imp_right Int.ofNat_eq_zero.mp)
  | negSucc n =>
      show layout.Shows ⟨digits, -(n + 1 : Nat)⟩ (positionalChars layout ⟨digits, .negSucc n⟩)
      unfold positionalChars Decimal.digitChars
      simp only
      split
      next small => exact shows_small layout small
      next large => exact shows_mixed layout (Nat.lt_of_not_le large) (Nat.succ_pos n)

/-- Every layout of a decimal number is the text of a numeral of the same value. -/
theorem shows_decimalChars (layout : Layout) (plain : d.digits ≠ 0 ∨ d.exponent = 0) :
    layout.Shows d (layout.decimalChars d) := by
  unfold decimalChars
  split
  · exact shows_positionalChars layout plain
  next large => exact shows_exponentialChars layout fun zero => large (Or.inl zero)

/-! ### Where the point stands -/

theorem length_digitChars (d : Decimal) : 0 < d.digitChars.length :=
  List.length_pos_iff.mpr Nat.toDigits_ne_nil

private theorem positionalChars_eq {layout : Layout} (noFraction : layout.keepsFraction = false)
    (d : Decimal) :
    layout.positionalChars d =
      if d.digitChars.length ≤ d.leadingExponent + 1 then
        d.digitChars ++ List.replicate (d.leadingExponent + 1 - d.digitChars.length).toNat '0'
      else if 0 < d.leadingExponent + 1 then
        d.digitChars.take (d.leadingExponent + 1).toNat ++
          '.' :: d.digitChars.drop (d.leadingExponent + 1).toNat
      else '0' :: '.' :: List.replicate (-(d.leadingExponent + 1)).toNat '0' ++ d.digitChars := by
  have point : d.leadingExponent + 1 = d.exponent + d.digitChars.length := Int.sub_add_cancel _ _
  rw [point]
  unfold positionalChars
  simp only [noFraction, Bool.false_eq_true, if_false, List.append_nil]
  generalize d.digitChars = chars
  cases d.exponent with
  | ofNat zeros =>
      have behind : ((zeros : Int) + chars.length - chars.length).toNat = zeros := by omega
      simp only [Int.ofNat_eq_natCast]
      rw [if_pos (by omega), behind]
  | negSucc n =>
      have noZeros : ¬ (chars.length : Int) ≤ Int.negSucc n + chars.length := by omega
      simp only
      rw [if_neg noZeros]
      by_cases small : chars.length ≤ n + 1
      · have before : (-(Int.negSucc n + chars.length)).toNat = n + 1 - chars.length := by omega
        rw [if_pos small, if_neg (by omega), before]
      · have inside : (Int.negSucc n + chars.length).toNat = chars.length - (n + 1) := by omega
        rw [if_neg small, if_pos (by omega), inside]

private theorem exponentialChars_eq (layout : Layout) (d : Decimal) :
    layout.exponentialChars d =
      d.digitChars.take 1 ++ (if d.digitChars.length = 1 then [] else '.' :: d.digitChars.drop 1) ++
        'e' :: exponentChars layout.exponentWidth d.leadingExponent := by
  have hasDigits := length_digitChars d
  unfold exponentialChars
  cases isDigits : d.digitChars with
  | nil =>
      rw [isDigits] at hasDigits
      exact absurd hasDigits (Nat.lt_irrefl 0)
  | cons first rest => cases rest <;> simp

/-- The point stands behind so many digits, with zeros behind or in front of them where it stands
beside them.  Beyond the limits of the layout it stands behind the first digit, unless this is the
only one, and there is an exponent. -/
theorem decimalChars_eq {layout : Layout} (noFraction : layout.keepsFraction = false)
    (limits : layout.positionalFrom ≤ 0 ∧ 0 ≤ layout.exponentFrom) (nonzero : d.digits ≠ 0) :
    layout.decimalChars d =
      let digits := d.digitChars
      let point := d.leadingExponent + 1
      if digits.length ≤ point ∧ point ≤ layout.exponentFrom then
        digits ++ List.replicate (point - digits.length).toNat '0'
      else if 0 < point ∧ point ≤ layout.exponentFrom then
        digits.take point.toNat ++ '.' :: digits.drop point.toNat
      else if layout.positionalFrom < point ∧ point ≤ 0 then
        '0' :: '.' :: List.replicate (-point).toNat '0' ++ digits
      else
        digits.take 1 ++ (if digits.length = 1 then [] else '.' :: digits.drop 1) ++
          'e' :: exponentChars layout.exponentWidth (point - 1) := by
  have hasDigits := length_digitChars d
  unfold decimalChars
  simp only [nonzero, false_or, positionalChars_eq noFraction, exponentialChars_eq,
    Int.add_sub_cancel]
  by_cases positional :
      layout.positionalFrom ≤ d.leadingExponent ∧ d.leadingExponent < layout.exponentFrom
  · rw [if_pos positional]
    by_cases whole : d.digitChars.length ≤ d.leadingExponent + 1
    · rw [if_pos whole, if_pos ⟨whole, by omega⟩]
    · rw [if_neg whole, if_neg (not_and_of_not_left _ whole)]
      by_cases inside : 0 < d.leadingExponent + 1
      · rw [if_pos inside, if_pos ⟨inside, by omega⟩]
      · rw [if_neg inside, if_neg (not_and_of_not_left _ inside), if_pos (by omega)]
  · have notBehind : ¬ (d.digitChars.length ≤ d.leadingExponent + 1 ∧
        d.leadingExponent + 1 ≤ layout.exponentFrom) := by
      omega
    have notInside : ¬ (0 < d.leadingExponent + 1 ∧
        d.leadingExponent + 1 ≤ layout.exponentFrom) := by
      omega
    have notBefore : ¬ (layout.positionalFrom < d.leadingExponent + 1 ∧
        d.leadingExponent + 1 ≤ 0) := by
      omega
    rw [if_neg positional, if_neg notBehind, if_neg notInside, if_neg notBefore]

end Layout

/-- The shortest digits of zero have no exponent. -/
theorem Binary64.Finite.plain_shortest (value : Finite) :
    value.shortest.digits ≠ 0 ∨ value.shortest.exponent = 0 := by
  by_cases zero : value.significand = 0
  · refine Or.inr ?_
    unfold shortest
    rw [if_pos zero]
  · refine Or.inl fun noDigits => ?_
    have read := value.toBinary64_shortest
    unfold Decimal.toBinary64 at read
    rw [if_pos (Or.inl noDigits), ofRatio, Nat.zero_mul] at read
    have isZero : nearest value.negative 0 1 =
        .finite ⟨value.negative, 0, 0, by decide, by decide, Or.inl rfl⟩ := rfl
    rw [isZero] at read
    exact zero (congrArg Finite.significand (finite.inj read)).symm

end DesignCompiler
