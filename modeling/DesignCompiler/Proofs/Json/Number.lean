import DesignCompiler.Json.Reader
import DesignCompiler.Json.Text
import DesignCompiler.Proofs.Number.Numeral
import DesignCompiler.Proofs.Text.Part

/-!
Contract: the texts of numbers in JSON.

Owns:
- `EndsNumber`, the texts that no number goes on with;
- reading the text of a finite double, and that of an integer of not too many digits, back;
- the law that different numbers have different texts, also in front of other text.

Does not own: strings and values, see `DesignCompiler.Proofs.Json.Text`.
-/

set_option autoImplicit false

namespace DesignCompiler.Json

def isNumberChar (c : Char) : Bool :=
  c.isAlphanum || c == '.' || c == '+' || c == '-'

/-- No number goes on with a text. -/
def EndsNumber (rest : List Char) : Prop :=
  ∀ c ∈ rest.head?, isNumberChar c = false

theorem endsNumber_nil : EndsNumber [] :=
  nofun

theorem EndsNumber.of_cons {c : Char} (isEnd : isNumberChar c = false) (rest : List Char) :
    EndsNumber (c :: rest) := by
  intro first isFirst
  cases isFirst
  exact isEnd

private theorem EndsNumber.isDigit_eq_false {rest : List Char} (ends : EndsNumber rest) :
    ∀ c ∈ rest.head?, c.isDigit = false := by
  intro c isFirst
  have isEnd := ends c isFirst
  simp only [isNumberChar, Char.isAlphanum, Bool.or_eq_false_iff] at isEnd
  exact isEnd.1.1.1.2

/-- An integer is its magnitude with its sign. -/
theorem signed_natAbs (i : Int) :
    (if decide (i < 0) = true then -(i.natAbs : Int) else i.natAbs) = i := by
  split_ifs with negative
  · have := of_decide_eq_true negative
    omega
  · have := of_decide_eq_false (Bool.eq_false_iff.mpr negative)
    omega

/-! ### Reading numerals -/

namespace Reader

variable {rest : List Char}

private theorem splitWhole_numeral (numeral : Numeral)
    (ends : ∀ c ∈ rest.head?, c.isDigit = false) :
    splitWhole (numeral.whole ++ rest) = (numeral.whole, rest) := by
  rcases numeral.leading with zero | leading
  · rw [zero]
    rfl
  · have run := Text.takeWhile_append_of_end numeral.isDigit_whole ends
    have others := Text.dropWhile_append_of_end numeral.isDigit_whole ends
    cases whole : numeral.whole with
    | nil => exact absurd whole numeral.whole_ne_nil
    | cons first digits =>
        rw [whole] at leading run others
        have noZero : first ≠ '0' := fun isZero => leading (congrArg some isZero)
        unfold splitWhole
        split
        next isZero =>
          cases isZero
          exact absurd rfl noZero
        · rw [run, others]

private theorem head?_append_isDigit {digits : List Char} (notNil : digits ≠ [])
    (isDigit : ∀ c ∈ digits, c.isDigit = true) :
    (digits ++ rest).head?.any Char.isDigit = true := by
  cases digits with
  | nil => exact absurd rfl notNil
  | cons first digits => exact isDigit first List.mem_cons_self

private theorem splitFraction_digits {digits : List Char} (notNil : digits ≠ [])
    (isDigit : ∀ c ∈ digits, c.isDigit = true) (ends : ∀ c ∈ rest.head?, c.isDigit = false) :
    splitFraction ('.' :: digits ++ rest) = (digits, rest) := by
  have run := Text.takeWhile_append_of_end isDigit ends
  have others := Text.dropWhile_append_of_end isDigit ends
  have begins : (digits ++ rest).head?.any Char.isDigit = true :=
    head?_append_isDigit notNil isDigit
  rw [List.cons_append, splitFraction, if_pos begins, run, others]

private theorem splitFraction_of_ne (noPoint : ∀ c ∈ rest.head?, c ≠ '.') :
    splitFraction rest = ([], rest) := by
  unfold splitFraction
  split
  · exact absurd rfl (noPoint '.' rfl)
  · rfl

private theorem splitExponent_chars (width : Nat) (exponent : Int)
    (ends : ∀ c ∈ rest.head?, c.isDigit = false) :
    splitExponent ('e' :: Layout.exponentChars width exponent ++ rest) = (some exponent, rest) := by
  obtain ⟨digits, parts, notNil, isDigit, value⟩ := Layout.exists_exponentDigits width exponent
  have sign : splitSign (Layout.exponentChars width exponent ++ rest) =
      (decide (exponent < 0), digits ++ rest) := by
    rw [parts]
    by_cases negative : exponent < 0 <;> simp [negative, splitSign]
  have run := Text.takeWhile_append_of_end isDigit ends
  have others := Text.dropWhile_append_of_end isDigit ends
  have begins : (digits ++ rest).head?.any Char.isDigit = true :=
    head?_append_isDigit notNil isDigit
  rw [List.cons_append, splitExponent, if_pos (by decide), sign]
  simp only
  rw [if_pos begins, run, others, value]
  rw [signed_natAbs]

private theorem splitExponent_of_ne (noLetter : ∀ c ∈ rest.head?, c ≠ 'e' ∧ c ≠ 'E') :
    splitExponent rest = (none, rest) := by
  unfold splitExponent
  split
  next c rest =>
    obtain ⟨noLower, noUpper⟩ := noLetter c rfl
    simp [noLower, noUpper]
  · rfl

/-- The text of an exponent, in front of text that no number goes on with. -/
theorem head?_exponent (exponent : Option Int) (width : Nat) (ends : EndsNumber rest) :
    ∀ c ∈ (exponent.elim [] (fun e => 'e' :: Layout.exponentChars width e) ++ rest).head?,
      c.isDigit = false ∧ c ≠ '.' := by
  intro c isFirst
  cases exponent with
  | none =>
      refine ⟨ends.isDigit_eq_false c isFirst, ?_⟩
      rintro rfl
      cases ends _ isFirst
  | some e =>
      cases isFirst
      decide

private theorem splitFraction_tail (numeral : Numeral) (width : Nat) (ends : EndsNumber rest) :
    splitFraction (numeral.tail width ++ rest) = (numeral.fraction,
      numeral.exponent.elim [] (fun e => 'e' :: Layout.exponentChars width e) ++ rest) := by
  have first := head?_exponent numeral.exponent width ends
  unfold Numeral.tail
  rw [List.append_assoc]
  by_cases noFraction : numeral.fraction = []
  · rw [if_pos noFraction, noFraction, List.nil_append]
    exact splitFraction_of_ne fun c isFirst => (first c isFirst).2
  · rw [if_neg noFraction]
    exact splitFraction_digits noFraction numeral.isDigit_fraction
      fun c isFirst => (first c isFirst).1

private theorem splitExponent_elim (exponent : Option Int) (width : Nat) (ends : EndsNumber rest) :
    splitExponent (exponent.elim [] (fun e => 'e' :: Layout.exponentChars width e) ++ rest) =
      (exponent, rest) := by
  cases exponent with
  | none =>
      refine splitExponent_of_ne fun c isFirst => ⟨?_, ?_⟩ <;>
        · rintro rfl
          cases ends _ isFirst
  | some e => exact splitExponent_chars width e ends.isDigit_eq_false

theorem head?_tail (numeral : Numeral) (width : Nat) (ends : EndsNumber rest) :
    ∀ c ∈ (numeral.tail width ++ rest).head?, c.isDigit = false := by
  intro c isFirst
  unfold Numeral.tail at isFirst
  rw [List.append_assoc] at isFirst
  by_cases noFraction : numeral.fraction = []
  · rw [if_pos noFraction, List.nil_append] at isFirst
    exact (head?_exponent numeral.exponent width ends c isFirst).1
  · rw [if_neg noFraction] at isFirst
    cases isFirst
    rfl

/-- A numeral is read as an integer, if it is not too long, or with a fraction or an exponent as the
double nearest to its value. -/
theorem readNumber_chars (numeral : Numeral) (negative : Bool) (width : Nat)
    (ends : EndsNumber rest) :
    readNumber ((if negative then ['-'] else []) ++ numeral.chars width ++ rest) =
      if numeral.fraction.isEmpty && numeral.exponent.isNone then
        if maxIntegerDigits < numeral.whole.length then .error .longInteger
        else
          let n : Int := Nat.ofDigitChars 10 numeral.whole 0
          .ok (.int (if negative then -n else n), rest)
      else .ok (.float (numeral.value.toBinary64 negative), rest) := by
  have notEmpty : numeral.whole.isEmpty = false := by
    simp [numeral.whole_ne_nil]
  have whole := splitWhole_numeral numeral (head?_tail numeral width ends)
  have fraction := splitFraction_tail numeral width ends
  have exponent := splitExponent_elim numeral.exponent width ends
  rw [List.append_assoc, Numeral.chars, List.append_assoc]
  unfold readNumber
  split
  next sign unsigned isSigned =>
    have parts : (sign, unsigned) =
        (negative, numeral.whole ++ (numeral.tail width ++ rest)) := by
      rw [← isSigned]
      cases negative with
      | true => rfl
      | false =>
          split
          next others isMinus =>
            have digits := numeral.isDigit_whole
            have notNil := numeral.whole_ne_nil
            generalize numeral.whole = digitChars at isMinus digits notNil
            cases digitChars with
            | nil => exact absurd rfl notNil
            | cons first later =>
                have isDigit := digits first List.mem_cons_self
                cases isMinus
                cases isDigit
          · rfl
    cases parts
    simp only [whole, fraction, exponent, notEmpty, Bool.false_eq_true, if_false]
    rfl

/-- A numeral with a fraction or an exponent is read as the double nearest to its value. -/
theorem readNumber_numeral (numeral : Numeral) (negative : Bool) (width : Nat)
    (isDouble : numeral.fraction ≠ [] ∨ numeral.exponent ≠ none) (ends : EndsNumber rest) :
    readNumber ((if negative then ['-'] else []) ++ numeral.chars width ++ rest) =
      .ok (.float (numeral.value.toBinary64 negative), rest) := by
  have notInteger : (numeral.fraction.isEmpty && numeral.exponent.isNone) = false := by
    rcases isDouble with hasFraction | hasExponent
    · simp [hasFraction]
    · simp [Option.ne_none_iff_isSome.mp hasExponent]
  rw [readNumber_chars numeral negative width ends, notInteger, if_neg Bool.false_ne_true]

end Reader

/-! ### Texts of numbers -/

/-- The text of a finite double is a numeral that is read as this double. -/
theorem exists_numeral (value : Binary64.Finite) :
    ∃ numeral : Numeral, (numeral.fraction ≠ [] ∨ numeral.exponent ≠ none) ∧
      numberChars (.float (.finite value)) =
        (if value.negative then ['-'] else []) ++ numeral.chars 2 ∧
      numeral.value.toBinary64 value.negative = .finite value := by
  obtain ⟨numeral, isText, ⟨zeros, isPadded⟩, isDouble⟩ :=
    Layout.full.shows_decimalChars value.plain_shortest
  refine ⟨numeral, isDouble rfl, ?_, ?_⟩
  · show (if value.negative then ['-'] else []) ++ Layout.full.decimalChars value.shortest = _
    rw [isText]
    rfl
  · rw [isPadded, Decimal.toBinary64_padded, value.toBinary64_shortest]

/-- The text of a finite double is read as this double. -/
theorem readNumber_finite (value : Binary64.Finite) {rest : List Char} (ends : EndsNumber rest) :
    Reader.readNumber (numberChars (.float (.finite value)) ++ rest) =
      .ok (.float (.finite value), rest) := by
  obtain ⟨numeral, isDouble, isText, isValue⟩ := exists_numeral value
  rw [isText, Reader.readNumber_numeral numeral value.negative 2 isDouble ends, isValue]

def integerNumeral (i : Int) : Numeral where
  whole := Nat.toDigits 10 i.natAbs
  fraction := []
  exponent := none
  whole_ne_nil := Nat.toDigits_ne_nil
  isDigit_whole := isDigit_toDigits
  leading := by
    rcases Nat.eq_zero_or_pos i.natAbs with zero | positive
    · rw [zero]
      exact Or.inl rfl
    · exact Or.inr (head?_toDigits_ne_zero positive)
  isDigit_fraction := nofun

theorem integerChars_eq (i : Int) :
    integerChars i = (if decide (i < 0) then ['-'] else []) ++ (integerNumeral i).chars 0 := by
  have digits : (integerNumeral i).chars 0 = Nat.toDigits 10 i.natAbs := List.append_nil _
  rw [digits, integerChars]
  by_cases negative : i < 0 <;> simp [negative]

/-- The numbers that are read: an integer has not too many digits. -/
def IsReadable : Number → Prop
  | .int i => (Nat.toDigits 10 i.natAbs).length ≤ Reader.maxIntegerDigits
  | .float _ => True

instance : DecidablePred IsReadable
  | .int i => inferInstanceAs (Decidable ((Nat.toDigits 10 i.natAbs).length ≤ _))
  | .float _ => inferInstanceAs (Decidable True)

/-- The text of an integer is read as this integer. -/
theorem readNumber_integer {i : Int} (readable : IsReadable (.int i)) {rest : List Char}
    (ends : EndsNumber rest) :
    Reader.readNumber (numberChars (.int i) ++ rest) = .ok (.int i, rest) := by
  have short : ¬ Reader.maxIntegerDigits < (integerNumeral i).whole.length :=
    Nat.not_lt.mpr readable
  have isInteger : ((integerNumeral i).fraction.isEmpty && (integerNumeral i).exponent.isNone) =
      true := rfl
  have value : (Nat.ofDigitChars 10 (integerNumeral i).whole 0 : Int) = i.natAbs :=
    congrArg Nat.cast Nat.ofDigitChars_ten_toDigits
  show Reader.readNumber (integerChars i ++ rest) = _
  rw [integerChars_eq, Reader.readNumber_chars _ _ 0 ends, isInteger, if_pos rfl, if_neg short,
    value]
  simp only [signed_natAbs]

theorem ofDigitChars_lt {digits : List Char} (isDigit : ∀ c ∈ digits, c.isDigit = true) :
    Nat.ofDigitChars 10 digits 0 < 10 ^ digits.length := by
  have below (init : Nat) :
      Nat.ofDigitChars 10 digits init < (init + 1) * 10 ^ digits.length := by
    induction digits generalizing init with
    | nil => simp
    | cons first rest inductionHypothesis =>
        obtain ⟨isFirst, isRest⟩ := List.forall_mem_cons.mp isDigit
        have digit : first.toNat - '0'.toNat < 10 := by
          have bounds : 48 ≤ first.toNat ∧ first.toNat ≤ 57 := by
            simpa [Char.isDigit, Char.le_def, UInt32.le_iff_toNat_le] using isFirst
          have zero : '0'.toNat = 48 := rfl
          omega
        rw [Nat.ofDigitChars_cons, List.length_cons, Nat.pow_succ]
        calc _ < (10 * init + (first.toNat - '0'.toNat) + 1) * 10 ^ rest.length :=
              inductionHypothesis isRest _
          _ ≤ (10 * (init + 1)) * 10 ^ rest.length := Nat.mul_le_mul_right _ (by omega)
          _ = (init + 1) * (10 ^ rest.length * 10) := by ring
  simpa using below 0

private theorem isDigit_splitWhole (cs : List Char) :
    ∀ c ∈ (Reader.splitWhole cs).1, c.isDigit = true := by
  unfold Reader.splitWhole
  split
  · intro c isZero
    rw [List.mem_singleton.mp isZero]
    rfl
  · exact fun c inRun => List.all_eq_true.mp List.all_takeWhile c inRun

/-- A number that has been read can be read. -/
theorem isReadable_of_readNumber {cs rest : List Char} {n : Number}
    (read : Reader.readNumber cs = .ok (n, rest)) : IsReadable n := by
  unfold Reader.readNumber at read
  split at read
  rename_i negative unsigned _
  simp only at read
  split at read
  · cases read
  · split at read
    · split at read
      · cases read
      · rename_i short
        cases read
        have below := ofDigitChars_lt (isDigit_splitWhole unsigned)
        have magnitude : (if negative = true then
            -(Nat.ofDigitChars 10 (Reader.splitWhole unsigned).1 0 : Int)
            else Nat.ofDigitChars 10 (Reader.splitWhole unsigned).1 0).natAbs =
              Nat.ofDigitChars 10 (Reader.splitWhole unsigned).1 0 := by
          split_ifs <;> omega
        show (Nat.toDigits 10 (Int.natAbs _)).length ≤ Reader.maxIntegerDigits
        rw [magnitude, Nat.length_toDigits_le_iff (by decide) (by decide)]
        exact below.trans_le (Nat.pow_le_pow_right (by decide) (Nat.not_lt.mp short))
    · cases read
      trivial

/-- The characters of the text of an integer. -/
theorem integerChars_chars (i : Int) : ∀ c ∈ integerChars i, c.isDigit = true ∨ c = '-' := by
  intro c isChar
  unfold integerChars at isChar
  split at isChar
  · rcases List.mem_cons.mp isChar with isSign | isDigit
    · exact Or.inr isSign
    · exact Or.inl (isDigit_toDigits c isDigit)
  · exact Or.inl (isDigit_toDigits c isChar)

theorem tail_chars (numeral : Numeral) (width : Nat) :
    ∀ c ∈ numeral.tail width, c.isDigit = true ∨ c ∈ ['-', '+', '.', 'e'] := by
  have fraction : ∀ c ∈ (if numeral.fraction = [] then [] else '.' :: numeral.fraction),
      c.isDigit = true ∨ c ∈ ['-', '+', '.', 'e'] := by
    intro c isChar
    split at isChar
    · cases isChar
    · rcases List.mem_cons.mp isChar with rfl | isDigit
      · exact Or.inr (by decide)
      · exact Or.inl (numeral.isDigit_fraction c isDigit)
  have exponent (e : Int) : ∀ c ∈ 'e' :: Layout.exponentChars width e,
      c.isDigit = true ∨ c ∈ ['-', '+', '.', 'e'] := by
    intro c isChar
    unfold Layout.exponentChars at isChar
    simp only [List.cons_append, List.mem_cons, List.mem_append] at isChar
    rcases isChar with rfl | isSign | isZero | isDigit
    · exact Or.inr (by decide)
    · refine Or.inr ?_
      split at isSign <;> simp [isSign]
    · exact Or.inl (Layout.isDigit_replicate_zero _ c isZero)
    · exact Or.inl (isDigit_toDigits c isDigit)
  refine List.forall_mem_append.mpr ⟨fraction, ?_⟩
  cases numeral.exponent with
  | none => exact List.forall_mem_nil _
  | some e => exact exponent e

/-- The characters of the text of a finite double. -/
theorem finiteChars_chars (value : Binary64.Finite) :
    ∀ c ∈ numberChars (.float (.finite value)), c.isDigit = true ∨ c ∈ ['-', '+', '.', 'e'] := by
  obtain ⟨numeral, -, isText, -⟩ := exists_numeral value
  rw [isText]
  intro c isChar
  rcases List.mem_append.mp isChar with isSign | isChar
  · refine Or.inr ?_
    split at isSign
    · rw [List.mem_singleton.mp isSign]
      decide
    · cases isSign
  · rcases List.mem_append.mp isChar with isDigit | inTail
    · exact Or.inl (numeral.isDigit_whole c isDigit)
    · exact tail_chars numeral 2 c inTail

theorem isNumberChar_numberChars (n : Number) : ∀ c ∈ numberChars n, isNumberChar c = true := by
  have ofDigit {c : Char} (isDigit : c.isDigit = true) : isNumberChar c = true := by
    simp [isNumberChar, Char.isAlphanum, isDigit]
  intro c isChar
  rcases n with i | _ | negative | value
  · rcases integerChars_chars i c isChar with isDigit | rfl
    · exact ofDigit isDigit
    · rfl
  · have named : (numberChars (.float .nan)).all isNumberChar = true := by decide
    exact List.all_eq_true.mp named c isChar
  · have named : (numberChars (.float (.infinite negative))).all isNumberChar = true := by
      cases negative <;> decide
    exact List.all_eq_true.mp named c isChar
  · rcases finiteChars_chars value c isChar with isDigit | isOther
    · exact ofDigit isDigit
    · have others : ['-', '+', '.', 'e'].all isNumberChar = true := by decide
      exact List.all_eq_true.mp others c isOther

/-- The text of a double has a character that the texts of integers do not have. -/
theorem exists_char_of_float (value : Binary64) :
    ∃ c ∈ numberChars (.float value), c.isDigit = false ∧ c ≠ '-' := by
  cases value with
  | nan => exact ⟨'N', by decide, by decide⟩
  | infinite negative =>
      refine ⟨'I', ?_, by decide⟩
      cases negative <;> decide
  | finite value =>
      obtain ⟨numeral, isDouble, isText, -⟩ := exists_numeral value
      have inTail {c : Char} (isChar : c ∈ numeral.tail 2) :
          c ∈ numberChars (.float (.finite value)) := by
        rw [isText]
        exact List.mem_append_right _ (List.mem_append_right _ isChar)
      rcases isDouble with hasFraction | hasExponent
      · refine ⟨'.', inTail ?_, by decide⟩
        simp [Numeral.tail, hasFraction]
      · refine ⟨'e', inTail ?_, by decide⟩
        obtain ⟨e, isExponent⟩ := Option.ne_none_iff_exists'.mp hasExponent
        simp [Numeral.tail, isExponent]

private theorem integerChars_injective {i j : Int} (same : integerChars i = integerChars j) :
    i = j := by
  have noSign (n m : Nat) : '-' :: Nat.toDigits 10 n ≠ Nat.toDigits 10 m := by
    intro isDigits
    have isDigit := isDigit_toDigits (n := m) '-' (isDigits ▸ List.mem_cons_self)
    cases isDigit
  have digits {n m : Nat} (same : Nat.toDigits 10 n = Nat.toDigits 10 m) : n = m := by
    rw [← Nat.ofDigitChars_ten_toDigits (n := n), same, Nat.ofDigitChars_ten_toDigits]
  unfold integerChars at same
  split at same <;> split at same
  · have magnitude := digits (List.cons.inj same).2
    omega
  · exact absurd same (noSign _ _)
  · exact absurd same.symm (noSign _ _)
  · have magnitude := digits same
    omega

private theorem numberChars_int_ne_float (i : Int) (value : Binary64) :
    numberChars (.int i) ≠ numberChars (.float value) := by
  intro same
  obtain ⟨c, isChar, noDigit, noSign⟩ := exists_char_of_float value
  rw [← same] at isChar
  rcases integerChars_chars i c isChar with isDigit | isSign
  · rw [isDigit] at noDigit
    cases noDigit
  · exact noSign isSign

private theorem numberChars_finite_ne {value : Binary64.Finite} {c : Char} {text : List Char}
    (isChar : c ∈ text) (other : c.isDigit = false ∧ c ∉ ['-', '+', '.', 'e']) :
    numberChars (.float (.finite value)) ≠ text := by
  intro same
  rw [← same] at isChar
  rcases finiteChars_chars value c isChar with isDigit | isOther
  · rw [other.1] at isDigit
    cases isDigit
  · exact other.2 isOther

/-- Different numbers have different texts. -/
theorem numberChars_injective {a b : Number} (same : numberChars a = numberChars b) : a = b := by
  rcases a with i | value <;> rcases b with j | value'
  · exact congrArg Number.int (integerChars_injective same)
  · exact absurd same (numberChars_int_ne_float i value')
  · exact absurd same.symm (numberChars_int_ne_float j value)
  · have finiteNan (v : Binary64.Finite) :
        numberChars (.float (.finite v)) ≠ numberChars (.float .nan) :=
      numberChars_finite_ne (c := 'N') (by decide) (by decide)
    have finiteInfinite (v : Binary64.Finite) (negative : Bool) :
        numberChars (.float (.finite v)) ≠ numberChars (.float (.infinite negative)) :=
      numberChars_finite_ne (c := 'I') (by cases negative <;> decide) (by decide)
    have nanInfinite (negative : Bool) :
        numberChars (.float .nan) ≠ numberChars (.float (.infinite negative)) := by
      cases negative <;> decide
    rcases value with _ | negative | v <;> rcases value' with _ | negative' | v'
    · rfl
    · exact absurd same (nanInfinite negative')
    · exact absurd same.symm (finiteNan v')
    · exact absurd same.symm (nanInfinite negative)
    · cases negative <;> cases negative' <;> first
        | rfl
        | exact absurd same (by decide)
    · exact absurd same.symm (finiteInfinite v' negative)
    · exact absurd same (finiteNan v)
    · exact absurd same (finiteInfinite v negative')
    · have read := readNumber_finite v endsNumber_nil
      rw [same, readNumber_finite v' endsNumber_nil] at read
      cases read
      rfl

theorem numberChars_ne_nil (n : Number) : numberChars n ≠ [] := by
  cases n with
  | int i =>
      show integerChars i ≠ []
      unfold integerChars
      split
      · exact List.cons_ne_nil _ _
      · exact Nat.toDigits_ne_nil
  | float value =>
      obtain ⟨c, isChar, -⟩ := exists_char_of_float value
      exact List.ne_nil_of_mem isChar

/-- Different numbers have different texts, whatever follows that no number goes on with. -/
theorem numberChars_append {a b : Number} {rest rest' : List Char} (ends : EndsNumber rest)
    (ends' : EndsNumber rest') (same : numberChars a ++ rest = numberChars b ++ rest') :
    a = b ∧ rest = rest' := by
  obtain ⟨sameText, sameRest⟩ := Text.eq_of_append_eq_append (isNumberChar_numberChars a)
    (isNumberChar_numberChars b) ends ends' same
  exact ⟨numberChars_injective sameText, sameRest⟩

end DesignCompiler.Json
