import DesignCompiler.Number.Literal
import DesignCompiler.Proofs.Json.Number
import DesignCompiler.Proofs.Number.Nearest
import DesignCompiler.Proofs.Text.Part

/-!
Contract: reading the texts of numbers as people write them.

Owns:
- `Literal.value` and `denoted?`, the rational number that a text denotes;
- the law that the text of a numeral is taken apart into its digits and its exponent, and so read as
  the double nearest to its value;
- reading the text of an integer back;
- the law that a text with a comma in it is no number.

Does not own: which numerals the texts of numbers are, see `DesignCompiler.Proofs.Number.Numeral`.
-/

set_option autoImplicit false

namespace DesignCompiler

def Literal.value (l : Literal) : ℚ :=
  (if l.negative then -1 else 1) *
    (Decimal.mk (Nat.ofDigitChars 10 (l.whole ++ l.fraction) 0)
      (l.exponent - l.fraction.length)).value

/-- The rational number that a text denotes, none if the text is no numeral. -/
def denoted? (text : String) : Option ℚ :=
  (Literal.read? text.toList).map Literal.value

/-! ### Taking numerals apart -/

private theorem splitSign_digits {digits : List Char} (notNil : digits ≠ [])
    (isDigit : ∀ c ∈ digits, c.isDigit = true) (negative : Bool) (rest : List Char) :
    splitSign ((if negative then ['-'] else []) ++ (digits ++ rest)) =
      (negative, digits ++ rest) := by
  cases negative with
  | true => rfl
  | false =>
      cases digits with
      | nil => exact absurd rfl notNil
      | cons first others =>
          have isFirst := isDigit first List.mem_cons_self
          show splitSign (first :: (others ++ rest)) = _
          unfold splitSign
          split
          next isSign =>
            cases isSign
            cases isFirst
          next isSign =>
            cases isSign
            cases isFirst
          · rfl

private theorem digitsValue?_digits {digits : List Char} (notNil : digits ≠ [])
    (isDigit : ∀ c ∈ digits, c.isDigit = true) :
    digitsValue? digits = some (Nat.ofDigitChars 10 digits 0) := by
  have all := List.all_eq_true.mpr isDigit
  simp [digitsValue?, notNil, all]

private theorem signedDigits?_of_splitSign {cs digits : List Char} {i : Int}
    (sign : splitSign cs = (decide (i < 0), digits)) (notNil : digits ≠ [])
    (isDigit : ∀ c ∈ digits, c.isDigit = true) (value : Nat.ofDigitChars 10 digits 0 = i.natAbs) :
    signedDigits? cs = some i := by
  rw [signedDigits?, sign]
  simp only [digitsValue?_digits notNil isDigit, value]
  exact congrArg some (Json.signed_natAbs i)

private theorem signedDigits?_exponentChars (width : Nat) (exponent : Int) :
    signedDigits? (Layout.exponentChars width exponent) = some exponent := by
  obtain ⟨digits, parts, notNil, isDigit, value⟩ := Layout.exists_exponentDigits width exponent
  refine signedDigits?_of_splitSign ?_ notNil isDigit value
  rw [parts]
  by_cases negative : exponent < 0 <;> simp [negative, splitSign]

/-- The text of an integer is read as this integer. -/
theorem signedDigits?_integerChars (i : Int) : signedDigits? (integerChars i) = some i := by
  have notNil : Nat.toDigits 10 i.natAbs ≠ [] := Nat.toDigits_ne_nil
  refine signedDigits?_of_splitSign ?_ notNil isDigit_toDigits Nat.ofDigitChars_ten_toDigits
  have sign := splitSign_digits notNil isDigit_toDigits (decide (i < 0)) []
  have digits : (Json.integerNumeral i).chars 0 = Nat.toDigits 10 i.natAbs := List.append_nil _
  rw [List.append_nil] at sign
  rw [Json.integerChars_eq, digits]
  exact sign

private theorem Literal.readExponent?_elim (exponent : Option Int) (width : Nat) :
    Literal.readExponent? (exponent.elim [] fun e => 'e' :: Layout.exponentChars width e) =
      some (exponent.getD 0) := by
  cases exponent with
  | none => rfl
  | some e => exact signedDigits?_exponentChars width e

/-- The text of a numeral is taken apart again. -/
theorem Literal.read?_numeral (numeral : Numeral) (negative : Bool) (width : Nat) :
    Literal.read? ((if negative then ['-'] else []) ++ numeral.chars width) =
      some ⟨negative, numeral.whole, numeral.fraction, numeral.exponent.getD 0⟩ := by
  have sign := splitSign_digits numeral.whole_ne_nil numeral.isDigit_whole negative
    (numeral.tail width)
  have ends := Json.Reader.head?_tail numeral width Json.endsNumber_nil
  have behind := Json.Reader.head?_exponent numeral.exponent width Json.endsNumber_nil
  have exponent := Literal.readExponent?_elim numeral.exponent width
  rw [List.append_nil] at ends behind
  have whole := Text.takeWhile_append_of_end numeral.isDigit_whole ends
  have others := Text.dropWhile_append_of_end numeral.isDigit_whole ends
  have notEmpty : numeral.whole.isEmpty = false := by
    simp [numeral.whole_ne_nil]
  unfold Literal.read? Numeral.chars
  simp only [sign, whole, others, notEmpty, Bool.false_and, Bool.false_eq_true, if_false]
  unfold Numeral.tail
  generalize numeral.exponent.elim [] (fun e => 'e' :: Layout.exponentChars width e) = rest at *
  by_cases noFraction : numeral.fraction = []
  · rw [if_pos noFraction, List.nil_append, noFraction]
    split
    · exact absurd rfl (behind '.' rfl).2
    · rw [exponent, Option.map_some]
  · have isFraction : ∀ c ∈ rest.head?, c.isDigit = false := fun c isFirst => (behind c isFirst).1
    rw [if_neg noFraction, List.cons_append]
    simp only [Text.takeWhile_append_of_end numeral.isDigit_fraction isFraction,
      Text.dropWhile_append_of_end numeral.isDigit_fraction isFraction, exponent, Option.map_some]

theorem denoted?_numeral (numeral : Numeral) (negative : Bool) (width : Nat) :
    denoted? (String.ofList ((if negative then ['-'] else []) ++ numeral.chars width)) =
      some ((if negative then -1 else 1) * numeral.value.value) := by
  rw [denoted?, String.toList_ofList, Literal.read?_numeral]
  rfl

/-! ### Reading numerals -/

def IsNumeralChar (c : Char) : Prop :=
  c.isDigit = true ∨ c ∈ ['-', '+', '.', 'e']

/-- What can be tested of all these characters holds for each of them. -/
theorem IsNumeralChar.elim {motive : Char → Prop} [DecidablePred motive]
    (digits : (List.range' 48 10).all fun code => decide (motive (Char.ofNat code)))
    (others : ['-', '+', '.', 'e'].all fun c => decide (motive c)) {c : Char}
    (isChar : IsNumeralChar c) : motive c := by
  rcases isChar with isDigit | isOther
  · obtain ⟨least, most⟩ := Char.isDigit_iff_toNat.mp isDigit
    have isCode : c.toNat ∈ List.range' 48 10 :=
      List.mem_range'_1.mpr ⟨least, Nat.lt_succ_of_le most⟩
    have ofCode := of_decide_eq_true (List.all_eq_true.mp digits c.toNat isCode)
    rwa [Char.ofNat_toNat] at ofCode
  · exact of_decide_eq_true (List.all_eq_true.mp others c isOther)

private theorem dropSeparators_of_not_mem {afterDigit : Bool} {cs : List Char}
    (noSeparator : '_' ∉ cs) :
    dropSeparators afterDigit cs = some cs := by
  fun_induction dropSeparators afterDigit cs with
  | case1 => rfl
  | case2 => exact absurd List.mem_cons_self noSeparator
  | case3 => exact absurd List.mem_cons_self noSeparator
  | case4 _ first rest _ inductionHypothesis =>
      rw [inductionHypothesis (mt (List.mem_cons_of_mem first) noSeparator), Option.map_some]

/-- A numeral stays as it is when blanks and separators are removed. -/
theorem plainNumeral?_ofList {cs : List Char} (areChars : ∀ c ∈ cs, IsNumeralChar c) :
    plainNumeral? (String.ofList cs) = some cs := by
  have allPlain : ∀ c ∈ cs, Text.isWhiteSpace c = false ∧ asciiDigit c = c ∧ c ≠ '_' := by
    intro c isChar
    exact IsNumeralChar.elim
      (motive := fun c => Text.isWhiteSpace c = false ∧ asciiDigit c = c ∧ c ≠ '_')
      (by decide +kernel) (by decide +kernel) (areChars c isChar)
  have ascii : cs.map asciiDigit = cs :=
    (List.map_congr_left fun c isChar => (allPlain c isChar).2.1).trans (List.map_id' cs)
  rw [plainNumeral?, String.toList_ofList,
    Text.trimBy_of_forall fun c isChar => (allPlain c isChar).1, ascii,
    dropSeparators_of_not_mem fun isChar => (allPlain '_' isChar).2.2 rfl]

private theorem isNumeralChar_numeral (numeral : Numeral) (negative : Bool) (width : Nat) :
    ∀ c ∈ (if negative then ['-'] else []) ++ numeral.chars width, IsNumeralChar c := by
  refine List.forall_mem_append.mpr ⟨?_, List.forall_mem_append.mpr ⟨?_, ?_⟩⟩
  · cases negative <;> simp [IsNumeralChar]
  · exact fun c isChar => Or.inl (numeral.isDigit_whole c isChar)
  · exact Json.tail_chars numeral width

/-- The text of an integer is read as this integer. -/
theorem readInteger?_integerChars (i : Int) :
    readInteger? (String.ofList (integerChars i)) = some i := by
  have areChars : ∀ c ∈ integerChars i, IsNumeralChar c := by
    rw [Json.integerChars_eq]
    exact isNumeralChar_numeral _ _ 0
  rw [readInteger?, plainNumeral?_ofList areChars, Option.bind_some, signedDigits?_integerChars]

/-- What begins with a digit is not the name of a number. -/
theorem lower_ne_name {digits rest : List Char} {name : String} (notNil : digits ≠ [])
    (isDigit : ∀ c ∈ digits, c.isDigit = true)
    (noDigit : name.toList.head?.any Char.isDigit = false) :
    String.ofList ((digits ++ rest).map Char.toLower) ≠ name := by
  rintro rfl
  cases digits with
  | nil => exact notNil rfl
  | cons first others =>
      have isFirst := isDigit first List.mem_cons_self
      have lower : first.toLower = first :=
        IsNumeralChar.elim (motive := fun c => c.toLower = c) (by decide) (by decide)
          (Or.inl isFirst)
      rw [String.toList_ofList, List.cons_append, List.map_cons, List.head?_cons, Option.any_some,
        lower, isFirst] at noDigit
      cases noDigit

/-- The text of a numeral is read as the double nearest to its value. -/
theorem readDouble?_numeral (numeral : Numeral) (negative : Bool) (width : Nat) :
    readDouble? (String.ofList ((if negative then ['-'] else []) ++ numeral.chars width)) =
      some (numeral.value.toBinary64 negative) := by
  have sign := splitSign_digits numeral.whole_ne_nil numeral.isDigit_whole negative
    (numeral.tail width)
  have noName (name : String) (noDigit : name.toList.head?.any Char.isDigit = false) :
      String.ofList ((numeral.whole ++ numeral.tail width).map Char.toLower) ≠ name :=
    lower_ne_name numeral.whole_ne_nil numeral.isDigit_whole noDigit
  have notInf := noName "inf" (by decide)
  have notInfinity := noName "infinity" (by decide)
  have notNan := noName "nan" (by decide)
  rw [readDouble?, plainNumeral?_ofList (isNumeralChar_numeral numeral negative width),
    Option.bind_some, Binary64.read?, Literal.read?_numeral, Numeral.chars, sign]
  simp only [notInf, notInfinity, notNan, decide_false, Bool.or_false, Bool.false_eq_true,
    if_false, Option.map_some]
  rfl

/-! ### Texts that are no numbers -/

private theorem mem_dropSeparators {afterDigit : Bool} {cs kept : List Char} {c : Char}
    (dropped : dropSeparators afterDigit cs = some kept) (isChar : c ∈ cs) (other : c ≠ '_') :
    c ∈ kept := by
  fun_induction dropSeparators afterDigit cs generalizing kept with
  | case1 => cases isChar
  | case2 _ rest _ inductionHypothesis =>
      exact inductionHypothesis dropped ((List.mem_cons.mp isChar).resolve_left other)
  | case3 => cases dropped
  | case4 _ first rest _ inductionHypothesis =>
      obtain ⟨later, isLater, rfl⟩ := Option.map_eq_some_iff.mp dropped
      rcases List.mem_cons.mp isChar with rfl | isChar
      · exact List.mem_cons_self
      · exact List.mem_cons_of_mem _ (inductionHypothesis isLater isChar)

private theorem mem_splitSign {cs : List Char} {c : Char} (isChar : c ∈ cs) (noMinus : c ≠ '-')
    (noPlus : c ≠ '+') : c ∈ (splitSign cs).2 := by
  unfold splitSign
  split
  · exact (List.mem_cons.mp isChar).resolve_left noMinus
  · exact (List.mem_cons.mp isChar).resolve_left noPlus
  · exact isChar

private theorem signedDigits?_of_comma {cs : List Char} (comma : ',' ∈ cs) :
    signedDigits? cs = none := by
  have among := mem_splitSign comma (by decide) (by decide)
  have noDigits : digitsValue? (splitSign cs).2 = none := by
    unfold digitsValue?
    rw [if_neg]
    intro digits
    have all := (Bool.and_eq_true_iff.mp digits).2
    have isDigit := List.all_eq_true.mp all _ among
    revert isDigit
    decide
  simp only [signedDigits?, noDigits]
  rfl

private theorem readExponent?_of_comma {cs : List Char} (comma : ',' ∈ cs) :
    Literal.readExponent? cs = none := by
  unfold Literal.readExponent?
  split
  · cases comma
  · exact signedDigits?_of_comma ((List.mem_cons.mp comma).resolve_left (by decide))
  · exact signedDigits?_of_comma ((List.mem_cons.mp comma).resolve_left (by decide))
  · rfl

private theorem Literal.read?_of_comma {cs : List Char} (comma : ',' ∈ cs) :
    Literal.read? cs = none := by
  have among := Text.mem_dropWhile_of_not (p := Char.isDigit)
    (mem_splitSign comma (by decide) (by decide)) (by decide)
  unfold Literal.read?
  simp only
  generalize (splitSign cs).2.dropWhile Char.isDigit = behind at among ⊢
  split
  · next rest =>
      have behindPoint : ',' ∈ rest := (List.mem_cons.mp among).resolve_left (by decide)
      split
      · rfl
      · have inExponent := Text.mem_dropWhile_of_not (p := Char.isDigit) behindPoint (by decide)
        rw [readExponent?_of_comma inExponent, Option.map_none]
  · split
    · rfl
    · rw [readExponent?_of_comma among, Option.map_none]

/-- A text with a comma in it is no number. -/
theorem readDouble?_of_comma {text : String} (comma : ',' ∈ text.toList) :
    readDouble? text = none := by
  have plain : ∀ cs, plainNumeral? text = some cs → Binary64.read? cs = none := by
    intro cs isPlain
    have trimmed := Text.mem_trimBy (p := Text.isWhiteSpace) comma (by decide)
    have written : ',' ∈ (Text.trimBy Text.isWhiteSpace text.toList).map asciiDigit :=
      List.mem_map.mpr ⟨',', trimmed, by decide +kernel⟩
    have among := mem_dropSeparators isPlain written (by decide)
    have named (name : String) (noComma : ',' ∉ name.toList) :
        String.ofList ((splitSign cs).2.map Char.toLower) ≠ name := by
      rintro rfl
      rw [String.toList_ofList] at noComma
      exact noComma
        (List.mem_map.mpr ⟨',', mem_splitSign among (by decide) (by decide), by decide⟩)
    unfold Binary64.read?
    simp only
    rw [if_neg, if_neg (named "nan" (by decide)), Literal.read?_of_comma among, Option.map_none]
    simp only [Bool.or_eq_true, decide_eq_true_eq, not_or]
    exact ⟨named "inf" (by decide), named "infinity" (by decide)⟩
  unfold readDouble?
  cases isPlain : plainNumeral? text with
  | none => rfl
  | some cs => exact plain cs isPlain

end DesignCompiler
