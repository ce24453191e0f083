import DesignCompiler.Proofs.Json.Number

/-!
Contract: the texts of strings in JSON.

Owns:
- the three forms in which a character stands in a string;
- reading the text of a string back;
- the law that different strings have different texts, also in front of other text;
- the law that the text of a string or number stands on one line.

Does not own: the texts of objects, see `DesignCompiler.Proofs.Markup.Literal`.
-/

set_option autoImplicit false

namespace DesignCompiler.Json

/-- A character stands in a string as an escape by one letter, as an escape by its code unit, or as
itself. -/
theorem escapedChar_cases (c : Char) :
    (∃ letter, letter ≠ 'u' ∧ Reader.simpleEscape? letter = some c ∧
      escapedChar false c = ['\\', letter]) ∨
    (c.toNat < 0x20 ∧ escapedChar false c = unitEscape c.toNat) ∨
    (¬ c.toNat < 0x20 ∧ c ≠ '"' ∧ c ≠ '\\' ∧ escapedChar false c = [c]) := by
  unfold escapedChar
  split
  · exact Or.inl ⟨'"', by decide, rfl, rfl⟩
  · exact Or.inl ⟨'\\', by decide, rfl, rfl⟩
  · exact Or.inl ⟨'n', by decide, rfl, rfl⟩
  · exact Or.inl ⟨'r', by decide, rfl, rfl⟩
  · exact Or.inl ⟨'t', by decide, rfl, rfl⟩
  · exact Or.inl ⟨'b', by decide, rfl, rfl⟩
  · exact Or.inl ⟨'f', by decide, rfl, rfl⟩
  next noQuote noBackslash _ _ _ _ _ =>
    by_cases isControl : c.toNat < 0x20
    · exact Or.inr (Or.inl ⟨isControl, if_pos isControl⟩)
    · refine Or.inr (Or.inr ⟨isControl, noQuote, noBackslash, ?_⟩)
      rw [if_neg isControl, Bool.false_and, if_neg Bool.false_ne_true]

/-! ### Reading strings -/

private theorem hexValue_hexDigit {value : Nat} (isDigit : value < 16) :
    Text.hexValue (Text.hexDigit value) = some value := by
  revert value
  decide

/-- The four digits of a code unit are read as this unit. -/
theorem exists_unitEscape {unit : Nat} (isUnit : unit < 0x10000) :
    ∃ a b c d, unitEscape unit = ['\\', 'u', a, b, c, d] ∧ Reader.unit? a b c d = some unit := by
  refine ⟨_, _, _, _, rfl, ?_⟩
  have digit (n : Nat) : Text.hexValue (Text.hexDigit (n % 16)) = some (n % 16) :=
    hexValue_hexDigit (Nat.mod_lt n (by decide))
  simp only [Reader.unit?, digit, Option.bind_eq_bind, Option.bind_some]
  congr 1
  omega

namespace Reader

private theorem charOfUnit_toNat (c : Char) : charOfUnit c.toNat = c := by
  have isChar : c.toNat.isValidChar := c.valid
  rw [charOfUnit, Text.charOfCodePoint, if_pos isChar, Option.getD_some, Char.ofNat_toNat]

private theorem readEscape_letter (opening : List Char) {letter c : Char} (noUnit : letter ≠ 'u')
    (isEscape : simpleEscape? letter = some c) (rest : List Char) :
    readEscape opening ('\\' :: letter :: rest) = .ok (c, rest) := by
  unfold readEscape
  split
  next isUnit =>
    cases isUnit
    exact absurd rfl noUnit
  next isLetter =>
    cases isLetter
    rw [isEscape]
  next noLetter => exact absurd rfl (noLetter '\\' letter rest)

/-- A code unit below the surrogates is read without regard to what follows. -/
theorem readEscape_unit (opening : List Char) {c : Char} (isLow : c.toNat < 0x20)
    {rest : List Char} (goesOn : rest ≠ []) :
    readEscape opening (unitEscape c.toNat ++ rest) = .ok (c, rest) := by
  obtain ⟨x, y, z, w, isText, isUnit⟩ := exists_unitEscape (isLow.trans (by decide))
  have noSurrogate : isHighSurrogate c.toNat = false := by
    simp only [isHighSurrogate, Bool.and_eq_false_iff, decide_eq_false_iff_not]
    omega
  obtain ⟨next, others, rfl⟩ := List.exists_cons_of_ne_nil goesOn
  have digits : readUnit ('u' :: x :: y :: z :: w :: next :: others) =
      .ok (c.toNat, next :: others) := by
    simp only [readUnit, isUnit]
  rw [isText]
  simp only [List.cons_append, List.nil_append, readEscape, digits, bind, Except.bind]
  split
  · simp only [noSurrogate, Bool.false_and, Bool.false_eq_true, if_false, charOfUnit_toNat]
  · rw [charOfUnit_toNat]

/-- A written character is read back, and reading goes on after it. -/
theorem readStringChars_escapedChar (opening : List Char) (fuel : Nat) (c : Char)
    {rest : List Char} (goesOn : rest ≠ []) :
    readStringChars opening (fuel + 1) (escapedChar false c ++ rest) =
      (readStringChars opening fuel rest).map fun read => (c :: read.1, read.2) := by
  have noQuote : '\\' ≠ '"' := by decide
  have goOn : (readStringChars opening fuel rest >>= fun read => .ok (c :: read.1, read.2)) =
      (readStringChars opening fuel rest).map fun read => (c :: read.1, read.2) := by
    cases readStringChars opening fuel rest <;> rfl
  rcases escapedChar_cases c with ⟨letter, noUnit, isEscape, isText⟩ | ⟨isControl, isText⟩ |
    ⟨noControl, isInside, noBackslash, isText⟩
  · rw [isText, ← goOn]
    show readStringChars opening (fuel + 1) ('\\' :: letter :: rest) = _
    rw [readStringChars, if_neg noQuote, if_pos rfl,
      readEscape_letter opening noUnit isEscape rest]
    rfl
  · have read := readEscape_unit opening isControl goesOn
    rw [isText, ← goOn]
    rw [unitEscape] at read ⊢
    rw [List.cons_append] at read ⊢
    rw [readStringChars, if_neg noQuote, if_pos rfl, read]
    rfl
  · rw [isText, ← goOn, List.singleton_append, readStringChars, if_neg isInside,
      if_neg noBackslash, if_neg noControl]

/-- The characters of a written string are read back, and the closing mark ends them. -/
theorem readStringChars_chars (opening rest : List Char) (cs : List Char) {fuel : Nat}
    (enough : cs.length < fuel) :
    readStringChars opening fuel (cs.flatMap (escapedChar false) ++ '"' :: rest) =
      .ok (cs, rest) := by
  induction cs generalizing fuel with
  | nil =>
      obtain ⟨fuel, rfl⟩ := Nat.exists_eq_add_one.mpr enough
      rw [List.flatMap_nil, List.nil_append, readStringChars, if_pos rfl]
  | cons c cs inductionHypothesis =>
      obtain ⟨fuel, rfl⟩ := Nat.exists_eq_add_one_of_ne_zero (Nat.ne_zero_of_lt enough)
      have goesOn : cs.flatMap (escapedChar false) ++ '"' :: rest ≠ [] :=
        List.append_ne_nil_of_right_ne_nil _ (List.cons_ne_nil _ _)
      rw [List.flatMap_cons, List.append_assoc, readStringChars_escapedChar opening fuel c goesOn,
        inductionHypothesis (Nat.lt_of_succ_lt_succ enough)]
      rfl

/-- A written string is read back. -/
theorem readString_stringChars (s : String) (rest : List Char) {fuel : Nat}
    (enough : s.toList.length < fuel) :
    readString fuel (stringChars false s ++ rest) = .ok (s, rest) := by
  have chars := readStringChars_chars (stringChars false s ++ rest) rest s.toList enough
  have tail : (stringChars false s ++ rest).tail =
      s.toList.flatMap (escapedChar false) ++ '"' :: rest := by
    simp [stringChars]
  rw [readString, tail, chars]
  show Except.ok (String.ofList s.toList, rest) = _
  rw [String.ofList_toList]

end Reader

/-! ### Texts of strings -/

/-- Different strings have different texts, whatever follows. -/
theorem stringChars_append {s t : String} {rest rest' : List Char}
    (same : stringChars false s ++ rest = stringChars false t ++ rest') : s = t ∧ rest = rest' := by
  have left := Reader.readString_stringChars s rest
    (Nat.lt_succ_of_le (Nat.le_max_left s.toList.length t.toList.length))
  have right := Reader.readString_stringChars t rest'
    (Nat.lt_succ_of_le (Nat.le_max_right s.toList.length t.toList.length))
  rw [same, right] at left
  cases left
  exact ⟨rfl, rfl⟩

private theorem escapedChar_ne_newline (c : Char) : '\n' ∉ escapedChar false c := by
  rcases escapedChar_cases c with ⟨letter, -, isEscape, isText⟩ | ⟨isControl, isText⟩ |
    ⟨noControl, -, -, isText⟩
  · rw [isText]
    simp only [List.mem_cons, List.not_mem_nil, or_false, not_or]
    refine ⟨by decide, ?_⟩
    rintro rfl
    cases isEscape
  · rw [isText]
    have digits : ∀ unit < 0x20, '\n' ∉ unitEscape unit := by decide
    exact digits _ isControl
  · rw [isText, List.mem_singleton]
    rintro rfl
    exact noControl (by decide)

/-- The text of a string stands on one line. -/
theorem newline_notMem_stringChars (s : String) : '\n' ∉ stringChars false s := by
  intro isChar
  simp only [stringChars, List.mem_append, List.mem_cons, List.mem_flatMap, List.not_mem_nil,
    or_false] at isChar
  rcases isChar with (isQuote | ⟨c, -, isEscape⟩) | isQuote
  · cases isQuote
  · exact escapedChar_ne_newline c isEscape
  · cases isQuote

/-- The text of a number stands on one line. -/
theorem newline_notMem_numberChars (n : Number) : '\n' ∉ numberChars n := by
  intro isChar
  cases isNumberChar_numberChars n '\n' isChar

/-- The text of a number is not that of a string, whatever follows. -/
theorem numberChars_append_ne_stringChars (n : Number) (s : String) (rest rest' : List Char) :
    numberChars n ++ rest ≠ stringChars false s ++ rest' := by
  intro same
  obtain ⟨first, others, text⟩ := List.exists_cons_of_ne_nil (numberChars_ne_nil n)
  have isNumber := isNumberChar_numberChars n first (text ▸ List.mem_cons_self)
  rw [text] at same
  cases (List.cons.inj same).1
  cases isNumber

end DesignCompiler.Json
