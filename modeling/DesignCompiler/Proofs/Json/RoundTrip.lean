import DesignCompiler.Proofs.Json.Document
import DesignCompiler.Proofs.Json.Text

/-!
Contract: JSON texts are read back.

Owns:
- the law that a value which texts denote is read back from its own text, indented or on one line,
  also in front of other text.

The texts in question are those in which characters beyond ASCII stand for themselves.

Does not own: which values are denoted by texts, see `DesignCompiler.Proofs.Json.Document`.
-/

set_option autoImplicit false

namespace DesignCompiler.Json

/-! ### Gaps -/

private theorem isGap_gap (style : Style) (depth : Nat) :
    ∀ c ∈ style.gap depth, Reader.isGap c = true := by
  unfold Style.gap
  split
  · exact List.forall_mem_nil _
  · refine List.forall_mem_cons.mpr ⟨by decide, fun c isSpace => ?_⟩
    rw [List.eq_of_mem_replicate isSpace]
    decide

/-- A gap is skipped up to the first character that is not part of one. -/
theorem skipGap_append {gap rest : List Char} (isGap : ∀ c ∈ gap, Reader.isGap c = true)
    (solid : ∀ c ∈ rest.head?, Reader.isGap c = false) : Reader.skipGap (gap ++ rest) = rest :=
  Text.dropWhile_append_of_end isGap solid

private theorem skipGap_of_solid {text : List Char}
    (solid : ∀ c ∈ text.head?, Reader.isGap c = false) :
    Reader.skipGap text = text :=
  skipGap_append (List.forall_mem_nil _) solid

/-- Entries are separated by a comma and a gap. -/
theorem exists_separator (style : Style) (depth : Nat) :
    ∃ gap, style.separator depth = ',' :: gap ∧ ∀ c ∈ gap, Reader.isGap c = true := by
  unfold Style.separator
  split
  · exact ⟨[' '], rfl, List.all_eq_true.mp (by decide)⟩
  · exact ⟨style.gap depth, rfl, isGap_gap style depth⟩

/-- No number goes on with a gap and the bracket or brace after it. -/
theorem endsNumber_gap (style : Style) (depth : Nat) {closing : Char}
    (isEnd : isNumberChar closing = false) (rest : List Char) :
    EndsNumber (style.gap depth ++ closing :: rest) := by
  unfold Style.gap
  split
  · exact .of_cons isEnd rest
  · exact .of_cons (by decide) _

private theorem isGap_of_isNumberChar {c : Char} (isChar : isNumberChar c = true) :
    Reader.isGap c = false := by
  rw [Bool.eq_false_iff]
  intro gap
  simp only [Reader.isGap, Bool.or_eq_true, beq_iff_eq] at gap
  rcases gap with ((rfl | rfl) | rfl) | rfl <;> cases isChar

/-- The text of a value begins with a character that is no gap and closes nothing. -/
theorem exists_chars_eq_cons (style : Style) (depth : Nat) (value : Json) :
    ∃ first text, value.chars style depth = first :: text ∧ Reader.isGap first = false ∧
      first ≠ ']' := by
  rcases value with _ | _ | n | s | items | fields
  · exact ⟨_, _, by rw [chars], by decide, by decide⟩
  · rename_i value
    cases value
    · exact ⟨_, _, by rw [chars], by decide, by decide⟩
    · exact ⟨_, _, by rw [chars], by decide, by decide⟩
  · obtain ⟨first, text, isText⟩ := List.exists_cons_of_ne_nil (numberChars_ne_nil n)
    have isChar := isNumberChar_numberChars n first (isText ▸ List.mem_cons_self)
    refine ⟨first, text, by rw [chars, isText], isGap_of_isNumberChar isChar, ?_⟩
    rintro rfl
    cases isChar
  · exact ⟨_, _, by rw [chars, stringChars, List.cons_append], by decide, by decide⟩
  · cases items with
    | nil => exact ⟨_, _, by rw [chars], by decide, by decide⟩
    | cons => exact ⟨'[', _, by rw [chars]; rfl, by decide, by decide⟩
  · cases fields with
    | nil => exact ⟨_, _, by rw [chars], by decide, by decide⟩
    | cons => exact ⟨'{', _, by rw [chars]; rfl, by decide, by decide⟩

private theorem solid_chars (style : Style) (depth : Nat) (value : Json) (rest : List Char) :
    ∀ c ∈ (value.chars style depth ++ rest).head?, Reader.isGap c = false := by
  obtain ⟨first, text, isText, solid, -⟩ := exists_chars_eq_cons style depth value
  rw [isText]
  rintro c ⟨⟩
  exact solid

private theorem solid_stringChars (s : String) (rest : List Char) :
    ∀ c ∈ (stringChars false s ++ rest).head?, Reader.isGap c = false := by
  rintro c ⟨⟩
  decide

private theorem length_lt_stringChars (s : String) :
    s.toList.length < (stringChars false s).length := by
  have each : ∀ c, 1 ≤ (escapedChar false c).length := by
    intro c
    rcases escapedChar_cases c with ⟨letter, -, -, isText⟩ | ⟨-, isText⟩ | ⟨-, -, -, isText⟩
    · simp [isText]
    · simp [isText, unitEscape]
    · simp [isText]
  have all : s.toList.length ≤ (s.toList.flatMap (escapedChar false)).length := by
    induction s.toList with
    | nil => exact Nat.le_refl 0
    | cons c cs inductionHypothesis =>
        have first := each c
        rw [List.flatMap_cons, List.length_append, List.length_cons]
        omega
  simp only [stringChars, List.cons_append, List.length_cons, List.length_append]
  omega

namespace Reader

/-! ### Reading by the first character -/

private theorem readValue_quote (fuel : Nat) (rest : List Char) :
    readValue (fuel + 1) ('"' :: rest) =
      (readString fuel ('"' :: rest)).map fun read => (.string read.1, read.2) := by
  rw [readValue]
  cases readString fuel ('"' :: rest) <;> rfl

/-- After an opening bracket items are read, unless it is closed at once. -/
theorem readValue_bracket (fuel : Nat) {text : List Char}
    (opens : (skipGap text).head? ≠ some ']') :
    readValue (fuel + 1) ('[' :: text) =
      (readItems fuel (skipGap text)).map fun read => (.array read.1, read.2) := by
  rw [readValue]
  split
  · rename_i closed
    exact absurd (by rw [closed]; rfl) opens
  · cases readItems fuel (skipGap text) <;> rfl

/-- After an opening brace entries are read, unless it is closed at once. -/
theorem readValue_brace (fuel : Nat) {text : List Char} (opens : (skipGap text).head? ≠ some '}') :
    readValue (fuel + 1) ('{' :: text) =
      (readFields fuel [] (skipGap text)).map fun read => (.object read.1, read.2) := by
  rw [readValue]
  split
  · rename_i closed
    exact absurd (by rw [closed]; rfl) opens
  · cases readFields fuel [] (skipGap text) <;> rfl

/-- What begins with a digit, or with a minus sign that no name follows, is a number. -/
theorem readValue_number (fuel : Nat) {first : Char} {rest : List Char}
    (starts : first.isDigit = true ∨ first = '-' ∧ rest.head? ≠ some 'I') :
    readValue (fuel + 1) (first :: rest) =
      (readNumber (first :: rest)).map fun read => (.number read.1, read.2) := by
  rw [readValue]
  · cases readNumber (first :: rest) <;> rfl
  -- the other forms begin differently
  all_goals
    intro _ same
    cases same
    simp at starts

private theorem readValue_numeral (fuel : Nat) (numeral : Numeral) (negative : Bool) (width : Nat)
    (rest : List Char) :
    readValue (fuel + 1) ((if negative then ['-'] else []) ++ numeral.chars width ++ rest) =
      (readNumber ((if negative then ['-'] else []) ++ numeral.chars width ++ rest)).map
        fun read => (.number read.1, read.2) := by
  obtain ⟨first, others, whole⟩ := List.exists_cons_of_ne_nil numeral.whole_ne_nil
  have isDigit : first.isDigit = true :=
    numeral.isDigit_whole first (whole ▸ List.mem_cons_self)
  rw [Numeral.chars, whole]
  cases negative with
  | false => exact readValue_number fuel (Or.inl isDigit)
  | true =>
      refine readValue_number fuel (Or.inr ⟨rfl, ?_⟩)
      rintro ⟨⟩
      cases isDigit

/-- The text of a number is read as this number. -/
theorem readValue_numberChars (fuel : Nat) {n : Number} (readable : IsReadable n) {rest : List Char}
    (ends : EndsNumber rest) :
    readValue (fuel + 1) (numberChars n ++ rest) = .ok (.number n, rest) := by
  rcases n with i | _ | negative | value
  · have number := readNumber_integer readable ends
    have isText : numberChars (.int i) = _ := integerChars_eq i
    rw [isText] at number ⊢
    rw [readValue_numeral, number]
    rfl
  · rfl
  · cases negative <;> rfl
  · have number := readNumber_finite value ends
    obtain ⟨numeral, -, isText, -⟩ := exists_numeral value
    rw [isText] at number ⊢
    rw [readValue_numeral, number]
    rfl

private theorem readValue_stringChars (s : String) (rest : List Char) {fuel : Nat}
    (enough : s.toList.length < fuel) :
    readValue (fuel + 1) (stringChars false s ++ rest) = .ok (.string s, rest) := by
  have string := readString_stringChars s rest enough
  rw [stringChars, List.cons_append, List.cons_append] at string ⊢
  rw [readValue_quote, string]
  rfl

end Reader

/-! ### Values that are read back -/

/-- A value is read back from its text, whatever follows that no number goes on with. -/
def IsReadBack (style : Style) (value : Json) : Prop :=
  ∀ (depth fuel : Nat) (rest : List Char), EndsNumber rest →
    (value.chars style depth).length < fuel →
    Reader.readValue fuel (value.chars style depth ++ rest) = .ok (value, rest)

private theorem IsReadBack.of_succ {style : Style} {value : Json}
    (read : ∀ (depth fuel : Nat) (rest : List Char), EndsNumber rest →
      (value.chars style depth).length ≤ fuel →
      Reader.readValue (fuel + 1) (value.chars style depth ++ rest) = .ok (value, rest)) :
    IsReadBack style value := by
  intro depth fuel rest ends enough
  obtain ⟨fuel, rfl⟩ := Nat.exists_eq_add_one_of_ne_zero (Nat.ne_zero_of_lt enough)
  exact read depth fuel rest ends (Nat.le_of_lt_succ enough)

private theorem notMem_before {before : Fields} {entry : String × Json} {others : Fields}
    (distinct : ((before ++ entry :: others).map Prod.fst).Nodup) :
    entry.1 ∉ before.map Prod.fst := by
  intro isBefore
  rw [List.map_append, List.nodup_append] at distinct
  exact distinct.2.2 _ isBefore _ List.mem_cons_self rfl

section Entries

variable {style : Style} (depth closing : Nat) (rest : List Char)

/-- Items that are read back one by one are read back together. -/
theorem readItems_chars {first : Json} {others : List Json} {fuel : Nat}
    (each : ∀ item ∈ first :: others, IsReadBack style item)
    (enough : (first.chars style depth ++ itemsChars style depth others).length + 1 < fuel) :
    Reader.readItems fuel (first.chars style depth ++ (itemsChars style depth others ++
      (style.gap closing ++ ']' :: rest))) = .ok (first :: others, rest) := by
  -- along the items; the fuel stays ahead of the text, which loses a comma at least in every step
  induction others generalizing first fuel with
  | nil =>
      obtain ⟨fuel, rfl⟩ := Nat.exists_eq_add_one_of_ne_zero (Nat.ne_zero_of_lt enough)
      have ends : EndsNumber (style.gap closing ++ ']' :: rest) :=
        endsNumber_gap style closing (by decide) rest
      rw [itemsChars, List.append_nil] at enough
      have read := each first List.mem_cons_self depth fuel _ ends (by omega)
      have closed : Reader.skipGap (style.gap closing ++ ']' :: rest) = ']' :: rest :=
        skipGap_append (isGap_gap style closing) (by rintro c ⟨⟩; decide)
      rw [itemsChars, List.nil_append, Reader.readItems, read]
      simp only [bind, Except.bind, closed]
  | cons next more inductionHypothesis =>
      obtain ⟨fuel, rfl⟩ := Nat.exists_eq_add_one_of_ne_zero (Nat.ne_zero_of_lt enough)
      obtain ⟨gap, separated, isGap⟩ := exists_separator style depth
      simp only [itemsChars, separated, List.length_append, List.length_cons] at enough
      have later : Reader.readItems fuel _ = .ok (next :: more, rest) :=
        inductionHypothesis (fun item isItem => each item (List.mem_cons_of_mem _ isItem))
          (by rw [List.length_append]; omega)
      simp only [itemsChars, separated, List.cons_append, List.append_assoc]
      generalize isRest : itemsChars style depth more ++ (style.gap closing ++ ']' :: rest) = text
        at later ⊢
      have ends : EndsNumber (',' :: (gap ++ (next.chars style depth ++ text))) :=
        .of_cons (by decide) _
      have read := each first List.mem_cons_self depth fuel _ ends (by omega)
      have comma : Reader.skipGap (',' :: (gap ++ (next.chars style depth ++ text))) =
          ',' :: (gap ++ (next.chars style depth ++ text)) :=
        skipGap_of_solid (by rintro c ⟨⟩; decide)
      have skipped : Reader.skipGap (gap ++ (next.chars style depth ++ text)) =
          next.chars style depth ++ text :=
        skipGap_append isGap (solid_chars style depth next text)
      rw [Reader.readItems, read]
      simp only [bind, Except.bind, comma, skipped, later]

/-- An entry that is read back is stored, and what follows it decides what is read next. -/
theorem readFields_entry (plain : style.ascii = false) {key : String} {value : Json}
    (isValue : IsReadBack style value) (before : Fields) {text : List Char} (ends : EndsNumber text)
    {fuel : Nat}
    (enough : (stringChars false key).length + 2 + (value.chars style depth).length < fuel + 1) :
    (∀ rest, Reader.skipGap text = '}' :: rest →
      Reader.readFields (fuel + 1) before
          (stringChars style.ascii key ++ (':' :: ' ' :: (value.chars style depth ++ text))) =
        .ok (before.put key value, rest)) ∧
    ∀ rest, Reader.skipGap text = ',' :: rest →
      Reader.readFields (fuel + 1) before
          (stringChars style.ascii key ++ (':' :: ' ' :: (value.chars style depth ++ text))) =
        Reader.readFields fuel (before.put key value) (Reader.skipGap rest) := by
  have short := length_lt_stringChars key
  have isKey : Reader.readString fuel _ =
      .ok (key, ':' :: ' ' :: (value.chars style depth ++ text)) :=
    Reader.readString_stringChars key _ (by omega)
  have read := isValue depth fuel text ends (by omega)
  have colon : Reader.skipGap (':' :: ' ' :: (value.chars style depth ++ text)) =
      ':' :: ' ' :: (value.chars style depth ++ text) :=
    skipGap_of_solid (by rintro c ⟨⟩; decide)
  have skipped : Reader.skipGap ([' '] ++ (value.chars style depth ++ text)) =
      value.chars style depth ++ text :=
    skipGap_append (List.all_eq_true.mp (by decide)) (solid_chars style depth value text)
  rw [List.singleton_append] at skipped
  rw [plain]
  rw [stringChars, List.cons_append, List.cons_append] at isKey ⊢
  rw [Reader.readFields, isKey]
  constructor
  · intro rest closed
    simp only [bind, Except.bind, colon, skipped, read, closed]
  · intro rest comma
    simp only [bind, Except.bind, colon, skipped, read, comma]

/-- Entries of different keys whose values are read back one by one are read back together. -/
theorem readFields_chars (plain : style.ascii = false) {before : Fields} {entry : String × Json}
    {others : Fields} {fuel : Nat}
    (each : ∀ found ∈ entry :: others, IsReadBack style found.2)
    (distinct : ((before ++ entry :: others).map Prod.fst).Nodup)
    (enough : (stringChars false entry.1).length + 2 + (entry.2.chars style depth).length +
      (fieldsChars style depth others).length + 1 < fuel) :
    Reader.readFields fuel before (stringChars style.ascii entry.1 ++
        (':' :: ' ' :: (entry.2.chars style depth ++ (fieldsChars style depth others ++
          (style.gap closing ++ '}' :: rest))))) = .ok (before ++ entry :: others, rest) := by
  -- the entries read before move from `others` to `before`; a new key is stored behind them
  induction others generalizing before entry fuel with
  | nil =>
      obtain ⟨fuel, rfl⟩ := Nat.exists_eq_add_one_of_ne_zero (Nat.ne_zero_of_lt enough)
      have ends : EndsNumber (style.gap closing ++ '}' :: rest) :=
        endsNumber_gap style closing (by decide) rest
      have closed : Reader.skipGap (style.gap closing ++ '}' :: rest) = '}' :: rest :=
        skipGap_append (isGap_gap style closing) (by rintro c ⟨⟩; decide)
      rw [fieldsChars, List.nil_append,
        (readFields_entry depth plain (each entry List.mem_cons_self) before ends (by omega)).1 rest
          closed, Fields.put_of_notMem (notMem_before distinct)]
  | cons next more inductionHypothesis =>
      obtain ⟨fuel, rfl⟩ := Nat.exists_eq_add_one_of_ne_zero (Nat.ne_zero_of_lt enough)
      obtain ⟨gap, separated, isGap⟩ := exists_separator style depth
      simp only [fieldsChars, separated, plain, List.length_append, List.length_cons,
        List.length_nil] at enough
      have fresh := notMem_before distinct
      rw [List.append_cons] at distinct
      have later : Reader.readFields fuel _ _ = .ok (before ++ [entry] ++ next :: more, rest) :=
        inductionHypothesis (fun found isFound => each found (List.mem_cons_of_mem _ isFound))
          distinct (by omega)
      simp only [fieldsChars, separated, List.cons_append, List.nil_append, List.append_assoc]
      generalize isRest : stringChars style.ascii next.1 ++ (':' :: ' ' ::
        (next.2.chars style depth ++ (fieldsChars style depth more ++
          (style.gap closing ++ '}' :: rest)))) = text at later ⊢
      have solid : ∀ c ∈ text.head?, Reader.isGap c = false := by
        rw [← isRest, plain]
        exact solid_stringChars next.1 _
      have ends : EndsNumber (',' :: (gap ++ text)) := .of_cons (by decide) _
      have comma : Reader.skipGap (',' :: (gap ++ text)) = ',' :: (gap ++ text) :=
        skipGap_of_solid (by rintro c ⟨⟩; decide)
      have skipped : Reader.skipGap (gap ++ text) = text := skipGap_append isGap solid
      rw [(readFields_entry depth plain (each entry List.mem_cons_self) before ends (by omega)).2 _
        comma, skipped, Fields.put_of_notMem fresh, later, List.append_assoc]
      rfl

end Entries

private theorem isReadBack_array {style : Style} {items : List Json}
    (each : ∀ item ∈ items, IsReadBack style item) : IsReadBack style (.array items) := by
  refine .of_succ fun depth fuel rest _ enough => ?_
  cases items with
  | nil => rfl
  | cons first others =>
      simp only [chars, List.cons_append, List.append_assoc, List.length_cons,
        List.length_append, List.nil_append] at enough ⊢
      have items : Reader.readItems fuel _ = .ok (first :: others, rest) :=
        readItems_chars (depth + 1) depth rest each (by rw [List.length_append]; omega)
      have skipped := skipGap_append (isGap_gap style (depth + 1))
        (solid_chars style (depth + 1) first (itemsChars style (depth + 1) others ++
          (style.gap depth ++ ']' :: rest)))
      rw [Reader.readValue_bracket fuel (by
        rw [skipped]
        obtain ⟨c, text, isText, -, opens⟩ := exists_chars_eq_cons style (depth + 1) first
        rw [isText]
        exact fun isClosed => opens (Option.some.inj isClosed)), skipped, items]
      rfl

private theorem isReadBack_object {style : Style} (plain : style.ascii = false) {fields : Fields}
    (distinct : (fields.map Prod.fst).Nodup)
    (each : ∀ entry ∈ fields, IsReadBack style entry.2) : IsReadBack style (.object fields) := by
  refine .of_succ fun depth fuel rest _ enough => ?_
  cases fields with
  | nil => rfl
  | cons entry others =>
      simp only [chars, List.cons_append, List.append_assoc, List.length_cons,
        List.length_append, List.nil_append, plain, List.length_nil] at enough ⊢
      have fields : Reader.readFields fuel [] _ = .ok (entry :: others, rest) :=
        readFields_chars (depth + 1) depth rest plain each distinct (by omega)
      rw [plain] at fields
      have skipped := skipGap_append (isGap_gap style (depth + 1))
        (solid_stringChars entry.1 (':' :: ' ' :: (entry.2.chars style (depth + 1) ++
          (fieldsChars style (depth + 1) others ++ (style.gap depth ++ '}' :: rest)))))
      rw [Reader.readValue_brace fuel (by rw [skipped]; simp [stringChars]), skipped, fields]
      rfl

/-- What texts denote is read back from its own text. -/
theorem IsDocument.isReadBack {style : Style} (plain : style.ascii = false) {value : Json}
    (document : value.IsDocument) : IsReadBack style value := by
  induction document with
  | null => exact .of_succ fun _ _ _ _ _ => rfl
  | bool value => cases value <;> exact .of_succ fun _ _ _ _ _ => rfl
  | number readable =>
      refine .of_succ fun depth fuel rest ends _ => ?_
      rw [chars]
      exact Reader.readValue_numberChars fuel readable ends
  | string s =>
      refine .of_succ fun depth fuel rest _ enough => ?_
      have short := length_lt_stringChars s
      rw [chars, plain] at enough ⊢
      exact Reader.readValue_stringChars s rest (by omega)
  | array _ inductionHypothesis => exact isReadBack_array inductionHypothesis
  | object distinct _ inductionHypothesis =>
      exact isReadBack_object plain distinct inductionHypothesis

/-- What texts denote is read back from its own text. -/
theorem IsDocument.read_chars (style : Style) (plain : style.ascii = false) {value : Json}
    (document : value.IsDocument) (depth : Nat) :
    Json.read (value.chars style depth) = .ok value := by
  have solid := solid_chars style depth value []
  rw [List.append_nil] at solid
  have read := document.isReadBack plain depth (2 * (value.chars style depth).length + 2) []
    endsNumber_nil (by omega)
  rw [List.append_nil] at read
  rw [Json.read, Reader.readDocument, skipGap_of_solid solid, read]
  rfl

end DesignCompiler.Json
