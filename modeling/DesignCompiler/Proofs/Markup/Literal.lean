import DesignCompiler.Markup
import DesignCompiler.Proofs.Json.Text
import DesignCompiler.Proofs.Text.Part

/-!
Contract: the style literals of elements.

Owns:
- the parts of a text between separators, and moved lines;
- a style literal as its lines, one for every entry;
- the law that different declarations have different literals at a depth, whatever follows.

A text holds no line break, so that moving the lines of a literal moves no text of it.

Does not own: the elements that carry the literals, see `DesignCompiler.Proofs.Markup.Skeleton`.
-/

set_option autoImplicit false

namespace DesignCompiler

/-! ### Lines -/

theorem indentRest_append (spaces first second : List Char) :
    indentRest spaces (first ++ second) = indentRest spaces first ++ indentRest spaces second :=
  List.flatMap_append

theorem indentRest_newline (spaces rest : List Char) :
    indentRest spaces ('\n' :: rest) = '\n' :: spaces ++ indentRest spaces rest :=
  rfl

/-- A text on one line is not moved. -/
theorem indentRest_of_notMem (spaces : List Char) {line : List Char} (isLine : '\n' ∉ line) :
    indentRest spaces line = line := by
  induction line with
  | nil => rfl
  | cons c line inductionHypothesis =>
      obtain ⟨noNewline, isLine⟩ := not_or.mp (mt List.mem_cons.mpr isLine)
      rw [indentRest, List.flatMap_cons, if_neg (Ne.symm noNewline), List.singleton_append]
      exact congrArg (c :: ·) (inductionHypothesis isLine)

namespace Style

/-! ### Entries -/

def Value.chars : Value → List Char
  | .text value => Json.stringChars false value
  | .number value => Json.numberChars value

private theorem Value.toJson_chars (value : Value) (depth : Nat) :
    value.toJson.chars .indented depth = value.chars := by
  cases value <;> rfl

/-- The text of a value stands on one line. -/
theorem Value.newline_notMem_chars (value : Value) : '\n' ∉ value.chars := by
  cases value with
  | text value => exact Json.newline_notMem_stringChars value
  | number value => exact Json.newline_notMem_numberChars value

/-- Different values have different texts, whatever follows that no number goes on with. -/
theorem Value.chars_append {value value' : Value} {rest rest' : List Char}
    (ends : Json.EndsNumber rest) (ends' : Json.EndsNumber rest')
    (same : value.chars ++ rest = value'.chars ++ rest') : value = value' ∧ rest = rest' := by
  cases value with
  | text s =>
      cases value' with
      | text s' =>
          obtain ⟨sameText, sameRest⟩ := Json.stringChars_append same
          exact ⟨congrArg Value.text sameText, sameRest⟩
      | number n => exact absurd same.symm (Json.numberChars_append_ne_stringChars n s rest' rest)
  | number n =>
      cases value' with
      | text s => exact absurd same (Json.numberChars_append_ne_stringChars n s rest rest')
      | number n' =>
          obtain ⟨sameNumber, sameRest⟩ := Json.numberChars_append ends ends' same
          exact ⟨congrArg Value.number sameNumber, sameRest⟩

/-- A property is found by its name. -/
theorem Property.find?_name (property : Property) :
    Property.all.find? (fun other => other.name == property.name) = some property := by
  cases property <;> rfl

/-- Different properties have different names. -/
theorem Property.name_injective : Function.Injective Property.name := by
  intro property property' same
  have found := property.find?_name
  rw [same, property'.find?_name] at found
  exact (Option.some.inj found).symm

def keyedChars (key : String) (value : Value) : List Char :=
  Json.stringChars false key ++ ':' :: ' ' :: value.chars

theorem newline_notMem_keyedChars (key : String) (value : Value) :
    '\n' ∉ keyedChars key value := by
  simp [keyedChars, Json.newline_notMem_stringChars, Value.newline_notMem_chars]

/-- Different keys or values have different texts, whatever follows that no number goes on with. -/
theorem keyedChars_append {key key' : String} {value value' : Value} {rest rest' : List Char}
    (ends : Json.EndsNumber rest) (ends' : Json.EndsNumber rest')
    (same : keyedChars key value ++ rest = keyedChars key' value' ++ rest') :
    key = key' ∧ value = value' ∧ rest = rest' := by
  simp only [keyedChars, List.append_assoc, List.cons_append] at same
  obtain ⟨sameKey, others⟩ := Json.stringChars_append same
  obtain ⟨-, others⟩ := List.cons.inj others
  obtain ⟨-, others⟩ := List.cons.inj others
  exact ⟨sameKey, Value.chars_append ends ends' others⟩

def entryChars (entry : Property × Value) : List Char :=
  Json.stringChars false entry.1.name ++ ':' :: ' ' :: entry.2.chars

theorem newline_notMem_entryChars (entry : Property × Value) : '\n' ∉ entryChars entry :=
  newline_notMem_keyedChars entry.1.name entry.2

/-- Different entries have different texts, whatever follows that no number goes on with. -/
theorem entryChars_append {entry entry' : Property × Value} {rest rest' : List Char}
    (ends : Json.EndsNumber rest) (ends' : Json.EndsNumber rest')
    (same : entryChars entry ++ rest = entryChars entry' ++ rest') :
    entry = entry' ∧ rest = rest' := by
  obtain ⟨sameName, sameValue, sameRest⟩ := keyedChars_append ends ends' same
  exact ⟨Prod.ext (Property.name_injective sameName) sameValue, sameRest⟩

/-! ### Literals -/

def entryBreak (depth : Int) : List Char :=
  '\n' :: margin (depth + 1) ++ [' ', ' ']

/-- The entries after the first, each on a line of its own. -/
def laterEntries (depth : Int) : Declaration → List Char
  | [] => []
  | entry :: rest => ',' :: entryBreak depth ++ entryChars entry ++ laterEntries depth rest

/-- The text of an object whose first value is a text or a number. -/
theorem chars_object_cons (level : Nat) (key : String) (value : Value) (rest : Fields) :
    (Json.object ((key, value.toJson) :: rest)).chars .indented level =
      '{' :: (Json.Style.indented.gap (level + 1) ++ (keyedChars key value ++
        (Json.fieldsChars .indented (level + 1) rest ++
          (Json.Style.indented.gap level ++ ['}'])))) := by
  rw [Json.chars, Value.toJson_chars]
  simp [keyedChars, Json.Style.indented]

theorem fieldsChars_cons (level : Nat) (key : String) (value : Value) (rest : Fields) :
    Json.fieldsChars .indented level ((key, value.toJson) :: rest) =
      ',' :: (Json.Style.indented.gap level ++ (keyedChars key value ++
        Json.fieldsChars .indented level rest)) := by
  rw [Json.fieldsChars, Value.toJson_chars]
  simp [keyedChars, Json.Style.separator, Json.Style.indented]

/-- The text of a declaration on lines that begin at the margin. -/
theorem chars_toFields_cons (entry : Property × Value) (rest : Declaration) :
    (Json.object (Declaration.toFields (entry :: rest))).chars .indented 0 =
      '{' :: (Json.Style.indented.gap 1 ++ (entryChars entry ++
        (Json.fieldsChars .indented 1 (Declaration.toFields rest) ++ ['\n', '}']))) :=
  chars_object_cons 0 entry.1.name entry.2 rest.toFields

private theorem fieldsChars_toFields_cons (entry : Property × Value) (rest : Declaration) :
    Json.fieldsChars .indented 1 (Declaration.toFields (entry :: rest)) =
      ',' :: (Json.Style.indented.gap 1 ++ (entryChars entry ++
        Json.fieldsChars .indented 1 (Declaration.toFields rest))) :=
  fieldsChars_cons 1 entry.1.name entry.2 rest.toFields

theorem indentRest_gap (depth : Int) :
    indentRest (margin (depth + 1)) (Json.Style.indented.gap 1) = entryBreak depth :=
  rfl

theorem indentRest_fieldsChars (depth : Int) (declaration : Declaration) :
    indentRest (margin (depth + 1)) (Json.fieldsChars .indented 1 declaration.toFields) =
      laterEntries depth declaration := by
  induction declaration with
  | nil => rfl
  | cons entry rest inductionHypothesis =>
      have line := indentRest_of_notMem (margin (depth + 1)) (newline_notMem_entryChars entry)
      rw [fieldsChars_toFields_cons, laterEntries, ← inductionHypothesis]
      show ',' :: indentRest _ (_ ++ _) = _
      rw [indentRest_append, indentRest_append, line, indentRest_gap]
      simp

private theorem styleLiteral_nil (depth : Int) :
    styleLiteral (Declaration.toFields []) depth = ['{', '}'] :=
  rfl

theorem styleLiteral_cons (entry : Property × Value) (rest : Declaration) (depth : Int) :
    styleLiteral (Declaration.toFields (entry :: rest)) depth =
      '{' :: (entryBreak depth ++ (entryChars entry ++ (laterEntries depth rest ++
        '\n' :: margin (depth + 1) ++ ['}']))) := by
  have line := indentRest_of_notMem (margin (depth + 1)) (newline_notMem_entryChars entry)
  rw [styleLiteral, chars_toFields_cons]
  show '{' :: indentRest _ (_ ++ _) = _
  rw [indentRest_append, indentRest_append, indentRest_append, line, indentRest_gap,
    indentRest_fieldsChars, indentRest_newline]
  simp [indentRest]

/-- The line break of an entry, or the end of the entries, ends a number. -/
theorem endsNumber_laterEntries (depth : Int) (declaration : Declaration) (rest : List Char) :
    Json.EndsNumber (laterEntries depth declaration ++ '\n' :: rest) := by
  cases declaration with
  | nil => exact Json.EndsNumber.of_cons (by decide) rest
  | cons entry later => exact Json.EndsNumber.of_cons (by decide) _

private theorem laterEntries_append (depth : Int) {declaration declaration' : Declaration}
    {rest rest' : List Char}
    (same : laterEntries depth declaration ++ '\n' :: rest =
      laterEntries depth declaration' ++ '\n' :: rest') :
    declaration = declaration' ∧ rest = rest' := by
  induction declaration generalizing declaration' with
  | nil =>
      cases declaration' with
      | nil => exact ⟨rfl, (List.cons.inj same).2⟩
      | cons entry' later' => cases (List.cons.inj same).1
  | cons entry later inductionHypothesis =>
      cases declaration' with
      | nil => cases (List.cons.inj same).1
      | cons entry' later' =>
          simp only [laterEntries, List.cons_append, List.append_assoc] at same
          have entries := List.append_cancel_left (List.cons.inj same).2
          obtain ⟨sameEntry, others⟩ := entryChars_append (endsNumber_laterEntries depth later rest)
            (endsNumber_laterEntries depth later' rest') entries
          obtain ⟨sameLater, sameRest⟩ := inductionHypothesis others
          exact ⟨by rw [sameEntry, sameLater], sameRest⟩

/-- Different declarations have different literals, whatever follows. -/
theorem styleLiteral_append (depth : Int) {declaration declaration' : Declaration}
    {rest rest' : List Char}
    (same : styleLiteral declaration.toFields depth ++ rest =
      styleLiteral declaration'.toFields depth ++ rest') :
    declaration = declaration' ∧ rest = rest' := by
  cases declaration with
  | nil =>
      cases declaration' with
      | nil => exact ⟨rfl, List.append_cancel_left same⟩
      | cons entry' later' =>
          rw [styleLiteral_nil, styleLiteral_cons] at same
          cases (List.cons.inj (List.cons.inj same).2).1
  | cons entry later =>
      cases declaration' with
      | nil =>
          rw [styleLiteral_nil, styleLiteral_cons] at same
          cases (List.cons.inj (List.cons.inj same).2).1
      | cons entry' later' =>
          simp only [styleLiteral_cons, List.cons_append, List.append_assoc] at same
          have entries := List.append_cancel_left (List.cons.inj same).2
          obtain ⟨sameEntry, others⟩ := entryChars_append (endsNumber_laterEntries depth later _)
            (endsNumber_laterEntries depth later' _) entries
          obtain ⟨sameLater, closing⟩ := laterEntries_append depth others
          have sameRest := (List.cons.inj (List.append_cancel_left closing)).2
          exact ⟨by rw [sameEntry, sameLater], sameRest⟩

end Style

end DesignCompiler
