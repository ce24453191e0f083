import DesignCompiler.Component.Compile
import DesignCompiler.Proofs.Text.Case

/-!
Contract: which of the names made of layer names are valid.

Owns:
- `wordBegins` and `lettersOf`, what a character of a layer name leaves at its place;
- the names that `validate` accepts;
- the layer names of which the derived and the suggested name is valid.

The case mapping comes before the characters without letters are taken out.  Such a character may
be the first one of a word; the letter behind it is then no capital, and it may be the first one of
the name.

Does not own: where names stand in a source, see `DesignCompiler.Proofs.Component.Source`.
-/

set_option autoImplicit false

namespace DesignCompiler.Component

/-! ### Words of a layer name -/

/-- Whether a word begins behind some characters; in front of them one begins or not. -/
def wordBegins (begins : Bool) (before : List Char) : Bool :=
  (before.getLast?.map isSeparator).getD begins

/-- The letters that a character of a layer name leaves, at the beginning of a word or inside. -/
def lettersOf (begins : Bool) (c : Char) : List Char :=
  if isSeparator c then []
  else if begins then Text.upperLetters c
  else Text.lowerLetters c

private theorem wordBegins_cons (begins : Bool) (c : Char) (before : List Char) :
    wordBegins begins (c :: before) = wordBegins (isSeparator c) before := by
  unfold wordBegins
  rw [List.getLast?_cons]
  cases before.getLast? <;> rfl

theorem wordLetters_cons (begins : Bool) (c : Char) (rest : List Char) :
    wordLetters begins (c :: rest) = lettersOf begins c ++ wordLetters (isSeparator c) rest := by
  rw [wordLetters, lettersOf]
  cases isSeparator c <;> rfl

private theorem wordLetters_append (begins : Bool) (before after : List Char) :
    wordLetters begins (before ++ after) =
      wordLetters begins before ++ wordLetters (wordBegins begins before) after := by
  induction before generalizing begins with
  | nil => rfl
  | cons c before inductionHypothesis =>
      rw [List.cons_append, wordLetters_cons, wordLetters_cons, inductionHypothesis,
        wordBegins_cons, List.append_assoc]

private theorem isAlphanumeric_of_mem_lettersOf {begins : Bool} {c letter : Char}
    (isLetter : letter ∈ lettersOf begins c) : Text.isAlphanumeric letter = true := by
  unfold lettersOf at isLetter
  split at isLetter
  · cases isLetter
  · split at isLetter
    · exact Text.isAlphanumeric_of_mem_upperLetters isLetter
    · exact Text.isAlphanumeric_of_mem_lowerLetters isLetter

theorem isAlphanumeric_of_mem_wordLetters {begins : Bool} {cs : List Char} :
    ∀ letter ∈ wordLetters begins cs, Text.isAlphanumeric letter = true := by
  induction cs generalizing begins with
  | nil => exact List.forall_mem_nil _
  | cons c cs inductionHypothesis =>
      rw [wordLetters_cons]
      exact List.forall_mem_append.mpr
        ⟨fun _ => isAlphanumeric_of_mem_lettersOf, inductionHypothesis⟩

/-- The first letter that characters leave is left by one of them, and nothing by those before. -/
theorem exists_of_head?_wordLetters {begins : Bool} {cs : List Char} {first : Char}
    (isFirst : (wordLetters begins cs).head? = some first) :
    ∃ before c after, cs = before ++ c :: after ∧ wordLetters begins before = [] ∧
      (lettersOf (wordBegins begins before) c).head? = some first := by
  -- past the characters that leave nothing; each decides whether the next one begins a word
  induction cs generalizing begins with
  | nil => cases isFirst
  | cons c cs inductionHypothesis =>
      rw [wordLetters_cons] at isFirst
      cases letters : lettersOf begins c with
      | nil =>
          rw [letters, List.nil_append] at isFirst
          obtain ⟨before, d, after, rfl, nothing, isHead⟩ := inductionHypothesis isFirst
          refine ⟨c :: before, d, after, rfl, ?_, ?_⟩
          · rw [wordLetters_cons, letters, nothing, List.nil_append]
          · rw [wordBegins_cons, isHead]
      | cons letter letters' =>
          refine ⟨[], c, cs, rfl, rfl, ?_⟩
          rw [letters] at isFirst
          show (lettersOf begins c).head? = some first
          rw [letters]
          exact isFirst

private theorem head?_wordLetters {begins : Bool} {before after : List Char} {c first : Char}
    (nothing : wordLetters begins before = [])
    (isHead : (lettersOf (wordBegins begins before) c).head? = some first) :
    (wordLetters begins (before ++ c :: after)).head? = some first := by
  rw [wordLetters_append, nothing, List.nil_append, wordLetters_cons, List.head?_append, isHead,
    Option.some_or]

/-- The first letter or digit that a layer name leaves is a capital at the beginning of a word. -/
def OpensWithCapital (layerName : String) : Prop :=
  ∃ before c after, layerName.toList = before ++ c :: after ∧ wordLetters true before = [] ∧
    wordBegins true before = true ∧ (lettersOf true c).head?.any Char.isUpper = true

/-- Inside a word no capital is left. -/
theorem head?_lettersOf_inside (c : Char) :
    (lettersOf false c).head?.any Char.isUpper = false := by
  refine (Option.any_eq_false _ _).mpr fun first isFirst => ?_
  have isLetter := List.mem_of_head? isFirst
  unfold lettersOf at isLetter
  split at isLetter
  · cases isLetter
  · exact Text.isUpper_of_mem_lowerLetters isLetter

/-- A name is made with a capital in front exactly of a layer name that opens with one. -/
theorem head?_core_isUpper_iff (layerName : String) :
    (core layerName).head?.any Char.isUpper = true ↔ OpensWithCapital layerName := by
  constructor
  · intro isCapital
    obtain ⟨first, isFirst, isUpper⟩ := (Option.any_eq_true _ _).mp isCapital
    obtain ⟨before, c, after, split, nothing, isHead⟩ := exists_of_head?_wordLetters isFirst
    have isCapital : (lettersOf (wordBegins true before) c).head?.any Char.isUpper = true :=
      (Option.any_eq_true _ _).mpr ⟨first, isHead, isUpper⟩
    cases begins : wordBegins true before with
    | true =>
        rw [begins] at isCapital
        exact ⟨before, c, after, split, nothing, begins, isCapital⟩
    | false =>
        rw [begins, head?_lettersOf_inside] at isCapital
        cases isCapital
  · rintro ⟨before, c, after, split, nothing, begins, isCapital⟩
    obtain ⟨first, isHead, isUpper⟩ := (Option.any_eq_true _ _).mp isCapital
    rw [← begins] at isHead
    rw [core, split, head?_wordLetters nothing isHead]
    exact isUpper

/-! ### Valid names -/

/-- Letters and digits make a valid name exactly if a capital begins them; otherwise this is what is
wrong with it. -/
theorem validate_of_alphanumeric {name : String} (notEmpty : name.toList ≠ [])
    (plain : ∀ c ∈ name.toList, Text.isAlphanumeric c = true) :
    validate name =
      if name.toList.head?.any Char.isUpper then .ok name else .error .notCapital := by
  have notBlank : name.toList.all Text.isBlank = false := by
    obtain ⟨first, rest, isText⟩ := List.exists_cons_of_ne_nil notEmpty
    have isFirst : first ∈ name.toList := isText ▸ List.mem_cons_self
    refine List.all_eq_false.mpr ⟨first, isFirst, ?_⟩
    rw [Text.isBlank_of_isAlphanumeric (plain first isFirst)]
    exact Bool.false_ne_true
  rw [validate, notBlank, List.all_eq_true.mpr plain]
  cases name.toList.head?.any Char.isUpper <;> rfl

/-- A name that is accepted is returned as it is. -/
theorem eq_of_validate {name accepted : String} (valid : validate name = .ok accepted) :
    accepted = name := by
  unfold validate at valid
  split at valid
  · cases valid
  · split at valid
    · cases valid
    · split at valid
      · cases valid
      · exact (Except.ok.inj valid).symm

theorem isAlphanumeric_of_validate {name accepted : String} (valid : validate name = .ok accepted) :
    ∀ c ∈ name.toList, Text.isAlphanumeric c = true := by
  unfold validate at valid
  split at valid
  · cases valid
  · split at valid
    · cases valid
    · split at valid
      · cases valid
      · next plain =>
          rw [Bool.not_eq_true, Bool.not_eq_false'] at plain
          exact List.all_eq_true.mp plain

private theorem validate_of_capital {name : String} (notEmpty : name.toList ≠ [])
    (plain : ∀ c ∈ name.toList, Text.isAlphanumeric c = true) :
    validate name = .ok name ↔ name.toList.head?.any Char.isUpper = true := by
  rw [validate_of_alphanumeric notEmpty plain]
  split
  next isCapital => exact iff_of_true rfl isCapital
  next noCapital => exact iff_of_false nofun noCapital

theorem validate_plainName_iff (layerName : String) :
    validate (plainName layerName) = .ok (plainName layerName) ↔
      (layerName.toList.find? Text.isAlphanumeric).any Char.isUpper = true := by
  have letters : (plainName layerName).toList = layerName.toList.filter Text.isAlphanumeric :=
    String.toList_ofList
  rw [← List.head?_filter, ← letters]
  by_cases isEmpty : (plainName layerName).toList = []
  · rw [validate, isEmpty]
    exact iff_of_false nofun Bool.false_ne_true
  · refine validate_of_capital isEmpty ?_
    rw [letters]
    exact fun _ isKept => (List.mem_filter.mp isKept).2

theorem derive_cases (layerName : String) :
    (core layerName = [] ∧ derive layerName = "Component") ∨
      (core layerName ≠ [] ∧ (derive layerName).toList = core layerName) := by
  unfold derive
  split
  next nothing => exact Or.inl ⟨nothing, rfl⟩
  next some => exact Or.inr ⟨some, String.toList_ofList⟩

/-- A derived name has letters and digits, and nothing else. -/
theorem isAlphanumeric_derive (layerName : String) :
    (derive layerName).toList ≠ [] ∧
      ∀ c ∈ (derive layerName).toList, Text.isAlphanumeric c = true := by
  rcases derive_cases layerName with ⟨-, name⟩ | ⟨some, name⟩
  · rw [name]
    exact ⟨by decide, List.all_eq_true.mp (by decide)⟩
  · rw [name]
    exact ⟨some, isAlphanumeric_of_mem_wordLetters⟩

theorem validate_derive_iff (layerName : String) :
    validate (derive layerName) = .ok (derive layerName) ↔
      core layerName = [] ∨ OpensWithCapital layerName := by
  obtain ⟨notEmpty, plain⟩ := isAlphanumeric_derive layerName
  rw [validate_of_capital notEmpty plain, ← head?_core_isUpper_iff]
  rcases derive_cases layerName with ⟨nothing, name⟩ | ⟨some, name⟩
  · rw [name]
    exact iff_of_true (by decide) (Or.inl nothing)
  · rw [name, or_iff_right some]

/-- The suggested name is the plain one if that is valid, and the derived one otherwise. -/
theorem suggest_cases (layerName : String) :
    (validate (plainName layerName) = .ok (plainName layerName) ∧
        suggest layerName = plainName layerName) ∨
      (validate (plainName layerName) ≠ .ok (plainName layerName) ∧
        suggest layerName = derive layerName) := by
  unfold suggest
  cases valid : validate (plainName layerName) with
  | ok name =>
      rw [eq_of_validate valid]
      exact Or.inl ⟨rfl, rfl⟩
  | error wrong => exact Or.inr ⟨nofun, rfl⟩

theorem isAlphanumeric_suggest (layerName : String) :
    ∀ c ∈ (suggest layerName).toList, Text.isAlphanumeric c = true := by
  rcases suggest_cases layerName with ⟨valid, suggested⟩ | ⟨-, suggested⟩
  · rw [suggested]
    exact isAlphanumeric_of_validate valid
  · rw [suggested]
    exact (isAlphanumeric_derive layerName).2

/-- A derived name lacks at most the capital. -/
theorem validate_derive_cases (layerName : String) :
    validate (derive layerName) = .ok (derive layerName) ∨
      validate (derive layerName) = .error .notCapital := by
  obtain ⟨notEmpty, plain⟩ := isAlphanumeric_derive layerName
  rw [validate_of_alphanumeric notEmpty plain]
  split
  · exact Or.inl rfl
  · exact Or.inr rfl

/-- The names that are made of layer names.  The derived one is valid exactly if the layer name
leaves no letter at all or opens with a capital, and the suggested one also if the first ASCII
letter or digit of the layer name is a capital as it stands.  All others only lack the capital. -/
theorem invented_names_valid_iff (layerName : String) :
    (validate (derive layerName) = .ok (derive layerName) ↔
      core layerName = [] ∨ OpensWithCapital layerName) ∧
    (validate (suggest layerName) = .ok (suggest layerName) ↔
      (layerName.toList.find? Text.isAlphanumeric).any Char.isUpper = true ∨
        core layerName = [] ∨ OpensWithCapital layerName) ∧
    (validate (derive layerName) = .ok (derive layerName) ∨
      validate (derive layerName) = .error .notCapital) ∧
    (validate (suggest layerName) = .ok (suggest layerName) ∨
      validate (suggest layerName) = .error .notCapital) := by
  have derived := validate_derive_cases layerName
  rw [← validate_plainName_iff, ← validate_derive_iff]
  rcases suggest_cases layerName with ⟨valid, name⟩ | ⟨invalid, name⟩
  · rw [name]
    exact ⟨Iff.rfl, iff_of_true valid (Or.inl valid), derived, Or.inl valid⟩
  · rw [name, or_iff_right invalid]
    exact ⟨Iff.rfl, Iff.rfl, derived, derived⟩

/-- The word in brackets begins with a bracket, so that no letter of it becomes a capital. -/
theorem names_of_bracketed_word :
    derive "(card)" = "card" ∧ suggest "(card)" = "card" ∧
      compiledName ⟨{ name := "(card)" }, []⟩ none = "card" ∧
      validate "card" = .error .notCapital :=
  ⟨by decide, by decide, by decide, rfl⟩

end DesignCompiler.Component
