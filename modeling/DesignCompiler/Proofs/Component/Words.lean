import DesignCompiler.Proofs.Component.Name
import Mathlib.Data.List.Basic

/-!
Contract: the name of a component word by word.

Owns:
- `words`, the parts of a layer name between runs of separators, and `wordForm`, the letters that a
  word leaves;
- the law that a name is made of its words one by one, so that of the separators between and around
  them nothing counts but where they stand.

The characters are mapped within their word and before those without letters are taken out; neither
step looks beyond the word.

Does not own: which of the names are valid, see `DesignCompiler.Proofs.Component.Name`.
-/

set_option autoImplicit false

namespace DesignCompiler.Component

private theorem isSeparator_of_isAlphanumeric {c : Char} (isLetter : Text.isAlphanumeric c = true) :
    isSeparator c = false := by
  have isAscii := Text.toNat_lt_of_isAlphanumeric isLetter
  revert isLetter
  exact Text.forall_ascii
    (motive := fun c => Text.isAlphanumeric c = true → isSeparator c = false) (by decide) isAscii

/-! ### Words -/

/-- The words of a layer name: its parts between separators, except for the empty ones. -/
def words (layerName : List Char) : List (List Char) :=
  (layerName.splitOnP isSeparator).filter fun part => !part.isEmpty

/-- The letters that a word leaves: those of its first character as a capital, and those of the
others in lower case. -/
def wordForm : List Char → List Char
  | [] => []
  | first :: rest => Text.upperLetters first ++ rest.flatMap Text.lowerLetters

/-- A text that only separates words. -/
def IsRun (text : List Char) : Prop :=
  ∀ c ∈ text, isSeparator c = true

/-- A separator belongs to no word, and none goes on behind it. -/
theorem words_append_separator {c : Char} (separates : isSeparator c = true)
    (before after : List Char) : words (before ++ c :: after) = words before ++ words after := by
  rw [words, List.splitOnP_append_cons before after separates, List.filter_append]
  rfl

private theorem words_run_append {run : List Char} (isRun : IsRun run) (after : List Char) :
    words (run ++ after) = words after := by
  induction run with
  | nil => rfl
  | cons c run inductionHypothesis =>
      obtain ⟨separates, isRun⟩ := List.forall_mem_cons.mp isRun
      exact (words_append_separator separates [] (run ++ after)).trans (inductionHypothesis isRun)

private theorem words_append_run (before : List Char) {run : List Char} (isRun : IsRun run) :
    words (before ++ run) = words before := by
  cases run with
  | nil => rw [List.append_nil]
  | cons c run =>
      obtain ⟨separates, isRun⟩ := List.forall_mem_cons.mp isRun
      have noWord : words run = [] := by
        rw [← List.append_nil run, words_run_append isRun]
        rfl
      rw [words_append_separator separates, noWord, List.append_nil]

/-- Words that a run stands between stay apart. -/
theorem words_append_run_append (before : List Char) {run : List Char} (isRun : IsRun run)
    (notNil : run ≠ []) (after : List Char) :
    words (before ++ run ++ after) = words before ++ words after := by
  obtain ⟨c, run, rfl⟩ := List.exists_cons_of_ne_nil notNil
  obtain ⟨separates, isRun⟩ := List.forall_mem_cons.mp isRun
  rw [List.append_assoc, List.cons_append, words_append_separator separates,
    words_run_append isRun]

/-- A text without separators is one word. -/
theorem words_eq_singleton {word : List Char} (notNil : word ≠ [])
    (noSeparator : ∀ c ∈ word, isSeparator c = false) : words word = [word] := by
  obtain ⟨first, rest, rfl⟩ := List.exists_cons_of_ne_nil notNil
  rw [words, List.splitOnP_eq_singleton noSeparator]
  rfl

/-! ### Names -/

/-- What the characters of a layer name leave, part by part between the separators; the first part
may be the rest of a word. -/
theorem wordLetters_of_splitOnP {cs part : List Char} {later : List (List Char)}
    (parts : cs.splitOnP isSeparator = part :: later) :
    wordLetters true cs = wordForm part ++ later.flatMap wordForm ∧
      wordLetters false cs = part.flatMap Text.lowerLetters ++ later.flatMap wordForm := by
  induction cs generalizing part later with
  | nil =>
      cases parts
      exact ⟨rfl, rfl⟩
  | cons c cs inductionHypothesis =>
      obtain ⟨next, others, rest⟩ :=
        List.exists_cons_of_ne_nil (List.splitOnP_ne_nil isSeparator cs)
      obtain ⟨begins, inside⟩ := inductionHypothesis rest
      rw [List.splitOnP_cons_eq_if_modifyHead, rest] at parts
      rw [wordLetters_cons, wordLetters_cons, lettersOf, lettersOf]
      cases separates : isSeparator c with
      | true =>
          rw [separates, if_pos rfl] at parts
          cases parts
          rw [begins]
          exact ⟨rfl, rfl⟩
      | false =>
          rw [separates, if_neg Bool.false_ne_true, List.modifyHead_cons] at parts
          cases parts
          rw [inside, wordForm, List.flatMap_cons, List.append_assoc, List.append_assoc]
          exact ⟨rfl, rfl⟩

private theorem flatMap_wordForm_filter (parts : List (List Char)) :
    (parts.filter fun part => !part.isEmpty).flatMap wordForm = parts.flatMap wordForm := by
  induction parts with
  | nil => rfl
  | cons part parts inductionHypothesis =>
      cases part with
      | nil => exact inductionHypothesis
      | cons first rest => exact congrArg (wordForm (first :: rest) ++ ·) inductionHypothesis

/-- The letters of a name are those that its words leave, one word after the other. -/
theorem core_eq_flatMap_words (layerName : String) :
    core layerName = (words layerName.toList).flatMap wordForm := by
  obtain ⟨part, later, parts⟩ :=
    List.exists_cons_of_ne_nil (List.splitOnP_ne_nil isSeparator layerName.toList)
  rw [words, flatMap_wordForm_filter, parts, List.flatMap_cons]
  exact (wordLetters_of_splitOnP parts).1

private theorem core_of_words_append {whole first second : String}
    (joined : words whole.toList = words first.toList ++ words second.toList) :
    core whole = core first ++ core second := by
  rw [core_eq_flatMap_words, joined, List.flatMap_append, ← core_eq_flatMap_words,
    ← core_eq_flatMap_words]

private theorem derive_eq_of_words {first second : String}
    (same : words first.toList = words second.toList) : derive first = derive second := by
  rw [derive, core_eq_flatMap_words, same, ← core_eq_flatMap_words, ← derive]

/-- A plain word leaves all its letters and digits. -/
theorem core_of_alphanumeric {word : String} {first : Char} {rest : List Char}
    (isWord : word.toList = first :: rest)
    (plain : ∀ c ∈ first :: rest, Text.isAlphanumeric c = true) :
    core word = first.toUpper :: rest.map Char.toLower := by
  obtain ⟨ofFirst, ofRest⟩ := List.forall_mem_cons.mp plain
  have single : words (first :: rest) = [first :: rest] :=
    words_eq_singleton (List.cons_ne_nil _ _) fun c isChar =>
      isSeparator_of_isAlphanumeric (plain c isChar)
  have lower : rest.flatMap Text.lowerLetters = rest.flatMap fun c => [c.toLower] :=
    List.flatMap_congr fun c isChar => Text.lowerLetters_of_isAlphanumeric (ofRest c isChar)
  rw [core_eq_flatMap_words, isWord, single, List.flatMap_singleton, wordForm, lower,
    Text.upperLetters_of_isAlphanumeric ofFirst, List.map_eq_flatMap, List.singleton_append]

/-- A name stands in for the letters of the words exactly where these leave none. -/
theorem core_eq_nil_iff (layerName : String) :
    core layerName = [] ↔
      derive layerName = "Component" ∧ (derive layerName).toList ≠ core layerName := by
  rcases derive_cases layerName with ⟨nothing, name⟩ | ⟨some, name⟩
  · rw [nothing, name]
    exact iff_of_true rfl ⟨rfl, by decide⟩
  · exact iff_of_false some fun other => other.2 name

/-- The name of a component is made of the words of the layer name, one by one.  A run of separators
keeps two words apart, whichever it is, and none counts before the first word or behind the last, so
that layers of the same words have the same name.  The letters of a name are ASCII letters and
digits; a plain word leaves all of its own, the first as a capital and the others in lower case.
"Component" stands in for the letters exactly if there are none: a layer that is called "component"
has this name from its own word. -/
theorem core_word_by_word (first second : String) :
    core first = (words first.toList).flatMap wordForm ∧
    (∀ leading run trailing : String,
      IsRun leading.toList → IsRun run.toList → run ≠ "" → IsRun trailing.toList →
      core (first ++ run ++ second) = core first ++ core second ∧
        derive (leading ++ (first ++ run ++ second) ++ trailing) =
          derive (first ++ " " ++ second)) ∧
    (∀ leading trailing : String, IsRun leading.toList → IsRun trailing.toList →
      derive (leading ++ first ++ trailing) = derive first) ∧
    (words first.toList = words second.toList → derive first = derive second) ∧
    (∀ letter ∈ core first, Text.isAlphanumeric letter = true) ∧
    (core first ≠ [] → (derive first).toList = core first) ∧
    (core first = [] ↔ derive first = "Component" ∧ (derive first).toList ≠ core first) ∧
    ∀ initial rest, first.toList = initial :: rest →
      (∀ c ∈ initial :: rest, Text.isAlphanumeric c = true) →
      core first = initial.toUpper :: rest.map Char.toLower := by
  have around (leading name trailing : String) (isLeading : IsRun leading.toList)
      (isTrailing : IsRun trailing.toList) :
      words (leading ++ name ++ trailing).toList = words name.toList := by
    rw [String.toList_append, String.toList_append, words_append_run _ isTrailing,
      words_run_append isLeading]
  have between (run : String) (isRun : IsRun run.toList) (notEmpty : run ≠ "") :
      words (first ++ run ++ second).toList = words first.toList ++ words second.toList := by
    rw [String.toList_append, String.toList_append]
    exact words_append_run_append _ isRun (mt String.toList_eq_nil_iff.mp notEmpty) _
  refine ⟨core_eq_flatMap_words first, ?_, ?_, derive_eq_of_words,
    fun _ => isAlphanumeric_of_mem_wordLetters _, ?_, core_eq_nil_iff first,
    fun _ _ => core_of_alphanumeric⟩
  · intro leading run trailing isLeading isRun notEmpty isTrailing
    refine ⟨core_of_words_append (between run isRun notEmpty), derive_eq_of_words ?_⟩
    rw [around leading _ trailing isLeading isTrailing, between run isRun notEmpty,
      between " " (List.all_eq_true.mp (by decide)) (by decide)]
  · intro leading trailing isLeading isTrailing
    exact derive_eq_of_words (around leading first trailing isLeading isTrailing)
  · intro some
    exact (derive_cases first).elim (fun nothing => absurd nothing.1 some) And.right

/-- The ligature in front of a word becomes two capitals. -/
theorem core_word_by_word_of_ligature :
    let first := "my COOL"
    let second := "ﬁnal-v2"
    IsRun "--".toList ∧ IsRun "\t /_".toList ∧
      core (first ++ "\t /_" ++ second) = core first ++ core second ∧
      derive ("--" ++ (first ++ "\t /_" ++ second) ++ "--") = derive (first ++ " " ++ second) ∧
      derive (first ++ " " ++ second) = "MyCoolFInalV2" ∧
      derive ("--" ++ first ++ "\t /_") = derive first ∧
      words second.toList = words "/ﬁnal_-v2".toList ∧ derive second = derive "/ﬁnal_-v2" ∧
      core "x1Y" = "X1y".toList := by
  intro first second
  have isLeading : IsRun "--".toList := List.all_eq_true.mp (by decide)
  have isRun : IsRun "\t /_".toList := List.all_eq_true.mp (by decide)
  have sameWords : words second.toList = words "/ﬁnal_-v2".toList := by decide
  obtain ⟨-, between, around, -⟩ := core_word_by_word first second
  obtain ⟨letters, name⟩ := between "--" "\t /_" "--" isLeading isRun (by decide) isLeading
  obtain ⟨-, -, -, sameName, -⟩ := core_word_by_word second "/ﬁnal_-v2"
  obtain ⟨-, -, -, -, -, -, -, plain⟩ := core_word_by_word "x1Y" ""
  exact ⟨isLeading, isRun, letters, name, by decide, around "--" "\t /_" isLeading isRun, sameWords,
    sameName sameWords, plain 'x' ['1', 'Y'] rfl (List.all_eq_true.mp (by decide))⟩

end DesignCompiler.Component
