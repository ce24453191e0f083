import DesignCompiler.Text.Blank
import DesignCompiler.Text.Split
import Mathlib.Data.List.DropRight

/-!
Contract: the parts of a text.

Owns:
- the parts between separators, which the library knows as well;
- the run of characters at the beginning of a text;
- the characters that are kept when a text is trimmed;
- texts that are joined without a separator.

Does not own: at which characters a text is split or trimmed.
-/

set_option autoImplicit false

namespace DesignCompiler.Text

/-! ### Separators -/

/-- A test that no character of a text passes. -/
theorem eq_false_of_any {p : Char → Bool} {cs : List Char} (fails : cs.any p = false) :
    ∀ c ∈ cs, p c = false :=
  fun c isChar => Bool.eq_false_iff.mpr (List.any_eq_false.mp fails c isChar)

/-- The parts of a text between separators hold no separator. -/
theorem eq_false_of_mem_splitOnP {p : Char → Bool} {cs : List Char} :
    ∀ part ∈ cs.splitOnP p, ∀ c ∈ part, p c = false := by
  induction cs with
  | nil => simp
  | cons first cs inductionHypothesis =>
      rw [List.splitOnP_cons_eq_if_modifyHead]
      split
      next => exact List.forall_mem_cons.mpr ⟨List.forall_mem_nil _, inductionHypothesis⟩
      next noBreak =>
        cases parts : cs.splitOnP p with
        | nil => exact List.forall_mem_nil _
        | cons part later =>
            rw [parts] at inductionHypothesis
            obtain ⟨ofPart, ofLater⟩ := List.forall_mem_cons.mp inductionHypothesis
            rw [List.modifyHead_cons, List.forall_mem_cons]
            exact ⟨List.forall_mem_cons.mpr ⟨Bool.eq_false_iff.mpr noBreak, ofPart⟩, ofLater⟩

theorem notMem_of_mem_splitOn {separator : Char} {cs part : List Char}
    (isPart : part ∈ cs.splitOn separator) : separator ∉ part := by
  intro inside
  rw [List.splitOn_eq_splitOnP] at isPart
  have kept := eq_false_of_mem_splitOnP part isPart separator inside
  rw [beq_self_eq_true] at kept
  cases kept

/-- Every separator begins a part. -/
theorem length_splitOn (separator : Char) (cs : List Char) :
    (cs.splitOn separator).length = cs.count separator + 1 := by
  rw [List.splitOn_eq_splitOnP]
  induction cs with
  | nil => rfl
  | cons c cs inductionHypothesis =>
      rw [List.splitOnP_cons_eq_if_modifyHead, List.count_cons]
      split <;> simp [inductionHypothesis]

/-- Parts joined by separators are split again. -/
theorem splitOn_append_flatMap {separator : Char} {first : List Char} {later : List (List Char)}
    (isPart : ∀ part ∈ first :: later, separator ∉ part) :
    (first ++ later.flatMap (separator :: ·)).splitOn separator = first :: later := by
  have joined : first ++ later.flatMap (separator :: ·) =
      [separator].intercalate (first :: later) := by
    clear isPart
    induction later generalizing first with
    | nil => rw [List.flatMap_nil, List.append_nil, List.intercalate_singleton]
    | cons next later inductionHypothesis =>
        rw [List.intercalate_cons_cons, ← inductionHypothesis, List.flatMap_cons, List.append_assoc]
        rfl
  rw [joined]
  exact List.splitOn_intercalate separator isPart (List.cons_ne_nil _ _)

private theorem splitOn_eq_splitOn (separator : Char) (cs : List Char) :
    splitOn separator cs = cs.splitOn separator := by
  induction cs with
  | nil => rfl
  | cons c rest inductionHypothesis =>
      rw [splitOn, inductionHypothesis, List.splitOn_cons_eq_if_modifyHead]
      by_cases same : c = separator
      · rw [if_pos same, if_pos (beq_iff_eq.mpr same)]
      · rw [if_neg same, if_neg (mt beq_iff_eq.mp same)]
        cases parts : rest.splitOn separator with
        | nil => exact absurd parts (List.splitOn_ne_nil separator rest)
        | cons part later => rfl

theorem splitOn_of_notMem {separator : Char} {cs : List Char} (absent : separator ∉ cs) :
    splitOn separator cs = [cs] := by
  rw [splitOn_eq_splitOn, List.splitOn_eq_singleton absent]

theorem mem_of_mem_splitOn {separator c : Char} {cs part : List Char}
    (isPart : part ∈ splitOn separator cs) (inside : c ∈ part) : c ∈ cs := by
  rw [splitOn_eq_splitOn] at isPart
  obtain ⟨position, atPosition⟩ := List.getElem?_of_mem isPart
  have joined : [separator].intercalate (cs.splitOn separator) = cs :=
    List.intercalate_splitOn separator
  rw [← joined]
  refine List.mem_flatten.mpr ⟨part, List.mem_of_getElem? (i := 2 * position) ?_, inside⟩
  rw [List.getElem?_intersperse_two_mul]
  exact atPosition

/-! ### Runs of characters -/

section Runs

variable {p : Char → Bool}

theorem takeWhile_append_of_end {run rest : List Char} (inside : ∀ c ∈ run, p c = true)
    (ends : ∀ c ∈ rest.head?, p c = false) : (run ++ rest).takeWhile p = run := by
  rw [List.takeWhile_append_of_pos inside]
  cases rest with
  | nil => simp
  | cons c rest =>
      have isEnd : p c = false := ends c rfl
      simp [isEnd]

theorem dropWhile_append_of_end {run rest : List Char} (inside : ∀ c ∈ run, p c = true)
    (ends : ∀ c ∈ rest.head?, p c = false) : (run ++ rest).dropWhile p = rest := by
  rw [List.dropWhile_append_of_pos inside]
  cases rest with
  | nil => simp
  | cons c rest =>
      have isEnd : p c = false := ends c rfl
      simp [isEnd]

/-- Two texts are the same if the runs at their beginnings are part of the same text. -/
theorem eq_of_append_eq_append {run run' rest rest' : List Char} (inside : ∀ c ∈ run, p c = true)
    (inside' : ∀ c ∈ run', p c = true) (ends : ∀ c ∈ rest.head?, p c = false)
    (ends' : ∀ c ∈ rest'.head?, p c = false) (same : run ++ rest = run' ++ rest') :
    run = run' ∧ rest = rest' := by
  constructor
  · rw [← takeWhile_append_of_end inside ends, same, takeWhile_append_of_end inside' ends']
  · rw [← dropWhile_append_of_end inside ends, same, dropWhile_append_of_end inside' ends']

end Runs

/-! ### Trimming -/

theorem trimBy_infix (p : Char → Bool) (cs : List Char) : trimBy p cs <:+: cs :=
  (List.rdropWhile_prefix p _).isInfix.trans (List.dropWhile_suffix p).isInfix

theorem mem_dropWhile_of_not {p : Char → Bool} {cs : List Char} {c : Char} (isChar : c ∈ cs)
    (kept : p c = false) : c ∈ cs.dropWhile p := by
  rw [← List.takeWhile_append_dropWhile (p := p) (l := cs), List.mem_append] at isChar
  refine isChar.resolve_left fun dropped => ?_
  have passed := List.all_eq_true.mp List.all_takeWhile c dropped
  rw [kept] at passed
  cases passed

theorem mem_trimBy {p : Char → Bool} {cs : List Char} {c : Char} (isChar : c ∈ cs)
    (kept : p c = false) : c ∈ trimBy p cs :=
  List.mem_reverse.mpr
    (mem_dropWhile_of_not (List.mem_reverse.mpr (mem_dropWhile_of_not isChar kept)) kept)

private theorem dropWhile_of_forall {p : Char → Bool} {cs : List Char}
    (kept : ∀ c ∈ cs, p c = false) : cs.dropWhile p = cs := by
  cases cs with
  | nil => rfl
  | cons first rest => rw [List.dropWhile_cons_of_neg (by simp [kept])]

theorem trimBy_of_forall {p : Char → Bool} {cs : List Char} (kept : ∀ c ∈ cs, p c = false) :
    trimBy p cs = cs := by
  have kept' : ∀ c ∈ cs.reverse, p c = false := fun c isChar => kept c (List.mem_reverse.mp isChar)
  rw [trimBy, dropWhile_of_forall kept, dropWhile_of_forall kept', List.reverse_reverse]

/-! ### Joining -/

theorem intercalate_empty (texts : List String) : "".intercalate texts = String.join texts := by
  induction texts with
  | nil => rfl
  | cons text texts inductionHypothesis =>
      rw [String.join_cons, ← inductionHypothesis]
      cases texts with
      | nil => rw [String.intercalate_singleton, String.intercalate_nil, String.append_empty]
      | cons next rest => rw [String.intercalate_cons_cons, String.append_empty]

end DesignCompiler.Text
