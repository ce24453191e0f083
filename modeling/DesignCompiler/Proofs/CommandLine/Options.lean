import DesignCompiler.CommandLine.Grammar
import DesignCompiler.Proofs.Composition

/-!
Contract: what is known about the options of a command that has been parsed.

Owns:
- `readTokens_preserves`, by which a property that no use of an option breaks holds of all options
  that are read;
- the frameworks that a component can be asked for: they are the variants' names.

Does not own: what commands do with their options.
-/

set_option autoImplicit false

namespace DesignCompiler.CommandLine

/-! ### Uses of options -/

/-- No use of an option breaks a property of the options. -/
def IsKeptByUses (motive : ComponentOptions → Prop) : Prop :=
  ∀ {options changed : ComponentOptions} {use : Use}, applyUse options use = .ok changed →
    motive options → motive changed

variable {motive : ComponentOptions → Prop}

private theorem applyUses_preserves (kept : IsKeptByUses motive)
    {options changed : ComponentOptions}
    {uses : List Use} (applied : applyUses options uses = .ok changed) (holds : motive options) :
    motive changed := by
  induction uses generalizing options with
  | nil => exact Except.ok.inj applied ▸ holds
  | cons use rest inductionHypothesis =>
      obtain ⟨next, first, later⟩ := exists_of_bind_eq_ok applied
      exact inductionHypothesis later (kept first holds)

private theorem Reading.options_takeDashes (reading : Reading) (room : Nat) (isLast : Bool) :
    (reading.takeDashes room isLast).options = reading.options := by
  unfold takeDashes
  split
  · rfl
  · split <;> rfl

private theorem Reading.options_of_take {reading next : Reading} {room : Nat} {argument : String}
    (taken : reading.take room argument = .ok next) : next.options = reading.options := by
  unfold take at taken
  split at taken
  · split at taken
    · cases taken
    · rw [← Except.ok.inj taken]
  · rw [← Except.ok.inj taken]

/-- What the options have at the beginning and no use breaks, they have in the end. -/
theorem readTokens_preserves (kept : IsKeptByUses motive) {rules : List OptionRule} {room : Nat}
    {reading final : Reading} {tokens : List Token}
    (read : readTokens rules room reading tokens = .ok final) (holds : motive reading.options) :
    motive final.options := by
  fun_induction readTokens rules room reading tokens with
  | case1 reading =>
      exact Except.ok.inj read ▸ holds
  | case2 reading _ rest inductionHypothesis =>
      exact inductionHypothesis read (by rwa [reading.options_takeDashes])
  | case3 reading argument rest inductionHypothesis =>
      obtain ⟨next, taken, later⟩ := exists_of_bind_eq_ok read
      exact inductionHypothesis next later (by rwa [Reading.options_of_take taken])
  | case4 reading argument rest inductionHypothesis => exact inductionHypothesis read holds
  | case5 | case6 | case9 => cases read
  | case7 reading argument rest rule value joined uses hasExtras _ inductionHypothesis =>
      obtain ⟨options, applied, later⟩ := exists_of_bind_eq_ok read
      exact inductionHypothesis options later (applyUses_preserves kept applied holds)
  | case8 reading argument rule _ joined uses hasExtras _ value rest complete
      inductionHypothesis =>
      obtain ⟨options, applied, later⟩ := exists_of_bind_eq_ok read
      exact inductionHypothesis options later (applyUses_preserves kept applied holds)

private theorem readLeaf_preserves (kept : IsKeptByUses motive) {rules : List OptionRule}
    {room : Nat} {arguments values : List String} {options : ComponentOptions}
    (read : readLeaf rules room arguments = .ok (options, values)) (holds : motive {}) :
    motive options := by
  unfold readLeaf at read
  dsimp only at read
  split at read
  · cases read
  · obtain ⟨reading, final, later⟩ := exists_of_bind_eq_ok read
    split at later
    · cases later
    · rw [← (Prod.mk.inj (Except.ok.inj later)).1]
      exact readTokens_preserves kept final holds

/-! ### Commands -/

/-- A command of a group comes from one of the group's readers. -/
theorem exists_of_readGroup {rules : List OptionRule}
    {commands : List (String × (List String → Except Exit Command))} {arguments : List String}
    {command : Command} (read : readGroup rules commands arguments = .ok command) :
    ∃ entry ∈ commands, ∃ rest, entry.2 rest = .ok command := by
  unfold readGroup at read
  dsimp only at read
  split at read
  · cases read
  · obtain ⟨⟨name, rest, hasExtras⟩, -, later⟩ := exists_of_bind_eq_ok read
    dsimp only at later
    split at later
    · cases later
    · next reader found =>
        obtain ⟨chosen, isRead, last⟩ := exists_of_bind_eq_ok later
        obtain ⟨_, _, split, _⟩ := List.lookup_eq_some_iff.mp found
        split at last
        · cases last
        · rw [← Except.ok.inj last]
          exact ⟨(name, reader), split ▸ List.mem_append_right _ List.mem_cons_self, rest, isRead⟩

/-- The component command is read by its own reader, whatever group names it. -/
theorem exists_of_parse_toReact {arguments : List String} {fileKey frameId : String}
    {options : ComponentOptions}
    (asked : parse arguments = .ok (.toReact fileKey frameId options)) :
    ∃ rest, readLeaf componentRules 2 rest = .ok (options, [fileKey, frameId]) := by
  unfold parse at asked
  obtain ⟨group, isGroup, later, inGroup⟩ := exists_of_readGroup asked
  simp only [List.mem_cons, List.not_mem_nil, or_false] at isGroup
  rcases isGroup with rfl | rfl
  · obtain ⟨reader, isReader, rest, read⟩ := exists_of_readGroup inGroup
    simp only [List.mem_cons, List.not_mem_nil, or_false] at isReader
    obtain rfl | rfl | rfl := isReader
    all_goals
      obtain ⟨leaf, isLeaf, made⟩ := exists_of_bind_eq_ok read
      split at made <;> cases made
    exact ⟨rest, isLeaf⟩
  · obtain ⟨reader, isReader, rest, read⟩ := exists_of_readGroup inGroup
    simp only [List.mem_cons, List.not_mem_nil, or_false] at isReader
    rcases isReader with rfl | rfl
    · obtain ⟨leaf, -, made⟩ := exists_of_bind_eq_ok read
      cases made
    · obtain ⟨leaf, -, made⟩ := exists_of_bind_eq_ok read
      split at made <;> cases made

/-- Only the names of variants are accepted as a framework. -/
theorem framework_mem_of_parse {arguments : List String} {fileKey frameId : String}
    {options : ComponentOptions}
    (asked : parse arguments = .ok (.toReact fileKey frameId options)) :
    options.framework ∈ Component.Variant.all.map Component.Variant.name := by
  have kept : IsKeptByUses fun options =>
      options.framework ∈ Component.Variant.all.map Component.Variant.name := by
    rintro options changed ⟨rule, value⟩ applied known
    cases key : rule.key with
    | help | version =>
        simp only [applyUse, key] at applied
        cases applied
    | framework =>
        simp only [applyUse, key] at applied
        split at applied
        · next accepted =>
            cases applied
            exact List.contains_iff_mem.mp accepted
        · cases applied
    | verbose | name | instructions | output | ai | model =>
        simp only [applyUse, key] at applied
        cases applied
        exact known
  obtain ⟨rest, read⟩ := exists_of_parse_toReact asked
  exact readLeaf_preserves kept read (by decide)

end DesignCompiler.CommandLine
