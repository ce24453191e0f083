import DesignCompiler.Files.Tree
import DesignCompiler.Proofs.Text.Part

/-!
Contract: refusals of the system, and the paths that it is told of.

Owns:
- the laws by which no null character gets into a path;
- the law that the system explains why it refuses to write to a path without this character.

Does not own: what a write does that is not refused, see `DesignCompiler.Proofs.Files.Tree`.
-/

set_option autoImplicit false

namespace DesignCompiler.Files

/-! ### Paths without the null character -/

namespace Path

theorem hasNull_eq_false_iff {path : Path} :
    path.hasNull = false ↔ ∀ name ∈ path.names, '\x00' ∉ name.toList := by
  unfold hasNull
  rw [List.any_eq_false]
  simp

theorem hasNull_ofText {text : String} (plain : '\x00' ∉ text.toList) :
    (ofText text).hasNull = false := by
  rw [hasNull_eq_false_iff]
  intro name isName null
  obtain ⟨part, isPart, rfl⟩ := List.mem_map.mp isName
  rw [String.toList_ofList] at null
  exact plain (Text.mem_of_mem_splitOn (List.mem_filter.mp isPart).1 null)

private theorem hasNull_parent {path : Path} (plain : path.hasNull = false) :
    path.parent.hasNull = false := by
  rw [hasNull_eq_false_iff] at plain ⊢
  exact fun name isName => plain name (List.dropLast_subset _ isName)

private theorem mem_resolveUp {done names : List String} {name : String}
    (isName : name ∈ resolveUp done names) : name ∈ done ∨ name ∈ names := by
  induction names generalizing done with
  | nil =>
      rw [resolveUp, List.mem_reverse] at isName
      exact Or.inl isName
  | cons first rest inductionHypothesis =>
      rw [resolveUp] at isName
      split at isName
      · rcases inductionHypothesis isName with isDone | isRest
        · exact Or.inl (List.mem_of_mem_tail isDone)
        · exact Or.inr (List.mem_cons_of_mem first isRest)
      · rcases inductionHypothesis isName with isDone | isRest
        · rcases List.mem_cons.mp isDone with rfl | isDone
          · exact Or.inr List.mem_cons_self
          · exact Or.inl isDone
        · exact Or.inr (List.mem_cons_of_mem first isRest)

theorem hasNull_resolve {path : Path} {directory : Location} (plain : path.hasNull = false)
    (plainDirectory : (ofLocation directory).hasNull = false) :
    (path.resolve directory).hasNull = false := by
  rw [hasNull_eq_false_iff] at plain plainDirectory ⊢
  intro name isName
  rcases mem_resolveUp isName with isDone | isRest
  · cases isDone
  · split at isRest
    · rcases List.mem_append.mp isRest with isAbove | isBelow
      · exact plainDirectory name isAbove
      · exact plain name isBelow
    · exact plain name isRest

end Path

/-! ### Refusals -/

/-- The system gives a number and a description for every cause but one. -/
theorem FileCause.exists_systemText {cause : FileCause} (told : cause ≠ .nullCharacter) :
    ∃ text, cause.systemText? = some text := by
  cases cause with
  | nullCharacter => exact absurd rfl told
  | _ => exact ⟨_, rfl⟩

namespace Tree

private theorem descend_refused {tree : Tree} {place : Location} {names : List String}
    {cause : FileCause}
    (refused : tree.descend place names = .error cause) : cause ≠ .nullCharacter := by
  induction names generalizing place with
  | nil => cases refused
  | cons name rest inductionHypothesis =>
      rw [descend] at refused
      split at refused
      · exact inductionHypothesis refused
      · split at refused
        · cases refused
          decide
        · split at refused
          · exact inductionHypothesis refused
          · cases refused
            decide
          · cases refused
            decide

variable {tree after : Tree} {path : Path} {cause : FileCause} {error : FileError}

private theorem target_refused (plain : path.hasNull = false)
    (refused : tree.target path = .error cause) :
    cause ≠ .nullCharacter := by
  unfold target at refused
  rw [plain, if_neg Bool.false_ne_true] at refused
  split at refused
  · cases refused
  · cases walked : tree.descend (tree.start path) path.names.dropLast with
    | error other =>
        rw [walked] at refused
        cases refused
        exact descend_refused walked
    | ok directory =>
        rw [walked] at refused
        dsimp only [bind, Except.bind] at refused
        split at refused
        · cases refused
        · split at refused
          · cases refused
            decide
          · cases refused

private theorem makeDirectory_refused (plain : path.hasNull = false)
    (refused : tree.makeDirectory path = .error cause) : cause ≠ .nullCharacter := by
  unfold makeDirectory at refused
  cases leads : tree.target path with
  | error other =>
      rw [leads] at refused
      cases refused
      exact target_refused plain leads
  | ok place? =>
      rw [leads] at refused
      cases place? with
      | none =>
          cases refused
          decide
      | some location =>
          dsimp only [bind, Except.bind] at refused
          split at refused
          · cases refused
            decide
          · cases refused

private theorem ensureDirectory_refused (plain : path.hasNull = false)
    (refused : tree.ensureDirectory path = (after, .error error)) :
    error.cause ≠ .nullCharacter := by
  unfold ensureDirectory at refused
  split at refused
  · cases refused
  · next cause failed =>
      split at refused
      · cases refused
      · cases refused
        exact makeDirectory_refused plain failed

private theorem makeDirectoriesUpTo_refused {depth : Nat} (plain : path.hasNull = false)
    (refused : makeDirectoriesUpTo depth tree path = (after, .error error)) :
    error.cause ≠ .nullCharacter := by
  induction depth generalizing tree after path error with
  | zero => exact ensureDirectory_refused plain refused
  | succ depth inductionHypothesis =>
      rw [makeDirectoriesUpTo] at refused
      split at refused
      · split at refused
        · exact ensureDirectory_refused plain refused
        · exact inductionHypothesis (Path.hasNull_parent plain) refused
      · exact ensureDirectory_refused plain refused

private theorem writeFile_refused {content : Content} (plain : path.hasNull = false)
    (refused : tree.writeFile path content = (after, .error error)) :
    error.cause ≠ .nullCharacter := by
  unfold writeFile at refused
  split at refused
  · next cause failed =>
      cases refused
      exact target_refused plain failed
  · cases refused
    exact nofun
  · split at refused
    · cases refused
      exact nofun
    · cases refused

/-- If a path has no null character, the system gives a number and a description for its refusal to
write there. -/
theorem exists_systemText_of_writeWithDirectories {content : Content}
    (plain : path.hasNull = false)
    (refused : tree.writeWithDirectories path content = (after, .error error)) :
    ∃ text, error.cause.systemText? = some text := by
  apply FileCause.exists_systemText
  unfold writeWithDirectories at refused
  split at refused
  · exact writeFile_refused plain refused
  · exact makeDirectoriesUpTo_refused (Path.hasNull_parent plain) refused

end Tree

end DesignCompiler.Files
