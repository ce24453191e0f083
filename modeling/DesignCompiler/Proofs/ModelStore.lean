import DesignCompiler.ModelStore
import DesignCompiler.Proofs.Files.Tree
import DesignCompiler.Proofs.Json.RoundTrip

/-!
Contract: the remembered model over whole runs.

Owns:
- `selectAll?`, the files after models were remembered one after another;
- the law that what is saved is read again;
- the law that a run leaves the files as its last step alone would have left them, with the other
  entries of the settings as they were.

Does not own: the texts of JSON values, see `DesignCompiler.Proofs.Json.RoundTrip`.
-/

set_option autoImplicit false

namespace DesignCompiler.ModelStore

open DesignCompiler.Files

/-! ### Reading what was written -/

/-- The file of a directory holds an object. -/
def Holds (tree : Tree) (directory : Path) (fields : Fields) : Prop :=
  ∃ value, tree.readFile (file directory) = .ok (.text value) ∧
    Json.read value.toList = .ok (.object fields)

private theorem read_of_holds {tree : Tree} {directory : Path} {fields : Fields}
    (holds : Holds tree directory fields) : read tree directory = fields := by
  obtain ⟨value, content, isObject⟩ := holds
  simp only [read, content, entriesOf, isObject]

/-- Everything but an object reads as an empty one. -/
theorem read_eq_nil {tree : Tree} {directory : Path}
    (nothing : ∀ fields, ¬ Holds tree directory fields) : read tree directory = [] := by
  unfold read
  split
  · rename_i content readable
    cases content with
    | binary bytes => rfl
    | text value =>
        unfold entriesOf
        dsimp only
        split
        · rename_i fields isObject
          exact absurd ⟨value, readable, isObject⟩ (nothing fields)
        · rfl
  · rfl

/-- Entries are read only if some text denotes an object with them. -/
theorem isDocument_read (tree : Tree) (directory : Path) :
    (Json.object (read tree directory)).IsDocument := by
  by_cases holds : ∃ fields, Holds tree directory fields
  · obtain ⟨fields, holds⟩ := holds
    rw [read_of_holds holds]
    obtain ⟨value, -, isObject⟩ := holds
    exact Json.isDocument_of_read isObject
  · rw [read_eq_nil (not_exists.mp holds)]
    exact Json.isDocument_noFields

/-- The content for an object that texts denote holds this object. -/
theorem entriesOf_contentOf {fields : Fields} (document : (Json.object fields).IsDocument) :
    entriesOf (contentOf fields) = fields := by
  have isObject := document.read_chars .indented rfl 0
  simp only [contentOf, entriesOf, Json.render, String.toList_ofList, isObject]

theorem save_eq_ok_iff {tree saved : Tree} {directory path : Path} {fields : Fields} :
    save tree directory fields = (saved, .ok path) ↔
      path = file directory ∧
        tree.writeWithDirectories (file directory) (contentOf fields) = (saved, .ok ()) := by
  unfold save
  obtain ⟨after, error | done⟩ := tree.writeWithDirectories (file directory) (contentOf fields)
  · simp
  · simp [eq_comm, and_comm]

/-- What is saved is read again. -/
theorem read_save {tree saved : Tree} {directory path : Path} {fields : Fields}
    (document : (Json.object fields).IsDocument)
    (done : save tree directory fields = (saved, .ok path)) : read saved directory = fields := by
  obtain ⟨-, written⟩ := save_eq_ok_iff.mp done
  simp only [read, Tree.readFile_of_writeWithDirectories written, entriesOf_contentOf document]

/-- Entries with a model are saved and read again. -/
theorem read_select {tree after : Tree} {directory path : Path} {model : String}
    (done : select tree directory model = (after, .ok path)) :
    read after directory = (read tree directory).put modelKey (.string model) :=
  read_save ((isDocument_read tree directory).put modelKey (.string model)) done

/-! ### Runs -/

/-- The files after models were remembered one after another; none if one of them could not be. -/
def selectAll? (directory : Path) : Tree → List String → Option Tree
  | tree, [] => some tree
  | tree, model :: rest =>
    match select tree directory model with
    | (after, .ok _) => selectAll? directory after rest
    | (_, .error _) => none

/-- After a model was remembered any other one can be, and the first one leaves no trace. -/
theorem select_again {tree after : Tree} {directory path : Path} {first : String}
    (done : select tree directory first = (after, .ok path)) (last : String) :
    ∃ final, select tree directory last = (final, .ok (file directory)) ∧
      select after directory last = (final, .ok (file directory)) := by
  have entries := read_select done
  obtain ⟨-, written⟩ := save_eq_ok_iff.mp done
  obtain ⟨final, alone, again⟩ := Tree.writeWithDirectories_again written
    (contentOf ((read tree directory).put modelKey (.string last)))
  refine ⟨final, save_eq_ok_iff.mpr ⟨rfl, alone⟩, save_eq_ok_iff.mpr ⟨rfl, ?_⟩⟩
  rw [entries, Fields.put_put]
  exact again

/-- A run comes to the same as its last step alone. -/
theorem selectAll?_append_singleton (directory : Path) (tree final : Tree) (models : List String)
    (model : String) :
    selectAll? directory tree (models ++ [model]) = some final ↔
      select tree directory model = (final, .ok (file directory)) := by
  -- along the run: its first step succeeds exactly if the last one alone does, and leaves no trace
  induction models generalizing tree with
  | nil =>
      rw [List.nil_append, selectAll?]
      split
      · rename_i after path done
        have named := (save_eq_ok_iff.mp done).1
        simp [done, selectAll?, named]
      · rename_i failed
        simp [failed]
  | cons first rest inductionHypothesis =>
      rw [List.cons_append, selectAll?]
      split
      · rename_i after path done
        obtain ⟨single, alone, again⟩ := select_again done model
        rw [inductionHypothesis after, alone, again]
      · rename_i error failed
        refine iff_of_false nofun fun alone => ?_
        obtain ⟨single, done, -⟩ := select_again alone first
        rw [failed] at done
        cases done

/-- The file of a directory can be written, if need be after making directories. -/
def IsWritable (tree : Tree) (directory : Path) : Prop :=
  ∃ content after, tree.writeWithDirectories (file directory) content = (after, .ok ())

/-- A file that can be written at all can be written with any entries. -/
theorem IsWritable.exists_save {tree : Tree} {directory : Path}
    (writable : IsWritable tree directory) (fields : Fields) :
    ∃ saved, save tree directory fields = (saved, .ok (file directory)) := by
  obtain ⟨content, after, written⟩ := writable
  obtain ⟨saved, alone, -⟩ := Tree.writeWithDirectories_again written (contentOf fields)
  exact ⟨saved, save_eq_ok_iff.mpr ⟨rfl, alone⟩⟩

/-- Where the file can be written, every run of choices succeeds and leaves the files as the last
one alone would have left them.  The last model is the one that is remembered; the other entries are
those of the object that the file held at first, none if it held no object.  Every object that some
text denotes is saved, and read again. -/
theorem selectAll?_keeps_last_choice {tree : Tree} {directory : Path}
    (writable : IsWritable tree directory) (models : List String) (model : String) :
    (∃ final, selectAll? directory tree (models ++ [model]) = some final ∧
      select tree directory model = (final, .ok (file directory)) ∧
      selected final directory = some (.string model) ∧
      (∀ fields, Holds tree directory fields →
        Fields.IsUpdate fields (read final directory) modelKey (.string model)) ∧
      ((∀ fields, ¬ Holds tree directory fields) →
        Fields.IsUpdate [] (read final directory) modelKey (.string model))) ∧
    ∀ text fields, Json.read text = .ok (.object fields) →
      ∃ saved, save tree directory fields = (saved, .ok (file directory)) ∧
        read saved directory = fields := by
  constructor
  · obtain ⟨final, alone⟩ : ∃ final, select tree directory model = (final, .ok (file directory)) :=
      writable.exists_save _
    have ran := (selectAll?_append_singleton directory tree final models model).mpr alone
    have entries := read_select alone
    refine ⟨final, ran, alone, ?_, ?_, ?_⟩
    · rw [selected, entries]
      exact (Fields.isUpdate_put _ modelKey (.string model)).stored
    · intro fields holds
      rw [entries, read_of_holds holds]
      exact Fields.isUpdate_put fields modelKey (.string model)
    · intro nothing
      rw [entries, read_eq_nil nothing]
      exact Fields.isUpdate_put [] modelKey (.string model)
  · intro text fields isObject
    obtain ⟨saved, done⟩ := writable.exists_save fields
    exact ⟨saved, done, read_save (Json.isDocument_of_read isObject) done⟩

/-- Two choices in turn replace the null between an undefined number and a list. -/
theorem selectAll?_among_other_entries :
    let directory : Path := ⟨1, ["settings"]⟩
    let before : Fields := [("limit", .number (.float .nan)), (modelKey, .null),
      ("colours", .array [.string "é", .number (.int (-3))])]
    let saved := save (Tree.empty ["work"]) directory before
    IsWritable (Tree.empty ["work"]) directory ∧ IsWritable saved.1 directory ∧
      read saved.1 directory = before ∧
      ∃ final, selectAll? directory saved.1 ["first", "second"] = some final ∧
        selected final directory = some (.string "second") ∧
        Fields.IsUpdate before (read final directory) modelKey (.string "second") := by
  intro directory before saved
  have document : (Json.object before).IsDocument := by
    refine .object (by decide) ?_
    simp only [before, List.forall_mem_cons, List.not_mem_nil, false_implies, implies_true,
      and_true]
    refine ⟨.number trivial, .null, .array ?_⟩
    simp only [List.forall_mem_cons, List.not_mem_nil, false_implies, implies_true, and_true]
    exact ⟨.string _, .number (by decide)⟩
  have isText := document.read_chars .indented rfl 0
  have done : saved = (saved.1, .ok (file directory)) :=
    Prod.ext rfl (by decide +kernel : saved.2 = .ok (file directory))
  have written := (save_eq_ok_iff.mp done).2
  have holds : Holds saved.1 directory before := by
    refine ⟨_, Tree.readFile_of_writeWithDirectories written, ?_⟩
    rw [Json.render, String.toList_ofList]
    exact isText
  have writable : IsWritable (Tree.empty ["work"]) directory := ⟨_, _, written⟩
  obtain ⟨again, -, rewritten⟩ := Tree.writeWithDirectories_again written (contentOf before)
  have writableAgain : IsWritable saved.1 directory := ⟨_, again, rewritten⟩
  obtain ⟨final, ran, -, remembered, kept, -⟩ :=
    (selectAll?_keeps_last_choice writableAgain ["first"] "second").1
  obtain ⟨same, saves, isRead⟩ := (selectAll?_keeps_last_choice writable [] "").2 _ _ isText
  have once : same = saved.1 := (congrArg Prod.fst saves).symm
  exact ⟨writable, writableAgain, once ▸ isRead, final, ran, remembered, kept before holds⟩

end DesignCompiler.ModelStore
