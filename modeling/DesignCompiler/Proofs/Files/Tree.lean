import DesignCompiler.Files.Tree
import Mathlib.Data.List.Basic
import Mathlib.Logic.Function.Basic

/-!
Contract: what writing does to the files.

Owns:
- `Tree.file?`, the view of a tree that shows files only;
- the law that making directories leaves all files alone, and that a write changes one file or none;
- the law that after a successful write the same path can be written and read again, and that the
  last write alone counts.

Does not own: which files are written.
-/

set_option autoImplicit false

namespace DesignCompiler.Files

/-! ### Paths -/

namespace Path

/-- Resolving leaves no steps upwards. -/
theorem up_notMem_resolveUp (done names : List String) (resolved : ".." ∉ done) :
    ".." ∉ resolveUp done names := by
  induction names generalizing done with
  | nil => simpa [resolveUp] using resolved
  | cons name rest inductionHypothesis =>
      rw [resolveUp]
      split
      · exact inductionHypothesis done.tail fun up => resolved (List.mem_of_mem_tail up)
      · rename_i other
        exact inductionHypothesis (name :: done) (by simp [resolved, Ne.symm other])

theorem up_notMem_locate (path : Path) (directory : Location) :
    ".." ∉ path.locate directory :=
  up_notMem_resolveUp [] _ List.not_mem_nil

end Path

namespace Tree

/-! ### Entries -/

def file? (tree : Tree) (location : Location) : Option Content :=
  match tree.entry? location with
  | some (.file content) => some content
  | _ => none

/-- The root is a directory. -/
theorem ne_nil_of_entry?_ne {tree : Tree} {location : Location}
    (vacant : tree.entry? location ≠ some .directory) : location ≠ [] := by
  rintro rfl
  exact vacant rfl

private theorem lookup_filter_of_ne (entries : List (Location × Entry)) {location other : Location}
    (apart : other ≠ location) :
    (entries.filter fun found => found.1 ≠ location).lookup other = entries.lookup other := by
  induction entries with
  | nil => rfl
  | cons found rest inductionHypothesis =>
      by_cases same : found.1 = location
      · have passed : (other == found.1) = false := by simpa [same] using apart
        rw [List.filter_cons_of_neg (by simpa using same), List.lookup_cons, passed,
          inductionHypothesis]
      · rw [List.filter_cons_of_pos (by simpa using same), List.lookup_cons, List.lookup_cons,
          inductionHypothesis]

/-- An entry that is put somewhere stands there, and all others stay. -/
theorem entry?_put (tree : Tree) {location : Location} (below : location ≠ []) (entry : Entry) :
    Tree.entry? (tree.put location entry) = Function.update tree.entry? location (some entry) := by
  funext other
  by_cases same : other = location
  · subst same
    simp [put, below, entry?]
  · rw [Function.update_of_ne same]
    by_cases root : other = []
    · simp [root, entry?]
    · have missed : (other == location) = false := by simpa using same
      simp only [put, entry?, root, if_false, List.lookup_cons, missed]
      exact lookup_filter_of_ne tree.entries same

/-- Of two entries put at one place the last one counts. -/
theorem put_put (tree : Tree) (location : Location) (first last : Entry) :
    (tree.put location first).put location last = tree.put location last := by
  simp [put, List.filter_filter]

/-- A new directory is no file. -/
theorem file?_put_directory (tree : Tree) {location : Location}
    (vacant : tree.entry? location = none) :
    (tree.put location .directory).file? = tree.file? := by
  have free : tree.entry? location ≠ some .directory := by simp [vacant]
  have below := ne_nil_of_entry?_ne free
  funext other
  by_cases same : other = location
  · subst same
    simp [file?, entry?_put tree below, vacant]
  · simp [file?, entry?_put tree below, Function.update_of_ne same]

private theorem file?_put_file (tree : Tree) {location : Location} (below : location ≠ [])
    (content : Content) :
    (tree.put location (.file content)).file? =
      Function.update tree.file? location (some content) := by
  funext other
  by_cases same : other = location
  · subst same
    simp [file?, entry?_put tree below]
  · simp [file?, entry?_put tree below, Function.update_of_ne same]

/-! ### Walking -/

/-- Walking without steps upwards ends at the names walked along. -/
theorem eq_append_of_descend {tree : Tree} {place found : Location} {names : List String}
    (straight : ".." ∉ names) (walked : tree.descend place names = .ok found) :
    found = place ++ names := by
  induction names generalizing place with
  | nil =>
      cases walked
      exact (List.append_nil _).symm
  | cons name rest inductionHypothesis =>
      obtain ⟨down, straightRest⟩ := not_or.mp (List.mem_cons.not.mp straight)
      rw [descend, if_neg (Ne.symm down)] at walked
      split at walked
      · cases walked
      · split at walked
        · rw [inductionHypothesis straightRest walked, List.append_assoc]
          rfl
        · cases walked
        · cases walked

/-- What walks through directories only is not disturbed where no directory stands. -/
theorem descend_put {tree : Tree} {place found location : Location} {names : List String}
    (vacant : tree.entry? location ≠ some .directory) (entry : Entry)
    (walked : tree.descend place names = .ok found) :
    (tree.put location entry).descend place names = .ok found := by
  induction names generalizing place with
  | nil => exact walked
  | cons name rest inductionHypothesis =>
      rw [descend] at walked ⊢
      split
      · rename_i up
        rw [if_pos up] at walked
        exact inductionHypothesis walked
      · rename_i down
        rw [if_neg down] at walked
        split
        · rename_i long
          rw [if_pos long] at walked
          cases walked
        · rename_i short
          rw [if_neg short] at walked
          cases stands : tree.entry? (place ++ [name]) with
          | none => simp [stands] at walked
          | some standing =>
              cases standing with
              | file content => simp [stands] at walked
              | directory =>
                  have apart : place ++ [name] ≠ location := by
                    rintro rfl
                    exact vacant stands
                  rw [entry?_put tree (ne_nil_of_entry?_ne vacant), Function.update_of_ne apart,
                    stands]
                  rw [stands] at walked
                  exact inductionHypothesis walked

/-- Walking along some names and one more. -/
theorem descend_append (tree : Tree) (place : Location) (names rest : List String) :
    tree.descend place (names ++ rest) =
      (tree.descend place names).bind fun found => tree.descend found rest := by
  induction names generalizing place with
  | nil => rfl
  | cons name names inductionHypothesis =>
      simp only [List.cons_append, descend]
      split
      · exact inductionHypothesis _
      · split
        · rfl
        · split
          · exact inductionHypothesis _
          · rfl
          · rfl

/-! ### Targets -/

private theorem start_put (tree : Tree) (location : Location) (entry : Entry) (path : Path) :
    (tree.put location entry).start path = tree.start path :=
  rfl

/-- A path with a last name names a place in the directory that the other names lead to. -/
theorem target_eq_some_iff {tree : Tree} {path : Path} {location : Location} :
    tree.target path = .ok (some location) ↔
      path.hasNull = false ∧ ∃ (names : List String) (name : String) (directory : Location),
        path.names = names ++ [name] ∧ tree.descend (tree.start path) names = .ok directory
          ∧ name ≠ ".." ∧ isTooLong name = false ∧ location = directory ++ [name] := by
  unfold target
  cases null : path.hasNull with
  | true => simp
  | false =>
      obtain ⟨nowhere⟩ | ⟨names, name, last⟩ := List.eq_nil_or_concat path.names
      · simp [nowhere]
      · simp only [last, List.concat_eq_append, List.getLast?_concat, List.dropLast_concat]
        cases walked : tree.descend (tree.start path) names with
        | error cause => simp [walked, bind, Except.bind]
        | ok directory =>
            by_cases up : name = ".."
            · simp [bind, Except.bind, up]
            · cases long : isTooLong name with
              | true => simp [bind, Except.bind, up, long]
              | false => simp [bind, Except.bind, up, long, walked, eq_comm (a := location)]

/-- A place is where the path made of it leads. -/
theorem eq_of_target_ofLocation {tree : Tree} {location found : Location}
    (straight : ".." ∉ location)
    (leads : tree.target (Path.ofLocation location) = .ok (some found)) :
    found = location := by
  obtain ⟨-, names, name, directory, last, walked, -, -, rfl⟩ := target_eq_some_iff.mp leads
  have named : location = names ++ [name] := last
  subst named
  rw [eq_append_of_descend (fun up => straight (List.mem_append_left _ up)) walked]
  rfl

private theorem target_put {tree : Tree} {path : Path} {location place : Location}
    (vacant : tree.entry? location ≠ some .directory) (entry : Entry)
    (leads : tree.target path = .ok (some place)) :
    (tree.put location entry).target path = .ok (some place) := by
  obtain ⟨null, names, name, directory, last, walked, down, short, named⟩ :=
    target_eq_some_iff.mp leads
  exact target_eq_some_iff.mpr
    ⟨null, names, name, directory, last, descend_put vacant entry walked, down, short, named⟩

theorem isDirectory_eq_true_iff {tree : Tree} {path : Path} :
    tree.isDirectory path = true ↔
      ∃ found, tree.descend (tree.start path) path.names = .ok found := by
  unfold isDirectory
  cases tree.descend (tree.start path) path.names <;> simp

private theorem isDirectory_put {tree : Tree} {path : Path} {location : Location}
    (vacant : tree.entry? location ≠ some .directory) (entry : Entry)
    (stands : tree.isDirectory path = true) :
    (tree.put location entry).isDirectory path = true := by
  obtain ⟨found, walked⟩ := isDirectory_eq_true_iff.mp stands
  exact isDirectory_eq_true_iff.mpr ⟨found, descend_put vacant entry walked⟩

/-! ### Making directories -/

theorem makeDirectory_eq_ok_iff {tree after : Tree} {path : Path} :
    tree.makeDirectory path = .ok after ↔
      ∃ location, tree.target path = .ok (some location) ∧ tree.entry? location = none
        ∧ after = tree.put location .directory := by
  unfold makeDirectory
  cases leads : tree.target path with
  | error cause => simp [bind, Except.bind]
  | ok place? =>
      cases place? with
      | none => simp [bind, Except.bind]
      | some location =>
          cases stands : tree.entry? location <;> simp [bind, Except.bind, stands, eq_comm]

/-- A directory that has been made is one. -/
theorem isDirectory_of_makeDirectory {tree after : Tree} {path : Path}
    (made : tree.makeDirectory path = .ok after) : after.isDirectory path = true := by
  obtain ⟨location, leads, vacant, rfl⟩ := makeDirectory_eq_ok_iff.mp made
  obtain ⟨-, names, name, directory, last, walked, down, short, rfl⟩ := target_eq_some_iff.mp leads
  have free : tree.entry? (directory ++ [name]) ≠ some .directory := by simp [vacant]
  refine isDirectory_eq_true_iff.mpr ⟨directory ++ [name], ?_⟩
  rw [last, descend_append, start_put, descend_put free .directory walked]
  simp [Except.bind, descend, down, short, entry?_put]

/-- Where a directory stands none is made, and the reason is not that one above it is missing. -/
theorem makeDirectory_of_isDirectory {tree : Tree} {path : Path}
    (stands : tree.isDirectory path = true) :
    ∃ cause, tree.makeDirectory path = .error cause ∧ cause ≠ .notFound := by
  obtain ⟨found, walked⟩ := isDirectory_eq_true_iff.mp stands
  unfold makeDirectory target
  cases null : path.hasNull with
  | true => exact ⟨.nullCharacter, by simp [bind, Except.bind], by simp⟩
  | false =>
      refine ⟨.exists, ?_, by simp⟩
      obtain ⟨nowhere⟩ | ⟨names, name, last⟩ := List.eq_nil_or_concat path.names
      · simp [nowhere, bind, Except.bind]
      · rw [last, List.concat_eq_append, descend_append] at walked
        simp only [last, List.concat_eq_append, List.getLast?_concat, List.dropLast_concat]
        cases above : tree.descend (tree.start path) names with
        | error cause => simp [above, Except.bind] at walked
        | ok directory =>
            simp only [above, Except.bind, descend] at walked
            by_cases up : name = ".."
            · simp [bind, Except.bind, up]
            · cases long : isTooLong name with
              | true => simp [up, long] at walked
              | false =>
                  cases here : tree.entry? (directory ++ [name]) with
                  | none => simp [up, long, here] at walked
                  | some entry => simp [bind, Except.bind, up, here]

private theorem ensureDirectory_of_isDirectory {tree : Tree} {path : Path}
    (stands : tree.isDirectory path = true) : tree.ensureDirectory path = (tree, .ok ()) := by
  obtain ⟨cause, refused, -⟩ := makeDirectory_of_isDirectory stands
  simp [ensureDirectory, refused, stands]

private theorem isDirectory_of_ensureDirectory {tree after : Tree} {path : Path}
    (ensured : tree.ensureDirectory path = (after, .ok ())) : after.isDirectory path = true := by
  unfold ensureDirectory at ensured
  split at ensured
  · rename_i made
    cases ensured
    exact isDirectory_of_makeDirectory made
  · split at ensured
    · rename_i stands
      cases ensured
      exact stands
    · cases ensured

/-- Where a directory stands nothing has to be made. -/
theorem makeDirectories_of_isDirectory {tree : Tree} {path : Path}
    (stands : tree.isDirectory path = true) : tree.makeDirectories path = (tree, .ok ()) := by
  obtain ⟨cause, refused, known⟩ := makeDirectory_of_isDirectory stands
  unfold makeDirectories
  cases path.names.length with
  | zero => exact ensureDirectory_of_isDirectory stands
  | succ depth =>
      rw [makeDirectoriesUpTo, refused]
      split
      · rename_i unknown
        cases unknown
        exact absurd rfl known
      · exact ensureDirectory_of_isDirectory stands

private theorem isDirectory_of_makeDirectories {tree after : Tree} {path : Path}
    (made : tree.makeDirectories path = (after, .ok ())) : after.isDirectory path = true := by
  unfold makeDirectories at made
  cases depth : path.names.length with
  | zero =>
      rw [depth] at made
      exact isDirectory_of_ensureDirectory made
  | succ depth' =>
      rw [depth, makeDirectoriesUpTo] at made
      split at made
      · split at made
        · exact isDirectory_of_ensureDirectory made
        · rename_i failed
          exact (failed after made).elim
      · exact isDirectory_of_ensureDirectory made

private theorem file?_ensureDirectory (tree : Tree) (path : Path) :
    (tree.ensureDirectory path).1.file? = tree.file? := by
  unfold ensureDirectory
  cases made : tree.makeDirectory path with
  | ok after =>
      obtain ⟨location, -, vacant, rfl⟩ := makeDirectory_eq_ok_iff.mp made
      exact file?_put_directory tree vacant
  | error cause => cases tree.isDirectory path <;> rfl

/-- Making directories leaves all files alone, whether or not it succeeds. -/
theorem file?_makeDirectoriesUpTo (depth : Nat) (tree : Tree) (path : Path) :
    (makeDirectoriesUpTo depth tree path).1.file? = tree.file? := by
  induction depth generalizing path with
  | zero => exact file?_ensureDirectory tree path
  | succ depth inductionHypothesis =>
      have above := inductionHypothesis path.parent
      rw [makeDirectoriesUpTo]
      split
      · split
        · rename_i made
          rw [made] at above
          exact (file?_ensureDirectory _ path).trans above
        · exact above
      · exact file?_ensureDirectory tree path

private theorem file?_makeDirectories (tree : Tree) (path : Path) :
    (tree.makeDirectories path).1.file? = tree.file? :=
  file?_makeDirectoriesUpTo _ tree path

/-! ### Writing -/

theorem writeFile_eq_ok_iff {tree after : Tree} {path : Path} {content : Content} :
    tree.writeFile path content = (after, .ok ()) ↔
      ∃ location, tree.target path = .ok (some location)
        ∧ tree.entry? location ≠ some .directory ∧ after = tree.put location (.file content) := by
  unfold writeFile
  cases leads : tree.target path with
  | error cause => simp
  | ok place? =>
      cases place? with
      | none => simp
      | some location =>
          cases stands : tree.entry? location with
          | none => simp [stands, eq_comm]
          | some entry => cases entry <;> simp [stands, eq_comm]

/-- A write that fails changes nothing. -/
theorem writeFile_eq_error {tree after : Tree} {path : Path} {content : Content} {error : FileError}
    (failed : tree.writeFile path content = (after, .error error)) : after = tree := by
  unfold writeFile at failed
  split at failed
  · cases failed; rfl
  · cases failed; rfl
  · split at failed <;> cases failed
    rfl

theorem writeWithDirectories_eq_ok_iff {tree after : Tree} {path : Path} {content : Content} :
    tree.writeWithDirectories path content = (after, .ok ()) ↔
      ∃ made, tree.makeDirectories path.parent = (made, .ok ())
        ∧ made.writeFile path content = (after, .ok ()) := by
  unfold writeWithDirectories
  obtain ⟨made, failure | success⟩ := tree.makeDirectories path.parent
  · simp
  · simp

/-- A write to a place changes the file at this place and no other one. -/
theorem file?_of_writeWithDirectories {tree after : Tree} {location : Location} {content : Content}
    (straight : ".." ∉ location)
    (written : tree.writeWithDirectories (Path.ofLocation location) content = (after, .ok ())) :
    after.file? = Function.update tree.file? location (some content) := by
  obtain ⟨made, above, written⟩ := writeWithDirectories_eq_ok_iff.mp written
  obtain ⟨found, leads, vacant, rfl⟩ := writeFile_eq_ok_iff.mp written
  obtain rfl := eq_of_target_ofLocation straight leads
  have alone := file?_makeDirectories tree (Path.ofLocation found).parent
  rw [above] at alone
  rw [file?_put_file made (ne_nil_of_entry?_ne vacant), alone]

/-- A write that fails changes no file, though it may have made directories. -/
theorem file?_of_writeWithDirectories_error {tree after : Tree} {path : Path} {content : Content}
    {error : FileError}
    (failed : tree.writeWithDirectories path content = (after, .error error)) :
    after.file? = tree.file? := by
  have alone := file?_makeDirectories tree path.parent
  unfold writeWithDirectories at failed
  split at failed
  · rename_i above
    rw [above] at alone
    rw [writeFile_eq_error failed, ← alone]
  · rw [failed] at alone
    exact alone

/-- What has been written is read. -/
theorem readFile_of_writeWithDirectories {tree after : Tree} {path : Path} {content : Content}
    (written : tree.writeWithDirectories path content = (after, .ok ())) :
    after.readFile path = .ok content := by
  obtain ⟨made, -, written⟩ := writeWithDirectories_eq_ok_iff.mp written
  obtain ⟨location, leads, vacant, rfl⟩ := writeFile_eq_ok_iff.mp written
  have leadsAfter := target_put vacant (.file content) leads
  simp [readFile, leadsAfter, entry?_put made (ne_nil_of_entry?_ne vacant)]

/-- Whether a write succeeds does not depend on the content, a successful write can be repeated with
any other content, and the tree is then as if only the last content had been written. -/
theorem writeWithDirectories_again {tree after : Tree} {path : Path} {content : Content}
    (written : tree.writeWithDirectories path content = (after, .ok ())) (last : Content) :
    ∃ final, tree.writeWithDirectories path last = (final, .ok ())
      ∧ after.writeWithDirectories path last = (final, .ok ()) := by
  obtain ⟨made, above, written⟩ := writeWithDirectories_eq_ok_iff.mp written
  obtain ⟨location, leads, vacant, rfl⟩ := writeFile_eq_ok_iff.mp written
  have below := ne_nil_of_entry?_ne vacant
  -- the directory above still stands, so that the second write makes none and puts its file over
  -- the first one
  have stands := isDirectory_put vacant (.file content) (isDirectory_of_makeDirectories above)
  refine ⟨made.put location (.file last), ?_, ?_⟩
  · exact writeWithDirectories_eq_ok_iff.mpr
      ⟨made, above, writeFile_eq_ok_iff.mpr ⟨location, leads, vacant, rfl⟩⟩
  · refine writeWithDirectories_eq_ok_iff.mpr
      ⟨_, makeDirectories_of_isDirectory stands, writeFile_eq_ok_iff.mpr
        ⟨location, target_put vacant _ leads, ?_, (put_put made location _ _).symm⟩⟩
    simp [entry?_put made below]

end Tree

end DesignCompiler.Files
