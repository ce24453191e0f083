import DesignCompiler.CommandLine.Run

/-!
Contract: commands that fetch something first.

Owns:
- what such a command comes to when its fetch succeeds and when it fails;
- the status of a command that fails, in an expected way or in another one;
- `Failure.IsReported`, the failures of a fetch that are shown to the user, and how they are shown.

Does not own: what commands do with what they fetched, see
`DesignCompiler.Proofs.CommandLine.Component`.
-/

set_option autoImplicit false

namespace DesignCompiler

open DesignCompiler.Http

/-- The failures of a fetch that are shown to the user: a remote call fails, or what is fetched is
no design tree. -/
inductive Failure.IsReported : Failure → Prop
  | call (error : RemoteError) : IsReported (.call (.remote error))
  | design (found : List Design.Defect) (message : String) :
      IsReported (.design ⟨.defective found, message⟩)

namespace CommandLine

open DesignCompiler.Files

theorem run_of_parse {arguments : List String} {command : Command}
    (parsed : parse arguments = .ok command) (context : Context) (tree : Tree)
    (replies : Replies) :
    run context tree replies arguments = runCommand context tree replies command := by
  unfold run
  rw [parsed]

/-! ### Fetches -/

variable {context : Context} {client : Figma.Client}

theorem withFetch_of_ok {α : Type} (authorized : clientOf? context = .ok client) (tree : Tree)
    {fetch : Figma.Client → Run Failure α} (next : List Event → α → Outcome) {value : α}
    (fetched : (fetch client).result = .ok value) :
    withFetch context tree fetch next = next (fetch client).events value := by
  unfold withFetch
  rw [authorized]
  dsimp only
  rw [fetched]

theorem withFetch_of_error {α : Type} (authorized : clientOf? context = .ok client) (tree : Tree)
    {fetch : Figma.Client → Run Failure α} (next : List Event → α → Outcome) {failure : Failure}
    (failed : (fetch client).result = .error failure) :
    withFetch context tree fetch next = fail tree (fetch client).events (.failed failure) := by
  unfold withFetch
  rw [authorized]
  dsimp only
  rw [failed]

/-- A name that is absent, empty or valid. -/
def ComponentOptions.HasUsableName (options : ComponentOptions) : Prop :=
  ∀ name, options.name = some name → name = "" ∨ Component.validate name = .ok name

theorem ComponentOptions.HasUsableName.exists_validated {options : ComponentOptions}
    (usable : options.HasUsableName) :
    ∃ name, (options.name.filter fun name => !name.isEmpty).mapM Component.validate =
      .ok name := by
  cases given : options.name with
  | none => exact ⟨none, rfl⟩
  | some name =>
      rcases usable name given with rfl | valid
      · exact ⟨none, rfl⟩
      · rw [Option.filter_some]
        split
        · exact ⟨some name, congrArg (fun result => some <$> result) valid⟩
        · exact ⟨none, rfl⟩

theorem runToReact_of_error (authorized : clientOf? context = .ok client) (tree : Tree)
    (replies : Replies) {fileKey frameId : String} {options : ComponentOptions} {failure : Failure}
    (usable : options.HasUsableName)
    (failed : (client.fetchFrame fileKey frameId replies).result = .error failure) :
    runToReact context tree replies fileKey frameId options =
      fail tree (client.fetchFrame fileKey frameId replies).events (.failed failure) := by
  obtain ⟨name, validated⟩ := usable.exists_validated
  unfold runToReact
  rw [validated]
  exact withFetch_of_error authorized tree _ failed

/-! ### Failures -/

theorem status?_fail_of_isExpected (tree : Tree) (events : List Event) {failure : Failure}
    (expected : failure.isExpected = true) :
    (fail tree events (.failed failure)).status? = some 1 := by
  have reported : (CommandError.failed failure).report?.isSome = true := by
    unfold CommandError.report?
    split <;> simp_all
  simp [fail, Outcome.status?, reported]

/-- A failure that is not expected is not shown, and there is no status. -/
theorem ending_fail_of_unexpected (tree : Tree) (events : List Event) {failure : Failure}
    (unexpected : failure.isExpected = false) :
    (fail tree events (.failed failure)).status? = none ∧
      (fail tree events (.failed failure)).diagnostics =
        (fail tree events (.failed failure)).progress := by
  have hidden : (CommandError.failed failure).report? = none := by
    unfold CommandError.report?
    split <;> simp_all [Failure.isExpected]
  simp [fail, Outcome.status?, Outcome.diagnostics, hidden]

end CommandLine

open CommandLine Files

theorem Failure.IsReported.isExpected {failure : Failure} (reported : failure.IsReported) :
    failure.isExpected = true := by
  cases reported <;> rfl

theorem Failure.IsReported.report?_eq {failure : Failure} (reported : failure.IsReported) :
    (CommandError.failed failure).report? = some ("Error: " ++ failure.message ++ "\n") := by
  cases reported <;> rfl

/-- The failure is shown last, in a line of its own. -/
theorem Failure.IsReported.diagnostics_fail {failure : Failure} (reported : failure.IsReported)
    (tree : Tree) (events : List Event) :
    (fail tree events (.failed failure)).diagnostics =
      (fail tree events (.failed failure)).progress ++ ("Error: " ++ failure.message ++ "\n") := by
  simp only [Outcome.diagnostics, fail, reported.report?_eq, Option.getD_some]

end DesignCompiler
