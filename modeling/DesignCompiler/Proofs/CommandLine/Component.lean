import DesignCompiler.Proofs.CommandLine.Fetch
import DesignCompiler.Proofs.Files.Tree

/-!
Contract: making a component is all or nothing.

Owns:
- `Making`, what a component is made of, and `Ending`, the ways in which making one ends;
- the law that a command that ends well has written one file, with the source of the component and
  nothing else, and that any other ending leaves all files as they were;
- the law that nothing is sent without a token or with a name that is not valid.

Does not own: what the source looks like, see `DesignCompiler.Proofs.Component.Source`.
-/

set_option autoImplicit false

namespace DesignCompiler.CommandLine

open DesignCompiler.Files DesignCompiler.Http

/-! ### What a component is made of -/

def ComponentOptions.variant (options : ComponentOptions) : Component.Variant :=
  Component.Variant.resolve (some options.framework)

def ComponentOptions.question (options : ComponentOptions) (context : Context) (tree : Tree)
    (frame : Design.Node) : Completion.Question :=
  { root := frame, framework := options.variant.name, name := componentName options frame,
    instructions := some options.instructions,
    model := ModelStore.resolve options.model (ModelStore.selected tree context.directory)
      context.usualModel }

structure Making (context : Context) (tree : Tree) (replies : Replies) (fileKey frameId : String)
    (options : ComponentOptions) where
  client : Figma.Client
  frame : Design.Node
  source : String
  path : Path
  authorized : clientOf? context = .ok client
  fetched : (client.fetchFrame fileKey frameId replies).result = .ok frame
  compiled : options.ai = false →
    Component.compile? frame options.variant (some (componentName options frame))
      (some options.instructions) context.markupDepth = .ok source
  extracted : options.ai = true →
    ∃ answer,
      (context.completion.policy.execute
        (context.completion.order (options.question context tree frame))
        (replies.after (client.fetchFrame fileKey frameId replies).requests.length)).result
          = .ok answer ∧
      Completion.codeOf answer = .ok source
  located : Component.outputPath tree.here context.home (componentName options frame)
    options.variant options.output context.users = .ok path

/-- The ways in which making a component ends. -/
inductive Ending (context : Context) (tree : Tree) (replies : Replies) (fileKey frameId : String)
    (options : ComponentOptions) : Outcome → Prop
  | failed (events : List Event) (error : CommandError) :
      Ending context tree replies fileKey frameId options (fail tree events error)
  | unwritten (making : Making context tree replies fileKey frameId options) (after : Tree)
      (events : List Event) (error : FileError)
      (refused : Component.write tree making.path making.source = (after, .error error)) :
      Ending context tree replies fileKey frameId options (fail after events (.file error))
  | written (making : Making context tree replies fileKey frameId options) (after : Tree)
      (events : List Event)
      (saved : Component.write tree making.path making.source = (after, .ok ())) :
      Ending context tree replies fileKey frameId options
        { events, tree := after, result := .ok 0,
          output := savedOutput making.path options.variant
            (componentName options making.frame) }

/-- The code of a language model is extracted from an answer. -/
theorem answer_of_generate {client : Completion.Client} {question : Completion.Question}
    {replies : Replies} {code : String}
    (generated : (client.generate question replies).result = .ok code) :
    ∃ answer, (client.policy.execute (client.order question) replies).result = .ok answer ∧
      Completion.codeOf answer = .ok code := by
  simp only [Completion.Client.generate, Run.finish] at generated
  split at generated
  · rename_i answer answered
    exact ⟨answer, answered, generated⟩
  · cases generated

/-- Without a language model the source is the compiled one. -/
theorem compile?_of_sourceOf {context : Context} {tree : Tree} {replies : Replies}
    {options : ComponentOptions} {frame : Design.Node} {source : String}
    (plain : options.ai = false)
    (generated :
      (sourceOf context tree replies options options.variant frame).result = .ok source) :
    Component.compile? frame options.variant (some (componentName options frame))
      (some options.instructions) context.markupDepth = .ok source := by
  simp only [sourceOf, plain, Bool.false_eq_true, if_false] at generated
  split at generated
  · rename_i compiled
    cases generated
    exact compiled
  · cases generated

/-- With a language model the source is the code that it answers. -/
theorem answer_of_sourceOf {context : Context} {tree : Tree} {replies : Replies}
    {options : ComponentOptions} {frame : Design.Node} {source : String}
    (ai : options.ai = true)
    (generated :
      (sourceOf context tree replies options options.variant frame).result = .ok source) :
    ∃ answer,
      (context.completion.policy.execute
        (context.completion.order (options.question context tree frame)) replies).result
          = .ok answer ∧
      Completion.codeOf answer = .ok source := by
  simp only [sourceOf, ai, if_true] at generated
  exact answer_of_generate generated

/-- Making a component ends in one of these ways. -/
theorem ending_runToReact (context : Context) (tree : Tree) (replies : Replies)
    (fileKey frameId : String) (options : ComponentOptions) :
    Ending context tree replies fileKey frameId options
      (runToReact context tree replies fileKey frameId options) := by
  -- in the order of the steps: the name, the token, the frame, the source, the path and the file
  unfold runToReact withFetch
  split
  · exact .failed ..
  split
  · exact .failed ..
  rename_i client authorized
  dsimp only
  split
  · exact .failed ..
  rename_i frame fetched
  split
  · exact .failed ..
  rename_i source generated
  unfold saveSource
  split
  · exact .failed ..
  rename_i path located
  let making : Making context tree replies fileKey frameId options :=
    { client, frame, source, path, authorized, fetched, located
      compiled := fun plain => compile?_of_sourceOf plain generated
      extracted := fun ai => answer_of_sourceOf ai generated }
  split
  · rename_i after error refused
    exact .unwritten making after _ error refused
  · rename_i after saved
    exact .written making after _ saved

/-! ### What happens to the files -/

private theorem status?_fail_ne_zero (tree : Tree) (events : List Event) (error : CommandError) :
    (fail tree events error).status? ≠ some 0 := by
  simp only [fail, Outcome.status?]
  split <;> simp

/-- The path of a source is absolute and without steps upwards. -/
theorem resolved_of_outputPath {here : Location} {home name : String} {variant : Component.Variant}
    {output : Option String} {users : Users} {path : Path}
    (located : Component.outputPath here home name variant output users = .ok path) :
    path = Path.ofLocation path.names ∧ ".." ∉ path.names := by
  unfold Component.outputPath at located
  split at located
  · split at located <;> cases located
  · rename_i chosen _
    split at located <;> cases located
    exact ⟨rfl, Path.up_notMem_locate chosen here⟩

/-- The source of a component is the only file that is written. -/
theorem Making.file?_of_write {context : Context} {tree after : Tree} {replies : Replies}
    {fileKey frameId : String} {options : ComponentOptions}
    (making : Making context tree replies fileKey frameId options)
    (saved : Component.write tree making.path making.source = (after, .ok ())) :
    after.file? = Function.update tree.file? making.path.names (some (.text making.source)) := by
  obtain ⟨absolute, straight⟩ := resolved_of_outputPath making.located
  unfold Component.write at saved
  rw [absolute] at saved
  exact Tree.file?_of_writeWithDirectories straight saved

/-- An ending with another status than zero has left all files as they were. -/
theorem Ending.file?_of_status {context : Context} {tree : Tree} {replies : Replies}
    {fileKey frameId : String} {options : ComponentOptions} {outcome : Outcome}
    (ending : Ending context tree replies fileKey frameId options outcome)
    (bad : outcome.status? ≠ some 0) : outcome.tree.file? = tree.file? := by
  cases ending with
  | failed => rfl
  | unwritten making after events error refused =>
      exact Tree.file?_of_writeWithDirectories_error refused
  | written => exact absurd rfl bad

/-- An ending with the status zero has written the source of a component. -/
theorem Ending.making_of_status {context : Context} {tree : Tree} {replies : Replies}
    {fileKey frameId : String} {options : ComponentOptions} {outcome : Outcome}
    (ending : Ending context tree replies fileKey frameId options outcome)
    (good : outcome.status? = some 0) :
    ∃ making : Making context tree replies fileKey frameId options,
      outcome.tree.file? =
          Function.update tree.file? making.path.names (some (.text making.source)) ∧
        outcome.output =
          savedOutput making.path options.variant (componentName options making.frame) := by
  cases ending with
  | failed events error => exact absurd good (status?_fail_ne_zero tree events error)
  | unwritten making after events error =>
      exact absurd good (status?_fail_ne_zero after events (.file error))
  | written making after events saved => exact ⟨making, making.file?_of_write saved, rfl⟩

/-! ### What is refused before anything is sent -/

/-- What is refused at once: a surrounding without a token, and a name that is not valid. -/
inductive IsRefused (context : Context) (options : ComponentOptions) : Prop
  | noToken (absent : context.token = none)
  | emptyToken (empty : context.token = some "")
  | name (name : String) (error : Component.NameError) (given : options.name = some name)
      (notEmpty : name ≠ "") (invalid : Component.validate name = .error error)

private theorem clientOf?_of_no_token {context : Context}
    (missing : context.token = none ∨ context.token = some "") :
    clientOf? context = .error (.credential .command) := by
  obtain absent | empty := missing
  · simp [clientOf?, absent]
  · rw [clientOf?, empty]
    rfl

/-- What is refused ends with an expected failure before anything is sent. -/
theorem IsRefused.runToReact_eq {context : Context} {options : ComponentOptions}
    (refused : IsRefused context options) (tree : Tree) (replies : Replies)
    (fileKey frameId : String) :
    ∃ failure : Failure, failure.isExpected = true ∧
      runToReact context tree replies fileKey frameId options = fail tree [] (.failed failure) := by
  cases validated : (options.name.filter fun name => !name.isEmpty).mapM Component.validate with
  | error error => exact ⟨.name error, rfl, by simp [runToReact, validated]⟩
  | ok checked =>
      refine ⟨.credential .command, rfl, ?_⟩
      have missing : context.token = none ∨ context.token = some "" := by
        cases refused with
        | noToken absent => exact .inl absent
        | emptyToken empty => exact .inr empty
        | name name error given notEmpty invalid =>
            have filtered : (options.name.filter fun name => !name.isEmpty) = some name := by
              simp [given, notEmpty]
            rw [filtered] at validated
            simp [invalid] at validated
      simp [runToReact, validated, withFetch, clientOf?_of_no_token missing]

/-! ### Runs of the program -/

/-- Remembering a model touches no file unless it succeeds. -/
theorem file?_runSetModel {context : Context} {tree : Tree} {model : String}
    (bad : (runSetModel context tree model).status? ≠ some 0) :
    (runSetModel context tree model).tree.file? = tree.file? := by
  unfold runSetModel at bad ⊢
  split
  · rename_i after error refused
    unfold ModelStore.select ModelStore.save at refused
    split at refused
    · cases refused
    · rename_i failed
      cases refused
      exact Tree.file?_of_writeWithDirectories_error failed
  · rename_i saved
    rw [saved] at bad
    exact absurd rfl bad

private theorem tree_withFetch {α : Type} (context : Context) (tree : Tree)
    (fetch : Figma.Client → Run Failure α) {next : List Event → α → Outcome}
    (kept : ∀ events value, (next events value).tree = tree) :
    (withFetch context tree fetch next).tree = tree := by
  unfold withFetch
  split
  · rfl
  · dsimp only
    split
    · rfl
    · exact kept _ _

/-- A program that does not end with the status zero has left all files as they were.  One that
makes a component and ends with the status zero has written the source of the frame that it fetched
to the path that it reports, and no other file.  Without a token, and with a name that is not valid,
it ends with the status one before any request. -/
theorem run_writes_component_or_nothing (context : Context) (tree : Tree) (replies : Replies)
    (arguments : List String) :
    ((run context tree replies arguments).status? ≠ some 0 →
      (run context tree replies arguments).tree.file? = tree.file?) ∧
    ∀ fileKey frameId options, parse arguments = .ok (.toReact fileKey frameId options) →
      ((run context tree replies arguments).status? = some 0 →
        ∃ making : Making context tree replies fileKey frameId options,
          (run context tree replies arguments).tree.file? =
              Function.update tree.file? making.path.names (some (.text making.source)) ∧
            (run context tree replies arguments).output =
              savedOutput making.path options.variant (componentName options making.frame)) ∧
      (IsRefused context options →
        (run context tree replies arguments).status? = some 1 ∧
          (run context tree replies arguments).calls.requests = []) := by
  constructor
  · intro bad
    unfold run at bad ⊢
    split at bad
    · rename_i command asked
      cases command with
      | frames fileKey => exact congrArg Tree.file? (tree_withFetch _ _ _ fun _ _ => rfl)
      | frame fileKey frameId => exact congrArg Tree.file? (tree_withFetch _ _ _ fun _ _ => rfl)
      | toReact fileKey frameId options =>
          exact (ending_runToReact context tree replies fileKey frameId options).file?_of_status bad
      | getModel => rfl
      | setModel model => exact file?_runSetModel bad
    all_goals rfl
  · intro fileKey frameId options asked
    have ran : run context tree replies arguments =
        runToReact context tree replies fileKey frameId options := by
      simp only [run, asked, runCommand]
    rw [ran]
    refine ⟨(ending_runToReact context tree replies fileKey frameId options).making_of_status, ?_⟩
    intro refused
    obtain ⟨failure, expected, failed⟩ := refused.runToReact_eq tree replies fileKey frameId
    rw [failed]
    exact ⟨status?_fail_of_isExpected tree [] expected, rfl⟩

/-- A frame is written below an empty directory; with a file that is not found nothing is written,
and with a name that is not valid nothing is sent. -/
theorem run_writes_component_of_empty_frame :
    let context : Context := { token := some "token", home := "/home", directory := ⟨1, ["home"]⟩ }
    let body := "\x7b\"nodes\":\x7b\"1:2\":\x7b\"document\":"
      ++ "\x7b\"id\":\"1:2\",\"name\":\"card\",\"type\":\"FRAME\"\x7d\x7d\x7d\x7d"
    let found : Replies := fun _ => .response { status := 200, body := body.toUTF8.data.toList }
    let missing : Replies := fun _ => .response { status := 404 }
    let tree := Tree.empty ["work"]
    let arguments (name : String) :=
      ["figma", "to-react", "key", "1-2", "-n", name, "-o", "a/../out/card.tsx"]
    (∃ source, (run context tree found (arguments "Card")).tree.file? =
        Function.update tree.file? ["work", "out", "card.tsx"] (some (.text source))) ∧
      (run context tree missing (arguments "Card")).tree.file? = tree.file? ∧
      (run context tree found (arguments "card")).status? = some 1 ∧
      (run context tree found (arguments "card")).calls.requests = [] := by
  intro context body found missing tree arguments
  have asked : parse (arguments "Card") = .ok (.toReact "key" "1-2"
      { name := some "Card", output := some "a/../out/card.tsx" }) := by
    rfl
  have askedInvalid : parse (arguments "card") = .ok (.toReact "key" "1-2"
      { name := some "card", output := some "a/../out/card.tsx" }) := by
    rfl
  have good : (run context tree found (arguments "Card")).status? = some 0 := by decide +kernel
  have bad : (run context tree missing (arguments "Card")).status? ≠ some 0 := by decide +kernel
  have invalid : ∃ error, Component.validate "card" = .error error := ⟨_, rfl⟩
  obtain ⟨error, invalid⟩ := invalid
  refine ⟨?_, (run_writes_component_or_nothing context tree missing (arguments "Card")).1 bad, ?_⟩
  · obtain ⟨making, written, -⟩ :=
      ((run_writes_component_or_nothing context tree found (arguments "Card")).2 _ _ _
        asked).1 good
    have located : Except.ok ⟨1, ["work", "out", "card.tsx"]⟩ = Except.ok making.path :=
      making.located
    rw [← Except.ok.inj located] at written
    exact ⟨making.source, written⟩
  · exact ((run_writes_component_or_nothing context tree found (arguments "card")).2 _ _ _
      askedInvalid).2 (.name "card" error rfl (by decide) invalid)

end DesignCompiler.CommandLine
