import DesignCompiler.Proofs.Component.Name
import DesignCompiler.Proofs.Figma.Shape
import DesignCompiler.Proofs.Files.Refusal
import DesignCompiler.Proofs.Http.Answer
import DesignCompiler.Proofs.Json.Equality
import DesignCompiler.Proofs.Style.Channel

/-!
Contract: commands that fetch designs, and the answers by which they break off.

Owns:
- `Outcome.EndsOrderly`, the outcomes of commands that succeed or show an error;
- `HasPlace`, the wishes for an output that stand for a path;
- the law that a command ends orderly exactly if the answer to its remote call has the shape that
  it looks for, and that no error is shown otherwise.

Does not own: the shapes of answers, see `DesignCompiler.Proofs.Figma.Shape`.
-/

set_option autoImplicit false

namespace DesignCompiler

open DesignCompiler.Http

namespace Figma

/-! ### Fetches -/

/-- A result is reported if a condition holds, and escapes otherwise. -/
structure ReportsIff {α : Type} (condition : Prop) (result : Except Failure α) : Prop where
  reports : condition → Reports result
  escapes : ¬ condition → Escapes result

private theorem isReported_failureOf (error : RemoteError) :
    (failureOf (.remote error)).IsReported := by
  cases kind : error.kind with
  | notFound | unauthorized | rateLimited | network | malformedResponse =>
      simp only [failureOf, kind]
      exact .call _

variable {client : Client} {replies : Replies}

private theorem Client.result_get {α : Type} (path : String) (parameters : Option (List Parameter))
    (look : Json → Except Failure α) :
    (client.get path parameters replies look).result =
      match (client.policy.execute (client.order path parameters) replies).result with
      | .ok body => look body
      | .error error => .error (failureOf error) :=
  rfl

/-- A fetch reports its result if its remote call is answered in the shape that is looked for. -/
theorem Client.reportsIff_get {α : Type} {path : String} {parameters : Option (List Parameter)}
    {request : Request} (sendable : (client.order path parameters).request = .ok request)
    (finite : client.policy.HasFiniteWaits)
    (handled : ∀ i < client.policy.maxAttempts, ∀ fault, replies i ≠ .foreign fault)
    {look : Json → Except Failure α} {shape : Json → Prop}
    (looks : ∀ body, ReportsIff (shape body) (look body)) :
    ReportsIff
      (∀ body, (client.policy.execute (client.order path parameters) replies).result = .ok body →
        shape body)
      (client.get path parameters replies look).result := by
  rw [result_get]
  rcases finite.answered_or_failed sendable handled with ⟨body, answered⟩ | ⟨error, failed⟩
  · rw [answered]
    refine ⟨fun shaped => (looks body).reports (shaped body rfl), fun misshapen => ?_⟩
    refine (looks body).escapes fun shape => misshapen fun other same => ?_
    rw [← Except.ok.inj same]
    exact shape
  · rw [failed]
    refine ⟨fun _ => reports_error (isReported_failureOf error), fun misshapen => ?_⟩
    exact absurd (fun _ answered => nomatch answered) misshapen

def Client.HasFileAddress (client : Client) (fileKey : String) : Prop :=
  ∃ url, (client.order (filePath fileKey) none).resolve = .ok url

def Client.HasNodeAddress (client : Client) (fileKey frameId : String) : Prop :=
  ∃ url, (client.order (filePath fileKey ++ "/nodes") (some (Client.nodeParameters
    [nodeId frameId] client.nodeDepth client.nodeGeometry))).resolve = .ok url

theorem Client.exists_request {path : String} {parameters : Option (List Parameter)} {url : Url}
    (addressed : (client.order path parameters).resolve = .ok url) :
    ∃ request, (client.order path parameters).request = .ok request := by
  unfold Order.request
  rw [addressed]
  exact ⟨_, rfl⟩

/-- If the remote call for a file is answered, the answer has the shape of a file. -/
def Client.GetsFile (client : Client) (fileKey : String) (replies : Replies) : Prop :=
  ∀ body, (client.fileCall fileKey replies).result = .ok body → HasFileShape body

/-- If the remote call for a frame is answered, entries can be looked up in the answer. -/
def Client.GetsNode (client : Client) (fileKey frameId : String) (replies : Replies) : Prop :=
  ∀ body, (client.nodeCall fileKey frameId replies).result = .ok body →
    HasNodeShape (nodeId frameId) body

/-- If the remote call for a frame is answered, the answer has the shape of a frame. -/
def Client.GetsFrame (client : Client) (fileKey frameId : String) (replies : Replies) : Prop :=
  ∀ body, (client.nodeCall fileKey frameId replies).result = .ok body →
    HasFrameShape (nodeId frameId) body

section

variable {fileKey frameId : String} (finite : client.policy.HasFiniteWaits)
  (handled : ∀ i < client.policy.maxAttempts, ∀ fault, replies i ≠ .foreign fault)

include finite handled

private theorem Client.reportsIff_listFrames (addressed : client.HasFileAddress fileKey) :
    ReportsIff (client.GetsFile fileKey replies) (client.listFrames fileKey replies).result := by
  obtain ⟨url, resolved⟩ := addressed
  obtain ⟨request, sendable⟩ := exists_request resolved
  exact reportsIff_get sendable finite handled fun body =>
    ⟨client.reports_framesOf, client.escapes_framesOf⟩

private theorem Client.reportsIff_fetchDocument
    (addressed : client.HasNodeAddress fileKey frameId) :
    ReportsIff (client.GetsNode fileKey frameId replies)
      (client.fetchDocument fileKey frameId replies).result := by
  obtain ⟨url, resolved⟩ := addressed
  obtain ⟨request, sendable⟩ := exists_request resolved
  refine reportsIff_get sendable finite handled fun body => ⟨fun shape => ?_, fun misshapen => ?_⟩
  · exact (reports_documentOf shape).bind fun document _ => reports_ok document
  · exact (escapes_documentOf misshapen).bind _

private theorem Client.reportsIff_fetchFrame (addressed : client.HasNodeAddress fileKey frameId) :
    ReportsIff (client.GetsFrame fileKey frameId replies)
      (client.fetchFrame fileKey frameId replies).result := by
  obtain ⟨url, resolved⟩ := addressed
  obtain ⟨request, sendable⟩ := exists_request resolved
  exact reportsIff_get sendable finite handled fun body =>
    ⟨reports_readDocument client.report, escapes_readDocument client.report⟩

end

end Figma

namespace CommandLine

open DesignCompiler.Files DesignCompiler.Figma

/-! ### Outcomes -/

/-- A command succeeds and shows nothing but its progress beside its output, or it ends with the
status one and shows an error after the progress. -/
inductive Outcome.EndsOrderly (outcome : Outcome) : Prop where
  | succeeded (status : outcome.status? = some 0)
      (diagnostics : outcome.diagnostics = outcome.progress) : EndsOrderly outcome
  | failed (message : String) (status : outcome.status? = some 1)
      (diagnostics : outcome.diagnostics = outcome.progress ++ ("Error: " ++ message ++ "\n")) :
      EndsOrderly outcome

/-- A command ends orderly if a condition holds; otherwise a failure that nobody expects ends the
program without a status. -/
structure Outcome.EndsOrderlyIff (outcome : Outcome) (condition : Prop) : Prop where
  orderly : condition → outcome.EndsOrderly
  brokenOff : ¬ condition → outcome.status? = none

private theorem endsOrderly_of_output (events : List Event) (tree : Tree) (output : String) :
    Outcome.EndsOrderly { events, tree, output, result := .ok 0 } := by
  refine .succeeded rfl ?_
  exact String.append_empty

private theorem endsOrderly_fail (tree : Tree) (events : List Event) {error : CommandError}
    {message : String} (shown : error.report? = some ("Error: " ++ message ++ "\n")) :
    (fail tree events error).EndsOrderly := by
  refine .failed message ?_ ?_
  · simp [fail, Outcome.status?, shown]
  · simp [fail, Outcome.diagnostics, shown]

variable {context : Context} {client : Client} {tree : Tree}

/-- What a command makes of a fetched value decides after the fetch. -/
theorem endsOrderlyIff_withFetch {α : Type} (tree : Tree) {fetch : Client → Run Failure α}
    {next : List Event → α → Outcome} {shaped : Prop} {condition : α → Prop}
    (authorized : clientOf? context = .ok client)
    (fetched : ReportsIff shaped (fetch client).result)
    (goesOn : ∀ events value, (next events value).EndsOrderlyIff (condition value)) :
    (withFetch context tree fetch next).EndsOrderlyIff
      (shaped ∧ ∀ value, (fetch client).result = .ok value → condition value) := by
  cases made : (fetch client).result with
  | error failure =>
      rw [withFetch_of_error authorized tree next made]
      constructor
      · rintro ⟨isShaped, -⟩
        exact endsOrderly_fail tree _ (fetched.reports isShaped failure made).report?_eq
      · intro unsuitable
        have misshapen : ¬ shaped := fun isShaped => unsuitable ⟨isShaped, fun _ => nofun⟩
        obtain ⟨other, failed, unexpected⟩ := fetched.escapes misshapen
        rw [made] at failed
        cases failed
        exact (ending_fail_of_unexpected tree _ unexpected).1
  | ok value =>
      have isShaped : shaped := by
        by_contra misshapen
        obtain ⟨other, failed, -⟩ := fetched.escapes misshapen
        rw [made] at failed
        cases failed
      rw [withFetch_of_ok authorized tree next made]
      constructor
      · rintro ⟨-, holds⟩
        exact (goesOn _ value).orderly (holds value rfl)
      · intro unsuitable
        refine (goesOn _ value).brokenOff fun holds => unsuitable ⟨isShaped, ?_⟩
        intro other same
        rw [← Except.ok.inj same]
        exact holds

/-- A command that shows what it fetched ends orderly exactly if the fetch does. -/
theorem endsOrderlyIff_showing {α : Type} {fetch : Client → Run Failure α} {shaped : Prop}
    (authorized : clientOf? context = .ok client)
    (fetched : ReportsIff shaped (fetch client).result) (shows : α → String) :
    (withFetch context tree fetch fun events value =>
      { events, tree, output := shows value, result := .ok 0 }).EndsOrderlyIff shaped := by
  have shown (events : List Event) (value : α) : Outcome.EndsOrderlyIff
      { events, tree, output := shows value, result := .ok 0 } True :=
    ⟨fun _ => endsOrderly_of_output events tree (shows value), fun no => absurd trivial no⟩
  have ends := endsOrderlyIff_withFetch tree authorized fetched shown
  exact ⟨fun isShaped => ends.orderly ⟨isShaped, fun _ _ => trivial⟩,
    fun misshapen => ends.brokenOff fun both => misshapen both.1⟩

/-! ### The place of a source -/

/-- What is wished for as the output is nothing, or stands for a path without the null
character. -/
def HasPlace (home : String) (users : Users) (output : Option String) : Prop :=
  ∀ text, output = some text → text ≠ "" →
    ∃ path, (Path.ofText text).expandHome home users = some path ∧ path.hasNull = false

private theorem hasNull_fileName {name : String}
    (plain : ∀ c ∈ name.toList, Text.isAlphanumeric c = true) (variant : Component.Variant) :
    (Path.ofText (Component.fileName name variant)).hasNull = false := by
  apply Path.hasNull_ofText
  intro null
  unfold Component.fileName at null
  rw [String.toList_append, String.toList_append, List.mem_append, List.mem_append] at null
  rcases null with (inName | inDot) | inExtension
  · have letter := plain _ inName
    revert letter
    decide
  · revert inDot
    decide
  · revert inExtension
    cases variant <;> decide

private theorem HasPlace.exists_outputPath {home : String} {users : Users} {output : Option String}
    (place : HasPlace home users output) {here : Location}
    (plainHere : (Path.ofLocation here).hasNull = false) {name : String}
    (plain : ∀ c ∈ name.toList, Text.isAlphanumeric c = true) (variant : Component.Variant) :
    ∃ path, Component.outputPath here home name variant output users = .ok path ∧
      path.hasNull = false := by
  have chosen : ∃ path, Component.chosenPath home name variant output users = some path ∧
      path.hasNull = false := by
    unfold Component.chosenPath
    cases given : output.filter fun path => !path.isEmpty with
    | none => exact ⟨_, rfl, hasNull_fileName plain variant⟩
    | some text =>
        obtain ⟨isText, notEmpty⟩ := Option.filter_eq_some_iff.mp given
        exact place text isText (by simpa using notEmpty)
  obtain ⟨path, isPath, noNull⟩ := chosen
  refine ⟨path.resolve here, ?_, Path.hasNull_resolve noNull plainHere⟩
  unfold Component.outputPath
  rw [isPath]
  exact if_neg (Bool.eq_false_iff.mp noNull)

/-- Whatever the system says about it, writing a source to such a place ends orderly. -/
theorem endsOrderly_saveSource {options : ComponentOptions}
    (place : HasPlace context.home context.users options.output)
    (plainHere : (Path.ofLocation tree.here).hasNull = false) {name : String}
    (plain : ∀ c ∈ name.toList, Text.isAlphanumeric c = true) (events : List Event)
    (variant : Component.Variant) (source : String) :
    (saveSource context tree events options variant name source).EndsOrderly := by
  obtain ⟨path, located, noNull⟩ := place.exists_outputPath plainHere plain variant
  unfold saveSource
  rw [located]
  dsimp only
  split
  · next after error refused =>
      obtain ⟨text, told⟩ := Tree.exists_systemText_of_writeWithDirectories noNull refused
      have shown : (CommandError.file error).report? =
          some ("Error: " ++ ("failed to write component: " ++ error.message) ++ "\n") := by
        simp only [CommandError.report?, told, Option.map_some, ← String.append_assoc]
        rfl
      exact endsOrderly_fail after events shown
  · exact endsOrderly_of_output events _ _

private theorem isAlphanumeric_componentName {options : ComponentOptions}
    (usable : options.HasUsableName) (frame : Design.Node) :
    ∀ c ∈ (componentName options frame).toList, Text.isAlphanumeric c = true := by
  unfold componentName
  cases given : options.name.filter fun name => !name.isEmpty with
  | none =>
      rw [Option.getD_none]
      exact Component.isAlphanumeric_suggest frame.attributes.name
  | some name =>
      rw [Option.getD_some]
      obtain ⟨isName, notEmpty⟩ := Option.filter_eq_some_iff.mp given
      rcases usable name isName with rfl | valid
      · cases notEmpty
      · exact Component.isAlphanumeric_of_validate valid

/-! ### Components -/

/-- The channels of all colours that a tree shows are in range. -/
def HasColors (root : Design.Node) : Prop :=
  ∀ a, root.Renders a → a.HasChannels

private theorem compile?_cases (root : Design.Node) (variant : Component.Variant)
    (name instructions : Option String) (depth : Int) :
    (HasColors root ∧
      ∃ source, Component.compile? root variant name instructions depth = .ok source) ∨
    (¬ HasColors root ∧
      ∃ fault, Component.compile? root variant name instructions depth = .error fault) := by
  have colored : (∃ markup, root.markup? depth = .ok markup) ↔ HasColors root :=
    root.exists_markup?_iff depth
  unfold Component.compile?
  cases made : root.markup? depth with
  | ok markup => exact Or.inl ⟨colored.mp ⟨markup, made⟩, _, rfl⟩
  | error fault =>
      refine Or.inr ⟨fun colors => ?_, fault, rfl⟩
      obtain ⟨markup, isMarkup⟩ := colored.mpr colors
      rw [made] at isMarkup
      cases isMarkup

private theorem endsOrderlyIff_runToReact {replies : Replies} {fileKey frameId : String}
    {options : ComponentOptions} {shaped : Prop} (authorized : clientOf? context = .ok client)
    (fetched : ReportsIff shaped (client.fetchFrame fileKey frameId replies).result)
    (compiles : options.ai = false) (usable : options.HasUsableName)
    (place : HasPlace context.home context.users options.output)
    (plainHere : (Path.ofLocation tree.here).hasNull = false) :
    (runToReact context tree replies fileKey frameId options).EndsOrderlyIff
      (shaped ∧ ∀ root, (client.fetchFrame fileKey frameId replies).result = .ok root →
        HasColors root) := by
  obtain ⟨name, validated⟩ := usable.exists_validated
  unfold runToReact
  rw [validated]
  apply endsOrderlyIff_withFetch tree authorized fetched
  intro events root
  dsimp only
  unfold sourceOf
  rw [compiles, if_neg Bool.false_ne_true]
  rcases compile?_cases root (Component.Variant.resolve (some options.framework))
      (some (componentName options root)) (some options.instructions) context.markupDepth with
    ⟨colors, source, compiled⟩ | ⟨colorless, fault, failed⟩
  · rw [compiled]
    exact ⟨fun _ => endsOrderly_saveSource place plainHere
      (isAlphanumeric_componentName usable root) _ _ source, fun no => absurd colors no⟩
  · rw [failed]
    exact ⟨fun colors => absurd colors colorless,
      fun _ => (ending_fail_of_unexpected tree _ rfl).1⟩

/-! ### The program -/

/-- The commands that fetch designs end orderly exactly if the answer to their remote call has the
shape that they look for; to make a component, the colours that the frame shows have to be in range
as well.  Otherwise a failure that nobody expects ends the program.  Just so, the fetches report
their results or let such a failure escape. -/
theorem run_ends_orderly_iff_shaped (authorized : clientOf? context = .ok client)
    (finite : client.policy.HasFiniteWaits) {replies : Replies}
    (handled : ∀ i < client.policy.maxAttempts, ∀ fault, replies i ≠ .foreign fault)
    (plainHere : (Path.ofLocation tree.here).hasNull = false) (arguments : List String)
    (fileKey frameId : String) :
    (client.HasFileAddress fileKey →
      ReportsIff (client.GetsFile fileKey replies) (client.listFrames fileKey replies).result ∧
      (parse arguments = .ok (.frames fileKey) →
        (run context tree replies arguments).EndsOrderlyIff (client.GetsFile fileKey replies))) ∧
    (client.HasNodeAddress fileKey frameId →
      ReportsIff (client.GetsNode fileKey frameId replies)
        (client.fetchDocument fileKey frameId replies).result ∧
      ReportsIff (client.GetsFrame fileKey frameId replies)
        (client.fetchFrame fileKey frameId replies).result ∧
      (parse arguments = .ok (.frame fileKey frameId) →
        (run context tree replies arguments).EndsOrderlyIff
          (client.GetsNode fileKey frameId replies)) ∧
      ∀ options, parse arguments = .ok (.toReact fileKey frameId options) → options.ai = false →
        options.HasUsableName → HasPlace context.home context.users options.output →
        (run context tree replies arguments).EndsOrderlyIff
          (client.GetsFrame fileKey frameId replies ∧
            ∀ root, (client.fetchFrame fileKey frameId replies).result = .ok root →
              HasColors root)) := by
  constructor
  · intro addressed
    have fetched := Client.reportsIff_listFrames finite handled addressed
    refine ⟨fetched, fun parsed => ?_⟩
    rw [run_of_parse parsed]
    exact endsOrderlyIff_showing authorized fetched (framesOutput fileKey)
  · intro addressed
    have document := Client.reportsIff_fetchDocument finite handled addressed
    have frame := Client.reportsIff_fetchFrame finite handled addressed
    refine ⟨document, frame, fun parsed => ?_, fun options parsed compiles usable place => ?_⟩
    · rw [run_of_parse parsed]
      exact endsOrderlyIff_showing authorized document _
    · rw [run_of_parse parsed]
      exact endsOrderlyIff_runToReact authorized frame compiles usable place plainHere

/-- After a rate limit, a file comes with a malformed document, and a frame without nodes. -/
theorem run_ends_orderly_after_rate_limit :
    let context : Context := { token := some "token", home := "/home", directory := ⟨1, ["home"]⟩ }
    let client : Client := { token := "token" }
    let tree := Tree.empty ["work"]
    let text := "\x7b\"document\":\x7b\"children\":7\x7d,\"nodes\":null\x7d"
    let replies := Replies.ofList
      [.response { status := 429, headers := [("retry-after", "1")] },
        .response { status := 200, body := text.toUTF8.data.toList }]
    Reports (client.listFrames "K" replies).result ∧
      (run context tree replies ["figma", "frames", "K"]).EndsOrderly ∧
      (run context tree replies ["figma", "to-react", "K", "1-2"]).EndsOrderly := by
  intro context client tree text replies
  let document : Json := .object [("children", .number (.int 7))]
  let fields : Fields := [("document", document), ("nodes", .null)]
  have authorized : clientOf? context = .ok client := rfl
  have plainHere : (Path.ofLocation tree.here).hasNull = false := by decide
  have finite : client.policy.HasFiniteWaits := ⟨by decide +kernel, by decide +kernel⟩
  have handled : ∀ i < client.policy.maxAttempts, ∀ fault, replies i ≠ .foreign fault := by
    rintro (_ | _ | _ | i) below fault foreign
    · cases foreign
    · cases foreign
    · cases foreign
    · have few : client.policy.maxAttempts = 3 := rfl
      omega
  have fileAnswered : (client.fileCall "K" replies).result = .ok (.object fields) := by
    decide +kernel
  have nodeAnswered : (client.nodeCall "K" "1-2" replies).result = .ok (.object fields) := by
    decide +kernel
  have getsFile : client.GetsFile "K" replies := by
    intro body given
    rw [fileAnswered] at given
    cases given
    refine ⟨fields, rfl, fun document found => ?_⟩
    cases found
    exact Design.atomicTypes_iff.mpr rfl
  have getsFrame : client.GetsFrame "K" "1-2" replies := by
    intro body given
    rw [nodeAnswered] at given
    cases given
    refine ⟨fields, rfl, ⟨fun value found notBlank => ?_, fun value found => ?_⟩, fun _ found => ?_⟩
    · cases found
      cases notBlank
    · cases found
    · cases found
  have missing : (client.fetchFrame "K" "1-2" replies).result = .error frameNotFound := by
    rw [Client.result_fetchFrame nodeAnswered]
    rfl
  have fileAddress : client.HasFileAddress "K" :=
    ⟨⟨"https".toList, "api.figma.com".toList, "/v1/files/K".toList, none⟩, by decide +kernel⟩
  have nodeAddress : client.HasNodeAddress "K" "1-2" :=
    ⟨⟨"https".toList, "api.figma.com".toList, "/v1/files/K/nodes".toList, none⟩,
      by decide +kernel⟩
  obtain ⟨files, -⟩ := run_ends_orderly_iff_shaped authorized finite handled plainHere
    ["figma", "frames", "K"] "K" "1-2"
  obtain ⟨-, frames⟩ := run_ends_orderly_iff_shaped authorized finite handled plainHere
    ["figma", "to-react", "K", "1-2"] "K" "1-2"
  obtain ⟨fetched, listing⟩ := files fileAddress
  obtain ⟨-, -, -, making⟩ := frames nodeAddress
  have making := making {} rfl rfl (fun _ => nofun) (fun _ => nofun)
  refine ⟨fetched.reports getsFile, (listing rfl).orderly getsFile, making.orderly ⟨getsFrame, ?_⟩⟩
  intro root given
  rw [missing] at given
  cases given

/-- An answer that is a list ends the program. -/
theorem run_breaks_off_at_listed_answer :
    let context : Context := { token := some "token", home := "/home", directory := ⟨1, ["home"]⟩ }
    let client : Client := { token := "token" }
    let replies := Replies.ofList [.response { status := 200, body := "[]".toUTF8.data.toList }]
    ¬ Reports (client.listFrames "K" replies).result ∧
      (run context (.empty ["work"]) replies ["figma", "frames", "K"]).status? = none ∧
      ¬ (run context (.empty ["work"]) replies ["figma", "frames", "K"]).EndsOrderly := by
  intro context client replies
  have answered : (client.fileCall "K" replies).result = .ok (.array []) := by
    decide +kernel
  have failed : (client.listFrames "K" replies).result = .error (.shape .noEntries) := by
    rw [Client.result_listFrames answered]
    rfl
  have brokenOff :
      (run context (.empty ["work"]) replies ["figma", "frames", "K"]).status? = none := by
    decide +kernel
  refine ⟨fun reports => ?_, brokenOff, fun orderly => ?_⟩
  · cases reports _ failed
  · cases orderly with
    | succeeded status _ | failed _ status _ =>
        rw [brokenOff] at status
        cases status

end CommandLine

end DesignCompiler
