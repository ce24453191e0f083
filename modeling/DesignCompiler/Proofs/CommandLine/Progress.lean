import DesignCompiler.Proofs.CommandLine.Fetch
import DesignCompiler.Proofs.Http.Decision
import DesignCompiler.Proofs.Http.Trace
import DesignCompiler.Proofs.Number.BriefText
import DesignCompiler.Proofs.Text.Part

/-!
Contract: what a command shows beside its output.

Owns:
- `pauseLine`, the line about a pause, and `errorBlock`, what is shown about a failure;
- `Narrates` and `Tells`, the lines about the pauses of a call;
- the law that a command shows one line for each of its pauses and, if it fails, its failure.

An attempt whose wait has no text cannot be shown: that ends the program from within, so that the
law is about the commands all of whose attempts can be shown.

Does not own: how long pauses are, see `DesignCompiler.Proofs.Http.Backoff`.
-/

set_option autoImplicit false

namespace DesignCompiler

namespace Http

/-! ### Statuses of errors -/

private theorem status_classifyFault (fault : Fault) : (classifyFault fault).status = none := by
  simp only [classifyFault, apply_ite RemoteError.status, ite_self]

private theorem status_classifyResponse (response : Response) :
    (classifyResponse response).status = some response.status := by
  simp only [classifyResponse, apply_ite RemoteError.status, ite_self]

/-- Only a response that asks for a pause has its status. -/
theorem RetryPolicy.status_of_judge_failed {policy : RetryPolicy} {reply : Reply}
    {error : RemoteError} (judged : policy.judge reply = .failed error) :
    error.status ≠ some 429 := by
  rcases eq_of_judge_failed judged with ⟨fault, rfl, rfl⟩ |
    ⟨response, rfl, isSuccess, -, rfl⟩ | ⟨response, rfl, -, notRateLimited, rfl⟩
  · rw [status_classifyFault]
    exact nofun
  · have bounds := response.isSuccess_iff.mp isSuccess
    intro same
    have status : response.status = 429 := Option.some.inj same
    omega
  · rw [status_classifyResponse]
    exact fun same => notRateLimited (Option.some.inj same)

/-- The last attempt of a call is not reported as one that is repeated. -/
theorem RetryPolicy.Ends.not_repeated {policy : RetryPolicy} {number remaining : Nat}
    {reply : Reply} {last : Attempt} {result : Except CallError Json}
    (ends : policy.Ends number remaining reply last result) :
    last.outcome ≠ .retryableFailure := by
  rcases ends.isLastReport.outcome_eq with ⟨outcome, _⟩ | ⟨outcome, _⟩
  · rw [outcome]
    exact nofun
  · rw [outcome]
    exact nofun

end Http

namespace CommandLine

open DesignCompiler.Files DesignCompiler.Http

/-! ### Lines -/

/-- What a reply that another attempt follows was. -/
def pauseCause : Reply → String
  | .response response => if response.status = 429 then "Rate limit hit." else "Network error."
  | _ => "Network error."

private theorem pauseCause_of_not_isRateLimited {reply : Reply} (other : ¬ reply.IsRateLimited) :
    pauseCause reply = "Network error." := by
  cases reply with
  | response response => exact if_neg (mt (Reply.isRateLimited_response_iff response).mpr other)
  | unreachable fault => rfl
  | foreign fault => rfl

/-- The line about the pause between an attempt, to which a reply came, and the next one. -/
def pauseLine (reply : Reply) (seconds : String) (next maxAttempts : Nat) : String :=
  pauseCause reply ++ " Retrying in " ++ seconds ++ " seconds... (Attempt "
    ++ (Number.int next).text ++ "/" ++ (Number.int maxAttempts).text ++ ")\n"

/-- What is shown about a failure: its message, and after it how to get a token if there is none. -/
def errorBlock : CommandError → String
  | .failed (.credential use) =>
    "Error: " ++ (Failure.credential use).message ++ "\n" ++ tokenHelp
  | .file error => "Error: failed to write component: " ++ error.message ++ "\n"
  | error => "Error: " ++ error.message ++ "\n"

private theorem CommandError.eq_errorBlock {error : CommandError} {text : String}
    (shown : error.report? = some text) : text = errorBlock error := by
  cases error with
  | failed failure =>
      cases failure with
      | credential use => exact (Option.some.inj shown).symm
      | call error | design error | name error | color error | shape fault =>
          simp only [report?] at shown
          split at shown
          · exact (Option.some.inj shown).symm
          · cases shown
  | file error =>
      obtain ⟨_, _, rfl⟩ := Option.map_eq_some_iff.mp shown
      rfl
  | output fault => cases shown
  | missingValue => cases shown

/-! ### The lines about a call -/

/-- The lines about the events of a call after `sent` requests: one for each pause, which names what
the reply before it was, the seconds of the pause with six significant digits and the number of the
request that follows. -/
inductive Narrates (maxAttempts : Nat) (replies : Replies) :
    Nat → List Event → List String → Prop where
  | brokenOff {sent : Nat} {request : Request} :
      Narrates maxAttempts replies sent [.request request] []
  | ended {sent : Nat} {request : Request} {last : Attempt} :
      last.outcome ≠ .retryableFailure →
      Narrates maxAttempts replies sent [.request request, .report last] []
  | paused {sent : Nat} {request : Request} {attempt : Attempt} {wait : Number} {seconds : String}
      {events : List Event} {lines : List String} :
      sent + 1 < maxAttempts → wait.IsBriefText seconds →
      Narrates maxAttempts replies (sent + 1) events lines →
      Narrates maxAttempts replies sent
        (.request request :: .report attempt :: .sleep wait :: events)
        (pauseLine (replies sent) seconds (sent + 2) maxAttempts :: lines)

/-- The lines about a call that may not have been made. -/
def Tells (policy : RetryPolicy) (replies : Replies) (events : List Event) (lines : List String) :
    Prop :=
  (events = [] ∧ lines = []) ∨ Narrates policy.maxAttempts replies 0 events lines

def reportsOf (events : List Event) : List Attempt :=
  (⟨events, .ok ()⟩ : Run Unit Unit).reports

def AreShown (reports : List Attempt) : Prop :=
  ∀ attempt ∈ reports, (progress? attempt).isSome = true

private theorem areShown_nil : AreShown [] := by
  simp [AreShown]

private theorem areShown_cons {attempt : Attempt} {reports : List Attempt} :
    AreShown (attempt :: reports) ↔ (progress? attempt).isSome = true ∧ AreShown reports := by
  simp [AreShown]

private theorem areShown_append {reports others : List Attempt} :
    AreShown (reports ++ others) ↔ AreShown reports ∧ AreShown others := by
  simp [AreShown, or_imp, forall_and]

def progressOf (reports : List Attempt) : String :=
  "".intercalate (reports.map fun attempt => (progress? attempt).getD "")

private theorem progressOf_cons (attempt : Attempt) (reports : List Attempt) :
    progressOf (attempt :: reports) = (progress? attempt).getD "" ++ progressOf reports := by
  simp only [progressOf, List.map_cons, Text.intercalate_empty, String.join_cons]

private theorem progressOf_append (reports others : List Attempt) :
    progressOf (reports ++ others) = progressOf reports ++ progressOf others := by
  unfold progressOf
  simp only [List.map_append, Text.intercalate_empty, String.join_append]

private theorem progress?_of_not_repeated {attempt : Attempt}
    (final : attempt.outcome ≠ .retryableFailure) : progress? attempt = some "" :=
  if_neg final

variable {policy : RetryPolicy}

private theorem pauseCause_of_pauses {sent : Nat} {reply : Reply} {error : RemoteError}
    {wait : Number} (pauses : policy.Pauses (sent + 1) reply error wait) :
    (if error.status = some 429 then "Rate limit hit." else "Network error.") =
      pauseCause reply := by
  cases pauses with
  | rateLimited status paused =>
      obtain ⟨text, _, rfl⟩ := Option.map_eq_some_iff.mp paused
      rw [if_pos (congrArg some status), pauseCause, if_pos status]
  | failed judged _ =>
      rw [if_neg (RetryPolicy.status_of_judge_failed judged),
        pauseCause_of_not_isRateLimited (RetryPolicy.conclusion_of_judge_failed judged).2.1]

/-- What is said about an attempt that another one follows is true of the reply to it. -/
theorem progress?_pauseReport {sent : Nat} {reply : Reply} {error : RemoteError} {wait : Number}
    (pauses : policy.Pauses (sent + 1) reply error wait) :
    progress? (policy.pauseReport (sent + 1) error wait) =
      wait.briefText?.map fun seconds =>
        pauseLine reply seconds (sent + 2) policy.maxAttempts := by
  have repeated : (policy.pauseReport (sent + 1) error wait).outcome = .retryableFailure := rfl
  rw [progress?, if_pos repeated]
  unfold pauseLine
  rw [← pauseCause_of_pauses pauses]
  rfl

/-- One line is shown for each pause of a call, and the lines are true. -/
theorem narrates_attemptFrom (policy : RetryPolicy) (request : Request) (replies : Replies)
    (sent remaining : Nat) (within : sent + remaining < policy.maxAttempts)
    (shown : AreShown (policy.attemptFrom request replies (sent + 1) remaining).reports) :
    ∃ lines,
      Narrates policy.maxAttempts replies sent
        (policy.attemptFrom request replies (sent + 1) remaining).events lines ∧
      progressOf (policy.attemptFrom request replies (sent + 1) remaining).reports =
        "".intercalate lines := by
  -- Each pause uses up one of the remaining attempts.
  induction remaining using Nat.strongRecOn generalizing sent with
  | _ remaining inductionHypothesis =>
      rcases policy.attemptFrom_steps request replies (sent + 1) remaining with
        ⟨fault, reply, run⟩ | ⟨last, result, ends, run⟩ |
        ⟨error, wait, rest, rfl, pauses, run⟩ | ⟨overruns, run⟩
      · rw [run]
        exact ⟨[], .brokenOff, rfl⟩
      · rw [run]
        refine ⟨[], .ended ends.not_repeated, (progressOf_cons last []).trans ?_⟩
        rw [progress?_of_not_repeated ends.not_repeated]
        rfl
      · rw [run, ← RetryPolicy.round_pauseReport] at shown ⊢
        have reports : ((policy.attemptFrom request replies (sent + 1 + 1) rest).preceded
            (round request (policy.pauseReport (sent + 1) error wait))).reports =
            policy.pauseReport (sent + 1) error wait ::
              (policy.attemptFrom request replies (sent + 1 + 1) rest).reports := rfl
        rw [reports] at shown ⊢
        obtain ⟨line, shownLater⟩ := areShown_cons.mp shown
        obtain ⟨lines, told, same⟩ :=
          inductionHypothesis rest (Nat.lt_succ_self rest) (sent + 1) (by omega) shownLater
        rw [progress?_pauseReport pauses, Option.isSome_map] at line
        obtain ⟨seconds, written⟩ := Option.isSome_iff_exists.mp line
        refine ⟨_, .paused (by omega) (Number.briefText?_eq_some_iff.mp written) told, ?_⟩
        rw [progressOf_cons, same, progress?_pauseReport pauses, written, Text.intercalate_empty,
          Text.intercalate_empty, String.join_cons]
        rfl
      · rw [run]
        exact ⟨[], .brokenOff, rfl⟩

/-- The events of a call under a policy, or none if the call is not made. -/
inductive IsCall (policy : RetryPolicy) (replies : Replies) : List Event → Prop where
  | omitted : IsCall policy replies []
  | made (order : Order) : IsCall policy replies (policy.execute order replies).events

theorem IsCall.tells {replies : Replies} {events : List Event}
    (call : IsCall policy replies events) (shown : AreShown (reportsOf events)) :
    ∃ lines, Tells policy replies events lines ∧
      progressOf (reportsOf events) = "".intercalate lines := by
  cases call with
  | omitted => exact ⟨[], Or.inl ⟨rfl, rfl⟩, rfl⟩
  | made order =>
      cases sent : order.request with
      | error fault =>
          rw [policy.execute_of_unsendable sent replies]
          exact ⟨[], Or.inl ⟨rfl, rfl⟩, rfl⟩
      | ok request =>
          have positive := policy.maxAttempts_pos
          rw [policy.execute_of_sendable sent replies] at shown ⊢
          obtain ⟨lines, told, same⟩ :=
            narrates_attemptFrom policy request replies 0 (policy.maxAttempts - 1) (by omega) shown
          exact ⟨lines, Or.inr told, same⟩

/-! ### The calls of a command -/

/-- The replies that are left after some events. -/
def repliesAfter (replies : Replies) (events : List Event) : Replies :=
  replies.after (⟨events, .ok ()⟩ : Run Failure Unit).requests.length

/-- The events of an outcome are those of a call for a design and of one of a language model, and if
the command succeeds, its status is zero. -/
structure Outcome.HasCalls (outcome : Outcome) (context : Context) (replies : Replies)
    (first second : List Event) : Prop where
  events_eq : outcome.events = first ++ second
  design : IsCall context.figma.policy replies first
  completion : IsCall context.completion.policy (repliesAfter replies first) second
  status_eq : ∀ status, outcome.result = .ok status → status = 0

section

variable {context : Context} {tree : Tree} {replies : Replies}

private theorem hasCalls_fail {first second : List Event}
    (design : IsCall context.figma.policy replies first)
    (completion : IsCall context.completion.policy (repliesAfter replies first) second)
    (error : CommandError) :
    (fail tree (first ++ second) error).HasCalls context replies first second :=
  ⟨rfl, design, completion, nofun⟩

private theorem hasCalls_saveSource {first second : List Event}
    (design : IsCall context.figma.policy replies first)
    (completion : IsCall context.completion.policy (repliesAfter replies first) second)
    (options : ComponentOptions) (variant : Component.Variant) (name source : String) :
    (saveSource context tree (first ++ second) options variant name source).HasCalls context
      replies first second := by
  unfold saveSource
  split
  · exact hasCalls_fail design completion _
  · split
    · exact hasCalls_fail design completion _
    · exact ⟨rfl, design, completion, fun _ same => (Except.ok.inj same).symm⟩

private theorem policy_of_clientOf? {client : Figma.Client}
    (authorized : clientOf? context = .ok client) :
    client.policy = context.figma.policy := by
  unfold clientOf? at authorized
  split at authorized
  · rw [← Except.ok.inj authorized]
  · cases authorized

/-- A command whose fetch makes one call, and which goes on with at most one other call. -/
theorem hasCalls_withFetch {α : Type} {fetch : Figma.Client → Run Failure α}
    {next : List Event → α → Outcome}
    (fetches : ∀ client : Figma.Client, IsCall client.policy replies (fetch client).events)
    (goesOn : ∀ first value, IsCall context.figma.policy replies first →
      ∃ second, (next first value).HasCalls context replies first second) :
    ∃ first second, (withFetch context tree fetch next).HasCalls context replies first second := by
  unfold withFetch
  cases authorized : clientOf? context with
  | error failure => exact ⟨[], [], hasCalls_fail .omitted .omitted _⟩
  | ok client =>
      have design := fetches client
      rw [policy_of_clientOf? authorized] at design
      dsimp only
      cases (fetch client).result with
      | error failure =>
          refine ⟨_, [], ?_, design, .omitted, nofun⟩
          exact (List.append_nil _).symm
      | ok value =>
          obtain ⟨second, calls⟩ := goesOn _ value design
          exact ⟨_, second, calls⟩

private theorem isCall_sourceOf (options : ComponentOptions) (variant : Component.Variant)
    (frame : Design.Node) :
    IsCall context.completion.policy replies
      (sourceOf context tree replies options variant frame).events := by
  unfold sourceOf
  dsimp only
  split
  · exact .made _
  · exact .omitted

private theorem hasCalls_runToReact (fileKey frameId : String) (options : ComponentOptions) :
    ∃ first second, (runToReact context tree replies fileKey frameId options).HasCalls context
      replies first second := by
  unfold runToReact
  split
  · exact ⟨[], [], hasCalls_fail .omitted .omitted _⟩
  · refine hasCalls_withFetch (fun client => .made _) fun first frame design => ?_
    let source := sourceOf context tree (repliesAfter replies first) options
      (Component.Variant.resolve (some options.framework)) frame
    have completion : IsCall context.completion.policy (repliesAfter replies first) source.events :=
      isCall_sourceOf options _ frame
    refine ⟨source.events, ?_⟩
    dsimp only
    split
    · exact hasCalls_fail design completion _
    · exact hasCalls_saveSource design completion _ _ _ _

/-- A command without remote calls. -/
theorem hasCalls_of_no_events {outcome : Outcome} (noEvents : outcome.events = [])
    (status : ∀ status, outcome.result = .ok status → status = 0) :
    ∃ first second, outcome.HasCalls context replies first second :=
  ⟨[], [], noEvents, .omitted, .omitted, status⟩

private theorem hasCalls_runCommand (context : Context) (tree : Tree) (replies : Replies)
    (command : Command) :
    ∃ first second, (runCommand context tree replies command).HasCalls context replies first
      second := by
  have showing {α : Type} {fetch : Figma.Client → Run Failure α} (shows : α → String)
      (fetches : ∀ client : Figma.Client, IsCall client.policy replies (fetch client).events) :
      ∃ first second, (withFetch context tree fetch fun events value =>
        { events, tree, output := shows value, result := .ok 0 }).HasCalls context replies
          first second :=
    hasCalls_withFetch fetches fun first value design =>
      ⟨[], (List.append_nil first).symm, design, .omitted,
        fun _ same => (Except.ok.inj same).symm⟩
  cases command with
  | frames fileKey => exact showing (framesOutput fileKey) fun client => .made (client.order _ _)
  | frame fileKey frameId =>
      exact showing (fun document : Json => document.render .indented ++ "\n")
        fun client => .made (client.order _ _)
  | toReact fileKey frameId options => exact hasCalls_runToReact fileKey frameId options
  | getModel => exact hasCalls_of_no_events rfl fun _ same => (Except.ok.inj same).symm
  | setModel model =>
      simp only [runCommand, runSetModel]
      split
      · exact hasCalls_of_no_events rfl nofun
      · exact hasCalls_of_no_events rfl fun _ same => (Except.ok.inj same).symm

end

/-! ### Attempts that can be shown -/

private theorem isSome_progress?_of_pauses (finite : policy.networkCap.IsFinite) {sent : Nat}
    {reply : Reply} {error : RemoteError} {wait : Number}
    (pauses : policy.Pauses (sent + 1) reply error wait) :
    (progress? (policy.pauseReport (sent + 1) error wait)).isSome = true := by
  rw [progress?_pauseReport pauses, Option.isSome_map]
  cases pauses with
  | rateLimited _ paused =>
      obtain ⟨text, written, -⟩ := Option.map_eq_some_iff.mp paused
      rw [written]
      rfl
  | failed _ _ =>
      have isFinite : (policy.networkWait (sent + 1 : Nat)).IsFinite := by
        rw [RetryPolicy.networkWait, backoff_succ]
        exact Number.isFinite_least_two_pow sent finite
      obtain ⟨value, converted⟩ := isFinite
      rw [Number.briefText?, converted]
      rfl

private theorem areShown_attemptFrom (finite : policy.networkCap.IsFinite) (request : Request)
    (replies : Replies) (sent remaining : Nat) :
    AreShown (policy.attemptFrom request replies (sent + 1) remaining).reports := by
  induction remaining using Nat.strongRecOn generalizing sent with
  | _ remaining inductionHypothesis =>
      rcases policy.attemptFrom_steps request replies (sent + 1) remaining with
        ⟨fault, reply, run⟩ | ⟨last, result, ends, run⟩ |
        ⟨error, wait, rest, rfl, pauses, run⟩ | ⟨overruns, run⟩
      · rw [run]
        exact areShown_nil
      · have isShown : (progress? last).isSome = true := by
          rw [progress?_of_not_repeated ends.not_repeated]
          rfl
        rw [run]
        exact areShown_cons.mpr ⟨isShown, areShown_nil⟩
      · rw [run, ← RetryPolicy.round_pauseReport]
        exact areShown_cons.mpr ⟨isSome_progress?_of_pauses finite pauses,
          inductionHypothesis rest (Nat.lt_succ_self rest) (sent + 1)⟩
      · rw [run]
        exact areShown_nil

/-- Under a finite cap all waits after failures have a text; those after rate limits have one
anyway. -/
theorem IsCall.areShown (finite : policy.networkCap.IsFinite) {replies : Replies}
    {events : List Event} (call : IsCall policy replies events) : AreShown (reportsOf events) := by
  cases call with
  | omitted => exact areShown_nil
  | made order =>
      cases sent : order.request with
      | error fault =>
          rw [policy.execute_of_unsendable sent replies]
          exact areShown_nil
      | ok request =>
          rw [policy.execute_of_sendable sent replies]
          exact areShown_attemptFrom finite request replies 0 _

/-! ### The program -/

section

variable {context : Context} {replies : Replies} {outcome : Outcome} {first second : List Event}

private theorem Outcome.HasCalls.reports_eq
    (calls : outcome.HasCalls context replies first second) :
    outcome.calls.reports = reportsOf first ++ reportsOf second := by
  have reports : outcome.calls.reports = reportsOf outcome.events := rfl
  rw [reports, calls.events_eq]
  exact List.filterMap_append ..

private theorem Outcome.HasCalls.areShown (calls : outcome.HasCalls context replies first second)
    (design : context.figma.policy.networkCap.IsFinite)
    (completion : context.completion.policy.networkCap.IsFinite) :
    AreShown outcome.calls.reports := by
  rw [calls.reports_eq]
  exact areShown_append.mpr ⟨calls.design.areShown design, calls.completion.areShown completion⟩

/-- A command with a status shows nothing after its progress, or what is shown about its failure. -/
theorem Outcome.HasCalls.diagnostics_cases (calls : outcome.HasCalls context replies first second)
    (ends : outcome.status? ≠ none) :
    (outcome.status? = some 0 ∧ outcome.diagnostics = outcome.progress) ∨
    (outcome.status? = some 1 ∧ ∃ error, outcome.result = .error error ∧
      outcome.diagnostics = outcome.progress ++ errorBlock error) := by
  unfold Outcome.status? Outcome.diagnostics at *
  cases result : outcome.result with
  | ok status =>
      obtain rfl := calls.status_eq status result
      exact Or.inl ⟨rfl, String.append_empty⟩
  | error error =>
      rw [result] at ends
      cases shown : error.report? with
      | none => simp [shown] at ends
      | some text =>
          refine Or.inr ⟨by simp [shown], error, rfl, ?_⟩
          rw [← error.eq_errorBlock shown]
          simp [shown]

end

/-- A command shows one line for each of its pauses, those of its call for a design before those of
its call of a language model, and every line is true of the pause and of the requests around it.  If
the command succeeds, that is all; otherwise its failure is shown once, after the lines. -/
theorem run_tells_its_pauses {arguments : List String} {command : Command}
    (parsed : parse arguments = .ok command) {context : Context} {tree : Tree} {replies : Replies}
    (shown : AreShown (run context tree replies arguments).calls.reports)
    (ends : (run context tree replies arguments).status? ≠ none) :
    ∃ first second lines others,
      (run context tree replies arguments).events = first ++ second ∧
      Tells context.figma.policy replies first lines ∧
      Tells context.completion.policy (repliesAfter replies first) second others ∧
      (((run context tree replies arguments).status? = some 0 ∧
          (run context tree replies arguments).diagnostics = "".intercalate (lines ++ others)) ∨
        ((run context tree replies arguments).status? = some 1 ∧
          ∃ error, (run context tree replies arguments).result = .error error ∧
            (run context tree replies arguments).diagnostics =
              "".intercalate (lines ++ others) ++ errorBlock error)) := by
  rw [run_of_parse parsed] at shown ends ⊢
  obtain ⟨first, second, calls⟩ := hasCalls_runCommand context tree replies command
  rw [calls.reports_eq, areShown_append] at shown
  obtain ⟨lines, told, same⟩ := calls.design.tells shown.1
  obtain ⟨others, toldLater, sameLater⟩ := calls.completion.tells shown.2
  have progress : (runCommand context tree replies command).progress =
      "".intercalate (lines ++ others) := by
    have shownReports : (runCommand context tree replies command).progress =
        progressOf (runCommand context tree replies command).calls.reports := rfl
    rw [shownReports, calls.reports_eq, progressOf_append, same, sameLater,
      Text.intercalate_empty, Text.intercalate_empty, Text.intercalate_empty, String.join_append]
  refine ⟨first, second, lines, others, calls.events_eq, told, toldLater, ?_⟩
  rw [← progress]
  exact calls.diagnostics_cases ends

/-- A rate limit before the frame comes, and a server error before the language model answers. -/
theorem run_tells_two_pauses :
    let completion : Completion.Client := { policy := .standard 2 (by decide) }
    let context : Context :=
      { token := some "token", home := "/home", directory := ⟨1, ["home"]⟩, completion }
    let frame := "\x7b\"nodes\":\x7b\"1:2\":\x7b\"document\":\x7b\"type\":\"FRAME\"\x7d\x7d\x7d\x7d"
    let answer := "\x7b\"choices\":[\x7b\"message\":\x7b\"content\":\"a\"\x7d\x7d]\x7d"
    let replies := Replies.ofList
      [.response { status := 429, headers := [("retry-after", "2.5")] },
        .response { status := 200, body := frame.toUTF8.data.toList },
        .response { status := 500 },
        .response { status := 200, body := answer.toUTF8.data.toList }]
    let outcome := run context (.empty ["work"]) replies ["figma", "to-react", "K", "1-2", "--ai"]
    outcome.diagnostics = "Rate limit hit. Retrying in 2.5 seconds... (Attempt 2/3)\n"
        ++ "Network error. Retrying in 1 seconds... (Attempt 2/2)\n" ∧
      ∃ first second lines others,
        outcome.events = first ++ second ∧
        Tells context.figma.policy replies first lines ∧
        Tells context.completion.policy (repliesAfter replies first) second others ∧
        outcome.diagnostics = "".intercalate (lines ++ others) := by
  intro completion context frame answer replies outcome
  have parsed : parse ["figma", "to-react", "K", "1-2", "--ai"] =
      .ok (.toReact "K" "1-2" { ai := true }) := rfl
  have status : outcome.status? = some 0 := by decide +kernel
  have literal : outcome.diagnostics = "Rate limit hit. Retrying in 2.5 seconds... (Attempt 2/3)\n"
      ++ "Network error. Retrying in 1 seconds... (Attempt 2/2)\n" := by
    decide +kernel
  have shown : AreShown outcome.calls.reports := by
    obtain ⟨first, second, calls⟩ := hasCalls_runCommand context (.empty ["work"]) replies
      (.toReact "K" "1-2" { ai := true })
    exact calls.areShown (by decide +kernel) (by decide +kernel)
  obtain ⟨first, second, lines, others, events, told, toldLater, ending⟩ :=
    run_tells_its_pauses parsed shown (by rw [status]; exact nofun)
  rcases ending with ⟨_, diagnostics⟩ | ⟨failed, _⟩
  · exact ⟨literal, first, second, lines, others, events, told, toldLater, diagnostics⟩
  · rw [status] at failed
    cases failed

end CommandLine

end DesignCompiler
