import DesignCompiler.Proofs.Http.Attempt

/-!
Contract: the events of a remote call, in order.

Owns:
- the law that all attempts of a call send the same request;
- `round`, the events of an attempt that another one follows;
- `IsPauseReport` and `IsLastReport`, what is reported about the attempts of a call;
- the shape of a whole run: rounds, then the last request and its report.

A reply outside the transport breaks the run off after the request that it answers.

Does not own: which replies are repeated, see `DesignCompiler.Proofs.Http.Decision`.
-/

set_option autoImplicit false

namespace DesignCompiler.Http

/-- The events of an attempt that another one follows: the wait is the one that was reported. -/
def round (request : Request) (attempt : Attempt) : List Event :=
  [.request request, .report attempt, .sleep attempt.wait]

/-- The report of an attempt with a number that another attempt follows. -/
structure RetryPolicy.IsPauseReport (policy : RetryPolicy) (number : Nat) (attempt : Attempt) :
    Prop where
  number_eq : attempt.number = number
  maxAttempts_eq : attempt.maxAttempts = policy.maxAttempts
  outcome_eq : attempt.outcome = .retryableFailure
  error_eq : ∃ error, attempt.error = some error ∧ error.kind.isRetryable = true ∧
    attempt.status = error.status

/-- The report of the last attempt of a call with a result: a success without an error if there is
an answer, and otherwise a failure with the very error in which the call results. -/
structure RetryPolicy.IsLastReport (policy : RetryPolicy) (number : Nat)
    (result : Except CallError Json) (attempt : Attempt) : Prop where
  number_eq : attempt.number = number
  maxAttempts_eq : attempt.maxAttempts = policy.maxAttempts
  wait_eq : attempt.wait = seconds 0
  outcome_eq :
    (attempt.outcome = .success ∧ attempt.error = none ∧ ∃ body, result = .ok body) ∨
    (attempt.outcome = .terminalFailure ∧
      ∃ error, attempt.error = some error ∧ result = .error (.remote error))

/-! ### Rounds -/

/-- The requests, reports and waits of some rounds and what follows them. -/
theorem Run.logs_of_rounds {ε α : Type} (request : Request) (rounds : List Attempt)
    (rest : List Event) (result : Except ε α) :
    let run : Run ε α := ⟨rounds.flatMap (round request) ++ rest, result⟩
    let last : Run ε α := ⟨rest, result⟩
    run.requests = List.replicate rounds.length request ++ last.requests ∧
      run.reports = rounds ++ last.reports ∧
      run.sleeps = rounds.map Attempt.wait ++ last.sleeps := by
  induction rounds with
  | nil => exact ⟨rfl, rfl, rfl⟩
  | cons attempt rounds inductionHypothesis =>
      obtain ⟨requests, reports, sleeps⟩ := inductionHypothesis
      exact ⟨congrArg (request :: ·) requests, congrArg (attempt :: ·) reports,
        congrArg (attempt.wait :: ·) sleeps⟩

variable {policy : RetryPolicy}

def RetryPolicy.pauseReport (policy : RetryPolicy) (number : Nat) (error : RemoteError)
    (wait : Number) : Attempt :=
  { number, maxAttempts := policy.maxAttempts, outcome := .retryableFailure, wait,
    status := error.status, error := some error }

theorem RetryPolicy.round_pauseReport (request : Request) (number : Nat) (error : RemoteError)
    (wait : Number) :
    round request (policy.pauseReport number error wait) =
      .request request :: policy.pause number error wait :=
  rfl

private theorem RetryPolicy.Pauses.isPauseReport {number : Nat} {reply : Reply}
    {error : RemoteError} {wait : Number} (pauses : policy.Pauses number reply error wait) :
    policy.IsPauseReport number (policy.pauseReport number error wait) :=
  ⟨rfl, rfl, rfl, error, rfl, pauses.isRetryable, rfl⟩

theorem RetryPolicy.Pauses.not_foreign {number : Nat} {reply : Reply} {error : RemoteError}
    {wait : Number} (pauses : policy.Pauses number reply error wait) (fault : Fault) :
    reply ≠ .foreign fault := by
  rintro rfl
  cases pauses with
  | failed judged _ => cases judged

theorem RetryPolicy.Ends.isLastReport {number remaining : Nat} {reply : Reply} {last : Attempt}
    {result : Except CallError Json} (ends : policy.Ends number remaining reply last result) :
    policy.IsLastReport number result last := by
  cases ends with
  | answered _ _ => exact ⟨rfl, rfl, rfl, Or.inl ⟨rfl, rfl, _, rfl⟩⟩
  | failed _ _ => exact ⟨rfl, rfl, rfl, Or.inr ⟨rfl, _, rfl, rfl⟩⟩
  | exhausted _ _ => exact ⟨rfl, rfl, rfl, Or.inr ⟨rfl, _, rfl, rfl⟩⟩

theorem RetryPolicy.Ends.not_foreign {number remaining : Nat} {reply : Reply} {last : Attempt}
    {result : Except CallError Json} (ends : policy.Ends number remaining reply last result)
    (fault : Fault) : reply ≠ .foreign fault := by
  rintro rfl
  cases ends with
  | failed judged _ => cases judged

/-! ### Requests -/

/-- All attempts send the same request. -/
theorem RetryPolicy.exists_requests_attemptFrom (policy : RetryPolicy) (request : Request)
    (replies : Replies) (number remaining : Nat) :
    ∃ repeated, (policy.attemptFrom request replies number remaining).requests =
      List.replicate (repeated + 1) request := by
  induction remaining using Nat.strongRecOn generalizing number with
  | _ remaining inductionHypothesis =>
      rcases policy.attemptFrom_steps request replies number remaining with
        ⟨_, _, run⟩ | ⟨_, _, _, run⟩ | ⟨_, _, rest, rfl, -, run⟩ | ⟨_, run⟩
      · exact ⟨0, by rw [run]; rfl⟩
      · exact ⟨0, by rw [run]; rfl⟩
      · obtain ⟨repeated, sent⟩ := inductionHypothesis rest (Nat.lt_succ_self rest) (number + 1)
        exact ⟨repeated + 1, by rw [run, Run.requests_preceded_pause, sent]; rfl⟩
      · exact ⟨0, by rw [run]; rfl⟩

/-- What a call sends is its order, if anything. -/
theorem RetryPolicy.request_of_mem_requests {order : Order} {replies : Replies} {request : Request}
    (sent : request ∈ (policy.execute order replies).requests) : order.request = .ok request := by
  cases sendable : order.request with
  | error fault =>
      rw [execute_of_unsendable policy sendable] at sent
      cases sent
  | ok ordered =>
      obtain ⟨_, same⟩ :=
        policy.exists_requests_attemptFrom ordered replies 1 (policy.maxAttempts - 1)
      rw [execute_of_sendable policy sendable, same] at sent
      rw [List.eq_of_mem_replicate sent]

/-- A call that can be sent is sent. -/
theorem RetryPolicy.requests_ne_nil {order : Order} {request : Request}
    (sendable : order.request = .ok request) (replies : Replies) :
    (policy.execute order replies).requests ≠ [] := by
  obtain ⟨_, same⟩ :=
    policy.exists_requests_attemptFrom request replies 1 (policy.maxAttempts - 1)
  rw [execute_of_sendable policy sendable, same]
  exact List.cons_ne_nil _ _

/-- A request has the method and the body of its order. -/
theorem Order.method_and_body_of_request {order : Order} {request : Request}
    (sendable : order.request = .ok request) :
    request.method = order.method ∧ request.body = order.body := by
  unfold Order.request at sendable
  split at sendable
  · cases sendable
  · split at sendable
    · obtain rfl := Except.ok.inj sendable
      exact ⟨rfl, rfl⟩
    · cases sendable

/-- A request has the parameters that its order gives. -/
theorem Order.parameters_of_request {order : Order} {request : Request}
    {parameters : List Parameter} (sendable : order.request = .ok request)
    (given : order.parameters = some parameters) : request.parameters = parameters := by
  unfold Order.request at sendable
  rw [given] at sendable
  split at sendable
  · cases sendable
  · split at sendable
    · obtain rfl := Except.ok.inj sendable
      rfl
    · cases sendable

/-! ### Whole runs -/

/-- The shape of a run whose attempts are numbered from `start + 1` on: rounds for replies of the
transport, and then either a last request with its report, or a request to which a reply outside the
transport came. -/
def RetryPolicy.HasShape (policy : RetryPolicy) (request : Request) (replies : Replies)
    (start : Nat) (rounds : List Attempt) (run : Run CallError Json) : Prop :=
  (∀ i attempt, rounds[i]? = some attempt → policy.IsPauseReport (start + i + 1) attempt) ∧
  (∀ i < rounds.length, ∀ fault, replies (start + i) ≠ .foreign fault) ∧
  ((∃ last, policy.IsLastReport (start + rounds.length + 1) run.result last ∧
      (∀ fault, replies (start + rounds.length) ≠ .foreign fault) ∧
      run.events = rounds.flatMap (round request) ++ [.request request, .report last]) ∨
    (∃ fault, replies (start + rounds.length) = .foreign fault ∧
      run.result = .error (.foreign fault) ∧
      run.events = rounds.flatMap (round request) ++ [.request request]))

theorem RetryPolicy.HasShape.round {request : Request} {replies : Replies} {start : Nat}
    {rounds : List Attempt} {run : Run CallError Json}
    (shape : policy.HasShape request replies (start + 1) rounds run) {attempt : Attempt}
    (isReport : policy.IsPauseReport (start + 1) attempt)
    (notForeign : ∀ fault, replies start ≠ .foreign fault) :
    policy.HasShape request replies start (attempt :: rounds)
      (run.preceded (round request attempt)) := by
  obtain ⟨reports, handled, final⟩ := shape
  have shift (i : Nat) : start + 1 + i = start + (i + 1) := by omega
  refine ⟨?_, ?_, ?_⟩
  · rintro (_ | i) report found
    · cases found
      exact isReport
    · rw [← shift]
      exact reports i report found
  · rintro (_ | i) below
    · exact notForeign
    · rw [← shift]
      exact handled i (Nat.lt_of_succ_lt_succ below)
  · rw [shift] at final
    rcases final with ⟨last, isLast, notLastForeign, events⟩ | ⟨fault, foreign, result, events⟩
    · exact Or.inl ⟨last, isLast, notLastForeign, congrArg (Http.round request attempt ++ ·) events⟩
    · exact Or.inr ⟨fault, foreign, result, congrArg (Http.round request attempt ++ ·) events⟩

theorem RetryPolicy.attemptFrom_hasShape (finite : policy.HasFiniteWaits) (request : Request)
    (replies : Replies) (start remaining : Nat) :
    ∃ rounds : List Attempt, rounds.length ≤ remaining ∧
      policy.HasShape request replies start rounds
        (policy.attemptFrom request replies (start + 1) remaining) := by
  -- Each round uses up one of the remaining attempts.
  induction remaining using Nat.strongRecOn generalizing start with
  | _ remaining inductionHypothesis =>
      rcases attemptFrom_cases finite request replies (Nat.le_add_left 1 start) remaining with
        ⟨fault, reply, run⟩ | ⟨last, result, ends, run⟩ |
        ⟨error, wait, rest, rfl, pauses, run⟩
      · rw [run]
        exact ⟨[], Nat.zero_le _, by simp, by simp, Or.inr ⟨fault, reply, rfl, rfl⟩⟩
      · rw [run]
        exact ⟨[], Nat.zero_le _, by simp, by simp,
          Or.inl ⟨last, ends.isLastReport, ends.not_foreign, rfl⟩⟩
      · obtain ⟨rounds, few, shape⟩ := inductionHypothesis rest (Nat.lt_succ_self rest) (start + 1)
        rw [run, ← round_pauseReport]
        exact ⟨_ :: rounds, Nat.succ_le_succ few,
          shape.round pauses.isPauseReport pauses.not_foreign⟩

/-- A request to which a reply outside the transport comes is the last one, and only the rounds
before it are reported and slept after. -/
theorem RetryPolicy.HasShape.brokenOff {request : Request} {replies : Replies}
    {rounds : List Attempt} {run : Run CallError Json}
    (shape : policy.HasShape request replies 0 rounds run) {i : Nat} {fault : Fault}
    (sent : i < run.requests.length) (foreign : replies i = .foreign fault) :
    run.result = .error (.foreign fault) ∧ run.requests = List.replicate (i + 1) request ∧
      run.reports.length = i ∧ run.sleeps.length = i := by
  obtain ⟨events, result⟩ := run
  obtain ⟨_, handled, final⟩ := shape
  have notBefore : rounds.length ≤ i := by
    refine Nat.le_of_not_lt fun before => ?_
    have notForeign := handled i before fault
    rw [Nat.zero_add] at notForeign
    exact notForeign foreign
  rcases final with ⟨last, _, notLastForeign, rfl⟩ | ⟨fault', reply, rfl, rfl⟩
  · obtain ⟨requests, _, _⟩ :=
      Run.logs_of_rounds request rounds [.request request, .report last] result
    rw [requests, List.length_append, List.length_replicate] at sent
    have isLast : i = rounds.length := Nat.le_antisymm (Nat.le_of_lt_succ sent) notBefore
    rw [Nat.zero_add, ← isLast] at notLastForeign
    exact absurd foreign (notLastForeign fault)
  · obtain ⟨requests, reports, sleeps⟩ := Run.logs_of_rounds request rounds [.request request]
      (.error (.foreign fault') : Except CallError Json)
    rw [requests, List.length_append, List.length_replicate] at sent
    have isLast : i = rounds.length := Nat.le_antisymm (Nat.le_of_lt_succ sent) notBefore
    subst isLast
    rw [Nat.zero_add, foreign] at reply
    obtain rfl := Reply.foreign.inj reply
    rw [requests, reports, sleeps]
    refine ⟨rfl, (List.replicate_succ' ..).symm, ?_, ?_⟩
    · exact congrArg List.length (List.append_nil rounds)
    · exact (congrArg List.length (List.append_nil _)).trans (List.length_map _)

/-- The trace of a call: fewer rounds than there are attempts, each with the same request, its
report and the wait that was reported, and then a last request with the report of how the call
ends.  A reply outside the transport ends the call at once and unreported. -/
theorem RetryPolicy.execute_trace (finite : policy.HasFiniteWaits) {order : Order}
    {request : Request} (sendable : order.request = .ok request) (replies : Replies) :
    ∃ rounds : List Attempt, rounds.length < policy.maxAttempts ∧
      policy.HasShape request replies 0 rounds (policy.execute order replies) ∧
      ∀ i < (policy.execute order replies).requests.length,
        ∀ fault, replies i = .foreign fault →
          (policy.execute order replies).result = .error (.foreign fault) ∧
          (policy.execute order replies).requests = List.replicate (i + 1) request ∧
          (policy.execute order replies).reports.length = i ∧
          (policy.execute order replies).sleeps.length = i := by
  have positive := policy.maxAttempts_pos
  rw [policy.execute_of_sendable sendable replies]
  obtain ⟨rounds, few, shape⟩ :=
    attemptFrom_hasShape finite request replies 0 (policy.maxAttempts - 1)
  exact ⟨rounds, by omega, shape, fun i sent fault foreign => shape.brokenOff sent foreign⟩

/-- A server error is reported and slept after; the redirects that follow break the call off. -/
theorem RetryPolicy.execute_brokenOff_by_second_reply :
    let policy := RetryPolicy.standard 3 (by decide)
    let order : Order := { url := "https://api.test/x" }
    let fault : Fault := ⟨"TooManyRedirects", "Exceeded maximum allowed redirects."⟩
    let run := policy.execute order
      (Replies.ofList [.response { status := 500 }, .foreign fault, .response { status := 200 }])
    run.result = .error (.foreign fault) ∧ run.requests.length = 2 ∧
      run.reports.length = 1 ∧ run.sleeps.length = 1 := by
  intro policy order fault run
  have sendable : ({ url := "https://api.test/x" } : Order).request =
      .ok ⟨"GET", "https://api.test", "/x", [], [], none⟩ := by
    rfl
  have finite : policy.HasFiniteWaits := ⟨by decide +kernel, by decide +kernel⟩
  obtain ⟨_, _, _, brokenOff⟩ :=
    execute_trace finite sendable
      (Replies.ofList [.response { status := 500 }, .foreign fault, .response { status := 200 }])
  obtain ⟨result, requests, reports, sleeps⟩ := brokenOff 1 (by decide +kernel) fault rfl
  exact ⟨result, by rw [requests]; rfl, reports, sleeps⟩

end DesignCompiler.Http
