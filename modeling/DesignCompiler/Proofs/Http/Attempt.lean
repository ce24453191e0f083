import DesignCompiler.Http.Retry
import DesignCompiler.Proofs.Number.Range

/-!
Contract: what a single attempt of a remote call does.

Owns:
- `RetryPolicy.HasFiniteWaits`, the policies whose waits after rate-limited attempts have a text;
- `RetryPolicy.Pauses` and `RetryPolicy.Ends`, the two things that an attempt can make of a call,
  and `RetryPolicy.Overruns`, the attempts after which the wait has no text;
- `RetryPolicy.attemptFrom_steps` and `RetryPolicy.attemptFrom_cases`, by which every fact about
  runs is proved one attempt at a time.

Does not own: whole runs, see `DesignCompiler.Proofs.Http.Decision` and
`DesignCompiler.Proofs.Http.Trace`.
-/

set_option autoImplicit false

namespace DesignCompiler.Http

/-! ### Waits that have a text -/

/-- The numbers from which the waits after rate-limited attempts are taken are finite. -/
structure RetryPolicy.HasFiniteWaits (policy : RetryPolicy) : Prop where
  rateLimitCap : policy.rateLimitCap.IsFinite
  defaultRetryAfter : policy.defaultRetryAfter.IsFinite

private theorem retryAfter?_isFinite {header : Option String} {asked : Number}
    (named : retryAfter? header = some asked) : asked.IsFinite := by
  unfold retryAfter? at named
  split at named
  · next value _ =>
      simp only [Option.some.injEq] at named
      subst named
      split
      · exact ⟨_, rfl⟩
      · exact ⟨value, rfl⟩
  · cases named

variable {policy : RetryPolicy}

theorem RetryPolicy.HasFiniteWaits.retryAfter (finite : policy.HasFiniteWaits)
    (response : Response) : (policy.retryAfter response).IsFinite := by
  unfold RetryPolicy.retryAfter
  cases named : retryAfter? (header? response.headers "retry-after") with
  | none => exact finite.defaultRetryAfter
  | some asked => exact retryAfter?_isFinite named

theorem backoff_succ (n : Nat) : backoff ((n + 1 : Nat) : Int) = .int (Nat.pow 2 n : Nat) := by
  have exponent : ((n + 1 : Nat) : Int) - 1 = Int.ofNat n := by
    simp
  unfold backoff
  rw [exponent]

/-- The wait after a rate-limited attempt is finite, whatever finite number is asked for. -/
theorem RetryPolicy.HasFiniteWaits.rateLimitWait (finite : policy.HasFiniteWaits) {number : Nat}
    (positive : 1 ≤ number) {asked : Number} (askedFinite : asked.IsFinite) :
    (policy.rateLimitWait number asked).IsFinite := by
  obtain ⟨n, rfl⟩ := Nat.exists_eq_add_of_le' positive
  unfold RetryPolicy.rateLimitWait
  split
  · exact Number.isFinite_least askedFinite finite.rateLimitCap
  · rw [backoff_succ]
    exact Number.isFinite_least_two_pow n finite.rateLimitCap

private theorem exists_pausedError {wait : Number} (finite : wait.IsFinite) (status : Int) :
    ∃ error, pausedError? status wait = some error := by
  obtain ⟨value, converted⟩ := finite
  unfold pausedError? Number.briefText?
  rw [converted]
  exact ⟨_, rfl⟩

private theorem kind_of_pausedError {status : Int} {wait : Number} {error : RemoteError}
    (paused : pausedError? status wait = some error) : error.kind = .rateLimited := by
  unfold pausedError? at paused
  obtain ⟨text, _, rfl⟩ := Option.map_eq_some_iff.mp paused
  rfl

/-! ### The two things that an attempt can make of a call -/

/-- The reply to an attempt is worth another one: the error that is reported about it, and the wait
before the next attempt. -/
inductive RetryPolicy.Pauses (policy : RetryPolicy) (number : Nat) :
    Reply → RemoteError → Number → Prop where
  | rateLimited {response : Response} {error : RemoteError} :
      response.status = 429 →
      pausedError? response.status
        (policy.rateLimitWait number (policy.retryAfter response)) = some error →
      Pauses policy number (.response response) error
        (policy.rateLimitWait number (policy.retryAfter response))
  | failed {reply : Reply} {error : RemoteError} :
      policy.judge reply = .failed error → error.kind.isRetryable = true →
      Pauses policy number reply error (policy.networkWait number)

/-- The reply to an attempt that `remaining` others may follow ends the call: the report about the
attempt, and what the call results in. -/
inductive RetryPolicy.Ends (policy : RetryPolicy) (number remaining : Nat) :
    Reply → Attempt → Except CallError Json → Prop where
  | answered {response : Response} {body : Json} :
      response.isSuccess = true → response.json? = some body →
      Ends policy number remaining (.response response)
        { number, maxAttempts := policy.maxAttempts, outcome := .success,
          status := some response.status }
        (.ok body)
  | failed {reply : Reply} {error : RemoteError} :
      policy.judge reply = .failed error →
      (remaining = 0 ∨ error.kind.isRetryable = false) →
      Ends policy number remaining reply
        { number, maxAttempts := policy.maxAttempts, outcome := .terminalFailure,
          status := error.status, error := some error }
        (.error (.remote error))
  | exhausted {response : Response} :
      response.status = 429 → remaining = 0 →
      Ends policy number remaining (.response response)
        { number, maxAttempts := policy.maxAttempts, outcome := .terminalFailure,
          status := some response.status,
          error := some (policy.exhaustedError response.status) }
        (.error (.remote (policy.exhaustedError response.status)))

/-- The reply to an attempt asks for a pause, and the wait has no text. -/
inductive RetryPolicy.Overruns (policy : RetryPolicy) (number : Nat) : Reply → Prop where
  | rateLimited {response : Response} :
      response.status = 429 →
      pausedError? response.status
        (policy.rateLimitWait number (policy.retryAfter response)) = none →
      Overruns policy number (.response response)

theorem RetryPolicy.HasFiniteWaits.not_overruns (finite : policy.HasFiniteWaits) {number : Nat}
    (positive : 1 ≤ number) {reply : Reply} : ¬ policy.Overruns number reply := by
  rintro ⟨-, noText⟩
  obtain ⟨error, paused⟩ :=
    exists_pausedError (finite.rateLimitWait positive (finite.retryAfter _)) _
  rw [paused] at noText
  cases noText

/-! ### Replies and what they are judged to mean -/

private theorem RetryPolicy.eq_of_judge_answer {reply : Reply} {status : Int} {body : Json}
    (judged : policy.judge reply = .answer status body) :
    ∃ response : Response, reply = .response response ∧ response.isSuccess = true ∧
      response.json? = some body ∧ response.status = status := by
  unfold judge at judged
  split at judged
  · cases judged
  · cases judged
  · next response =>
      split at judged
      · next isSuccess =>
          split at judged
          · next body' read =>
              obtain ⟨rfl, rfl⟩ := Verdict.answer.inj judged
              exact ⟨response, rfl, isSuccess, read, rfl⟩
          · cases judged
      · split at judged <;> cases judged

private theorem RetryPolicy.eq_of_judge_rateLimited {reply : Reply} {status : Int} {asked : Number}
    (judged : policy.judge reply = .rateLimited status asked) :
    ∃ response : Response, reply = .response response ∧ response.status = 429 ∧
      response.status = status ∧ policy.retryAfter response = asked := by
  unfold judge at judged
  split at judged
  · cases judged
  · cases judged
  · next response =>
      split at judged
      · split at judged <;> cases judged
      · split at judged
        · next isRateLimited =>
            obtain ⟨rfl, rfl⟩ := Verdict.rateLimited.inj judged
            exact ⟨response, rfl, isRateLimited, rfl, rfl⟩
        · cases judged

def malformedBody (response : Response) : RemoteError :=
  ⟨.malformedResponse, "Expected a JSON body (status " ++ statusText response.status ++ ")",
    some response.status⟩

theorem RetryPolicy.eq_of_judge_failed {reply : Reply} {error : RemoteError}
    (judged : policy.judge reply = .failed error) :
    (∃ fault, reply = .unreachable fault ∧ error = classifyFault fault) ∨
    (∃ response : Response, reply = .response response ∧ response.isSuccess = true ∧
      response.json? = none ∧ error = malformedBody response) ∨
    (∃ response : Response, reply = .response response ∧ response.isSuccess = false ∧
      response.status ≠ 429 ∧ error = classifyResponse response) := by
  unfold judge at judged
  split at judged
  · cases judged
  · next fault => exact Or.inl ⟨fault, rfl, (Verdict.failed.inj judged).symm⟩
  · next response =>
      split at judged
      · next isSuccess =>
          split at judged
          · cases judged
          · next read =>
              exact Or.inr (Or.inl
                ⟨response, rfl, isSuccess, read, (Verdict.failed.inj judged).symm⟩)
      · next noSuccess =>
          rw [Bool.not_eq_true] at noSuccess
          split at judged
          · cases judged
          · next notRateLimited =>
              exact Or.inr (Or.inr
                ⟨response, rfl, noSuccess, notRateLimited, (Verdict.failed.inj judged).symm⟩)

private theorem RetryPolicy.eq_of_judge_escape {reply : Reply} {fault : Fault}
    (judged : policy.judge reply = .escape fault) : reply = .foreign fault := by
  unfold judge at judged
  split at judged
  · rw [Verdict.escape.inj judged]
  · cases judged
  · split at judged
    · split at judged <;> cases judged
    · split at judged <;> cases judged

/-! ### One attempt -/

/-- Every attempt breaks the call off, or ends it with a report, or is reported and followed by a
wait and the remaining attempts, unless this wait has no text. -/
theorem RetryPolicy.attemptFrom_steps (policy : RetryPolicy) (request : Request)
    (replies : Replies) (number remaining : Nat) :
    (∃ fault, replies (number - 1) = .foreign fault ∧
      policy.attemptFrom request replies number remaining =
        ⟨[.request request], .error (.foreign fault)⟩) ∨
    (∃ last result, policy.Ends number remaining (replies (number - 1)) last result ∧
      policy.attemptFrom request replies number remaining =
        ⟨[.request request, .report last], result⟩) ∨
    (∃ error wait rest, remaining = rest + 1 ∧
      policy.Pauses number (replies (number - 1)) error wait ∧
      policy.attemptFrom request replies number remaining =
        (policy.attemptFrom request replies (number + 1) rest).preceded
          (.request request :: policy.pause number error wait)) ∨
    (policy.Overruns number (replies (number - 1)) ∧
      policy.attemptFrom request replies number remaining =
        ⟨[.request request], .error .wait⟩) := by
  rw [attemptFrom.eq_def]
  cases judged : policy.judge (replies (number - 1)) with
  | escape fault => exact Or.inl ⟨fault, eq_of_judge_escape judged, rfl⟩
  | answer status body =>
      obtain ⟨response, reply, isSuccess, read, rfl⟩ := eq_of_judge_answer judged
      rw [reply]
      exact Or.inr (Or.inl ⟨_, _, .answered isSuccess read, rfl⟩)
  | rateLimited status asked =>
      obtain ⟨response, reply, isRateLimited, rfl, rfl⟩ := eq_of_judge_rateLimited judged
      rw [reply]
      cases remaining with
      | zero => exact Or.inr (Or.inl ⟨_, _, .exhausted isRateLimited rfl, rfl⟩)
      | succ rest =>
          cases paused : pausedError? response.status
              (policy.rateLimitWait number (policy.retryAfter response)) with
          | none =>
              refine Or.inr (Or.inr (Or.inr ⟨.rateLimited isRateLimited paused, ?_⟩))
              simp only [paused]
          | some error =>
              refine Or.inr (Or.inr (Or.inl
                ⟨error, _, rest, rfl, .rateLimited isRateLimited paused, ?_⟩))
              simp only [paused]
  | failed error =>
      cases remaining with
      | zero => exact Or.inr (Or.inl ⟨_, _, .failed judged (Or.inl rfl), rfl⟩)
      | succ rest =>
          by_cases retryable : error.kind.isRetryable = true
          · refine Or.inr (Or.inr (Or.inl ⟨error, _, rest, rfl, .failed judged retryable, ?_⟩))
            simp only [retryable, ↓reduceIte]
          · rw [Bool.not_eq_true] at retryable
            refine Or.inr (Or.inl ⟨_, _, .failed judged (Or.inr retryable), ?_⟩)
            simp only [retryable, Bool.false_eq_true, ↓reduceIte]
            rfl

/-- The same under finite waits, all of which have a text. -/
theorem RetryPolicy.attemptFrom_cases (finite : policy.HasFiniteWaits) (request : Request)
    (replies : Replies) {number : Nat} (positive : 1 ≤ number) (remaining : Nat) :
    (∃ fault, replies (number - 1) = .foreign fault ∧
      policy.attemptFrom request replies number remaining =
        ⟨[.request request], .error (.foreign fault)⟩) ∨
    (∃ last result, policy.Ends number remaining (replies (number - 1)) last result ∧
      policy.attemptFrom request replies number remaining =
        ⟨[.request request, .report last], result⟩) ∨
    (∃ error wait rest, remaining = rest + 1 ∧
      policy.Pauses number (replies (number - 1)) error wait ∧
      policy.attemptFrom request replies number remaining =
        (policy.attemptFrom request replies (number + 1) rest).preceded
          (.request request :: policy.pause number error wait)) := by
  rcases policy.attemptFrom_steps request replies number remaining with
    broken | ended | paused | ⟨overruns, -⟩
  · exact Or.inl broken
  · exact Or.inr (Or.inl ended)
  · exact Or.inr (Or.inr paused)
  · exact absurd overruns (finite.not_overruns positive)

/-! ### What a run is made of -/

@[simp]
theorem Run.requests_preceded_pause {ε α : Type} (run : Run ε α) (request : Request)
    (number : Nat) (error : RemoteError) (wait : Number) :
    (run.preceded (.request request :: policy.pause number error wait)).requests =
      request :: run.requests :=
  rfl

@[simp]
theorem Run.result_preceded {ε α : Type} (run : Run ε α) (events : List Event) :
    (run.preceded events).result = run.result :=
  rfl

theorem RetryPolicy.execute_of_unsendable (policy : RetryPolicy) {order : Order}
    {fault : OrderFault} (unsendable : order.request = .error fault) (replies : Replies) :
    policy.execute order replies = ⟨[], .error (.order fault)⟩ := by
  unfold execute
  rw [unsendable]

theorem RetryPolicy.execute_of_sendable (policy : RetryPolicy) {order : Order} {request : Request}
    (sendable : order.request = .ok request) (replies : Replies) :
    policy.execute order replies =
      policy.attemptFrom request replies 1 (policy.maxAttempts - 1) := by
  unfold execute
  rw [sendable]

/-- Only errors that may go away by themselves are followed by another attempt. -/
theorem RetryPolicy.Pauses.isRetryable {number : Nat} {reply : Reply} {error : RemoteError}
    {wait : Number} (pauses : policy.Pauses number reply error wait) :
    error.kind.isRetryable = true := by
  cases pauses with
  | rateLimited _ paused => rw [kind_of_pausedError paused]; rfl
  | failed _ retryable => exact retryable

end DesignCompiler.Http
