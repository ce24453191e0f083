import DesignCompiler.Proofs.Http.Attempt

/-!
Contract: what a remote call results in.

Owns:
- `AnsweredBy`, the bodies that a call can be answered with;
- `RetryPolicy.Concludes`, the four results that a call can have, and the law that it has one of
  them.

Does not own: which reply decides, see `DesignCompiler.Proofs.Http.Decision`.
-/

set_option autoImplicit false

namespace DesignCompiler.Http

/-- One of the first replies is a success with a JSON body. -/
def AnsweredBy (replies : Replies) (count : Nat) (body : Json) : Prop :=
  ∃ i < count, ∃ response, replies i = .response response ∧ response.isSuccess = true ∧
    response.json? = some body

/-- What a call can result in: the body of one of the replies, a remote error, the failure of the
transport that nobody handles, or a wait that has no text. -/
inductive RetryPolicy.Concludes (policy : RetryPolicy) (replies : Replies) :
    Except CallError Json → Prop where
  | answered {body : Json} :
      AnsweredBy replies policy.maxAttempts body → Concludes policy replies (.ok body)
  | failed {error : RemoteError} : Concludes policy replies (.error (.remote error))
  | broken {index : Nat} {fault : Fault} :
      index < policy.maxAttempts → replies index = .foreign fault →
      Concludes policy replies (.error (.foreign fault))
  | overrun {index : Nat} :
      index < policy.maxAttempts → policy.Overruns (index + 1) (replies index) →
      Concludes policy replies (.error .wait)

variable {policy : RetryPolicy}

theorem RetryPolicy.Ends.concludes {index remaining : Nat} {replies : Replies} {last : Attempt}
    {result : Except CallError Json} (within : index < policy.maxAttempts)
    (ends : policy.Ends (index + 1) remaining (replies index) last result) :
    policy.Concludes replies result := by
  generalize reply : replies index = decisive at ends
  cases ends with
  | answered isSuccess read => exact .answered ⟨index, within, _, reply, isSuccess, read⟩
  | failed _ _ => exact .failed
  | exhausted _ _ => exact .failed

/-- The attempt at hand is one of the allowed ones, and so are those that remain. -/
theorem RetryPolicy.concludes_attemptFrom (request : Request) (replies : Replies)
    (index remaining : Nat) (within : index + remaining < policy.maxAttempts) :
    policy.Concludes replies
      (policy.attemptFrom request replies (index + 1) remaining).result := by
  induction remaining generalizing index with
  | zero =>
      rcases policy.attemptFrom_steps request replies (index + 1) 0 with
        ⟨fault, reply, run⟩ | ⟨last, result, ends, run⟩ | ⟨_, _, _, noneLeft, -⟩ | ⟨overruns, run⟩
      · rw [run]
        exact .broken (by omega) reply
      · rw [run]
        exact ends.concludes (by omega)
      · cases noneLeft
      · rw [run]
        exact .overrun (by omega) overruns
  | succ remaining inductionHypothesis =>
      rcases policy.attemptFrom_steps request replies (index + 1) (remaining + 1) with
        ⟨fault, reply, run⟩ | ⟨last, result, ends, run⟩ | ⟨_, _, rest, count, -, run⟩ |
        ⟨overruns, run⟩
      · rw [run]
        exact .broken (by omega) reply
      · rw [run]
        exact ends.concludes (by omega)
      · obtain rfl := Nat.succ.inj count
        rw [run, Run.result_preceded]
        exact inductionHypothesis (index + 1) (by omega)
      · rw [run]
        exact .overrun (by omega) overruns

theorem RetryPolicy.concludes_execute {order : Order} {request : Request}
    (sendable : order.request = .ok request) (replies : Replies) :
    policy.Concludes replies (policy.execute order replies).result := by
  have positive := policy.maxAttempts_pos
  rw [policy.execute_of_sendable sendable replies]
  exact concludes_attemptFrom request replies 0 (policy.maxAttempts - 1) (by omega)

/-- If all waits have a text and the transport explains all its failures, a call results in the body
of one of the replies or in a remote error. -/
theorem RetryPolicy.HasFiniteWaits.answered_or_failed (finite : policy.HasFiniteWaits)
    {order : Order} {request : Request} (sendable : order.request = .ok request)
    {replies : Replies}
    (handled : ∀ i < policy.maxAttempts, ∀ fault, replies i ≠ .foreign fault) :
    (∃ body, (policy.execute order replies).result = .ok body) ∨
    ∃ error, (policy.execute order replies).result = .error (.remote error) := by
  have concluded : policy.Concludes replies (policy.execute order replies).result :=
    concludes_execute sendable replies
  generalize (policy.execute order replies).result = result at concluded
  cases concluded with
  | answered given => exact Or.inl ⟨_, rfl⟩
  | failed => exact Or.inr ⟨_, rfl⟩
  | @broken index fault within reply => exact absurd reply (handled index within fault)
  | @overrun index within overruns =>
      exact absurd overruns (finite.not_overruns (Nat.le_add_left 1 index))

end DesignCompiler.Http
