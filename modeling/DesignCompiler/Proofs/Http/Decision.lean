import DesignCompiler.Proofs.Http.Attempt

/-!
Contract: which reply decides a remote call.

Owns:
- `Reply.IsDecisive`, the replies after which no attempt follows, and `Reply.Decides`, how they end
  the call;
- `Reply.conclusion`, what a reply makes of the call when it is looked at by itself;
- the first decisive reply ends the call, and without one the last reply does.

Does not own: the order of events within a run, see `DesignCompiler.Proofs.Http.Trace`.
-/

set_option autoImplicit false

namespace DesignCompiler.Http

/-! ### Texts that occur in other ones -/

theorem contains_iff (part text : List Char) : contains part text = true ↔ part <:+: text := by
  induction text with
  | nil => simp [contains]
  | cons c rest inductionHypothesis =>
      rw [contains, Bool.or_eq_true, inductionHypothesis, List.isPrefixOf_iff_prefix,
        List.infix_cons_iff]

/-- What a failure says: its message, or its name if it has none. -/
def Fault.text (fault : Fault) : String :=
  if fault.message.isEmpty then fault.name else fault.message

/-- A failure mentions a marker if the marker occurs in the lower-case form of what it says. -/
def Fault.Mentions (fault : Fault) (marker : String) : Prop :=
  marker.toList <:+: Text.lower fault.text.toList

instance (fault : Fault) (marker : String) : Decidable (fault.Mentions marker) :=
  decidable_of_iff _ (contains_iff marker.toList (Text.lower fault.text.toList))

/-! ### Decisive replies -/

/-- The replies after which no attempt follows: a success, a refused credential, a missing resource,
and a failure of the transport that speaks of one of the latter two. -/
inductive Reply.IsDecisive : Reply → Prop where
  | success {response : Response} :
      200 ≤ response.status → response.status ≤ 299 → IsDecisive (.response response)
  | unauthorized {response : Response} :
      response.status = 401 → IsDecisive (.response response)
  | notFound {response : Response} :
      response.status = 404 → IsDecisive (.response response)
  | fault {fault : Fault} {marker : String} :
      marker ∈ ["401", "invalid token", "invalid figma token", "404"] →
      fault.Mentions marker → IsDecisive (.unreachable fault)

/-- How a decisive reply ends the call: with its body, or with an error of a kind. -/
inductive Reply.Decides : Reply → Except ErrorKind Json → Prop where
  | body {response : Response} {body : Json} :
      200 ≤ response.status → response.status ≤ 299 → response.json? = some body →
      Decides (.response response) (.ok body)
  | malformed {response : Response} :
      200 ≤ response.status → response.status ≤ 299 → response.json? = none →
      Decides (.response response) (.error .malformedResponse)
  | unauthorized {response : Response} :
      response.status = 401 → Decides (.response response) (.error .unauthorized)
  | notFound {response : Response} :
      response.status = 404 → Decides (.response response) (.error .notFound)
  | refused {fault : Fault} {marker : String} :
      marker ∈ ["401", "invalid token", "invalid figma token"] → fault.Mentions marker →
      Decides (.unreachable fault) (.error .unauthorized)
  | missing {fault : Fault} :
      (∀ marker ∈ ["401", "invalid token", "invalid figma token"], ¬ fault.Mentions marker) →
      fault.Mentions "404" → Decides (.unreachable fault) (.error .notFound)

/-- A call ends with a body, or with an error of a kind. -/
def EndsIn (result : Except CallError Json) : Except ErrorKind Json → Prop
  | .ok body => result = .ok body
  | .error kind => ∃ error, result = .error (.remote error) ∧ error.kind = kind

/-- What a reply makes of a call when it is looked at by itself. -/
def Reply.conclusion : Reply → Except CallError Json
  | .response received =>
    if received.isSuccess then
      match received.json? with
      | some body => .ok body
      | none => .error (.remote (malformedBody received))
    else .error (.remote (classifyResponse received))
  | .unreachable fault => .error (.remote (classifyFault fault))
  | .foreign fault => .error (.foreign fault)

/-- A response that asks for a pause. -/
def Reply.IsRateLimited (reply : Reply) : Prop :=
  ∃ response, reply = .response response ∧ response.status = 429

/-! ### Classification -/

theorem Response.isSuccess_iff (response : Response) :
    response.isSuccess = true ↔ 200 ≤ response.status ∧ response.status ≤ 299 := by
  simp [isSuccess]

private theorem kind_classifyResponse (response : Response) :
    (classifyResponse response).kind =
      if response.status = 404 then .notFound
      else if response.status = 401 then .unauthorized
      else .network := by
  simp only [classifyResponse]
  split
  · rfl
  · split <;> rfl

/-- The markers are looked for one kind after the other: those of a refused credential first. -/
theorem classifyFault_cases (fault : Fault) :
    ((classifyFault fault).kind = .unauthorized ∧
      ∃ marker ∈ unauthorizedMarkers, fault.Mentions marker) ∨
    ((classifyFault fault).kind = .notFound ∧
      (∀ marker ∈ unauthorizedMarkers, ¬ fault.Mentions marker) ∧ fault.Mentions "404") ∨
    ((classifyFault fault).kind = .network ∧
      (∀ marker ∈ unauthorizedMarkers, ¬ fault.Mentions marker) ∧ ¬ fault.Mentions "404") := by
  have any_iff (markers : List String) :
      (markers.any fun marker => contains marker.toList (Text.lower fault.text.toList)) = true ↔
        ∃ marker ∈ markers, fault.Mentions marker := by
    simp only [List.any_eq_true, contains_iff, Fault.Mentions]
  have missing_iff : (notFoundMarkers.any fun marker =>
      contains marker.toList (Text.lower fault.text.toList)) = true ↔ fault.Mentions "404" := by
    rw [any_iff]
    simp [notFoundMarkers]
  by_cases refused : ∃ marker ∈ unauthorizedMarkers, fault.Mentions marker
  · have found := (any_iff unauthorizedMarkers).mpr refused
    exact Or.inl ⟨congrArg RemoteError.kind (if_pos found), refused⟩
  · have notFound := mt (any_iff unauthorizedMarkers).mp refused
    have silent : ∀ marker ∈ unauthorizedMarkers, ¬ fault.Mentions marker :=
      fun marker member mentioned => refused ⟨marker, member, mentioned⟩
    by_cases missing : fault.Mentions "404"
    · refine Or.inr (Or.inl ⟨?_, silent, missing⟩)
      exact congrArg RemoteError.kind ((if_neg notFound).trans (if_pos (missing_iff.mpr missing)))
    · refine Or.inr (Or.inr ⟨?_, silent, missing⟩)
      exact congrArg RemoteError.kind ((if_neg notFound).trans (if_neg (mt missing_iff.mp missing)))

/-! ### Replies by themselves -/

theorem Reply.isDecisive_response_iff (response : Response) :
    (Reply.response response).IsDecisive ↔
      response.isSuccess = true ∨ response.status = 401 ∨ response.status = 404 := by
  rw [Response.isSuccess_iff]
  constructor
  · intro decisive
    cases decisive with
    | success lower upper => exact Or.inl ⟨lower, upper⟩
    | unauthorized status => exact Or.inr (Or.inl status)
    | notFound status => exact Or.inr (Or.inr status)
  · rintro (⟨lower, upper⟩ | status | status)
    · exact .success lower upper
    · exact .unauthorized status
    · exact .notFound status

theorem Reply.isDecisive_unreachable_iff (fault : Fault) :
    (Reply.unreachable fault).IsDecisive ↔
      (∃ marker ∈ unauthorizedMarkers, fault.Mentions marker) ∨ fault.Mentions "404" := by
  constructor
  · intro decisive
    cases decisive with
    | fault member mentioned =>
        have split : _ ∈ unauthorizedMarkers ++ ["404"] := member
        rcases List.mem_append.mp split with refused | missing
        · exact Or.inl ⟨_, refused, mentioned⟩
        · rw [List.mem_singleton.mp missing] at mentioned
          exact Or.inr mentioned
  · rintro (⟨marker, member, mentioned⟩ | mentioned)
    · exact .fault (List.mem_append_left ["404"] member) mentioned
    · have isMarker : "404" ∈ ["401", "invalid token", "invalid figma token", "404"] := by decide
      exact .fault isMarker mentioned

instance (reply : Reply) : Decidable reply.IsDecisive :=
  match reply with
  | .response received => decidable_of_iff _ (Reply.isDecisive_response_iff received).symm
  | .unreachable fault => decidable_of_iff _ (Reply.isDecisive_unreachable_iff fault).symm
  | .foreign _ => isFalse nofun

/-- A decisive reply decides the call by itself, in one of the ways of `Reply.Decides`. -/
theorem Reply.IsDecisive.decides {reply : Reply} (decisive : reply.IsDecisive) :
    ∃ ending, reply.Decides ending ∧ EndsIn reply.conclusion ending := by
  cases reply with
  | foreign fault => cases decisive
  | unreachable fault =>
      rcases classifyFault_cases fault with ⟨kind, marker, member, mentioned⟩ |
        ⟨kind, silent, missing⟩ | ⟨_, silent, missing⟩
      · exact ⟨_, .refused member mentioned, _, rfl, kind⟩
      · exact ⟨_, .missing silent missing, _, rfl, kind⟩
      · rcases (isDecisive_unreachable_iff fault).mp decisive with ⟨marker, member, mentioned⟩ |
          mentioned
        · exact absurd mentioned (silent marker member)
        · exact absurd mentioned missing
  | response response =>
      by_cases isSuccess : response.isSuccess = true
      · obtain ⟨lower, upper⟩ := response.isSuccess_iff.mp isSuccess
        cases read : response.json? with
        | some body =>
            refine ⟨.ok body, .body lower upper read, ?_⟩
            simp [EndsIn, conclusion, isSuccess, read]
        | none =>
            refine ⟨.error .malformedResponse, .malformed lower upper read, ?_⟩
            simp [EndsIn, conclusion, isSuccess, read, malformedBody]
      · rcases (isDecisive_response_iff response).mp decisive with success | status | status
        · exact absurd success isSuccess
        · refine ⟨.error .unauthorized, .unauthorized status, ?_⟩
          simp [EndsIn, conclusion, isSuccess, kind_classifyResponse, status]
        · refine ⟨.error .notFound, .notFound status, ?_⟩
          simp [EndsIn, conclusion, isSuccess, kind_classifyResponse, status]

theorem Reply.isRateLimited_response_iff (response : Response) :
    (Reply.response response).IsRateLimited ↔ response.status = 429 := by
  simp [IsRateLimited]

/-- A failed attempt concludes with its own error, and it is decisive exactly if this error will not
go away by itself. -/
theorem RetryPolicy.conclusion_of_judge_failed {policy : RetryPolicy} {reply : Reply}
    {error : RemoteError} (judged : policy.judge reply = .failed error) :
    reply.conclusion = .error (.remote error) ∧ ¬ reply.IsRateLimited ∧
      ((reply.IsDecisive ∧ error.kind.isRetryable = false) ∨
        (¬ reply.IsDecisive ∧ error.kind = .network)) := by
  rcases eq_of_judge_failed judged with ⟨fault, rfl, rfl⟩ |
    ⟨response, rfl, isSuccess, read, rfl⟩ | ⟨response, rfl, noSuccess, notRateLimited, rfl⟩
  · refine ⟨rfl, by simp [Reply.IsRateLimited], ?_⟩
    rw [Reply.isDecisive_unreachable_iff]
    rcases classifyFault_cases fault with ⟨kind, refused⟩ | ⟨kind, _, missing⟩ |
      ⟨kind, silent, missing⟩
    · exact Or.inl ⟨Or.inl refused, by rw [kind]; rfl⟩
    · exact Or.inl ⟨Or.inr missing, by rw [kind]; rfl⟩
    · refine Or.inr ⟨?_, kind⟩
      rintro (⟨marker, member, mentioned⟩ | mentioned)
      · exact silent marker member mentioned
      · exact missing mentioned
  · have bounds := response.isSuccess_iff.mp isSuccess
    rw [Reply.isDecisive_response_iff, Reply.isRateLimited_response_iff]
    refine ⟨by simp [Reply.conclusion, isSuccess, read], by omega, Or.inl ⟨Or.inl isSuccess, rfl⟩⟩
  · rw [Reply.isDecisive_response_iff, Reply.isRateLimited_response_iff, kind_classifyResponse,
      noSuccess]
    refine ⟨by simp [Reply.conclusion, noSuccess], notRateLimited, ?_⟩
    by_cases missing : response.status = 404
    · rw [if_pos missing]
      exact Or.inl ⟨Or.inr (Or.inr missing), rfl⟩
    · by_cases refused : response.status = 401
      · rw [if_neg missing, if_pos refused]
        exact Or.inl ⟨Or.inr (Or.inl refused), rfl⟩
      · rw [if_neg missing, if_neg refused]
        exact Or.inr ⟨by simp [missing, refused], rfl⟩

/-! ### One attempt -/

variable {policy : RetryPolicy}

theorem RetryPolicy.Pauses.not_isDecisive {number : Nat} {reply : Reply} {error : RemoteError}
    {wait : Number} (pauses : policy.Pauses number reply error wait) : ¬ reply.IsDecisive := by
  cases pauses with
  | rateLimited status _ =>
      rw [Reply.isDecisive_response_iff, Response.isSuccess_iff]
      omega
  | failed judged retryable =>
      rcases (conclusion_of_judge_failed judged).2.2 with ⟨_, final⟩ | ⟨notDecisive, _⟩
      · rw [retryable] at final
        cases final
      · exact notDecisive

/-- A decisive reply that ends the call ends it as it would by itself. -/
theorem RetryPolicy.Ends.result_eq_conclusion {number remaining : Nat} {reply : Reply}
    {last : Attempt} {result : Except CallError Json}
    (ends : policy.Ends number remaining reply last result) (decisive : reply.IsDecisive) :
    result = reply.conclusion := by
  cases ends with
  | answered isSuccess read => simp [Reply.conclusion, isSuccess, read]
  | failed judged _ => exact (conclusion_of_judge_failed judged).1.symm
  | exhausted status _ =>
      rw [Reply.isDecisive_response_iff, Response.isSuccess_iff] at decisive
      omega

/-- How a call ends whose attempts are used up by a reply that is not decisive: with the error of
this reply, which is one of a rate limit or of the network. -/
def RetryPolicy.EndsExhausted (policy : RetryPolicy) (reply : Reply)
    (result : Except CallError Json) : Prop :=
  (reply.IsRateLimited → result = .error (.remote (policy.exhaustedError 429)) ∧
    EndsIn result (.error .rateLimited)) ∧
  (¬ reply.IsRateLimited → result = reply.conclusion ∧ EndsIn result (.error .network))

/-- A reply that is not decisive ends the call only if no attempt is left. -/
theorem RetryPolicy.Ends.endsExhausted {number remaining : Nat} {reply : Reply}
    {last : Attempt} {result : Except CallError Json}
    (ends : policy.Ends number remaining reply last result) (notDecisive : ¬ reply.IsDecisive) :
    remaining = 0 ∧ policy.EndsExhausted reply result := by
  cases ends with
  | answered isSuccess _ =>
      exact absurd ((Reply.isDecisive_response_iff _).mpr (Or.inl isSuccess)) notDecisive
  | failed judged final =>
      obtain ⟨conclusion, notRateLimited, decided⟩ := conclusion_of_judge_failed judged
      rcases decided with ⟨decisive, _⟩ | ⟨_, kind⟩
      · exact absurd decisive notDecisive
      · rw [kind] at final
        refine ⟨final.resolve_right (by decide), fun rateLimited => ?_, fun _ => ?_⟩
        · exact absurd rateLimited notRateLimited
        · exact ⟨conclusion.symm, _, rfl, kind⟩
  | exhausted status noneLeft =>
      rw [status]
      refine ⟨noneLeft, fun _ => ⟨rfl, _, rfl, rfl⟩, fun notRateLimited => ?_⟩
      exact absurd ((Reply.isRateLimited_response_iff _).mpr status) notRateLimited

/-! ### Whole runs -/

/-- A reply that leaves the call to the next attempt, if there is one. -/
def Reply.IsPassedOver (reply : Reply) : Prop :=
  ¬ reply.IsDecisive ∧ ∀ fault, reply ≠ .foreign fault

private theorem RetryPolicy.attemptFrom_of_decisive (finite : policy.HasFiniteWaits)
    (request : Request)
    (replies : Replies) (start distance remaining : Nat) (enough : distance ≤ remaining)
    (decisive : (replies (start + distance)).IsDecisive)
    (before : ∀ j < distance, (replies (start + j)).IsPassedOver) :
    (policy.attemptFrom request replies (start + 1) remaining).requests =
        List.replicate (distance + 1) request ∧
      (policy.attemptFrom request replies (start + 1) remaining).result =
        (replies (start + distance)).conclusion := by
  -- Each attempt before the decisive one uses up one of the remaining attempts.
  induction distance generalizing start remaining with
  | zero =>
      rcases attemptFrom_cases finite request replies (Nat.le_add_left 1 start) remaining with
        ⟨fault, reply, _⟩ | ⟨last, result, ends, run⟩ | ⟨_, _, _, _, pauses, _⟩
      · rw [Nat.add_sub_cancel] at reply
        rw [Nat.add_zero, reply] at decisive
        cases decisive
      · rw [run]
        exact ⟨rfl, ends.result_eq_conclusion decisive⟩
      · exact absurd decisive pauses.not_isDecisive
  | succ distance inductionHypothesis =>
      obtain ⟨notDecisive, notForeign⟩ := before 0 (Nat.succ_pos distance)
      rcases attemptFrom_cases finite request replies (Nat.le_add_left 1 start) remaining with
        ⟨fault, reply, _⟩ | ⟨_, _, ends, _⟩ | ⟨error, wait, rest, remainingEq, _, run⟩
      · exact absurd reply (notForeign fault)
      · have noneLeft := (ends.endsExhausted notDecisive).1
        omega
      · have shift (j : Nat) : start + 1 + j = start + (j + 1) := by omega
        have next := inductionHypothesis (start + 1) rest (by omega)
          (by rw [shift]; exact decisive)
          (fun j below => by rw [shift]; exact before (j + 1) (by omega))
        rw [run, Run.requests_preceded_pause, Run.result_preceded, next.1, next.2, shift]
        exact ⟨rfl, rfl⟩

private theorem RetryPolicy.attemptFrom_of_passedOver (finite : policy.HasFiniteWaits)
    (request : Request) (replies : Replies) (start remaining : Nat)
    (passedOver : ∀ j ≤ remaining, (replies (start + j)).IsPassedOver) :
    (policy.attemptFrom request replies (start + 1) remaining).requests =
        List.replicate (remaining + 1) request ∧
      policy.EndsExhausted (replies (start + remaining))
        (policy.attemptFrom request replies (start + 1) remaining).result := by
  induction remaining generalizing start with
  | zero =>
      obtain ⟨notDecisive, notForeign⟩ := passedOver 0 (Nat.le_refl 0)
      rcases attemptFrom_cases finite request replies (Nat.le_add_left 1 start) 0 with
        ⟨fault, reply, _⟩ | ⟨last, result, ends, run⟩ | ⟨_, _, _, noneLeft, _⟩
      · exact absurd reply (notForeign fault)
      · rw [run]
        exact ⟨rfl, (ends.endsExhausted notDecisive).2⟩
      · cases noneLeft
  | succ remaining inductionHypothesis =>
      obtain ⟨notDecisive, notForeign⟩ := passedOver 0 (Nat.zero_le _)
      rcases attemptFrom_cases finite request replies (Nat.le_add_left 1 start) (remaining + 1) with
        ⟨fault, reply, _⟩ | ⟨_, _, ends, _⟩ | ⟨error, wait, rest, remainingEq, _, run⟩
      · exact absurd reply (notForeign fault)
      · have noneLeft := (ends.endsExhausted notDecisive).1
        cases noneLeft
      · obtain rfl := Nat.succ.inj remainingEq
        have shift (j : Nat) : start + 1 + j = start + (j + 1) := by omega
        have next := inductionHypothesis (start + 1)
          (fun j below => by rw [shift]; exact passedOver (j + 1) (by omega))
        rw [shift remaining] at next
        rw [run, Run.requests_preceded_pause, Run.result_preceded, next.1]
        exact ⟨rfl, next.2⟩

/-- A call ends with its first decisive reply, and by this reply alone; if none of the replies that
it may ask for is decisive, it ends with the last of them. -/
theorem RetryPolicy.execute_ends_with_first_decisive_reply (finite : policy.HasFiniteWaits)
    {order : Order} {request : Request} (sendable : order.request = .ok request)
    {replies : Replies}
    (handled : ∀ i < policy.maxAttempts, ∀ fault, replies i ≠ .foreign fault) :
    (∀ i < policy.maxAttempts, (replies i).IsDecisive →
      (∀ j < i, ¬ (replies j).IsDecisive) →
      (policy.execute order replies).requests = List.replicate (i + 1) request ∧
      (policy.execute order replies).result = (replies i).conclusion ∧
      ∃ ending, (replies i).Decides ending ∧
        EndsIn (policy.execute order replies).result ending) ∧
    ((∀ j < policy.maxAttempts, ¬ (replies j).IsDecisive) →
      (policy.execute order replies).requests = List.replicate policy.maxAttempts request ∧
      policy.EndsExhausted (replies (policy.maxAttempts - 1))
        (policy.execute order replies).result) := by
  have positive := policy.maxAttempts_pos
  rw [policy.execute_of_sendable sendable replies]
  constructor
  · intro i below decisive first
    have run := attemptFrom_of_decisive finite request replies 0 i (policy.maxAttempts - 1)
      (by omega)
      (by rw [Nat.zero_add]; exact decisive)
      (fun j before => by rw [Nat.zero_add]; exact ⟨first j before, handled j (by omega)⟩)
    rw [Nat.zero_add, Nat.zero_add] at run
    rw [run.1, run.2]
    exact ⟨rfl, rfl, decisive.decides⟩
  · intro none
    have run := attemptFrom_of_passedOver finite request replies 0 (policy.maxAttempts - 1)
      (fun j before => by
        rw [Nat.zero_add]
        exact ⟨none j (by omega), handled j (by omega)⟩)
    rw [Nat.sub_add_cancel positive, Nat.zero_add, Nat.zero_add] at run
    exact run

/-- A rate limit, a failure of the transport that only sounds like a refusal, and then an answer:
three requests are sent, and the answer counts. -/
theorem RetryPolicy.execute_answers_third_attempt :
    let policy := RetryPolicy.standard 3 (by decide)
    let order : Order := { url := "https://api.test/x" }
    let replies := Replies.ofList
      [.response { status := 429, headers := [("Retry-After", "2")] },
       .unreachable ⟨"ReadTimeout", "40 100 invalid  token"⟩,
       .response { status := 200, body := [0x7B, 0x7D] }]
    (policy.execute order replies).requests.length = 3 ∧
      (policy.execute order replies).result = .ok (.object []) := by
  intro policy order replies
  have sendable : ({ url := "https://api.test/x" } : Order).request =
      .ok ⟨"GET", "https://api.test", "/x", [], [], none⟩ := by
    rfl
  have handled : ∀ i < policy.maxAttempts, ∀ fault, replies i ≠ .foreign fault := by
    rintro (_ | _ | _ | i) below fault foreign
    · cases foreign
    · cases foreign
    · cases foreign
    · have few : policy.maxAttempts = 3 := rfl
      omega
  have finite : policy.HasFiniteWaits := ⟨by decide +kernel, by decide +kernel⟩
  obtain ⟨requests, result, _⟩ :=
    (execute_ends_with_first_decisive_reply finite sendable handled).1 2 (by decide)
      (by decide +kernel) (by decide +kernel)
  rw [requests, result]
  exact ⟨rfl, rfl⟩

end DesignCompiler.Http
