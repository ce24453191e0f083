import DesignCompiler.Proofs.Http.Trace
import DesignCompiler.Proofs.Http.Decision
import DesignCompiler.Proofs.Number.Reading
import DesignCompiler.Proofs.Number.Value
import Mathlib.Algebra.Order.BigOperators.Group.List

/-!
Contract: how long a remote call sleeps between its attempts.

Owns:
- `IsWait`, the doubles that a call can sleep for, with their exact seconds, and
  `RetryPolicy.HasCaps`, the policies whose caps and default are such doubles;
- `askedSeconds`, the seconds that a header asks for, and `dueSeconds`, the seconds that are due
  after an attempt;
- the law that a call sleeps as long as is due after each of its attempts, and how long at most;
- `Run.unreported`, the requests and sleeps of a call, and the law that they alternate.

All seconds are exact rational numbers.

Does not own: how waits are written, see `DesignCompiler.Proofs.CommandLine.Progress`.
-/

set_option autoImplicit false

namespace DesignCompiler.Http

/-! ### The seconds that are due -/

/-- A number is the double of a value that is not negative. -/
structure IsWait (n : Number) (q : ℚ) : Prop where
  isFloat : ∃ x, n = .float x
  value?_eq : n.value? = some q
  nonneg : 0 ≤ q

theorem IsWait.isFinite {n : Number} {q : ℚ} (isWait : IsWait n q) : n.IsFinite := by
  obtain ⟨⟨x, rfl⟩, value, _⟩ := isWait
  cases x with
  | nan => cases value
  | infinite negative => cases value
  | finite x => exact ⟨x, rfl⟩

/-- The caps of a policy are finite doubles and so is its default, and none of them is negative:
the values of these doubles. -/
structure RetryPolicy.HasCaps (policy : RetryPolicy) (rateLimit fallback network : ℚ) : Prop where
  rateLimitCap : IsWait policy.rateLimitCap rateLimit
  defaultRetryAfter : IsWait policy.defaultRetryAfter fallback
  networkCap : IsWait policy.networkCap network

/-- The seconds that a header asks for: those that it names if they are finite, and none instead of
less than none; the fallback if it names no finite number. -/
def askedSeconds (fallback : ℚ) (header : Option String) : ℚ :=
  match header.bind readDouble? with
  | some (.finite x) => max x.value 0
  | _ => fallback

/-- The longest wait after a reply. -/
def capSeconds (rateLimit network : ℚ) : Reply → ℚ
  | .response response => if response.status = 429 then rateLimit else network
  | _ => network

/-- The seconds that are due after the attempt with a number: those that its reply asks for if the
first attempt is rate limited, twice as many after each further attempt otherwise, and never more
than the longest wait after such a reply. -/
def dueSeconds (rateLimit fallback network : ℚ) (number : Nat) (reply : Reply) : ℚ :=
  min
    (match reply with
      | .response response =>
        if response.status = 429 ∧ number = 1 then
          askedSeconds fallback (header? response.headers "retry-after")
        else 2 ^ (number - 1)
      | _ => 2 ^ (number - 1))
    (capSeconds rateLimit network reply)

/-! ### What a response asks for -/

private theorem isWait_retryAfter {fallback : Number} {q : ℚ} (isWait : IsWait fallback q)
    (header : Option String) :
    IsWait ((retryAfter? header).getD fallback) (askedSeconds q header) := by
  unfold retryAfter? askedSeconds
  cases header.bind readDouble? with
  | none => exact isWait
  | some named =>
      cases named with
      | nan => exact isWait
      | infinite negative => exact isWait
      | finite x =>
          have less_iff := Number.lt_iff (Number.value?_finite x)
            (b := .float Binary64.zero) (q := 0) (by decide +kernel)
          simp only [Option.getD_some]
          by_cases negative : x.value < 0
          · rw [if_pos (less_iff.mpr negative), max_eq_right negative.le]
            exact ⟨⟨_, rfl⟩, by decide +kernel, le_rfl⟩
          · rw [if_neg (mt less_iff.mp negative), max_eq_left (not_lt.mp negative)]
            exact ⟨⟨_, rfl⟩, rfl, not_lt.mp negative⟩

private theorem askedSeconds_of_comma (fallback : ℚ) {text : String} (comma : ',' ∈ text.toList) :
    askedSeconds fallback (some text) = fallback := by
  rw [askedSeconds, Option.bind_some, readDouble?_of_comma comma]

/-- Fields of the same name are joined with commas, so that they name no number together. -/
theorem askedSeconds_of_repeated (fallback : ℚ) {headers : Headers} {name : String}
    (repeated : 2 ≤ (headers.filter fun field => lowerName field.1 = lowerName name).length) :
    askedSeconds fallback (header? headers name) = fallback := by
  unfold header?
  cases fields : headers.filter fun field => lowerName field.1 = lowerName name with
  | nil => rw [fields] at repeated; cases repeated
  | cons first rest =>
      cases rest with
      | nil => rw [fields] at repeated; simp at repeated
      | cons second rest =>
          refine askedSeconds_of_comma fallback ?_
          rw [List.map_cons, List.map_cons, String.intercalate_cons_cons]
          simp

variable {policy : RetryPolicy} {rateLimit fallback network : ℚ}

private theorem RetryPolicy.HasCaps.hasFiniteWaits
    (caps : policy.HasCaps rateLimit fallback network) :
    policy.HasFiniteWaits :=
  ⟨caps.rateLimitCap.isFinite, caps.defaultRetryAfter.isFinite⟩

/-! ### One wait -/

private theorem value?_backoff (start : Nat) :
    (backoff ((start + 1 : Nat) : Int)).value? = some (2 ^ start) := by
  rw [backoff_succ, Number.value?_int, Nat.pow_eq]
  push_cast
  rfl

private theorem dueSeconds_le_cap (rateLimit fallback network : ℚ) (number : Nat) (reply : Reply) :
    dueSeconds rateLimit fallback network number reply ≤ capSeconds rateLimit network reply :=
  min_le_right _ _

private theorem capSeconds_le_max (rateLimit network : ℚ) (reply : Reply) :
    capSeconds rateLimit network reply ≤ max rateLimit network := by
  unfold capSeconds
  split
  · split
    · exact le_max_left _ _
    · exact le_max_right _ _
  · exact le_max_right _ _

private theorem RetryPolicy.HasCaps.dueSeconds_nonneg
    (caps : policy.HasCaps rateLimit fallback network)
    (number : Nat) (reply : Reply) : 0 ≤ dueSeconds rateLimit fallback network number reply := by
  have doubled : (0 : ℚ) ≤ 2 ^ (number - 1) := by positivity
  refine le_min ?_ ?_
  · split
    · split
      · exact (isWait_retryAfter caps.defaultRetryAfter _).nonneg
      · exact doubled
    · exact doubled
  · unfold capSeconds
    split
    · split
      · exact caps.rateLimitCap.nonneg
      · exact caps.networkCap.nonneg
    · exact caps.networkCap.nonneg

private theorem dueSeconds_of_not_isRateLimited {number : Nat} {reply : Reply}
    (other : ¬ reply.IsRateLimited) :
    dueSeconds rateLimit fallback network number reply = min (2 ^ (number - 1)) network := by
  cases reply with
  | response response =>
      rw [Reply.isRateLimited_response_iff] at other
      simp [dueSeconds, capSeconds, other]
  | unreachable fault => rfl
  | foreign fault => rfl

/-- The wait after an attempt is the one that is due. -/
theorem RetryPolicy.HasCaps.value?_of_pauses (caps : policy.HasCaps rateLimit fallback network)
    {start : Nat} {reply : Reply} {error : RemoteError} {wait : Number}
    (pauses : policy.Pauses (start + 1) reply error wait) :
    wait.value? = some (dueSeconds rateLimit fallback network (start + 1) reply) := by
  cases pauses with
  | rateLimited status paused =>
      next response =>
        have asked : (policy.retryAfter response).value? =
            some (askedSeconds fallback (header? response.headers "retry-after")) :=
          (isWait_retryAfter caps.defaultRetryAfter _).value?_eq
        unfold rateLimitWait
        by_cases first : start = 0
        · subst first
          rw [if_pos (by rfl), Number.value?_least asked caps.rateLimitCap.value?_eq]
          simp [dueSeconds, capSeconds, status]
        · rw [if_neg (by omega),
            Number.value?_least (value?_backoff start) caps.rateLimitCap.value?_eq]
          simp [dueSeconds, capSeconds, status, first]
  | failed judged _ =>
      unfold networkWait
      rw [Number.value?_least (value?_backoff start) caps.networkCap.value?_eq,
        dueSeconds_of_not_isRateLimited (conclusion_of_judge_failed judged).2.1,
        Nat.add_sub_cancel]

/-! ### Whole runs -/

/-- The seconds slept by a run whose attempts are numbered from `start + 1` on: there is one wait
after each reply that is passed over, as long as attempts remain, and it is the one that is due. -/
def SleepsAsDue (rateLimit fallback network : ℚ) (replies : Replies) (start remaining : Nat)
    (waits : List ℚ) (run : Run CallError Json) : Prop :=
  run.sleeps.map Number.value? = waits.map some ∧
  (∀ i, i < waits.length ↔
    i < remaining ∧ ∀ j ≤ i, (replies (start + j)).IsPassedOver) ∧
  ∀ i wait, waits[i]? = some wait →
    wait = dueSeconds rateLimit fallback network (start + i + 1) (replies (start + i))

theorem SleepsAsDue.nil {replies : Replies} {start remaining : Nat} {run : Run CallError Json}
    (noSleep : run.sleeps = []) (final : remaining = 0 ∨ ¬ (replies start).IsPassedOver) :
    SleepsAsDue rateLimit fallback network replies start remaining [] run := by
  refine ⟨by rw [noSleep]; rfl, fun i => ⟨fun below => absurd below (Nat.not_lt_zero i), ?_⟩,
    by simp⟩
  rintro ⟨below, passedOver⟩
  rcases final with rfl | final
  · exact below
  · exact absurd (passedOver 0 (Nat.zero_le i)) final

theorem SleepsAsDue.round {replies : Replies} {start rest : Nat} {waits : List ℚ}
    {run : Run CallError Json}
    (sleeps : SleepsAsDue rateLimit fallback network replies (start + 1) rest waits run)
    (request : Request) (attempt : Attempt)
    (due : attempt.wait.value? =
      some (dueSeconds rateLimit fallback network (start + 1) (replies start)))
    (passedOver : (replies start).IsPassedOver) :
    SleepsAsDue rateLimit fallback network replies start (rest + 1)
      (dueSeconds rateLimit fallback network (start + 1) (replies start) :: waits)
      (run.preceded (Http.round request attempt)) := by
  obtain ⟨values, exact, asDue⟩ := sleeps
  have shift (i : Nat) : start + 1 + i = start + (i + 1) := by omega
  refine ⟨?_, ?_, ?_⟩
  · exact congrArg₂ (· :: ·) due values
  · rintro (_ | i)
    · simpa using passedOver
    · rw [List.length_cons, Nat.add_lt_add_iff_right, Nat.add_lt_add_iff_right, exact i]
      refine and_congr_right fun _ => ⟨fun later j upTo => ?_, fun all j upTo => ?_⟩
      · cases j with
        | zero => exact passedOver
        | succ j => rw [← shift]; exact later j (Nat.le_of_succ_le_succ upTo)
      · rw [shift]
        exact all (j + 1) (Nat.succ_le_succ upTo)
  · rintro (_ | i) wait found
    · exact (Option.some.inj found).symm
    · rw [← shift]
      exact asDue i wait found

theorem SleepsAsDue.length_le {replies : Replies} {start remaining : Nat} {waits : List ℚ}
    {run : Run CallError Json}
    (sleeps : SleepsAsDue rateLimit fallback network replies start remaining waits run) :
    waits.length ≤ remaining :=
  Nat.le_of_not_lt fun more => lt_irrefl _ ((sleeps.2.1 remaining).mp more).1

/-- No sleep is longer than the longer of the caps. -/
theorem SleepsAsDue.sum_le {replies : Replies} {start remaining : Nat} {waits : List ℚ}
    {run : Run CallError Json}
    (sleeps : SleepsAsDue rateLimit fallback network replies start remaining waits run)
    (most : 0 ≤ max rateLimit network) : waits.sum ≤ remaining * max rateLimit network := by
  have bounded : ∀ wait ∈ waits, wait ≤ max rateLimit network := by
    intro wait isWait
    obtain ⟨i, found⟩ := List.mem_iff_getElem?.mp isWait
    rw [sleeps.2.2 i wait found]
    exact (dueSeconds_le_cap ..).trans (capSeconds_le_max ..)
  have few : (waits.length : ℚ) ≤ remaining := by exact_mod_cast sleeps.length_le
  calc waits.sum ≤ waits.length • max rateLimit network :=
        List.sum_le_card_nsmul waits _ bounded
    _ = (waits.length : ℚ) * max rateLimit network := nsmul_eq_mul ..
    _ ≤ remaining * max rateLimit network := mul_le_mul_of_nonneg_right few most

private theorem RetryPolicy.attemptFrom_sleepsAsDue
    (caps : policy.HasCaps rateLimit fallback network)
    (request : Request) (replies : Replies) (start remaining : Nat) :
    ∃ waits, SleepsAsDue rateLimit fallback network replies start remaining waits
      (policy.attemptFrom request replies (start + 1) remaining) := by
  -- Each wait uses up one of the remaining attempts.
  induction remaining using Nat.strongRecOn generalizing start with
  | _ remaining inductionHypothesis =>
      rcases attemptFrom_cases caps.hasFiniteWaits request replies (Nat.le_add_left 1 start)
        remaining with ⟨fault, reply, run⟩ | ⟨last, result, ends, run⟩ |
        ⟨error, wait, rest, rfl, pauses, run⟩
      · rw [run]
        exact ⟨[], .nil rfl (Or.inr fun passedOver => passedOver.2 fault reply)⟩
      · rw [run]
        refine ⟨[], .nil rfl ?_⟩
        by_cases decisive : (replies start).IsDecisive
        · exact Or.inr fun passedOver => passedOver.1 decisive
        · exact Or.inl (ends.endsExhausted decisive).1
      · obtain ⟨waits, sleeps⟩ := inductionHypothesis rest (Nat.lt_succ_self rest) (start + 1)
        rw [run, ← round_pauseReport]
        exact ⟨_, sleeps.round request _ (caps.value?_of_pauses pauses)
          ⟨pauses.not_isDecisive, pauses.not_foreign⟩⟩

/-- The events of a run apart from its reports. -/
def Run.unreported {ε α : Type} (run : Run ε α) : List Event :=
  run.events.filter fun event => match event with
    | .report _ => false
    | _ => true

private theorem Run.unreported_of_rounds {ε α : Type} (request : Request) (rounds : List Attempt)
    (rest : List Event) (result : Except ε α) :
    let run : Run ε α := ⟨rounds.flatMap (round request) ++ rest, result⟩
    let last : Run ε α := ⟨rest, result⟩
    run.unreported =
      (rounds.map Attempt.wait).flatMap (fun wait => [.request request, .sleep wait]) ++
        last.unreported := by
  induction rounds with
  | nil => rfl
  | cons attempt rounds inductionHypothesis =>
      exact congrArg ([.request request, .sleep attempt.wait] ++ ·) inductionHypothesis

/-- A call sleeps between its requests, once between two of them. -/
theorem RetryPolicy.HasShape.unreported_eq {request : Request} {replies : Replies} {start : Nat}
    {rounds : List Attempt} {run : Run CallError Json}
    (shape : policy.HasShape request replies start rounds run) :
    run.unreported =
      run.sleeps.flatMap (fun wait => [.request request, .sleep wait]) ++ [.request request] := by
  obtain ⟨events, result⟩ := run
  rcases shape.2.2 with ⟨last, _, _, rfl⟩ | ⟨fault, _, _, rfl⟩
  · rw [(Run.logs_of_rounds request rounds [.request request, .report last] result).2.2,
      Run.unreported_of_rounds, List.flatMap_append, List.append_assoc]
    rfl
  · rw [(Run.logs_of_rounds request rounds [.request request] result).2.2,
      Run.unreported_of_rounds, List.flatMap_append, List.append_assoc]
    rfl

/-- What a header asks for is a finite wait: the fallback unless the header names a finite number,
so also if there are several headers.  A call sleeps once after every reply that it passes over
while attempts remain, and then sends the next request; each sleep is the one that is due and within
the cap of its kind, and all of them together are no longer than if each took the longer of the
caps. -/
theorem RetryPolicy.execute_sleeps_as_due (caps : policy.HasCaps rateLimit fallback network)
    (order : Order) (replies : Replies) :
    (∀ header, IsWait ((retryAfter? header).getD policy.defaultRetryAfter)
      (askedSeconds fallback header)) ∧
    (∀ headers : Headers,
      2 ≤ (headers.filter fun field => lowerName field.1 = lowerName "retry-after").length →
        askedSeconds fallback (header? headers "retry-after") = fallback) ∧
    ∃ waits : List ℚ,
      (policy.execute order replies).sleeps.map Number.value? = waits.map some ∧
      (∀ request, order.request = .ok request →
        (policy.execute order replies).unreported =
          (policy.execute order replies).sleeps.flatMap
            (fun wait => [.request request, .sleep wait]) ++ [.request request] ∧
        ∀ i, i < waits.length ↔
          i + 1 < policy.maxAttempts ∧ ∀ j ≤ i, (replies j).IsPassedOver) ∧
      (∀ i wait, waits[i]? = some wait →
        wait = dueSeconds rateLimit fallback network (i + 1) (replies i) ∧
        0 ≤ wait ∧ wait ≤ capSeconds rateLimit network (replies i)) ∧
      waits.sum ≤ (policy.maxAttempts - 1 : ℚ) * max rateLimit network := by
  refine ⟨isWait_retryAfter caps.defaultRetryAfter,
    fun _ repeated => askedSeconds_of_repeated fallback repeated, ?_⟩
  have attempts : ((policy.maxAttempts - 1 : Nat) : ℚ) = policy.maxAttempts - 1 :=
    Nat.cast_pred policy.maxAttempts_pos
  have most : (0 : ℚ) ≤ max rateLimit network := le_max_of_le_left caps.rateLimitCap.nonneg
  rw [← attempts]
  cases sent : order.request with
  | error fault =>
      rw [policy.execute_of_unsendable sent replies]
      exact ⟨[], rfl, nofun, by simp, mul_nonneg (Nat.cast_nonneg _) most⟩
  | ok request =>
      rw [policy.execute_of_sendable sent replies]
      obtain ⟨waits, sleeps⟩ :=
        attemptFrom_sleepsAsDue caps request replies 0 (policy.maxAttempts - 1)
      have total := sleeps.sum_le most
      obtain ⟨values, exact, asDue⟩ := sleeps
      simp only [Nat.zero_add] at values exact asDue
      refine ⟨waits, values, fun request' sent' => ?_, fun i wait found => ?_, total⟩
      · obtain rfl := Except.ok.inj sent'
        obtain ⟨rounds, _, shape⟩ :=
          attemptFrom_hasShape caps.hasFiniteWaits request replies 0 (policy.maxAttempts - 1)
        exact ⟨shape.unreported_eq, fun i => by rw [exact i, Nat.lt_sub_iff_add_lt]⟩
      · obtain rfl := asDue i wait found
        exact ⟨rfl, caps.dueSeconds_nonneg _ _, dueSeconds_le_cap ..⟩

/-- A rate limit that asks for two seconds and a half, a server error, and a rate limit whose header
no longer counts. -/
theorem RetryPolicy.execute_sleeps_between_four_attempts :
    let policy := RetryPolicy.standard 4 (by decide)
    let replies := Replies.ofList
      [.response { status := 429, headers := [("Retry-After", "2.5")] },
       .response { status := 500 },
       .response { status := 429, headers := [("Retry-After", "20")] }]
    ∃ waits : List ℚ,
      (policy.execute { url := "https://api.test/x" } replies).sleeps.map Number.value? =
        waits.map some ∧
      waits[0]? = some (5 / 2) ∧ waits[1]? = some 2 ∧ waits[2]? = some 4 ∧ waits.sum ≤ 90 := by
  intro policy replies
  have caps : policy.HasCaps 30 60 8 :=
    ⟨⟨⟨_, rfl⟩, by decide +kernel, by decide⟩, ⟨⟨_, rfl⟩, by decide +kernel, by decide⟩,
      ⟨⟨_, rfl⟩, by decide +kernel, by decide⟩⟩
  have passedOver : ∀ j ≤ 2, (replies j).IsPassedOver := by
    rintro (_ | _ | _ | j) upTo
    · exact ⟨by decide +kernel, fun _ foreign => by cases foreign⟩
    · exact ⟨by decide +kernel, fun _ foreign => by cases foreign⟩
    · exact ⟨by decide +kernel, fun _ foreign => by cases foreign⟩
    · omega
  obtain ⟨-, -, waits, values, exact, asDue, total⟩ :=
    execute_sleeps_as_due caps { url := "https://api.test/x" } replies
  have most : 2 < waits.length :=
    ((exact ⟨"GET", "https://api.test", "/x", [], [], none⟩ rfl).2 2).mpr
      ⟨by decide, passedOver⟩
  have due (i : Nat) (below : i < waits.length) :
      waits[i]? = some (dueSeconds 30 60 8 (i + 1) (replies i)) := by
    rw [List.getElem?_eq_getElem below, (asDue i _ (List.getElem?_eq_getElem below)).1]
  refine ⟨waits, values, ?_, ?_, ?_, ?_⟩
  · rw [due 0 (by omega)]
    decide +kernel
  · rw [due 1 (by omega)]
    decide +kernel
  · rw [due 2 (by omega)]
    decide +kernel
  · refine total.trans (le_of_eq ?_)
    decide +kernel

end DesignCompiler.Http
