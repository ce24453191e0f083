import DesignCompiler.Http.Error
import DesignCompiler.Number.Layout
import DesignCompiler.Number.Literal

/-!
Contract: repeated attempts at one remote call.

Owns:
- `RetryPolicy`, how often a call is attempted and how long the waits are;
- `retryAfter`, the seconds that a rate-limited response asks for;
- `Run`, everything that a call does in order and how it ends, and `RetryPolicy.execute`.

Attempts follow one another.  A call ends with the first reply that decides it, or with the last
attempt.  The replies come from a script, and a wait takes no time: it is an event of the run.

Does not own: the classification of replies, see `DesignCompiler.Http.Error`.
-/

set_option autoImplicit false

namespace DesignCompiler.Http

/-- How often a call is attempted and how long the waits are. -/
structure RetryPolicy where
  /-- How often a call is attempted, the first attempt included. -/
  maxAttempts : Nat
  /-- The longest wait after a rate-limited attempt. -/
  rateLimitCap : Number
  /-- The seconds that count when a rate-limited response names none. -/
  defaultRetryAfter : Number
  /-- The longest wait after any other failure. -/
  networkCap : Number
  /-- There is a first attempt. -/
  maxAttempts_pos : 0 < maxAttempts

def noAttemptsMessage : String :=
  "max_attempts must be at least 1"

/-- The policy with a count of attempts, none if there would be no attempt. -/
def RetryPolicy.make? (maxAttempts : Int) (rateLimitCap defaultRetryAfter networkCap : Number) :
    Option RetryPolicy :=
  if positive : 0 < maxAttempts.toNat then
    some ⟨maxAttempts.toNat, rateLimitCap, defaultRetryAfter, networkCap, positive⟩
  else none

def seconds (n : Nat) : Number :=
  .float (Binary64.ofRatio false n 1)

def RetryPolicy.standard (maxAttempts : Nat) (positive : 0 < maxAttempts) : RetryPolicy :=
  ⟨maxAttempts, seconds 30, seconds 60, seconds 8, positive⟩

/-! ## Waits -/

/-- Two to the power of one less than the number of the attempt. -/
def backoff (attempt : Int) : Number :=
  match attempt - 1 with
  | .ofNat n => .int (Nat.pow 2 n : Nat)
  | .negSucc n => .float (Binary64.inversePower (n + 1))

/-- The wait after a rate-limited attempt: what the response asks for counts at the first one. -/
def RetryPolicy.rateLimitWait (policy : RetryPolicy) (attempt : Int) (retryAfter : Number) :
    Number :=
  if attempt = 1 then retryAfter.least policy.rateLimitCap
  else (backoff attempt).least policy.rateLimitCap

/-- The wait after an attempt that failed otherwise. -/
def RetryPolicy.networkWait (policy : RetryPolicy) (attempt : Int) : Number :=
  (backoff attempt).least policy.networkCap

/-- The seconds that a header names: none unless it is a finite number, and not less than zero. -/
def retryAfter? (header : Option String) : Option Number :=
  match header.bind readDouble? with
  | some (.finite value) =>
    let asked : Number := .float (.finite value)
    some (if asked.lt (.float Binary64.zero) then .float Binary64.zero else asked)
  | _ => none

def RetryPolicy.retryAfter (policy : RetryPolicy) (response : Response) : Number :=
  (retryAfter? (header? response.headers "retry-after")).getD policy.defaultRetryAfter

/-! ## Runs -/

inductive AttemptOutcome where
  | success
  | retryableFailure
  | terminalFailure
deriving DecidableEq

def AttemptOutcome.name : AttemptOutcome → String
  | .success => "success"
  | .retryableFailure => "retryable_failure"
  | .terminalFailure => "terminal_failure"

def AttemptOutcome.ofName? (name : String) : Option AttemptOutcome :=
  [.success, .retryableFailure, .terminalFailure].find? fun outcome => outcome.name = name

def unknownOutcomeMessage (value : Json) : String :=
  String.ofList value.displayChars ++ " is not a valid AttemptOutcome"

structure Attempt where
  number : Int
  maxAttempts : Int
  outcome : AttemptOutcome
  /-- The seconds until the next attempt. -/
  wait : Number := seconds 0
  status : Option Int := none
  error : Option RemoteError := none

inductive Event where
  | request (request : Request)
  | report (attempt : Attempt)
  | sleep (seconds : Number)

inductive CallError where
  | remote (error : RemoteError)
  /-- A failure that is none of the transport's. -/
  | foreign (fault : Fault)
  | order (fault : OrderFault)
  /-- A wait is too long to be written. -/
  | wait
deriving DecidableEq

/-- Everything that a call does, and how it ends. -/
structure Run (ε α : Type) where
  events : List Event
  result : Except ε α

/-- The run that does something before another one. -/
def Run.preceded {ε α : Type} (events : List Event) (run : Run ε α) : Run ε α :=
  { run with events := events ++ run.events }

/-- What a reply means for the call. -/
inductive Verdict where
  | answer (status : Int) (body : Json)
  /-- The server asks for a pause. -/
  | rateLimited (status : Int) (retryAfter : Number)
  | failed (error : RemoteError)
  /-- The call is broken off. -/
  | escape (fault : Fault)

def RetryPolicy.judge (policy : RetryPolicy) : Reply → Verdict
  | .foreign fault => .escape fault
  | .unreachable fault => .failed (classifyFault fault)
  | .response response =>
    if response.isSuccess then
      match response.json? with
      | some body => .answer response.status body
      | none => .failed ⟨.malformedResponse,
          "Expected a JSON body (status " ++ statusText response.status ++ ")",
          some response.status⟩
    else if response.status = 429 then .rateLimited response.status (policy.retryAfter response)
    else .failed (classifyResponse response)

/-- The error of a rate-limited attempt that will be repeated; none if the wait has no text. -/
def pausedError? (status : Int) (wait : Number) : Option RemoteError :=
  wait.briefText?.map fun text =>
    ⟨.rateLimited, "Rate limit hit, retrying in " ++ text ++ "s", some status⟩

def RetryPolicy.exhaustedError (policy : RetryPolicy) (status : Int) : RemoteError :=
  ⟨.rateLimited, "Rate limit exceeded after " ++ (Number.int policy.maxAttempts).text
    ++ " attempts. Please wait a few minutes and try again.", some status⟩

def RetryPolicy.terminalReport (policy : RetryPolicy) (number : Nat) (error : RemoteError) :
    Event :=
  .report { number, maxAttempts := policy.maxAttempts, outcome := .terminalFailure,
            status := error.status, error := some error }

/-- The events between an attempt that failed and the next one. -/
def RetryPolicy.pause (policy : RetryPolicy) (number : Nat) (error : RemoteError) (wait : Number) :
    List Event :=
  [.report { number, maxAttempts := policy.maxAttempts, outcome := .retryableFailure, wait,
             status := error.status, error := some error },
   .sleep wait]

/-- The attempts from the given one on, `remaining` being how many may follow it. -/
def RetryPolicy.attemptFrom (policy : RetryPolicy) (request : Request) (replies : Replies)
    (number : Nat) (remaining : Nat) : Run CallError Json :=
  let stop (error : RemoteError) : Run CallError Json :=
    ⟨[.request request, policy.terminalReport number error], .error (.remote error)⟩
  match policy.judge (replies (number - 1)), remaining with
  | .escape fault, _ => ⟨[.request request], .error (.foreign fault)⟩
  | .answer status body, _ =>
    ⟨[.request request,
      .report { number, maxAttempts := policy.maxAttempts, outcome := .success,
                status := some status }], .ok body⟩
  | .rateLimited status _, 0 => stop (policy.exhaustedError status)
  | .rateLimited status asked, remaining + 1 =>
    let wait := policy.rateLimitWait number asked
    match pausedError? status wait with
    | none => ⟨[.request request], .error .wait⟩
    | some error =>
      (policy.attemptFrom request replies (number + 1) remaining).preceded
        (.request request :: policy.pause number error wait)
  | .failed error, 0 => stop error
  | .failed error, remaining + 1 =>
    if error.kind.isRetryable then
      (policy.attemptFrom request replies (number + 1) remaining).preceded
        (.request request :: policy.pause number error (policy.networkWait number))
    else stop error

/-- Carries an order out. -/
def RetryPolicy.execute (policy : RetryPolicy) (order : Order) (replies : Replies) :
    Run CallError Json :=
  match order.request with
  | .error fault => ⟨[], .error (.order fault)⟩
  | .ok request => policy.attemptFrom request replies 1 (policy.maxAttempts - 1)

namespace Run

variable {ε α : Type}

def requests (run : Run ε α) : List Request :=
  run.events.filterMap fun event => match event with
    | .request request => some request
    | _ => none

def reports (run : Run ε α) : List Attempt :=
  run.events.filterMap fun event => match event with
    | .report attempt => some attempt
    | _ => none

def sleeps (run : Run ε α) : List Number :=
  run.events.filterMap fun event => match event with
    | .sleep seconds => some seconds
    | _ => none

/-- The run whose end is looked at once more. -/
def finish {ε' β : Type} (run : Run ε α) (f : Except ε α → Except ε' β) : Run ε' β :=
  ⟨run.events, f run.result⟩

end Run

end DesignCompiler.Http
