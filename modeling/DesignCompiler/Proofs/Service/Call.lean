import DesignCompiler.Proofs.Figma.Fetch
import DesignCompiler.Service.Serve

/-!
Contract: what is answered to a call that posts a body to an endpoint.

Owns:
- `Posts`, the calls that bring the entries of a body to an endpoint, and `Call.posting`, which
  makes one;
- `IsAnswered`, a run that ends with an answer of a status and a content, whatever its headers are;
- the step from what an endpoint makes of a body to the answer of the service.

Does not own: what the endpoints make of a body, see `DesignCompiler.Proofs.Service.Listing` and
`DesignCompiler.Proofs.Service.Component`.
-/

set_option autoImplicit false

namespace DesignCompiler.Service

open DesignCompiler.Http

structure Posts (call : Call) (endpoint : Endpoint) (fields : Fields) : Prop where
  method : call.method = "POST"
  path : call.path = endpoint.path
  body : readBody call = .ok fields

def Call.posting (path text : String) : Call :=
  { method := "POST", path, headers := [("content-type", "application/json")],
    body := text.toUTF8.data.toList }

def IsAnswered (run : Run Empty Answer) (status : Nat) (content : Content) : Prop :=
  ∃ answer, run.result = .ok answer ∧ answer.status = status ∧ answer.content = content

/-- The content of an answer that only gives a text as the details of why a call is refused. -/
def detail (text : String) : Content :=
  .json (.object [("detail", .string text)])

deriving instance DecidableEq for BodyFault

/-! ### From the endpoint to the answer -/

private theorem status_share (origins : List String) (call : Call) (answer : Answer) :
    (CrossOrigin.share origins call answer).status = answer.status := by
  unfold CrossOrigin.share
  split <;> rfl

private theorem content_share (origins : List String) (call : Call) (answer : Answer) :
    (CrossOrigin.share origins call answer).content = answer.content := by
  unfold CrossOrigin.share
  split <;> rfl

private theorem route_post {endpoint : Endpoint} (isPosted : endpoint.method = "POST") :
    route "POST" endpoint.path = .endpoint endpoint := by
  cases endpoint with
  | health => exact absurd isPosted (by decide)
  | _ => decide +kernel

variable {call : Call} {endpoint : Endpoint} {fields : Fields}

/-- A call that posts a body gets what the endpoint makes of it, with headers that the page of a
browser needs. -/
theorem Posts.serve_eq (posts : Posts call endpoint fields) (isPosted : endpoint.method = "POST")
    (server : Server) (replies : Replies) :
    server.serve call replies =
      (server.handle endpoint call replies).finish fun result =>
        .ok (match result with
          | .ok answer => CrossOrigin.share server.origins call answer
          | .error _ => Answer.internalFault) := by
  have noPreflight : CrossOrigin.isPreflight call = false := by
    unfold CrossOrigin.isPreflight
    rw [posts.method]
    rfl
  have dispatched : server.dispatch call replies = server.handle endpoint call replies := by
    unfold Server.dispatch
    rw [posts.method, posts.path, route_post isPosted]
  have notHead : call.method ≠ "HEAD" := by
    rw [posts.method]
    decide
  unfold Server.serve
  rw [if_neg (Bool.eq_false_iff.mp noPreflight), dispatched]
  apply congrArg (Run.finish _)
  funext result
  exact congrArg Except.ok (if_neg notHead)

theorem Posts.events_serve (posts : Posts call endpoint fields)
    (isPosted : endpoint.method = "POST") (server : Server) (replies : Replies) :
    (server.serve call replies).events = (server.handle endpoint call replies).events := by
  rw [posts.serve_eq isPosted]
  rfl

theorem Posts.isAnswered_of_ok (posts : Posts call endpoint fields)
    (isPosted : endpoint.method = "POST") {server : Server} {replies : Replies} {answer : Answer}
    (handled : (server.handle endpoint call replies).result = .ok answer) :
    IsAnswered (server.serve call replies) answer.status answer.content := by
  refine ⟨CrossOrigin.share server.origins call answer, ?_, status_share .., content_share ..⟩
  rw [posts.serve_eq isPosted]
  simp only [Run.finish, handled]

/-- A failure that the endpoint does not answer is a fault of the service. -/
theorem Posts.isAnswered_of_error (posts : Posts call endpoint fields)
    (isPosted : endpoint.method = "POST") {server : Server} {replies : Replies} {failure : Failure}
    (handled : (server.handle endpoint call replies).result = .error failure) :
    IsAnswered (server.serve call replies) 500 (.text "Internal Server Error") := by
  refine ⟨Answer.internalFault, ?_, rfl, rfl⟩
  rw [posts.serve_eq isPosted]
  simp only [Run.finish, handled]

/-! ### From the body to the endpoint -/

private theorem withInput_eq {α : Type} (check : Fields → Checked α) (next : α → Handling)
    {input : α} (isBody : readBody call = .ok fields) (checked : check fields = .ok input) :
    withInput call check next = next input := by
  unfold withInput
  rw [isBody]
  dsimp only
  rw [checked]

theorem Posts.handle_frames (posts : Posts call .frames fields) {fileKey : String}
    (key : fields.lookup "file_key" = some (.string fileKey)) (notEmpty : fileKey ≠ "")
    (server : Server) (replies : Replies) :
    server.handle .frames call replies = server.frames fileKey replies := by
  have checked : filledText fields "file_key" = .ok fileKey := by
    have filled : fileKey.isEmpty = false := by simpa using notEmpty
    unfold filledText
    rw [key]
    exact if_neg (Bool.eq_false_iff.mp filled)
  exact withInput_eq _ _ posts.body checked

theorem Posts.handle_compile (posts : Posts call .compile fields) {component : ComponentRequest}
    (asked : readComponent fields = .ok component) {design : Fields}
    (given : fields.lookup "node" = some (.object design)) (server : Server) (replies : Replies) :
    server.handle .compile call replies = ⟨[], server.compileGiven (.object design) component⟩ := by
  have checked :
      (readComponent fields).both (objectField fields "node") = .ok (component, design) := by
    unfold objectField
    rw [asked, given]
    rfl
  exact withInput_eq (fun fields => (readComponent fields).both (objectField fields "node")) _
    posts.body checked

theorem Posts.handle_toReact (posts : Posts call .toReact fields) {component : ComponentRequest}
    (asked : readComponent fields = .ok component) {target : Target}
    (aimed : readTarget fields = .ok target) (server : Server) (replies : Replies) :
    server.handle .toReact call replies = server.toReact component target replies := by
  have checked : (readComponent fields).both (readTarget fields) = .ok (component, target) := by
    rw [asked, aimed]
    rfl
  exact withInput_eq (fun fields => (readComponent fields).both (readTarget fields)) _
    posts.body checked

end DesignCompiler.Service
