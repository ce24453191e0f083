import DesignCompiler.Http.Message

/-!
Contract: the errors of remote calls.

Owns:
- `ErrorKind` and whether an error of a kind may go away by itself;
- `RemoteError`, an error with its message and status;
- the classification of responses and of failures of the transport.

Does not own: retries, see `DesignCompiler.Http.Retry`.
-/

set_option autoImplicit false

namespace DesignCompiler.Http

inductive ErrorKind where
  | unauthorized
  | notFound
  | rateLimited
  | network
  | malformedResponse
deriving DecidableEq

/-- Whether a call that failed so is worth another attempt. -/
def ErrorKind.isRetryable : ErrorKind → Bool
  | .rateLimited | .network => true
  | _ => false

structure RemoteError where
  kind : ErrorKind
  message : String
  status : Option Int := none
deriving DecidableEq

def statusText (status : Int) : String :=
  (Number.int status).text

def errorDetail (body : Option Json) : String :=
  match body with
  | some (.object fields) =>
    let present (key : String) := (fields.lookup key).filter fun value => !value.isBlank
    let said := ((present "message").orElse fun _ => present "err").map Json.display
    let activity := (present "activityId").map fun id => "activityId: " ++ id.display
    " | ".intercalate (said.toList ++ activity.toList)
  | _ => ""

/-- The error of a response that is neither a success nor rate limited. -/
def classifyResponse (response : Response) : RemoteError :=
  let detail := errorDetail response.json?
  let ending := if detail.isEmpty then "" else ": " ++ detail
  let status := response.status
  if status = 404 then
    ⟨.notFound, "Resource not found or you do not have access to it (404)" ++ ending, some status⟩
  else if status = 401 then
    ⟨.unauthorized, "Invalid credential (401)" ++ ending, some status⟩
  else
    ⟨.network, "API request failed with status " ++ statusText status ++ ending, some status⟩

def contains (part : List Char) : List Char → Bool
  | [] => part.isEmpty
  | c :: rest => part.isPrefixOf (c :: rest) || contains part rest

/-- The texts by which a transport tells that the credential was refused. -/
def unauthorizedMarkers : List String := ["401", "invalid token", "invalid figma token"]

/-- The texts by which a transport tells that there is no such resource. -/
def notFoundMarkers : List String := ["404"]

def classifyFault (fault : Fault) : RemoteError :=
  let message := if fault.message.isEmpty then fault.name else fault.message
  let lowered := Text.lower message.toList
  let mentions (marker : String) := contains marker.toList lowered
  if unauthorizedMarkers.any mentions then ⟨.unauthorized, message, none⟩
  else if notFoundMarkers.any mentions then ⟨.notFound, message, none⟩
  else ⟨.network, "Network error: " ++ message, none⟩

end DesignCompiler.Http
