import DesignCompiler.Service.CrossOrigin
import DesignCompiler.Service.Endpoint

/-!
Contract: the answer to every call.

Owns:
- `Route`, where a call goes by its path and method;
- `serve`, everything that is done for a call, and its answer;
- `warnings`, what is logged when the service starts.

Does not own: what the endpoints do, see `DesignCompiler.Service.Endpoint`.
-/

set_option autoImplicit false

namespace DesignCompiler.Service

open DesignCompiler.Http

inductive Route where
  | endpoint (endpoint : Endpoint)
  /-- The endpoint of the path is called with another method. -/
  | otherMethod
  /-- The path is an endpoint's but for slashes at the end. -/
  | moved
  | unknown
deriving DecidableEq

/-- The endpoint of a path; a line feed at the end of the path is ignored. -/
def endpointAt? (path : List Char) : Option Endpoint :=
  Endpoint.all.find? fun endpoint =>
    path = endpoint.path.toList || path = endpoint.path.toList ++ ['\n']

def withoutSlashes (path : List Char) : List Char :=
  (path.reverse.dropWhile (· == '/')).reverse

def route (method path : String) : Route :=
  match endpointAt? path.toList with
  | some endpoint => if method = endpoint.method then .endpoint endpoint else .otherMethod
  | none =>
    if path.toList.getLast? = some '/' && (endpointAt? (withoutSlashes path.toList)).isSome then
      .moved
    else .unknown

/-- Does what a call asks, without regard to where it comes from. -/
def Server.dispatch (server : Server) (call : Call) (replies : Replies) : Handling :=
  match route call.method call.path with
  | .endpoint endpoint => server.handle endpoint call replies
  | .otherMethod => answered (.refusal 405 (.string "Method Not Allowed"))
  | .moved => answered { status := 307, content := .text "" }
  | .unknown => answered (.refusal 404 (.string "Not Found"))

/-- Everything that is done for a call, and its answer.  The answer to a fault of the service says
nothing about origins. -/
def Server.serve (server : Server) (call : Call) (replies : Replies) : Run Empty Answer :=
  if CrossOrigin.isPreflight call then
    ⟨[], .ok (CrossOrigin.preflight server.origins call)⟩
  else
    (server.dispatch call replies).finish fun result =>
      let answer := match result with
        | .ok answer => CrossOrigin.share server.origins call answer
        | .error _ => Answer.internalFault
      .ok (if call.method = "HEAD" then answer.bare else answer)

def Server.warnings (server : Server) : List (Int × String) :=
  if server.figma.token.isEmpty then
    [(30, "FIGMA_TOKEN not set — /api/v2/figma/frames and /api/v2/figma/to-react "
      ++ "will return 400. Set FIGMA_TOKEN in the environment to enable Figma access.")]
  else []

end DesignCompiler.Service
