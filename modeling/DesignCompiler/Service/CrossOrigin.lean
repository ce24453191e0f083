import DesignCompiler.Service.Message

/-!
Contract: which pages of other origins may use the service from a browser.

Owns:
- `isPreflight`, the calls with which a browser asks for leave, and `preflight`, their answers;
- `share`, the headers of any other answer to a page.

Does not own: the answers themselves.
-/

set_option autoImplicit false

namespace DesignCompiler.Service.CrossOrigin

open DesignCompiler.Http

def methods : List String :=
  ["DELETE", "GET", "HEAD", "OPTIONS", "PATCH", "POST", "PUT", "QUERY"]

def originHeaders (origins : List String) (origin : String) : Headers :=
  if origins.contains origin then [("access-control-allow-origin", origin)] else []

/-- The header that lets pages act for their users. -/
def credentialHeaders : Headers :=
  [("access-control-allow-credentials", "true")]

/-- Whether a browser asks with a call for leave to make another one. -/
def isPreflight (call : Call) : Bool :=
  call.method = "OPTIONS" && (call.header? "origin").isSome
    && (call.header? "access-control-request-method").isSome

/-- What a browser may not do of that for which it asks leave. -/
def disallowed (origins : List String) (call : Call) : List String :=
  (if (call.header? "origin").any origins.contains then [] else ["origin"])
    ++ (if (call.header? "access-control-request-method").any methods.contains then []
      else ["method"])
    ++ (if (call.header? "access-control-request-private-network").isNone then []
      else ["private-network"])

/-- The answer to a browser that asks for leave.  The headers that it wants to send are allowed as
they are. -/
def preflight (origins : List String) (call : Call) : Answer :=
  let headers :=
    [("access-control-allow-methods", ", ".intercalate methods), ("access-control-max-age", "600")]
      ++ credentialHeaders
      ++ ((call.header? "origin").map (originHeaders origins)).getD []
      ++ ((call.header? "access-control-request-headers").map fun names =>
        ("access-control-allow-headers", names)).toList
  match disallowed origins call with
  | [] => { status := 200, headers, content := .text "OK" }
  | parts =>
    { status := 400, headers, content := .text ("Disallowed CORS " ++ ", ".intercalate parts) }

/-- The answer to a call, with the headers that a page needs to see it. -/
def share (origins : List String) (call : Call) (answer : Answer) : Answer :=
  match call.header? "origin" with
  | none => answer
  | some origin =>
    { answer with headers := answer.headers ++ credentialHeaders ++ originHeaders origins origin }

end DesignCompiler.Service.CrossOrigin
