import DesignCompiler.Http.Message

/-!
Contract: what is asked of the service, and what it answers.

Owns:
- `Call`, a request as the service sees it;
- `Answer`, a status with headers and content, and the usual answers.

Does not own: which answer a call gets, see `DesignCompiler.Service.Endpoint` and
`DesignCompiler.Service.Serve`.
-/

set_option autoImplicit false

namespace DesignCompiler.Service

open DesignCompiler.Http

structure Call where
  method : String
  path : String
  headers : Headers := []
  body : List UInt8 := []

def Call.header? (call : Call) (name : String) : Option String :=
  Http.header? call.headers name

inductive Content where
  | json (value : Json)
  | text (value : String)

structure Answer where
  status : Nat
  headers : Headers := []
  content : Content

namespace Answer

def success (value : Json) : Answer :=
  { status := 200, content := .json value }

/-- An answer that only gives the details of why a call is refused. -/
def refusal (status : Nat) (detail : Json) : Answer :=
  { status, content := .json (.object [("detail", detail)]) }

/-- The answer to a call that brings a fault of the service to light. -/
def internalFault : Answer :=
  { status := 500, content := .text "Internal Server Error" }

/-- The answer without its content, as it is given to a call that asks for the headers alone. -/
def bare (answer : Answer) : Answer :=
  { answer with content := .text "" }

end Answer

end DesignCompiler.Service
