import DesignCompiler.Http.Url
import DesignCompiler.Json.Reader
import DesignCompiler.Text.Case

/-!
Contract: requests, and what comes back for them.

Owns:
- `Request`, as the server sees it, and `Order`, as a caller gives it;
- `Response` with its headers and the JSON of its body;
- `Reply`, a response or a failure of the transport.

Does not own: what is done about replies, see `DesignCompiler.Http.Retry`.
-/

set_option autoImplicit false

namespace DesignCompiler.Http

abbrev Headers := List (String × String)

/-- A name in lower case; names of headers do not differ in case. -/
def lowerName (name : String) : String :=
  String.ofList (name.toList.map Char.toLower)

/-- The values of a header, joined if there are several; none if there is none. -/
def header? (headers : Headers) (name : String) : Option String :=
  match (headers.filter fun field => lowerName field.1 = lowerName name).map Prod.snd with
  | [] => none
  | values => some (", ".intercalate values)

/-- A request as the server sees it. -/
structure Request where
  method : String
  origin : String
  path : String
  /-- The decoded query parameters. -/
  parameters : List Parameter
  headers : Headers
  body : Option Json

def Request.contentType? (request : Request) : Option String :=
  header? request.headers "content-type"

/-- A request as a caller gives it. -/
structure Order where
  method : String := "GET"
  url : String
  /-- The address below which a relative address lies. -/
  base : Option String := none
  headers : Headers := []
  /-- Parameters that take the place of the query. -/
  parameters : Option (List Parameter) := none
  body : Option Json := none

inductive OrderFault where
  | url (fault : UrlFault)
  /-- The body holds a number that JSON has no text for. -/
  | unwritableNumber
deriving DecidableEq

def OrderFault.message : OrderFault → String
  | .url fault => fault.message
  | .unwritableNumber => "Out of range float values are not JSON compliant"

mutual

/-- Whether JSON has a text for every number in a value. -/
def isWritable : Json → Bool
  | .number (.float value) => value.isFinite
  | .array items => areWritable items
  | .object fields => fieldsAreWritable fields
  | _ => true

def areWritable : List Json → Bool
  | [] => true
  | item :: rest => isWritable item && areWritable rest

def fieldsAreWritable : List (String × Json) → Bool
  | [] => true
  | (_, value) :: rest => isWritable value && fieldsAreWritable rest

end

def Order.resolve (order : Order) : Except UrlFault Url := do
  match order.base with
  | none => Url.read order.url
  | some base => do
    let base ← Url.read base
    let url ← Url.read order.url
    .ok (base.join url)

/-- The headers of an order; a body is JSON unless the caller says otherwise. -/
def Order.allHeaders (order : Order) : Headers :=
  if order.body.isSome && (header? order.headers "content-type").isNone then
    order.headers ++ [("Content-Type", "application/json")]
  else order.headers

def Order.request (order : Order) : Except OrderFault Request :=
  match order.resolve with
  | .error fault => .error (.url fault)
  | .ok url =>
    if order.body.all isWritable then
      .ok
        { method := order.method
          origin := url.origin
          path := url.pathText
          parameters := match order.parameters with
            | some parameters => parameters
            | none => queryParameters (url.query.getD [])
          headers := order.allHeaders
          body := order.body }
    else .error .unwritableNumber

structure Response where
  status : Int
  headers : Headers := []
  body : List UInt8 := []

def Response.isSuccess (response : Response) : Bool :=
  200 ≤ response.status && response.status ≤ 299

def Response.json? (response : Response) : Option Json :=
  Json.readBytes? response.body

structure Fault where
  name : String
  /-- What the transport says about it. -/
  message : String
deriving DecidableEq

/-- What comes back for a request. -/
inductive Reply where
  | response (response : Response)
  /-- The transport failed before there was a status. -/
  | unreachable (fault : Fault)
  /-- A failure outside the transport, which nobody handles. -/
  | foreign (fault : Fault)

/-- The replies to successive requests. -/
abbrev Replies := Nat → Reply

def Replies.after (replies : Replies) (count : Nat) : Replies :=
  fun i => replies (count + i)

/-- Replies given by a list whose last one is repeated; an empty one cannot be reached. -/
def Replies.ofList (script : List Reply) : Replies :=
  fun i =>
    match script[i]? with
    | some reply => reply
    | none => script.getLast?.getD (.unreachable ⟨"ConnectError", "no scripted response"⟩)

end DesignCompiler.Http
