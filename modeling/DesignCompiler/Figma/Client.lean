import DesignCompiler.Failure
import DesignCompiler.Figma.Address

/-!
Contract: fetching designs.

Owns:
- `Client` and the requests that it sends;
- `fetchFile`, `fetchNodes`, `fetchDocument`, `fetchFrame` and `listFrames`, each of which makes one
  remote call.

Of the errors of a call only the messages about a missing file and a refused token are replaced.

Does not own: retries, see `DesignCompiler.Http.Retry`.
-/

set_option autoImplicit false

namespace DesignCompiler.Figma

open DesignCompiler.Http

structure Client where
  token : String
  baseUrl : String := "https://api.figma.com"
  policy : RetryPolicy := .standard 3 (by decide)
  /-- How deep the trees of nodes are fetched. -/
  nodeDepth : Int := 100
  /-- Which shapes are fetched with nodes. -/
  nodeGeometry : String := "paths"
  /-- The words in which a fetched document that is no design is reported, if there are any. -/
  report : Option Design.Report := none

/-- The outcome of one remote call. -/
abbrev Fetch (α : Type) := Run Failure α

/-- The error of a call, with the messages of this service. -/
def failureOf : CallError → Failure
  | .remote error =>
    match error.kind with
    | .notFound =>
      .remote { error with message := "File not found or you do not have access to this file." }
    | .unauthorized =>
      .remote { error with message := "Invalid Figma token. Please check your FIGMA_TOKEN." }
    | _ => .remote error
  | error => .call error

def Client.order (client : Client) (path : String) (parameters : Option (List Parameter)) : Order :=
  { url := path
    base := some client.baseUrl
    headers := [("X-Figma-Token", client.token)]
    parameters := parameters }

/-- Makes one remote call and looks at the answer. -/
def Client.get {α : Type} (client : Client) (path : String) (parameters : Option (List Parameter))
    (replies : Replies) (look : Json → Except Failure α) : Fetch α :=
  (client.policy.execute (client.order path parameters) replies).finish fun result =>
    match result with
    | .ok body => look body
    | .error error => .error (failureOf error)

/-- The entries of an answer, which has to be an object. -/
def entriesOf : Json → Except Failure Fields
  | .object fields => .ok fields
  | _ => .error (.shape .noEntries)

def filePath (fileKey : String) : String :=
  "/v1/files/" ++ fileKey

def Client.fetchFile (client : Client) (fileKey : String) (replies : Replies) : Fetch Json :=
  client.get (filePath fileKey) none replies fun body => do
    let _ ← entriesOf body
    .ok body

/-- The value under a key, where a blank one counts as absent. -/
def present? (fields : Fields) (key : String) : Option Json :=
  (fields.lookup key).filter fun value => !value.isBlank

def Client.nodeParameters (ids : List String) (depth : Int) (geometry : String) : List Parameter :=
  [("ids", ",".intercalate ids), ("depth", (Number.int depth).text), ("geometry", geometry)]

/-- Looks at an answer with nodes, which has to be an object whose nodes can be counted. -/
def nodeEntries (body : Json) : Except Failure Fields := do
  let fields ← entriesOf body
  match present? fields "nodes" with
  | some (.number _) | some (.bool _) => .error (.shape .wrongType)
  | _ => .ok fields

def Client.fetchNodes (client : Client) (fileKey : String) (ids : List String)
    (depth : Int) (geometry : String) (replies : Replies) : Fetch Json :=
  client.get (filePath fileKey ++ "/nodes") (some (Client.nodeParameters ids depth geometry))
    replies fun body => do
      let _ ← nodeEntries body
      .ok body

def frameNotFound : Failure :=
  .remote ⟨.notFound, "Frame not found in the specified file.", none⟩

/-- The entries under a key, none of them where a blank value stands. -/
def entriesUnder (fields : Fields) (key : String) : Except Failure Fields :=
  match present? fields key with
  | none => .ok []
  | some value => entriesOf value

def documentOf (id : String) (body : Json) : Except Failure Json := do
  let fields ← nodeEntries body
  let nodes ← entriesUnder fields "nodes"
  let node ← entriesUnder nodes id
  match present? node "document" with
  | some document => .ok document
  | none => .error frameNotFound

/-- Reads a design tree; one that is refused is reported in these words. -/
def readNode (document : Json) (report : Option Design.Report := none) :
    Except Failure Design.Node :=
  match Design.Node.read document with
  | .ok node => .ok node
  | .error error => .error (.design ⟨error, error.messageAbout report document⟩)

def Client.getFrame {α : Type} (client : Client) (fileKey frameId : String) (replies : Replies)
    (look : Json → Except Failure α) : Fetch α :=
  let id := nodeId frameId
  client.get (filePath fileKey ++ "/nodes")
    (some (Client.nodeParameters [id] client.nodeDepth client.nodeGeometry)) replies
    fun body => do look (← documentOf id body)

def Client.fetchDocument (client : Client) (fileKey frameId : String) (replies : Replies) :
    Fetch Json :=
  client.getFrame fileKey frameId replies .ok

def Client.fetchFrame (client : Client) (fileKey frameId : String) (replies : Replies) :
    Fetch Design.Node :=
  client.getFrame fileKey frameId replies fun document => readNode document client.report

def Client.framesOf (client : Client) (body : Json) : Except Failure (List Design.Node) := do
  let fields ← entriesOf body
  match present? fields "document" with
  | none => .ok []
  | some document => do
    let root ← readNode document client.report
    .ok root.frames

/-- Fetches the frames of a file, in the order of the document. -/
def Client.listFrames (client : Client) (fileKey : String) (replies : Replies) :
    Fetch (List Design.Node) :=
  client.get (filePath fileKey) none replies client.framesOf

/-- The client with a token, unless it is empty. -/
def Client.make? (token : Option String) (environmentToken : Option String) :
    Except Failure Client :=
  match token.filter (fun t => !t.isEmpty) with
  | some token => .ok { token }
  | none =>
    match environmentToken.filter (fun t => !t.isEmpty) with
    | some token => .ok { token }
    | none => .error (.credential .client)

end DesignCompiler.Figma
