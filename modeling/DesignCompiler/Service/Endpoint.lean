import DesignCompiler.Component.Compile
import DesignCompiler.Design.Writing
import DesignCompiler.Figma.Client
import DesignCompiler.Number.Lenient
import DesignCompiler.Service.Input

/-!
Contract: what the service does.

Owns:
- `Endpoint`, the things that can be asked of the service, with their paths and methods;
- the listing of frames, where every number is a double;
- the compiling of a design that a call brings along or that is fetched for it;
- `answerFailure`, how expected failures are answered.

A failure that is not expected is the result of the run and not an answer.

Does not own: which call goes to which endpoint, see `DesignCompiler.Service.Serve`.
-/

set_option autoImplicit false

namespace DesignCompiler.Service

open DesignCompiler.Http

inductive Endpoint where
  | health
  | frames
  /-- A component of a design that is given. -/
  | compile
  /-- A component of a design that is fetched. -/
  | toReact
deriving DecidableEq

namespace Endpoint

def all : List Endpoint :=
  [.health, .frames, .compile, .toReact]

def path : Endpoint → String
  | .health => "/health"
  | .frames => "/api/v2/figma/frames"
  | .compile => "/api/v2/figma/compile"
  | .toReact => "/api/v2/figma/to-react"

def method : Endpoint → String
  | .health => "GET"
  | _ => "POST"

end Endpoint

/-- What a call leads to: everything that is done for it, and its answer. -/
abbrev Handling := Run Failure Answer

def answered (answer : Answer) : Handling :=
  ⟨[], .ok answer⟩

structure Server where
  /-- How designs are fetched; without a token, they are not. -/
  figma : Figma.Client
  /-- The origins whose pages may use the service. -/
  origins : List String := ["http://localhost:3000", "http://127.0.0.1:3000"]

def version : String := "1.0.0"

def healthAnswer : Answer :=
  .success (.object [("status", .string "ok"), ("version", .string version)])

/-- The answer to a call that needs a token where there is none. -/
def noTokenAnswer : Answer :=
  .refusal 400 (.string ("Figma integration not configured. "
    ++ "Set FIGMA_TOKEN environment variable with a valid Figma Personal Access Token. "
    ++ "See: https://www.figma.com/developers/api#access-tokens"))

/-- The answer to an expected failure; any other failure stays as it is. -/
def answerFailure : Failure → Except Failure Answer
  | .call (.remote error) =>
    .ok (match error.kind with
      | .notFound => .refusal 404 (.string error.message)
      | .unauthorized => .refusal 401 (.string error.message)
      | .rateLimited => .refusal 429 (.string error.message)
      | _ => .refusal 502 (.string ("Figma API error: " ++ error.message)))
  | .design ⟨.defective _, message⟩ =>
    .ok (.refusal 502 (.string ("Figma API error: " ++ message)))
  | .credential use => .ok (.refusal 400 (.string (Failure.credentialMessage use)))
  | failure => .error failure

/-! ## Listings -/

/-- A number of a listing; one that is not finite is not shown. -/
def shownNumber (value : Binary64) : Json :=
  if value.isFinite then .number (.float value) else .null

/-- The double that an entry of a colour stands for. -/
def colorMember? : Json → Option Binary64
  | .number value => value.toBinary64?
  | .bool value => (Number.int (if value then 1 else 0)).toBinary64?
  | .string value => lenientDouble? value.toList
  | _ => none

def colorSummary? (color : Design.Color) : Option Json :=
  ((color.channels ++ color.extras).mapM fun entry =>
    (colorMember? entry.2).map fun value => (entry.1, shownNumber value)).map .object

def boxSummary? (box : Option Design.Box) (member : Design.Box → Number) : Option Json :=
  match box with
  | none => some .null
  | some box => (member box).toBinary64?.map shownNumber

/-- A frame in a listing; none if one of its numbers is beyond all doubles or a part of its colour
is no number. -/
def frameSummary? (frame : Design.Node) : Option Json := do
  let attributes := frame.attributes
  let width ← boxSummary? attributes.box Design.Box.width
  let height ← boxSummary? attributes.box Design.Box.height
  let color ← match attributes.background with
    | none => some .null
    | some color => colorSummary? color
  some (.object [("id", .string attributes.id), ("name", .string attributes.name),
    ("type", .string attributes.kind.tag), ("width", width), ("height", height),
    ("background_color", color)])

def listing (fileKey : String) (frames : List Design.Node) : Except Failure Answer :=
  match frames.mapM frameSummary? with
  | some summaries =>
    .ok (.success (.object [("file_key", .string fileKey), ("frames", .array summaries)]))
  | none => .error (.shape .wrongType)

def Server.frames (server : Server) (fileKey : String) (replies : Replies) : Handling :=
  if server.figma.token.isEmpty then answered noTokenAnswer
  else
    (server.figma.listFrames fileKey replies).finish fun result =>
      match result with
      | .ok frames => listing fileKey frames
      | .error failure => answerFailure failure

/-! ## Components -/

def compiled (root : Design.Node) (component : ComponentRequest) : Except Failure Answer :=
  let variant := Component.Variant.resolve (some component.framework)
  let name := Component.compiledName root component.name
  match Component.compile? root variant (some name) component.instructions with
  | .ok code =>
    .ok (.success (.object [("component_name", .string name), ("framework", .string variant.name),
      ("code", .string code)]))
  | .error fault => .error (.color fault)

/-- Compiles a design that is given; one that is no design is reported as a fetched one is. -/
def Server.compileGiven (server : Server) (design : Json) (component : ComponentRequest) :
    Except Failure Answer :=
  match Figma.readNode design server.figma.report with
  | .ok root => compiled root component
  | .error (.design ⟨.defective _, message⟩) => .ok (.refusal 422 (.string message))
  | .error failure => .error failure

/-- The file and the frame that are meant, or why there are none: a link counts before the parts. -/
def Target.resolve (target : Target) : Except String (String × String) :=
  let filled (text : Option String) := text.filter fun text => !text.isEmpty
  match filled target.link with
  | some link =>
    match Figma.readLink link with
    | none => .error Figma.linkMessage
    | some (fileKey, frameId) =>
      match filled frameId with
      | some frameId => .ok (fileKey, frameId)
      | none => .error "Figma URL must include a node-id parameter."
  | none =>
    match filled target.fileKey, filled target.frameId with
    | some fileKey, some frameId => .ok (fileKey, frameId)
    | _, _ => .error "Provide figma_url, or both file_key and frame_id."

def Server.toReact (server : Server) (component : ComponentRequest) (target : Target)
    (replies : Replies) : Handling :=
  if server.figma.token.isEmpty then answered noTokenAnswer
  else
    match target.resolve with
    | .error message => answered (.refusal 400 (.string message))
    | .ok (fileKey, frameId) =>
      (server.figma.fetchFrame fileKey frameId replies).finish fun result =>
        match result with
        | .ok root => compiled root component
        | .error failure => answerFailure failure

/-! ## Calls of endpoints -/

/-- Goes on with what is read from a body, or refuses it. -/
def withInput {α : Type} (call : Call) (check : Fields → Checked α) (next : α → Handling) :
    Handling :=
  match readBody call with
  | .error fault => answered fault.answer
  | .ok fields =>
    match check fields with
    | .error faults => answered (BodyFault.faulty faults).answer
    | .ok input => next input

def Server.handle (server : Server) (endpoint : Endpoint) (call : Call) (replies : Replies) :
    Handling :=
  match endpoint with
  | .health => answered healthAnswer
  | .frames =>
    withInput call (fun fields => filledText fields "file_key") fun fileKey =>
      server.frames fileKey replies
  | .compile =>
    withInput call (fun fields => (readComponent fields).both (objectField fields "node"))
      fun (component, design) => ⟨[], server.compileGiven (.object design) component⟩
  | .toReact =>
    withInput call (fun fields => (readComponent fields).both (readTarget fields))
      fun (component, target) => server.toReact component target replies

end DesignCompiler.Service
