import DesignCompiler.Component.Name
import DesignCompiler.Design.Reading
import DesignCompiler.Service.Message

/-!
Contract: what the body of a call has to hold.

Owns:
- `InputFault`, what is wrong with a body, and where;
- `readBody`, which yields the entries of a body;
- `Checked`, which gathers all faults of a body's fields, and the fields themselves.

Entries that nobody asks for are ignored.  A fault has a place and a kind; it has no wording but the
one that this service gives to it.

Does not own: what is done with the fields, see `DesignCompiler.Service.Endpoint`.
-/

set_option autoImplicit false

namespace DesignCompiler.Service

open DesignCompiler.Design (PathStep)

inductive InputFaultKind where
  | missing
  | notText
  | tooShort
  | notObject
  | noEntries
  | notJson
  | badName (error : Component.NameError)
deriving DecidableEq

structure InputFault where
  path : List PathStep
  kind : InputFaultKind
deriving DecidableEq

def InputFaultKind.name : InputFaultKind → String
  | .missing => "missing"
  | .notText => "string_type"
  | .tooShort => "string_too_short"
  | .notObject => "dict_type"
  | .noEntries => "model_attributes_type"
  | .notJson => "json_invalid"
  | .badName _ => "value_error"

def InputFaultKind.message? : InputFaultKind → Option String
  | .badName error => some ("Value error, " ++ error.message)
  | _ => none

def stepJson : PathStep → Json
  | .key name => .string name
  | .index position => .ofNat position

def InputFault.toJson (fault : InputFault) : Json :=
  .object ([("type", .string fault.kind.name), ("loc", .array (fault.path.map stepJson))]
    ++ (fault.kind.message?.map fun message => ("msg", Json.string message)).toList)

/-! ## Bodies -/

inductive BodyFault where
  /-- The bytes are no text, or the text holds a number that is not read. -/
  | unreadable
  | faulty (faults : List InputFault)

def BodyFault.answer : BodyFault → Answer
  | .unreadable => .refusal 400 (.string "There was an error parsing the body")
  | .faulty faults => .refusal 422 (.array (faults.map InputFault.toJson))

def wholeFault (kind : InputFaultKind) (place : List PathStep := []) : BodyFault :=
  .faulty [⟨.key "body" :: place, kind⟩]

/-- The type and subtype of a declared type, without parameters and in lower case. -/
def mediaType (declared : String) : String × String :=
  let cs := Text.trimBy Text.isBlank (declared.toList.takeWhile (· != ';'))
  match Text.splitOn '/' (cs.map Char.toLower) with
  | [kind, subtype] => (String.ofList kind, String.ofList subtype)
  | _ => ("text", "plain")

def isJsonType (declared : String) : Bool :=
  match mediaType declared with
  | (kind, subtype) =>
    kind == "application" && (subtype == "json" || "+json".toList.isSuffixOf subtype.toList)

def readBody (call : Call) : Except BodyFault Fields :=
  if call.body.isEmpty then .error (wholeFault .missing)
  else if !((call.header? "content-type").any isJsonType) then .error (wholeFault .noEntries)
  else
    match Text.decode call.body with
    | none => .error .unreadable
    | some cs =>
      match Json.read cs with
      | .error (.malformed offset) => .error (wholeFault .notJson [.index offset])
      | .error .longInteger => .error .unreadable
      | .ok (.object fields) => .ok fields
      | .ok _ => .error (wholeFault .noEntries)

/-! ## Fields -/

/-- Something that is read from a body, or everything that is wrong with it. -/
abbrev Checked (α : Type) := Except (List InputFault) α

/-- Two things that are both read, or the faults of both. -/
def Checked.both {α β : Type} : Checked α → Checked β → Checked (α × β)
  | .ok first, .ok second => .ok (first, second)
  | .ok _, .error faults => .error faults
  | .error faults, .ok _ => .error faults
  | .error faults, .error others => .error (faults ++ others)

def fieldFault {α : Type} (key : String) (kind : InputFaultKind) : Checked α :=
  .error [⟨[.key "body", .key key], kind⟩]

def textOf (key : String) : Json → Checked String
  | .string value => .ok value
  | _ => fieldFault key .notText

/-- A field that has to hold a text of at least one character. -/
def filledText (fields : Fields) (key : String) : Checked String :=
  match fields.lookup key with
  | none => fieldFault key .missing
  | some value => do
    let text ← textOf key value
    if text.isEmpty then fieldFault key .tooShort else .ok text

/-- A field that holds a text, or the usual text where the field is absent. -/
def textOr (usual : String) (fields : Fields) (key : String) : Checked String :=
  match fields.lookup key with
  | none => .ok usual
  | some value => textOf key value

def optionalText (fields : Fields) (key : String) : Checked (Option String) :=
  match fields.lookup key with
  | none | some .null => .ok none
  | some value => (textOf key value).map some

/-- A field that may be absent or null and otherwise holds a valid component name. -/
def optionalName (fields : Fields) (key : String) : Checked (Option String) := do
  match ← optionalText fields key with
  | none => .ok none
  | some name =>
    match Component.validate name with
    | .ok name => .ok (some name)
    | .error error => fieldFault key (.badName error)

def objectField (fields : Fields) (key : String) : Checked Fields :=
  match fields.lookup key with
  | none => fieldFault key .missing
  | some (.object value) => .ok value
  | some _ => fieldFault key .notObject

structure ComponentRequest where
  framework : String
  /-- The name, to be derived from the design where there is none. -/
  name : Option String
  instructions : Option String

def readComponent (fields : Fields) : Checked ComponentRequest :=
  (((textOr "vanilla-jsx" fields "framework").both (optionalName fields "component_name")).both
    (optionalText fields "additional_instructions")).map
      fun ((framework, name), instructions) => { framework, name, instructions }

structure Target where
  link : Option String
  fileKey : Option String
  frameId : Option String

def readTarget (fields : Fields) : Checked Target :=
  (((optionalText fields "figma_url").both (optionalText fields "file_key")).both
    (optionalText fields "frame_id")).map
      fun ((link, fileKey), frameId) => { link, fileKey, frameId }

end DesignCompiler.Service
