import DesignCompiler.Proofs.Json.Equality
import DesignCompiler.Proofs.Service.Failure

/-!
Contract: what becomes of a value that stands where a design is expected and is none.

Owns:
- `GivesNode`, the calls that bring such a value along;
- `Treats`, everything that can become of a value: given to the service, as the document of a file,
  and as the document of a frame, both on the command line and in the answers of the service;
- the law by which each malformed value is treated in one of three ways.

Does not own: which values are malformed, see `DesignCompiler.Proofs.Design.Acceptance`.
-/

set_option autoImplicit false

namespace DesignCompiler.Service

open DesignCompiler.Http DesignCompiler.Files

/-- A call brings a value along as the design of the component that it asks for. -/
def GivesNode (call : Call) (value : Json) : Prop :=
  ∃ fields component, Posts call .compile fields ∧ readComponent fields = .ok component ∧
    fields.lookup "node" = some value

/-- How a command and a call that ask for the same end. -/
structure Ending where
  /-- The status of the answer. -/
  answer : Nat
  /-- The status of the program; none if a failure that nobody expects ends it. -/
  status? : Option Int
  /-- What the program shows after its progress. -/
  shown : String

structure Ending.Is (ending : Ending) (outcome : CommandLine.Outcome) (run : Run Empty Answer) :
    Prop where
  answered : ∃ content, IsAnswered run ending.answer content
  status : outcome.status? = ending.status?
  diagnostics : outcome.diagnostics = outcome.progress ++ ending.shown

/-- What can become of a value. -/
structure Treatment where
  /-- The status of the answer to a call that brings it along. -/
  given : Nat
  /-- It is the document of a file whose frames are asked for. -/
  listed : Ending
  /-- It is the document of a frame whose component is asked for. -/
  fetched : Ending

def Treatment.refused (message : String) : Treatment :=
  ⟨422, ⟨502, some 1, "Error: " ++ message ++ "\n"⟩, ⟨502, some 1, "Error: " ++ message ++ "\n"⟩⟩

/-- A value counts as absent when it is fetched: a file without frames, and a missing frame. -/
def Treatment.absent : Treatment :=
  ⟨422, ⟨200, some 0, ""⟩, ⟨404, some 1, "Error: Frame not found in the specified file.\n"⟩⟩

/-- A value ends everything with a failure that nobody expects. -/
def Treatment.fault : Treatment :=
  ⟨500, ⟨500, none, ""⟩, ⟨500, none, ""⟩⟩

/-- Wherever a value stands, this becomes of it. -/
structure Treats (context : CommandLine.Context) (server : Server) (value : Json)
    (treatment : Treatment) : Prop where
  given : ∀ (call : Call) (replies : Replies), GivesNode call value →
    ∃ content, IsAnswered (server.serve call replies) treatment.given content
  listed : ∀ (arguments : List String) (call : Call) (fileKey : String) (tree : Tree)
    (replies : Replies) (body : Fields), AskForFrames arguments call fileKey →
    (server.figma.fileCall fileKey replies).result = .ok (.object body) →
    body.lookup "document" = some value →
    treatment.listed.Is (CommandLine.run context tree replies arguments)
      (server.serve call replies)
  fetched : ∀ (arguments : List String) (call : Call) (fileKey frameId : String) (tree : Tree)
    (replies : Replies) (body : Fields), AskForComponent arguments call fileKey frameId →
    (server.figma.nodeCall fileKey frameId replies).result = .ok (.object body) →
    Figma.HoldsDocument body (Figma.nodeId frameId) value →
    treatment.fetched.Is (CommandLine.run context tree replies arguments)
      (server.serve call replies)

variable {context : CommandLine.Context} {server : Server} {value : Json}

/-! ### Failures -/

/-- How a command and a call end with a failure. -/
inductive EndsWith : Failure → Ending → Prop where
  | refused (found : List Design.Defect) (message : String) :
      EndsWith (.design ⟨.defective found, message⟩) (Treatment.refused message).listed
  | absent : EndsWith Figma.frameNotFound Treatment.absent.fetched
  | fault (message : String) :
      EndsWith (.design ⟨.compoundType, message⟩) Treatment.fault.listed

variable {call : Call} {tree : Tree} {replies : Replies} {failure : Failure} {ending : Ending}

theorem FailWith.is {outcome : CommandLine.Outcome}
    (fails : FailWith failure tree outcome server call replies)
    (ends : EndsWith failure ending) : ending.Is outcome (server.serve call replies) := by
  obtain ⟨endpoint, fields, events, posts, isPosted, handled, rfl⟩ := fails
  have result : (server.handle endpoint call replies).result = answerFailure failure := by
    rw [handled]
  cases ends with
  | refused found message =>
      have reported : Failure.IsReported (.design ⟨.defective found, message⟩) :=
        .design found message
      exact ⟨⟨_, posts.isAnswered_of_ok isPosted result⟩,
        CommandLine.status?_fail_of_isExpected tree events rfl,
        reported.diagnostics_fail tree events⟩
  | absent =>
      have reported : Failure.IsReported Figma.frameNotFound := .call _
      exact ⟨⟨_, posts.isAnswered_of_ok isPosted result⟩,
        CommandLine.status?_fail_of_isExpected tree events rfl,
        reported.diagnostics_fail tree events⟩
  | fault message =>
      have unexpected : Failure.isExpected (.design ⟨.compoundType, message⟩) = false := rfl
      obtain ⟨noStatus, hidden⟩ := CommandLine.ending_fail_of_unexpected tree events unexpected
      refine ⟨⟨_, posts.isAnswered_of_error isPosted result⟩, noStatus, ?_⟩
      rw [hidden]
      exact (String.append_empty).symm

/-! ### Designs that are given -/

private theorem isAnswered_of_no_object (gives : GivesNode call value)
    (noObject : ∀ fields, value ≠ .object fields) :
    ∃ content, IsAnswered (server.serve call replies) 422 content := by
  obtain ⟨fields, component, posts, asked, given⟩ := gives
  have unchecked : objectField fields "node" = fieldFault "node" .notObject := by
    unfold objectField
    rw [given]
    cases value with
    | object fields => exact absurd rfl (noObject fields)
    | null | bool _ | number _ | string _ | array _ => rfl
  have handled : (server.handle .compile call replies).result =
      .ok (BodyFault.faulty [⟨[.key "body", .key "node"], .notObject⟩]).answer := by
    have checked : (readComponent fields).both (objectField fields "node") =
        .error [⟨[.key "body", .key "node"], .notObject⟩] := by
      rw [asked, unchecked]
      rfl
    unfold Server.handle withInput
    rw [posts.body]
    dsimp only
    rw [checked]
    rfl
  exact ⟨_, posts.isAnswered_of_ok rfl handled⟩

private theorem GivesNode.exists_result_eq {design : Fields}
    (gives : GivesNode call (.object design)) (server : Server) (replies : Replies) :
    ∃ fields component, Posts call .compile fields ∧
      (server.handle .compile call replies).result =
        server.compileGiven (.object design) component := by
  obtain ⟨fields, component, posts, asked, given⟩ := gives
  exact ⟨fields, component, posts, by rw [posts.handle_compile asked given]⟩

/-! ### Designs that are fetched -/

section

variable {error : Design.ReadError} {arguments : List String} {fileKey frameId : String}
  {body : Fields}

theorem EndsWith.listed
    (ends : EndsWith (.design ⟨error, error.messageAbout server.figma.report value⟩) ending)
    (shares : SharesClient context server) (notBlank : value.isBlank = false)
    (unread : Design.Node.read value = .error error)
    (ask : AskForFrames arguments call fileKey)
    (answered : (server.figma.fileCall fileKey replies).result = .ok (.object body))
    (stored : body.lookup "document" = some value) :
    ending.Is (CommandLine.run context tree replies arguments) (server.serve call replies) := by
  refine (ask.failWith shares tree ?_).is ends
  rw [Figma.Client.result_listFrames answered,
    Figma.framesOf_of_read_error stored notBlank unread]

theorem EndsWith.fetched
    (ends : EndsWith (.design ⟨error, error.messageAbout server.figma.report value⟩) ending)
    (shares : SharesClient context server) (notBlank : value.isBlank = false)
    (unread : Design.Node.read value = .error error)
    (ask : AskForComponent arguments call fileKey frameId)
    (answered : (server.figma.nodeCall fileKey frameId replies).result = .ok (.object body))
    (holds : Figma.HoldsDocument body (Figma.nodeId frameId) value) :
    ending.Is (CommandLine.run context tree replies arguments) (server.serve call replies) := by
  have failed : Figma.readNode value server.figma.report =
      .error (.design ⟨error, error.messageAbout server.figma.report value⟩) := by
    rw [Figma.readNode, unread]
  refine (ask.failWith shares tree ?_).is ends
  rw [Figma.Client.result_fetchFrame answered, holds.documentOf_eq notBlank]
  exact failed

private theorem absent_is_of_listing (shares : SharesClient context server)
    (ask : AskForFrames arguments call fileKey)
    (listed : (server.figma.listFrames fileKey replies).result = .ok []) :
    Treatment.absent.listed.Is (CommandLine.run context tree replies arguments)
      (server.serve call replies) := by
  obtain ⟨⟨fields, posts⟩, handled⟩ := ask.exists_handle_eq shares.filled replies
  rw [ask.run_eq, CommandLine.runFrames,
    CommandLine.withFetch_of_ok shares.clientOf?_eq tree _ listed]
  have result : (server.handle .frames call replies).result = listing fileKey [] := by
    rw [handled, Run.finish, listed]
  exact ⟨⟨_, posts.isAnswered_of_ok rfl result⟩, rfl, rfl⟩

end

/-! ### Treatments -/

private theorem treats_refused (shares : SharesClient context server)
    (notBlank : value.isBlank = false) {found : List Design.Defect}
    (unread : Design.Node.read value = .error (.defective found)) :
    Treats context server value
      (.refused ((Design.ReadError.defective found).messageAbout server.figma.report value)) := by
  constructor
  · intro call replies gives
    by_cases isObject : ∃ design, value = .object design
    · obtain ⟨design, rfl⟩ := isObject
      obtain ⟨fields, component, posts, handled⟩ := gives.exists_result_eq server replies
      have refused : server.compileGiven (.object design) component =
          .ok (.refusal 422 (.string ((Design.ReadError.defective found).messageAbout
            server.figma.report (.object design)))) := by
        rw [Server.compileGiven, Figma.readNode, unread]
      exact ⟨_, posts.isAnswered_of_ok rfl (handled.trans refused)⟩
    · exact isAnswered_of_no_object gives (not_exists.mp isObject)
  · intro arguments call fileKey tree replies body ask answered stored
    exact (EndsWith.refused found _).listed shares notBlank unread ask answered stored
  · intro arguments call fileKey frameId tree replies body ask answered holds
    exact (EndsWith.refused found _).fetched shares notBlank unread ask answered holds

private theorem treats_fault (shares : SharesClient context server)
    (compound : ¬ Design.AtomicTypes value) : Treats context server value .fault := by
  have unread := Design.read_eq_compoundType compound
  obtain ⟨design, rfl⟩ : ∃ design, value = .object design := by
    by_contra noObject
    exact compound (Design.atomicTypes_of_not_object (not_exists.mp noObject))
  have notBlank : (Json.object design).isBlank = false := by
    cases design with
    | nil => exact absurd (Design.IsTree.childless (Or.inl rfl) (Or.inl rfl)).atomicTypes compound
    | cons entry rest => rfl
  constructor
  · intro call replies gives
    obtain ⟨fields, component, posts, handled⟩ := gives.exists_result_eq server replies
    have failed : server.compileGiven (.object design) component = .error (.design
        ⟨.compoundType, Design.ReadError.compoundType.messageAbout server.figma.report
          (.object design)⟩) := by
      rw [Server.compileGiven, Figma.readNode, unread]
    exact ⟨_, posts.isAnswered_of_error rfl (handled.trans failed)⟩
  · intro arguments call fileKey tree replies body ask answered stored
    exact (EndsWith.fault _).listed shares notBlank unread ask answered stored
  · intro arguments call fileKey frameId tree replies body ask answered holds
    exact (EndsWith.fault _).fetched shares notBlank unread ask answered holds

private theorem treats_absent (shares : SharesClient context server)
    (isBlank : value.isBlank = true)
    (noObject : ∀ fields, value ≠ .object fields) : Treats context server value .absent := by
  constructor
  · intro call replies gives
    exact isAnswered_of_no_object gives noObject
  · intro arguments call fileKey tree replies body ask answered stored
    apply absent_is_of_listing shares ask
    rw [Figma.Client.result_listFrames answered, Figma.framesOf_of_isBlank stored isBlank]
  · intro arguments call fileKey frameId tree replies body ask answered holds
    refine (ask.failWith shares tree ?_).is .absent
    rw [Figma.Client.result_fetchFrame answered, holds.documentOf_eq_of_isBlank isBlank]
    rfl

/-- Every JSON value is read as a design, or its defects are reported, or one of its types is a list
or an object and the reading breaks off.  A malformed value is refused in the second case, unless it
counts as absent where it is fetched; in the third, no command and no call survives it. -/
theorem treatment_of_every_value (shares : SharesClient context server) (value : Json) :
    ((∃ root, Design.Node.read value = .ok root) ↔ Design.IsTree value) ∧
    (¬ Design.IsTree value → Design.AtomicTypes value →
      ∃ found, Design.Node.read value = .error (.defective found) ∧
      (value.isBlank = false → Treats context server value
        (.refused ((Design.ReadError.defective found).messageAbout server.figma.report value))) ∧
      (value.isBlank = true → Treats context server value .absent)) ∧
    (¬ Design.AtomicTypes value →
      Design.Node.read value = .error .compoundType ∧ Treats context server value .fault) := by
  refine ⟨⟨?_, fun isTree => ⟨_, isTree.read_eq⟩⟩, fun flawed atomic => ?_, fun compound => ?_⟩
  · rintro ⟨root, read⟩
    exact Design.isTree_of_read read
  · obtain ⟨found, unread⟩ := Design.exists_read_eq_defective flawed atomic
    refine ⟨found, unread, fun notBlank => treats_refused shares notBlank unread,
      fun isBlank => treats_absent shares isBlank ?_⟩
    rintro fields rfl
    cases fields with
    | nil => exact flawed (.childless (Or.inl rfl) (Or.inl rfl))
    | cons entry rest => cases isBlank
  · exact ⟨Design.read_eq_compoundType compound, treats_fault shares compound⟩

/-- A design whose children are a number is refused where it is given, and where it is the document
of a file. -/
theorem treatment_of_numbered_children :
    let report := "1 validation error for tagged-union"
      ++ "[FrameNode,ComponentNode,InstanceNode,TextNode,OtherNode]\nOTHER.children\n"
      ++ "  Input should be a valid list [type=list_type, input_value=7, input_type=int]"
    let words : Design.Report := fun _ _ => report
    let context : CommandLine.Context :=
      { token := some "token", home := "/", directory := ⟨1, ["home"]⟩
        figma := { token := "", report := some words } }
    let server : Server := { figma := { token := "token", report := some words } }
    let giving : Call :=
      .posting "/api/v2/figma/compile" "\x7b\"node\":\x7b\"children\":7\x7d\x7d"
    let listing : Call := .posting "/api/v2/figma/frames" "\x7b\"file_key\":\"K\"\x7d"
    let text := "\x7b\"document\":\x7b\"children\":7\x7d\x7d"
    let replies := Replies.ofList [.response { status := 200, body := text.toUTF8.data.toList }]
    let outcome := CommandLine.run context (.empty []) replies ["figma", "frames", "K"]
    (∃ content, IsAnswered (server.serve giving replies) 422 content) ∧
      (∃ content, IsAnswered (server.serve listing replies) 502 content) ∧
      outcome.status? = some 1 ∧
      outcome.diagnostics =
        outcome.progress ++ ("Error: Invalid design node data: " ++ report ++ "\n") := by
  intro report words context server giving listing text replies outcome
  let value : Json := .object [("children", .number (.int 7))]
  have shares : SharesClient context server := ⟨rfl, by decide, rfl⟩
  have flawed : ¬ Design.IsTree value := fun isTree => nomatch Design.defects_eq_nil_iff.mpr isTree
  have atomic : Design.AtomicTypes value := Design.atomicTypes_iff.mpr rfl
  have givenBody : readBody giving = .ok [("node", value)] := by decide +kernel
  have listedBody : readBody listing = .ok [("file_key", .string "K")] := by decide +kernel
  have answered : (server.figma.fileCall "K" replies).result =
      .ok (.object [("document", value)]) := by
    decide +kernel
  obtain ⟨found, unread, refused, -⟩ := (treatment_of_every_value shares value).2.1 flawed atomic
  have treats := refused rfl
  have ending := treats.listed ["figma", "frames", "K"] listing "K" (.empty []) replies _
    ⟨rfl, ⟨_, ⟨rfl, rfl, listedBody⟩, rfl⟩, by decide⟩ answered rfl
  have said : "Error: Invalid design node data: " ++ report ++ "\n" =
      "Error: " ++ ("Invalid design node data" ++ ": " ++ report) ++ "\n" := by
    decide +kernel
  refine ⟨treats.given giving replies ⟨_, _, ⟨rfl, rfl, givenBody⟩, rfl, rfl⟩, ending.answered,
    ending.status, ?_⟩
  rw [said]
  exact ending.diagnostics

/-- A design whose type is a list is not reported as malformed: neither where it is given nor where
it is the document of a file. -/
theorem fault_of_listed_type :
    let context : CommandLine.Context :=
      { token := some "token", home := "/", directory := ⟨1, ["home"]⟩ }
    let server : Server := { figma := { token := "token" } }
    let giving : Call :=
      .posting "/api/v2/figma/compile" "\x7b\"node\":\x7b\"type\":[]\x7d\x7d"
    let listing : Call := .posting "/api/v2/figma/frames" "\x7b\"file_key\":\"K\"\x7d"
    let text := "\x7b\"document\":\x7b\"type\":[]\x7d\x7d"
    let replies := Replies.ofList [.response { status := 200, body := text.toUTF8.data.toList }]
    Design.Node.read (.object [("type", .array [])]) = .error .compoundType ∧
      (∃ content, IsAnswered (server.serve giving replies) 500 content) ∧
      (∃ content, IsAnswered (server.serve listing replies) 500 content) ∧
      (CommandLine.run context (.empty []) replies ["figma", "frames", "K"]).status? = none := by
  intro context server giving listing text replies
  let value : Json := .object [("type", .array [])]
  have shares : SharesClient context server := ⟨rfl, by decide, rfl⟩
  have compound : ¬ Design.AtomicTypes value := by
    rw [Design.atomicTypes_iff]
    decide +kernel
  have givenBody : readBody giving = .ok [("node", value)] := by decide +kernel
  have listedBody : readBody listing = .ok [("file_key", .string "K")] := by decide +kernel
  have answered : (server.figma.fileCall "K" replies).result =
      .ok (.object [("document", value)]) := by
    decide +kernel
  have treats := treats_fault shares compound
  have ending := treats.listed ["figma", "frames", "K"] listing "K" (.empty []) replies _
    ⟨rfl, ⟨_, ⟨rfl, rfl, listedBody⟩, rfl⟩, by decide⟩ answered rfl
  exact ⟨Design.read_eq_compoundType compound,
    treats.given giving replies ⟨_, _, ⟨rfl, rfl, givenBody⟩, rfl, rfl⟩, ending.answered,
    ending.status⟩

end DesignCompiler.Service
