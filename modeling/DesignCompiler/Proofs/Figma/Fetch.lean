import DesignCompiler.Figma.Client
import DesignCompiler.Proofs.Composition
import DesignCompiler.Proofs.Design.Acceptance

/-!
Contract: what is made of the answers of a design service.

Owns:
- `Client.fileCall` and `Client.nodeCall`, the remote calls by which files and frames are fetched;
- `HoldsDocument`, the answers that hold the document of a node;
- the frames and the tree that a fetch results in when its remote call is answered;
- `Explains`, the results that refuse no design without saying what is wrong with it.

Does not own: whether the remote call is answered, see `DesignCompiler.Proofs.Http.Decision`.
-/

set_option autoImplicit false

namespace DesignCompiler.Figma

open DesignCompiler.Http

/-! ### Remote calls -/

def Client.fileCall (client : Client) (fileKey : String) (replies : Replies) : Run CallError Json :=
  client.policy.execute (client.order (filePath fileKey) none) replies

def Client.nodeCall (client : Client) (fileKey frameId : String) (replies : Replies) :
    Run CallError Json :=
  client.policy.execute
    (client.order (filePath fileKey ++ "/nodes")
      (some (Client.nodeParameters [nodeId frameId] client.nodeDepth client.nodeGeometry)))
    replies

variable {client : Client} {replies : Replies} {body : Json}

theorem Client.result_listFrames {fileKey : String}
    (answered : (client.fileCall fileKey replies).result = .ok body) :
    (client.listFrames fileKey replies).result = client.framesOf body := by
  unfold fileCall at answered
  simp only [listFrames, get, Run.finish, answered]

theorem Client.result_fetchFrame {fileKey frameId : String}
    (answered : (client.nodeCall fileKey frameId replies).result = .ok body) :
    (client.fetchFrame fileKey frameId replies).result =
      (documentOf (nodeId frameId) body).bind fun document => readNode document client.report := by
  unfold nodeCall at answered
  simp only [fetchFrame, getFrame, get, Run.finish, answered]
  rfl

theorem Client.result_listFrames_of_error {fileKey : String} {error : CallError}
    (failed : (client.fileCall fileKey replies).result = .error error) :
    (client.listFrames fileKey replies).result = .error (failureOf error) := by
  unfold fileCall at failed
  simp only [listFrames, get, Run.finish, failed]

theorem Client.result_fetchFrame_of_error {fileKey frameId : String} {error : CallError}
    (failed : (client.nodeCall fileKey frameId replies).result = .error error) :
    (client.fetchFrame fileKey frameId replies).result = .error (failureOf error) := by
  unfold nodeCall at failed
  simp only [fetchFrame, getFrame, get, Run.finish, failed]

/-! ### Answers -/

/-- The body of an answer holds a document for the node with an identifier. -/
def HoldsDocument (body : Fields) (id : String) (document : Json) : Prop :=
  ∃ nodes entry, body.lookup "nodes" = some (.object nodes) ∧
    Fields.lookup nodes id = some (.object entry) ∧
    Fields.lookup entry "document" = some document

theorem present?_eq_some {fields : Fields} {key : String} {value : Json}
    (found : fields.lookup key = some value) (notBlank : value.isBlank = false) :
    present? fields key = some value := by
  unfold present?
  rw [found, Option.filter_some, notBlank]
  rfl

private theorem present?_eq_none_of_isBlank {fields : Fields} {key : String} {value : Json}
    (found : fields.lookup key = some value) (isBlank : value.isBlank = true) :
    present? fields key = none := by
  unfold present?
  rw [found, Option.filter_some, isBlank]
  rfl

theorem lookup_of_present? {fields : Fields} {key : String} {value : Json}
    (present : present? fields key = some value) :
    fields.lookup key = some value ∧ value.isBlank = false := by
  obtain ⟨found, notBlank⟩ := Option.filter_eq_some_iff.mp present
  exact ⟨found, by simpa using notBlank⟩

private theorem isBlank_object_of_lookup {fields : Fields} {key : String} {value : Json}
    (found : fields.lookup key = some value) : (Json.object fields).isBlank = false := by
  cases fields with
  | nil => cases found
  | cons entry rest => rfl

theorem entriesUnder_eq {fields inner : Fields} {key inside : String} {value : Json}
    (found : fields.lookup key = some (.object inner))
    (stored : inner.lookup inside = some value) : entriesUnder fields key = .ok inner := by
  unfold entriesUnder
  rw [present?_eq_some found (isBlank_object_of_lookup stored)]
  rfl

private theorem HoldsDocument.documentOf_eq_present {body : Fields} {id : String} {document : Json}
    (holds : HoldsDocument body id document) :
    documentOf id (.object body) =
      if document.isBlank then .error frameNotFound else .ok document := by
  obtain ⟨nodes, entry, nodesFound, entryFound, documentFound⟩ := holds
  have counted : nodeEntries (.object body) = .ok body := by
    unfold nodeEntries
    rw [entriesOf, ok_bind, present?_eq_some nodesFound (isBlank_object_of_lookup entryFound)]
  unfold documentOf
  rw [counted, ok_bind, entriesUnder_eq nodesFound entryFound, ok_bind,
    entriesUnder_eq entryFound documentFound, ok_bind]
  cases isBlank : document.isBlank with
  | true =>
      rw [present?_eq_none_of_isBlank documentFound isBlank]
      rfl
  | false =>
      rw [present?_eq_some documentFound isBlank]
      rfl

theorem HoldsDocument.documentOf_eq {body : Fields} {id : String} {document : Json}
    (holds : HoldsDocument body id document) (notBlank : document.isBlank = false) :
    documentOf id (.object body) = .ok document := by
  rw [holds.documentOf_eq_present, notBlank]
  rfl

/-- A document that counts as absent is no document. -/
theorem HoldsDocument.documentOf_eq_of_isBlank {body : Fields} {id : String} {document : Json}
    (holds : HoldsDocument body id document) (isBlank : document.isBlank = true) :
    documentOf id (.object body) = .error frameNotFound := by
  rw [holds.documentOf_eq_present, isBlank]
  rfl

/-- A file whose document counts as absent has no frames. -/
theorem framesOf_of_isBlank {body : Fields} {document : Json}
    (stored : body.lookup "document" = some document) (isBlank : document.isBlank = true) :
    client.framesOf (.object body) = .ok [] := by
  unfold Client.framesOf
  rw [entriesOf, ok_bind, present?_eq_none_of_isBlank stored isBlank]

theorem framesOf_of_read_error {body : Fields} {document : Json} {error : Design.ReadError}
    (stored : body.lookup "document" = some document) (notBlank : document.isBlank = false)
    (unread : Design.Node.read document = .error error) :
    client.framesOf (.object body) =
      .error (.design ⟨error, error.messageAbout client.report document⟩) := by
  unfold Client.framesOf
  rw [entriesOf, ok_bind, present?_eq_some stored notBlank]
  simp only [readNode, unread]
  rfl

/-- The frames of a file are those of its document.  An empty document has none. -/
theorem framesOf_object {body : Fields} {document : Json} {root : Design.Node}
    (stored : body.lookup "document" = some document)
    (read : Design.Node.read document = .ok root) :
    client.framesOf (.object body) = .ok root.frames := by
  obtain ⟨fields, rfl⟩ := (Design.isTree_of_read read).exists_object
  unfold Client.framesOf
  rw [entriesOf, ok_bind]
  cases fields with
  | nil =>
      have absent : present? body "document" = none := by
        unfold present?
        rw [stored]
        rfl
      rw [absent, Design.Node.eq_buildNode_of_read read]
      rfl
  | cons entry rest =>
      rw [present?_eq_some stored rfl]
      simp only [readNode, read]
      rfl

/-! ### Designs that are refused -/

/-- If a result refuses a design, its message is the one about a value that describes no tree. -/
def Explains {α : Type} (report : Option Design.Report) (result : Except Failure α) : Prop :=
  ∀ refusal, result = .error (.design refusal) →
    ∃ value, Design.Node.read value = .error refusal.error ∧
      refusal.message = refusal.error.messageAbout report value

section

variable {α β : Type} {report : Option Design.Report}

private theorem explains_ok (value : α) : Explains report (.ok value) := by
  intro refusal refused
  cases refused

private theorem Explains.bind {first : Except Failure α} {next : α → Except Failure β}
    (explains : Explains report first) (explainsNext : ∀ value, Explains report (next value)) :
    Explains report (first >>= next) := by
  cases first with
  | error failure => exact fun refusal refused => explains refusal (by cases refused; rfl)
  | ok value => exact explainsNext value

private theorem explains_shape (fault : ShapeFault) :
    Explains report (.error (.shape fault) : Except Failure α) := by
  intro refusal refused
  cases refused

private theorem explains_entriesOf (value : Json) : Explains report (entriesOf value) := by
  cases value with
  | object fields => exact explains_ok fields
  | null | bool _ | number _ | string _ | array _ => exact explains_shape .noEntries

private theorem explains_entriesUnder (fields : Fields) (key : String) :
    Explains report (entriesUnder fields key) := by
  unfold entriesUnder
  split
  · exact explains_ok []
  · exact explains_entriesOf _

private theorem explains_nodeEntries (body : Json) : Explains report (nodeEntries body) := by
  refine (explains_entriesOf body).bind fun fields => ?_
  split
  · exact explains_shape .wrongType
  · exact explains_shape .wrongType
  · exact explains_ok fields

private theorem explains_documentOf (id : String) (body : Json) :
    Explains report (documentOf id body) := by
  refine (explains_nodeEntries body).bind fun fields => ?_
  refine (explains_entriesUnder fields "nodes").bind fun nodes => ?_
  refine (explains_entriesUnder nodes id).bind fun node => ?_
  split
  · exact explains_ok _
  · intro refusal refused
    cases refused

private theorem explains_readNode (document : Json) :
    Explains report (readNode document report) := by
  unfold readNode
  cases read : Design.Node.read document with
  | ok node => exact explains_ok node
  | error error =>
      intro refusal refused
      cases refused
      exact ⟨document, read, rfl⟩

end

private theorem Client.explains_framesOf (client : Client) (body : Json) :
    Explains client.report (client.framesOf body) := by
  refine (explains_entriesOf body).bind fun fields => ?_
  split
  · exact explains_ok []
  · exact (explains_readNode _).bind fun root => explains_ok root.frames

private theorem Client.explains_get {α : Type} (client : Client) (path : String)
    (parameters : Option (List Parameter)) (replies : Replies) {look : Json → Except Failure α}
    (explains : ∀ body, Explains client.report (look body)) :
    Explains client.report (client.get path parameters replies look).result := by
  intro refusal refused
  cases answered : (client.policy.execute (client.order path parameters) replies).result with
  | ok body =>
      simp only [get, Run.finish, answered] at refused
      exact explains body refusal refused
  | error error =>
      simp only [get, Run.finish, answered] at refused
      cases error with
      | remote error =>
          simp only [failureOf] at refused
          split at refused <;> cases Except.error.inj refused
      | foreign _ | order _ | wait => cases refused

theorem Client.explains_fetchFrame (client : Client) (fileKey frameId : String)
    (replies : Replies) :
    Explains client.report (client.fetchFrame fileKey frameId replies).result :=
  client.explains_get _ _ replies fun body =>
    (explains_documentOf _ body).bind explains_readNode

theorem Client.explains_listFrames (client : Client) (fileKey : String) (replies : Replies) :
    Explains client.report (client.listFrames fileKey replies).result :=
  client.explains_get _ _ replies client.explains_framesOf

end DesignCompiler.Figma
