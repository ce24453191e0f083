import DesignCompiler.Proofs.CommandLine.Fetch
import DesignCompiler.Proofs.Figma.Fetch
import Mathlib.Tactic.ByContra

/-!
Contract: the shapes of answers that a design service can be asked for.

Owns:
- `Reports` and `Escapes`: a result that the user is told about, and one that nobody expects;
- `HasFileShape`, `HasNodeShape` and `HasFrameShape`, the answers that lead to the former;
- the law that every other answer leads to the latter.

Does not own: what is made of answers with a document, see `DesignCompiler.Proofs.Figma.Fetch`.
-/

set_option autoImplicit false

namespace DesignCompiler.Figma

open DesignCompiler.Http

/-! ### Results -/

/-- A result is a value or a failure that is shown to the user. -/
def Reports {α : Type} (result : Except Failure α) : Prop :=
  ∀ failure, result = .error failure → failure.IsReported

/-- A result is a failure that nobody expects. -/
def Escapes {α : Type} (result : Except Failure α) : Prop :=
  ∃ failure, result = .error failure ∧ failure.isExpected = false

section

variable {α β : Type}

theorem reports_ok (value : α) : Reports (Except.ok value) := by
  intro failure failed
  cases failed

theorem reports_error {failure : Failure} (reported : failure.IsReported) :
    Reports (Except.error failure : Except Failure α) := by
  intro _ failed
  cases failed
  exact reported

theorem Reports.bind {result : Except Failure α} {next : α → Except Failure β}
    (reports : Reports result) (nextReports : ∀ value, result = .ok value → Reports (next value)) :
    Reports (result >>= next) := by
  cases made : result with
  | error failure => exact reports_error (reports failure made)
  | ok value => exact nextReports value made

theorem Escapes.bind {result : Except Failure α} (escapes : Escapes result)
    (next : α → Except Failure β) : Escapes (result >>= next) := by
  obtain ⟨failure, rfl, unexpected⟩ := escapes
  exact ⟨failure, rfl, unexpected⟩

private theorem escapes_shape (fault : ShapeFault) :
    Escapes (.error (.shape fault) : Except Failure α) :=
  ⟨_, rfl, rfl⟩

private theorem escapes_entriesOf {body : Json} (noObject : ∀ fields, body ≠ .object fields) :
    Escapes (entriesOf body) := by
  cases body with
  | object fields => exact absurd rfl (noObject fields)
  | null | bool _ | number _ | string _ | array _ => exact escapes_shape .noEntries

end

/-! ### Designs -/

section

variable (report : Option Design.Report)

private theorem reports_readNode {document : Json} (atomic : Design.AtomicTypes document) :
    Reports (readNode document report) := by
  by_cases isTree : Design.IsTree document
  · rw [readNode, isTree.read_eq]
    exact reports_ok _
  · obtain ⟨found, unread⟩ := Design.exists_read_eq_defective isTree atomic
    rw [readNode, unread]
    exact reports_error (.design found _)

private theorem escapes_readNode {document : Json} (compound : ¬ Design.AtomicTypes document) :
    Escapes (readNode document report) := by
  rw [readNode, Design.read_eq_compoundType compound]
  exact ⟨_, rfl, rfl⟩

private theorem isBlank_eq_false_of_compound {document : Json}
    (compound : ¬ Design.AtomicTypes document) : document.isBlank = false := by
  by_contra isBlank
  apply compound
  cases document with
  | object fields =>
      cases fields with
      | nil => exact (Design.IsTree.childless (Or.inl rfl) (Or.inl rfl)).atomicTypes
      | cons entry rest => exact absurd rfl isBlank
  | null | bool _ | number _ | string _ | array _ =>
      exact Design.atomicTypes_of_not_object nofun

def HasAtomicDocument (fields : Fields) : Prop :=
  ∀ document, fields.lookup "document" = some document → Design.AtomicTypes document

private theorem HasAtomicDocument.reports_readNode {fields : Fields} {document : Json}
    (atomic : HasAtomicDocument fields) (present : present? fields "document" = some document) :
    Reports (readNode document report) :=
  Figma.reports_readNode report (atomic document (lookup_of_present? present).1)

private theorem exists_of_not_hasAtomicDocument {fields : Fields}
    (compound : ¬ HasAtomicDocument fields) :
    ∃ document, present? fields "document" = some document ∧
      Escapes (readNode document report) := by
  by_contra none
  refine compound fun document found => ?_
  by_contra compound
  have present := present?_eq_some found (isBlank_eq_false_of_compound compound)
  exact none ⟨document, present, escapes_readNode report compound⟩

end

/-! ### Files -/

/-- An answer is an object, and no node of a document in it has a compound type. -/
def HasFileShape (body : Json) : Prop :=
  ∃ fields, body = .object fields ∧ HasAtomicDocument fields

theorem Client.reports_framesOf (client : Client) {body : Json} (shape : HasFileShape body) :
    Reports (client.framesOf body) := by
  obtain ⟨fields, rfl, atomic⟩ := shape
  unfold framesOf
  rw [entriesOf, ok_bind]
  cases present : present? fields "document" with
  | none => exact reports_ok []
  | some document =>
      exact (atomic.reports_readNode client.report present).bind
        fun root _ => reports_ok root.frames

theorem Client.escapes_framesOf (client : Client) {body : Json} (misshapen : ¬ HasFileShape body) :
    Escapes (client.framesOf body) := by
  unfold framesOf
  by_cases isObject : ∃ fields, body = .object fields
  · obtain ⟨fields, rfl⟩ := isObject
    obtain ⟨document, present, escapes⟩ :=
      exists_of_not_hasAtomicDocument client.report fun atomic => misshapen ⟨fields, rfl, atomic⟩
    rw [entriesOf, ok_bind, present]
    exact escapes.bind _
  · exact (escapes_entriesOf (not_exists.mp isObject)).bind _

/-! ### Nodes -/

/-- Entries stand under a key, unless what stands there counts as absent. -/
def HoldsEntries (fields : Fields) (key : String) : Prop :=
  ∀ value, fields.lookup key = some value → value.isBlank = false →
    ∃ entries, value = .object entries

def entriesAt (fields : Fields) (key : String) : Fields :=
  match fields.lookup key with
  | some (.object entries) => entries
  | _ => []

def nodeAt (body : Fields) (id : String) : Fields :=
  entriesAt (entriesAt body "nodes") id

theorem HoldsEntries.entriesUnder_eq {fields : Fields} {key : String}
    (holds : HoldsEntries fields key) : entriesUnder fields key = .ok (entriesAt fields key) := by
  unfold entriesUnder
  cases present : present? fields key with
  | some value =>
      obtain ⟨found, notBlank⟩ := lookup_of_present? present
      obtain ⟨entries, rfl⟩ := holds value found notBlank
      rw [entriesAt, found]
      rfl
  | none =>
      apply congrArg Except.ok
      unfold entriesAt
      split
      · next entries found =>
          cases entries with
          | nil => rfl
          | cons entry rest =>
              rw [present?_eq_some found rfl] at present
              cases present
      · rfl

private theorem exists_of_not_holdsEntries {fields : Fields} {key : String}
    (misshapen : ¬ HoldsEntries fields key) :
    ∃ value, present? fields key = some value ∧ ∀ entries, value ≠ .object entries := by
  by_contra none
  refine misshapen fun value found notBlank => ?_
  by_contra noObject
  exact none ⟨value, present?_eq_some found notBlank, not_exists.mp noObject⟩

private theorem escapes_entriesUnder {fields : Fields} {key : String}
    (misshapen : ¬ HoldsEntries fields key) : Escapes (entriesUnder fields key) := by
  obtain ⟨value, present, noObject⟩ := exists_of_not_holdsEntries misshapen
  unfold entriesUnder
  rw [present]
  exact escapes_entriesOf noObject

private theorem HoldsEntries.nodeEntries_eq {body : Fields} (holds : HoldsEntries body "nodes") :
    nodeEntries (.object body) = .ok body := by
  unfold nodeEntries
  rw [entriesOf, ok_bind]
  cases present : present? body "nodes" with
  | none => rfl
  | some value =>
      obtain ⟨found, notBlank⟩ := lookup_of_present? present
      obtain ⟨entries, rfl⟩ := holds value found notBlank
      rfl

private theorem nodeEntries_cases (body : Fields) :
    nodeEntries (.object body) = .ok body ∨ Escapes (nodeEntries (.object body)) := by
  unfold nodeEntries
  rw [entriesOf, ok_bind]
  split
  · exact Or.inr (escapes_shape .wrongType)
  · exact Or.inr (escapes_shape .wrongType)
  · exact Or.inl rfl

/-- The nodes of an answer have entries, and so has the node with an identifier. -/
structure HasNodeEntries (id : String) (body : Fields) : Prop where
  nodes : HoldsEntries body "nodes"
  node : HoldsEntries (entriesAt body "nodes") id

/-- An answer is an object in which entries can be looked up for a node. -/
def HasNodeShape (id : String) (body : Json) : Prop :=
  ∃ fields, body = .object fields ∧ HasNodeEntries id fields

/-- Besides, no node of the document there has a compound type. -/
def HasFrameShape (id : String) (body : Json) : Prop :=
  ∃ fields, body = .object fields ∧ HasNodeEntries id fields ∧
    HasAtomicDocument (nodeAt fields id)

section

variable {id : String} {fields : Fields}

theorem HasNodeEntries.documentOf_eq (has : HasNodeEntries id fields) :
    documentOf id (.object fields) =
      match present? (nodeAt fields id) "document" with
      | some document => .ok document
      | none => .error frameNotFound := by
  unfold documentOf
  rw [has.nodes.nodeEntries_eq, ok_bind, has.nodes.entriesUnder_eq, ok_bind,
    has.node.entriesUnder_eq, ok_bind]
  rfl

private theorem escapes_documentOf_object (misshapen : ¬ HasNodeEntries id fields) :
    Escapes (documentOf id (.object fields)) := by
  unfold documentOf
  rcases nodeEntries_cases fields with counted | escapes
  · rw [counted, ok_bind]
    by_cases nodes : HoldsEntries fields "nodes"
    · have node : ¬ HoldsEntries (entriesAt fields "nodes") id :=
        fun node => misshapen ⟨nodes, node⟩
      rw [nodes.entriesUnder_eq, ok_bind]
      exact (escapes_entriesUnder node).bind _
    · exact (escapes_entriesUnder nodes).bind _
  · exact escapes.bind _

end

variable {id : String} {body : Json}

theorem reports_documentOf (shape : HasNodeShape id body) : Reports (documentOf id body) := by
  obtain ⟨fields, rfl, has⟩ := shape
  rw [has.documentOf_eq]
  split
  · exact reports_ok _
  · exact reports_error (.call _)

theorem escapes_documentOf (misshapen : ¬ HasNodeShape id body) :
    Escapes (documentOf id body) := by
  by_cases isObject : ∃ fields, body = .object fields
  · obtain ⟨fields, rfl⟩ := isObject
    exact escapes_documentOf_object fun has => misshapen ⟨fields, rfl, has⟩
  · unfold documentOf nodeEntries
    exact ((escapes_entriesOf (not_exists.mp isObject)).bind _).bind _

theorem reports_readDocument (report : Option Design.Report) (shape : HasFrameShape id body) :
    Reports (documentOf id body >>= fun document => readNode document report) := by
  obtain ⟨fields, rfl, has, atomic⟩ := shape
  rw [has.documentOf_eq]
  split
  · next present => exact atomic.reports_readNode report present
  · exact reports_error (.call _)

theorem escapes_readDocument (report : Option Design.Report) (misshapen : ¬ HasFrameShape id body) :
    Escapes (documentOf id body >>= fun document => readNode document report) := by
  by_cases shape : HasNodeShape id body
  · obtain ⟨fields, rfl, has⟩ := shape
    obtain ⟨document, present, escapes⟩ :=
      exists_of_not_hasAtomicDocument report fun atomic => misshapen ⟨fields, rfl, has, atomic⟩
    rw [has.documentOf_eq, present]
    exact escapes
  · exact (escapes_documentOf shape).bind _

end DesignCompiler.Figma
