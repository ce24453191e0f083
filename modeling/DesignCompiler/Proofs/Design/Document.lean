import DesignCompiler.Proofs.Design.Rereading
import DesignCompiler.Proofs.Json.Document
import DesignCompiler.Proofs.Number.Lenient

/-!
Contract: a tree that was read from a JSON text can be written as one.

Owns:
- the records whose fields and other entries are values that texts denote;
- the law that the tree of a value which a text denotes is written as such a value again.

Numbers that were given as texts are the reason for a proof: they must not have become too long.

Does not own: what is read of the written tree, see `DesignCompiler.Proofs.Design.Rereading`.
-/

set_option autoImplicit false

namespace DesignCompiler.Design

/-! ### Records -/

/-- A record is a value that texts denote if its fields and its other entries are and none of these
has the key of a field. -/
theorem isDocument_record (names : List String) (distinct : names.Nodup)
    {slots : List (String × Option Json)} (named : slots.map Prod.fst = names) {extras : Fields}
    (apart : ∀ entry ∈ extras, entry.1 ∉ names) (others : (Json.object extras).IsDocument)
    (values : ∀ slot ∈ slots, ∀ value ∈ slot.2, value.IsDocument) :
    (Json.object (recordEntries slots extras)).IsDocument := by
  cases others with
  | object extrasDistinct inside =>
      have present : (presentExtras extras).Sublist extras := List.filter_sublist
      refine .object ?_ ?_
      · rw [recordEntries, List.map_append, keys_entriesOf]
        have written : ((slots.filter (·.2.isSome)).map Prod.fst).Sublist names :=
          named ▸ List.filter_sublist.map _
        refine List.nodup_append.mpr ⟨distinct.sublist written,
          extrasDistinct.sublist (present.map _), ?_⟩
        rintro key isField _ isOther rfl
        obtain ⟨entry, isEntry, rfl⟩ := List.mem_map.mp isOther
        exact apart entry (present.subset isEntry) (written.subset isField)
      · intro entry isEntry
        rcases List.mem_append.mp isEntry with isField | isOther
        · exact values _ (mem_entriesOf.mp isField) entry.2 rfl
        · exact inside entry (present.subset isOther)

/-- A value that is present is one that texts denote. -/
theorem isDocument_of_mem_map {α : Type} {toJson : α → Json} {record : Option α}
    (isValue : ∀ found ∈ record, (toJson found).IsDocument) :
    ∀ value ∈ record.map toJson, value.IsDocument := by
  intro value isPresent
  obtain ⟨found, isFound, rfl⟩ := Option.map_eq_some_iff.mp isPresent
  exact isValue found isFound

private theorem isDocument_of_mem_some {value : Json} (isValue : value.IsDocument) :
    ∀ found ∈ some value, found.IsDocument := by
  rintro found ⟨⟩
  exact isValue

private theorem isDocument_text (text : Option String) :
    ∀ value ∈ text.map Json.string, value.IsDocument :=
  isDocument_of_mem_map fun text _ => .string text

private theorem isDocument_flag (flag : Option Bool) :
    ∀ value ∈ flag.map Json.bool, value.IsDocument :=
  isDocument_of_mem_map fun flag _ => .bool flag

/-! ### Fields that are read -/

private theorem isReadable_of_number? {value : Json} (document : value.IsDocument) {n : Number}
    (read : number? value = some n) : Json.IsReadable n := by
  cases document with
  | number readable =>
      cases read
      exact readable
  | bool flag =>
      cases read
      cases flag <;> decide
  | string text => exact isReadable_of_lenientNumber? read
  | null | array | object => cases read

section

variable {fields : Fields} (document : (Json.object fields).IsDocument)

include document

theorem isDocument_of_field? {name : String} {value : Json}
    (found : field? fields name = some value) : value.IsDocument := by
  obtain ⟨key, isEntry⟩ := exists_lookup_of_field? found
  cases document with
  | object _ inside => exact inside _ (Fields.mem_of_lookup isEntry)

private theorem isDocument_extrasOf (declared : List String) :
    (Json.object (extrasOf declared fields)).IsDocument := by
  have kept : (extrasOf declared fields).Sublist fields := List.filter_sublist
  cases document with
  | object distinct inside =>
      exact .object (distinct.sublist (kept.map _)) fun entry isEntry =>
        inside entry (kept.subset isEntry)

theorem isReadable_of_optionalNumber {name : String} {n : Number}
    (read : optionalNumber fields name = some n) : Json.IsReadable n := by
  obtain ⟨value, found, read⟩ := Option.bind_eq_some_iff.mp read
  exact isReadable_of_number? (isDocument_of_field? document found) read

private theorem isDocument_optionalNumber (name : String) :
    ∀ value ∈ (optionalNumber fields name).map Json.number, value.IsDocument :=
  isDocument_of_mem_map fun _ isNumber => .number (isReadable_of_optionalNumber document isNumber)

private theorem isDocument_requiredNumber {name : String} {default n : Number}
    (usual : Json.IsReadable default) (read : requiredNumber fields name default = some n) :
    ∀ value ∈ some (Json.number n), value.IsDocument := by
  refine isDocument_of_mem_some (.number ?_)
  unfold requiredNumber at read
  split at read
  · cases read
    exact usual
  · next value found => exact isReadable_of_number? (isDocument_of_field? document found) read

end

private theorem notMem_of_mem_extrasOf {declared : List String} {fields : Fields}
    {entry : String × Json} (isExtra : entry ∈ extrasOf declared fields) : entry.1 ∉ declared := by
  intro isName
  have undeclared := (List.mem_filter.mp isExtra).2
  rw [isDeclared_iff.mpr (Or.inl isName)] at undeclared
  cases undeclared

/-! ### Records that are read -/

private theorem Color.isDocument_of_read? {value : Json} (document : value.IsDocument)
    {color : Color} (read : Color.read? value = some color) : color.toJson.IsDocument := by
  cases value with
  | object fields =>
      simp only [Color.read?, Option.bind_eq_bind, Option.bind_eq_some_iff, Option.some.injEq]
        at read
      obtain ⟨red, isRed, green, isGreen, blue, isBlue, alpha, isAlpha, rfl⟩ := read
      rw [Color.toJson_eq]
      refine isDocument_record colorFields (by decide) rfl
        (fun entry => notMem_of_mem_extrasOf) (isDocument_extrasOf document colorFields) ?_
      simp only [Color.slots, List.forall_mem_cons]
      exact ⟨isDocument_requiredNumber document (by decide) isRed,
        isDocument_requiredNumber document (by decide) isGreen,
        isDocument_requiredNumber document (by decide) isBlue,
        isDocument_requiredNumber document (by decide) isAlpha, List.forall_mem_nil _⟩
  | _ => cases read

private theorem Box.isDocument_of_read? {value : Json} (document : value.IsDocument) {box : Box}
    (read : Box.read? value = some box) : box.toJson.IsDocument := by
  cases value with
  | object fields =>
      simp only [Box.read?, Option.bind_eq_bind, Option.bind_eq_some_iff, Option.some.injEq]
        at read
      obtain ⟨x, isX, y, isY, width, isWidth, height, isHeight, rfl⟩ := read
      rw [Box.toJson_eq]
      refine isDocument_record boxFields (by decide) rfl
        (fun entry => notMem_of_mem_extrasOf) (isDocument_extrasOf document boxFields) ?_
      simp only [Box.slots, List.forall_mem_cons]
      exact ⟨isDocument_requiredNumber document (by decide) isX,
        isDocument_requiredNumber document (by decide) isY,
        isDocument_requiredNumber document (by decide) isWidth,
        isDocument_requiredNumber document (by decide) isHeight, List.forall_mem_nil _⟩
  | _ => cases read

private theorem TextStyle.isDocument_of_read? {value : Json} (document : value.IsDocument)
    {style : TextStyle} (read : TextStyle.read? value = some style) :
    style.toJson.IsDocument := by
  cases value with
  | object fields =>
      obtain rfl := Option.some.inj read
      rw [TextStyle.toJson_eq]
      refine isDocument_record textStyleFields (by decide) rfl
        (fun entry => notMem_of_mem_extrasOf) (isDocument_extrasOf document textStyleFields) ?_
      simp only [TextStyle.slots, List.forall_mem_cons]
      exact ⟨isDocument_optionalNumber document _, isDocument_text _,
        isDocument_optionalNumber document _, isDocument_optionalNumber document _,
        isDocument_optionalNumber document _, isDocument_text _, List.forall_mem_nil _⟩
  | _ => cases read

/-- The record of a field, if it can be read. -/
theorem isDocument_of_read? {α : Type} {read? : Json → Option α} {toJson : α → Json}
    (reads : ∀ {value}, value.IsDocument → ∀ {record}, read? value = some record →
      (toJson record).IsDocument)
    {fields : Fields} (document : (Json.object fields).IsDocument) (name : String) :
    ∀ value ∈ ((field? fields name).bind read?).map toJson, value.IsDocument := by
  refine isDocument_of_mem_map fun record isRecord => ?_
  obtain ⟨value, found, read⟩ := Option.bind_eq_some_iff.mp isRecord
  exact reads (isDocument_of_field? document found) read

private theorem Paint.isDocument_toJson_read {value : Json} (document : value.IsDocument) :
    (Paint.read value).toJson.IsDocument := by
  -- what is no object is read as an object without entries would be
  have ofObject {fields : Fields} (document : (Json.object fields).IsDocument) :
      (Paint.read (.object fields)).toJson.IsDocument := by
    rw [Paint.toJson_eq]
    refine isDocument_record paintFields (by decide) rfl
      (fun entry => notMem_of_mem_extrasOf) (isDocument_extrasOf document paintFields) ?_
    simp only [Paint.slots, List.forall_mem_cons]
    exact ⟨isDocument_of_mem_some (.string _), isDocument_flag _,
      isDocument_of_read? Color.isDocument_of_read? document "color",
      isDocument_optionalNumber document "opacity", List.forall_mem_nil _⟩
  cases value with
  | object fields => exact ofObject document
  | _ => exact ofObject Json.isDocument_noFields

private theorem isDocument_readPaints {fields : Fields} (document : (Json.object fields).IsDocument)
    (name : String) :
    ∀ value ∈ some (Json.array ((readPaints (field? fields name)).map Paint.toJson)),
      value.IsDocument := by
  refine isDocument_of_mem_some (.array fun item isItem => ?_)
  obtain ⟨paint, isPaint, rfl⟩ := List.mem_map.mp isItem
  unfold readPaints at isPaint
  split at isPaint
  · next items found =>
      obtain ⟨value, isValue, rfl⟩ := List.mem_map.mp isPaint
      cases isDocument_of_field? document found with
      | array inside => exact Paint.isDocument_toJson_read (inside value isValue)
  · cases isPaint

/-! ### Trees -/

private theorem isDocument_slots_readKind {fields : Fields}
    (document : (Json.object fields).IsDocument) :
    ∀ slot ∈ (readKind fields).slots, ∀ value ∈ slot.2, value.IsDocument := by
  unfold readKind
  split
  case h_4 =>
    simp only [Kind.slots, List.forall_mem_cons]
    exact ⟨isDocument_text _,
      isDocument_of_read? TextStyle.isDocument_of_read? document _, List.forall_mem_nil _⟩
  all_goals exact List.forall_mem_nil _

private theorem isDocument_slots_readAttributes {fields : Fields}
    (document : (Json.object fields).IsDocument) {children : List Json}
    (below : ∀ child ∈ children, child.IsDocument) :
    ∀ slot ∈ (readAttributes fields).slots children, ∀ value ∈ slot.2, value.IsDocument := by
  rw [Attributes.slots, List.forall_mem_append]
  refine ⟨?_, isDocument_slots_readKind document⟩
  have number := isDocument_optionalNumber document
  simp only [Attributes.commonSlots, List.forall_mem_cons]
  exact ⟨isDocument_of_mem_some (.string _), isDocument_of_mem_some (.string _),
    isDocument_of_read? Box.isDocument_of_read? document _,
    isDocument_of_read? Color.isDocument_of_read? document _,
    isDocument_readPaints document _, isDocument_readPaints document _,
    number _, number _, isDocument_text _, isDocument_text _, isDocument_text _, number _,
    number _, number _, number _, number _, number _, isDocument_of_mem_some (.array below),
    isDocument_of_mem_some (.string _), List.forall_mem_nil _⟩

private theorem isDocument_toJson_object {fields : Fields}
    (document : (Json.object fields).IsDocument)
    {children : List Node} (below : ∀ child ∈ children, child.toJson.IsDocument) :
    (Node.toJson ⟨readAttributes fields, children⟩).IsDocument := by
  have declared := (readAttributes fields).names_slots (children.map Node.toJson)
  rw [Node.toJson_eq]
  refine isDocument_record _ ?_ declared (fun entry => notMem_of_mem_extrasOf)
    (isDocument_extrasOf document _) (isDocument_slots_readAttributes document ?_)
  · rw [← Kind.names_schema]
    cases (readAttributes fields).kind <;> exact nodup_nodeSchema _
  · intro value isValue
    obtain ⟨child, isChild, rfl⟩ := List.mem_map.mp isValue
    exact below child isChild

private theorem isDocument_childItem {fields : Fields} (document : (Json.object fields).IsDocument)
    {item : Json} (isItem : item ∈ childItems fields) : item.IsDocument := by
  have children := isDocument_of_field? document (field?_of_lookup (lookup_children_of_mem isItem))
  cases children with
  | array inside => exact inside item isItem

/-- The tree of a value that a text denotes is written as such a value. -/
theorem isDocument_toJson_buildNode {value : Json} (document : value.IsDocument) :
    (buildNode value).toJson.IsDocument := by
  induction value using treeInduction with
  | leaf value noObject =>
      -- what is no object describes the node of an object without entries
      have bare : buildNode value = buildNode (.object []) := by
        cases value with
        | object fields => exact absurd rfl (noObject fields)
        | _ => rfl
      rw [bare, buildNode_object]
      exact isDocument_toJson_object Json.isDocument_noFields (List.forall_mem_nil _)
  | object fields inductionHypothesis =>
      rw [buildNode_object]
      refine isDocument_toJson_object document fun child isChild => ?_
      obtain ⟨item, isItem, rfl⟩ := List.mem_map.mp isChild
      exact inductionHypothesis item isItem (isDocument_childItem document isItem)

theorem Node.isDocument_of_read {value : Json} (document : value.IsDocument) {node : Node}
    (read : Node.read value = .ok node) : node.toJson.IsDocument := by
  rw [Node.eq_buildNode_of_read read]
  exact isDocument_toJson_buildNode document

end DesignCompiler.Design
