import DesignCompiler.Design.Writing
import DesignCompiler.Proofs.Design.Schema

/-!
Contract: the entries that records are written as.

Owns:
- `entriesOf`, the entries of a list of fields of which some have a value;
- the fields of every record with the values that are written for them, in the order of writing;
- what is found in a written record: under the name of a field its value, and under no other
  spelling anything, if the entries that belong to no field are foreign to all of them.

Does not own: the values that are read, see `DesignCompiler.Proofs.Design.Rereading`.
-/

set_option autoImplicit false

namespace DesignCompiler.Design

def entriesOf (slots : List (String × Option Json)) : Fields :=
  slots.flatMap fun slot => entry? slot.1 slot.2

/-- Entries whose keys spell no declared field. -/
def IsForeign (names : List String) (extras : Fields) : Prop :=
  ∀ entry ∈ extras, ∀ name ∈ names, entry.1 ∉ spellings name

/-! ### Looking up -/

private theorem entriesOf_cons (slot : String × Option Json) (slots : List (String × Option Json)) :
    entriesOf (slot :: slots) = entry? slot.1 slot.2 ++ entriesOf slots :=
  List.flatMap_cons

theorem mem_entriesOf {slots : List (String × Option Json)} {entry : String × Json} :
    entry ∈ entriesOf slots ↔ (entry.1, some entry.2) ∈ slots := by
  unfold entriesOf
  rw [List.mem_flatMap]
  constructor
  · rintro ⟨⟨name, value⟩, isSlot, isEntry⟩
    cases value with
    | none => cases isEntry
    | some value =>
        obtain rfl := List.mem_singleton.mp isEntry
        exact isSlot
  · intro isSlot
    exact ⟨_, isSlot, List.mem_singleton.mpr rfl⟩

theorem keys_entriesOf (slots : List (String × Option Json)) :
    (entriesOf slots).map Prod.fst = (slots.filter (·.2.isSome)).map Prod.fst := by
  induction slots with
  | nil => rfl
  | cons slot slots inductionHypothesis =>
      rw [entriesOf_cons, List.map_append, inductionHypothesis, List.filter_cons]
      cases slot.2 <;> rfl

private theorem lookup_entriesOf_of_notMem {slots : List (String × Option Json)} {key : String}
    (undeclared : key ∉ slots.map Prod.fst) : (entriesOf slots).lookup key = none := by
  refine Fields.lookup_eq_none fun entry isEntry same => undeclared ?_
  rw [← same]
  exact List.mem_map_of_mem (mem_entriesOf.mp isEntry)

private theorem lookup_entriesOf {slots : List (String × Option Json)}
    (distinct : (slots.map Prod.fst).Nodup) {name : String} {value : Option Json}
    (isSlot : (name, value) ∈ slots) : (entriesOf slots).lookup name = value := by
  induction slots with
  | nil => cases isSlot
  | cons slot slots inductionHypothesis =>
      rw [List.map_cons, List.nodup_cons] at distinct
      rw [entriesOf_cons, Fields.lookup_append]
      rcases List.mem_cons.mp isSlot with rfl | later
      · rw [lookup_entriesOf_of_notMem distinct.1, Option.or_none]
        cases value with
        | none => rfl
        | some value => simp [Fields.lookup_cons, entry?]
      · have other : slot.1 ≠ name := by
          rintro rfl
          exact distinct.1 (List.mem_map.mpr ⟨_, later, rfl⟩)
        have absent : Fields.lookup ( entry? slot.1 slot.2) name = none := by
          cases slot.2 <;> simp [Fields.lookup_cons, other, entry?]
        rw [absent, Option.none_or, inductionHypothesis distinct.2 later]

theorem presentExtras_presentExtras (extras : Fields) :
    presentExtras (presentExtras extras) = presentExtras extras := by
  unfold presentExtras
  rw [List.filter_filter]
  simp

theorem IsForeign.presentExtras {names : List String} {extras : Fields}
    (foreign : IsForeign names extras) : IsForeign names (presentExtras extras) :=
  fun entry isEntry => foreign entry (List.mem_filter.mp isEntry).1

theorem IsForeign.lookup_eq_none {names : List String} {extras : Fields}
    (foreign : IsForeign names extras) {name key : String} (isName : name ∈ names)
    (isSpelling : key ∈ spellings name) : extras.lookup key = none :=
  Fields.lookup_eq_none fun entry isEntry same =>
    foreign entry isEntry name isName (same ▸ isSpelling)

/-! ### Written records -/

/-- The entries of a record: those of its fields, and then the others that are not null. -/
def recordEntries (slots : List (String × Option Json)) (extras : Fields) : Fields :=
  entriesOf slots ++ presentExtras extras

/-- The fields of a schema, each listed once, and entries that are foreign to all of them. -/
structure Schema.Writes (schema : Schema) (slots : List (String × Option Json))
    (extras : Fields) : Prop where
  names_eq : slots.map Prod.fst = schema.names
  nodup : schema.names.Nodup
  foreign : IsForeign schema.names extras

/-- A key spells one declared field at most. -/
theorem Schema.eq_of_spelling (schema : Schema) {name other : String} (isName : name ∈ schema.names)
    (isOther : other ∈ schema.names) (isSpelling : other ∈ spellings name) : other = name := by
  obtain ⟨field, isField, rfl⟩ := List.mem_map.mp isName
  obtain ⟨otherField, isOtherField, rfl⟩ := List.mem_map.mp isOther
  exact congrArg Prod.fst
    (schema.distinct _ isOtherField _ isField _ List.mem_cons_self isSpelling)

namespace Schema.Writes

variable {schema : Schema} {slots : List (String × Option Json)} {extras : Fields}

private theorem mem_names (writes : schema.Writes slots extras) {name : String}
    {value : Option Json} (isSlot : (name, value) ∈ slots) : name ∈ schema.names := by
  rw [← writes.names_eq]
  exact List.mem_map_of_mem isSlot

theorem exists_slot (writes : schema.Writes slots extras) {name : String}
    (isName : name ∈ schema.names) : ∃ value, (name, value) ∈ slots := by
  rw [← writes.names_eq] at isName
  obtain ⟨⟨_, value⟩, isSlot, rfl⟩ := List.mem_map.mp isName
  exact ⟨value, isSlot⟩

theorem lookup_of_mem (writes : schema.Writes slots extras) {name : String} {value : Option Json}
    (isSlot : (name, value) ∈ slots) : (recordEntries slots extras).lookup name = value := by
  have isName := writes.mem_names isSlot
  have nodup : (slots.map Prod.fst).Nodup := by
    rw [writes.names_eq]
    exact writes.nodup
  unfold recordEntries
  rw [Fields.lookup_append, lookup_entriesOf nodup isSlot,
    writes.foreign.presentExtras.lookup_eq_none isName List.mem_cons_self, Option.or_none]

theorem lookup_of_notMem (writes : schema.Writes slots extras) {key : String}
    (undeclared : key ∉ schema.names) :
    (recordEntries slots extras).lookup key = (presentExtras extras).lookup key := by
  rw [← writes.names_eq] at undeclared
  unfold recordEntries
  rw [Fields.lookup_append, lookup_entriesOf_of_notMem undeclared, Option.none_or]

/-- A record lists its fields in their order before its other entries. -/
theorem keys_eq (writes : schema.Writes slots extras) :
    (recordEntries slots extras).map Prod.fst =
      schema.names.filter (Fields.has (recordEntries slots extras)) ++
        (presentExtras extras).map Prod.fst := by
  have present (slot : String × Option Json) (isSlot : slot ∈ slots) :
      slot.2.isSome = Fields.has (recordEntries slots extras) slot.1 := by
    rw [Fields.has, writes.lookup_of_mem isSlot]
  have ofFields : (entriesOf slots).map Prod.fst =
      schema.names.filter (Fields.has (recordEntries slots extras)) := by
    rw [keys_entriesOf, List.filter_congr present, ← writes.names_eq, List.filter_map]
    rfl
  rw [← ofFields, ← List.map_append]
  rfl

/-- A declared field of a written record has the value that was written for it. -/
theorem field?_eq (writes : schema.Writes slots extras) :
    ∀ slot ∈ slots, field? (recordEntries slots extras) slot.1 = slot.2 := by
  rintro ⟨name, value⟩ isSlot
  have isName := writes.mem_names isSlot
  have isSpelling : snakeCase name ∈ spellings name := List.mem_cons_of_mem _ List.mem_cons_self
  have own := writes.lookup_of_mem isSlot
  cases value with
  | some value => exact field?_of_lookup own
  | none =>
      refine field?_eq_none fun key isKey => ?_
      by_cases declared : key ∈ schema.names
      · rw [schema.eq_of_spelling isName declared isKey]
        exact own
      · rw [writes.lookup_of_notMem declared]
        exact writes.foreign.presentExtras.lookup_eq_none isName isKey

/-- The other entries of a written record are read as they were. -/
theorem extrasOf_eq (writes : schema.Writes slots extras) :
    extrasOf schema.names (recordEntries slots extras) = presentExtras extras := by
  have ofFields (fields : Fields) :
      (entriesOf slots).filter (fun entry => !isDeclared schema.names fields entry.1) = [] := by
    rw [List.filter_eq_nil_iff]
    intro entry isEntry
    have isName := writes.mem_names (mem_entriesOf.mp isEntry)
    simp [isDeclared_iff.mpr (Or.inl isName)]
  have ofExtras (fields : Fields) :
      (presentExtras extras).filter (fun entry => !isDeclared schema.names fields entry.1) =
        presentExtras extras := by
    rw [List.filter_eq_self]
    intro entry isEntry
    have foreign := writes.foreign.presentExtras entry isEntry
    rw [Bool.not_eq_true', Bool.eq_false_iff]
    intro declared
    rcases isDeclared_iff.mp declared with isName | ⟨name, isName, same, -⟩
    · exact foreign _ isName List.mem_cons_self
    · exact foreign name isName (List.mem_cons_of_mem _ (List.mem_singleton.mpr same.symm))
  unfold extrasOf recordEntries
  rw [List.filter_append, ofFields, ofExtras, List.nil_append]

end Schema.Writes

/-! ### The fields of the records -/

def colorSchema : Schema where
  fields := [("r", .number), ("g", .number), ("b", .number), ("a", .number)]
  distinct := by decide +kernel

def boxSchema : Schema where
  fields := [("x", .number), ("y", .number), ("width", .number), ("height", .number)]
  distinct := by decide +kernel

def Color.slots (color : Color) : List (String × Option Json) :=
  [("r", some (.number color.red)), ("g", some (.number color.green)),
   ("b", some (.number color.blue)), ("a", some (.number color.alpha))]

def Box.slots (box : Box) : List (String × Option Json) :=
  [("x", some (.number box.x)), ("y", some (.number box.y)),
   ("width", some (.number box.width)), ("height", some (.number box.height))]

def Paint.slots (paint : Paint) : List (String × Option Json) :=
  [("type", some (.string paint.kind)), ("visible", paint.visible.map .bool),
   ("color", paint.color.map Color.toJson), ("opacity", paint.opacity.map .number)]

def TextStyle.slots (style : TextStyle) : List (String × Option Json) :=
  [("fontSize", style.fontSize.map .number), ("fontFamily", style.fontFamily.map .string),
   ("fontWeight", style.fontWeight.map .number),
   ("letterSpacing", style.letterSpacing.map .number),
   ("lineHeightPx", style.lineHeight.map .number),
   ("textAlignHorizontal", style.align.map .string)]

def Kind.slots : Kind → List (String × Option Json)
  | .text characters style =>
    [("characters", characters.map .string), ("style", style.map TextStyle.toJson)]
  | _ => []

def Attributes.commonSlots (a : Attributes) (children : List Json) : List (String × Option Json) :=
  [("id", some (.string a.id)), ("name", some (.string a.name)),
   ("absoluteBoundingBox", a.box.map Box.toJson),
   ("backgroundColor", a.background.map Color.toJson),
   ("fills", some (.array (a.fills.map Paint.toJson))),
   ("strokes", some (.array (a.strokes.map Paint.toJson))),
   ("cornerRadius", a.cornerRadius.map .number), ("opacity", a.opacity.map .number),
   ("layoutMode", a.layoutMode.map .string),
   ("primaryAxisAlignItems", a.primaryAlign.map .string),
   ("counterAxisAlignItems", a.counterAlign.map .string),
   ("paddingLeft", a.paddingLeft.map .number), ("paddingRight", a.paddingRight.map .number),
   ("paddingTop", a.paddingTop.map .number), ("paddingBottom", a.paddingBottom.map .number),
   ("itemSpacing", a.itemSpacing.map .number), ("layoutGrow", a.layoutGrow.map .number),
   ("children", some (.array children)), ("type", some (.string a.kind.tag))]

def Attributes.slots (a : Attributes) (children : List Json) : List (String × Option Json) :=
  a.commonSlots children ++ a.kind.slots

theorem Color.toJson_eq (color : Color) :
    color.toJson = .object (recordEntries color.slots color.extras) :=
  rfl

theorem Box.toJson_eq (box : Box) : box.toJson = .object (recordEntries box.slots box.extras) :=
  rfl

theorem Paint.toJson_eq (paint : Paint) :
    paint.toJson = .object (recordEntries paint.slots paint.extras) := by
  simp [Paint.toJson, Paint.slots, recordEntries, entriesOf, numberEntry, entry?]

theorem TextStyle.toJson_eq (style : TextStyle) :
    style.toJson = .object (recordEntries style.slots style.extras) := by
  simp [TextStyle.toJson, TextStyle.slots, recordEntries, entriesOf, numberEntry, textEntry]

private theorem Node.toJsons_eq_map (nodes : List Node) :
    Node.toJsons nodes = nodes.map Node.toJson := by
  induction nodes with
  | nil => rfl
  | cons node rest inductionHypothesis => rw [Node.toJsons, inductionHypothesis, List.map_cons]

theorem Node.toJson_eq (a : Attributes) (children : List Node) :
    Node.toJson ⟨a, children⟩ =
      .object (recordEntries (a.slots (children.map Node.toJson)) a.extras) := by
  rw [Node.toJson, Node.toJsons_eq_map]
  cases kind : a.kind <;>
    simp [Attributes.entriesBeforeChildren, Attributes.entriesAfterChildren, Attributes.slots,
      Attributes.commonSlots, Kind.slots, recordEntries, entriesOf, numberEntry, textEntry, entry?,
      kind]

theorem Attributes.names_slots (a : Attributes) (children : List Json) :
    (a.slots children).map Prod.fst = a.kind.declaredFields := by
  unfold Attributes.slots
  cases a.kind <;> rfl

theorem nodup_nodeSchema : ∀ isText, (nodeSchema isText).names.Nodup := by
  decide

end DesignCompiler.Design
