import DesignCompiler.Proofs.Json.Fields

/-!
Contract: values restricted to the keys of another value.

Owns:
- `Json.HasDistinctKeys`, the values no object of which has two entries of one key;
- `Json.restrictedTo`, a value without the entries that another value does not have, at every depth.

The entries that stay are listed in the order of the other value: two objects are compared by what
stands under their keys.

Does not own: which entries a written tree has, see `DesignCompiler.Proofs.Design.Preservation`.
-/

set_option autoImplicit false

namespace DesignCompiler.Json

/-- The keys of every object are distinct, at every depth. -/
inductive HasDistinctKeys : Json → Prop where
  | null : HasDistinctKeys .null
  | bool (value : Bool) : HasDistinctKeys (.bool value)
  | number (value : Number) : HasDistinctKeys (.number value)
  | string (value : String) : HasDistinctKeys (.string value)
  | array {items : List Json} (inside : ∀ item ∈ items, HasDistinctKeys item) :
      HasDistinctKeys (.array items)
  | object {fields : Fields} (distinct : (fields.map Prod.fst).Nodup)
      (inside : ∀ entry ∈ fields, HasDistinctKeys entry.2) : HasDistinctKeys (.object fields)

attribute [simp] HasDistinctKeys.null HasDistinctKeys.bool HasDistinctKeys.number
  HasDistinctKeys.string

@[simp]
theorem hasDistinctKeys_array {items : List Json} :
    (Json.array items).HasDistinctKeys ↔ ∀ item ∈ items, item.HasDistinctKeys := by
  constructor
  · rintro ⟨⟩
    assumption
  · exact .array

@[simp]
theorem hasDistinctKeys_object {fields : Fields} :
    (Json.object fields).HasDistinctKeys ↔
      (fields.map Prod.fst).Nodup ∧ ∀ entry ∈ fields, entry.2.HasDistinctKeys := by
  constructor
  · rintro ⟨⟩
    constructor <;> assumption
  · rintro ⟨distinct, inside⟩
    exact .object distinct inside

mutual

/-- A value restricted to the keys of another one. -/
def restrictedTo : Json → Json → Json
  | .object fields, .object shape => .object (restrictFields fields shape)
  | .array items, .array shapes => .array (restrictItems items shapes)
  | value, _ => value

/-- The entries under the keys of other entries, in the order of these. -/
def restrictFields (fields : Fields) : List (String × Json) → Fields
  | [] => []
  | (key, shape) :: rest =>
    match fields.lookup key with
    | some value => (key, restrictedTo value shape) :: restrictFields fields rest
    | none => restrictFields fields rest

/-- The items of a list, each restricted to the item at its place in another list. -/
def restrictItems : List Json → List Json → List Json
  | item :: items, shape :: shapes => restrictedTo item shape :: restrictItems items shapes
  | items, _ => items

end

theorem restrictFields_eq {fields shape : Fields}
    (kept : ∀ entry ∈ shape, ∃ value, fields.lookup entry.1 = some value ∧
      value.restrictedTo entry.2 = entry.2) : restrictFields fields shape = shape := by
  induction shape with
  | nil => rfl
  | cons entry rest inductionHypothesis =>
      obtain ⟨⟨value, found, same⟩, others⟩ := List.forall_mem_cons.mp kept
      rw [restrictFields, found]
      show (entry.1, value.restrictedTo entry.2) :: restrictFields fields rest = entry :: rest
      rw [same, inductionHypothesis others]

theorem restrictItems_map_eq {items : List Json} {f : Json → Json}
    (same : ∀ item ∈ items, (f item).restrictedTo item = item) :
    restrictItems (items.map f) items = items := by
  induction items with
  | nil => rfl
  | cons item rest inductionHypothesis =>
      obtain ⟨first, others⟩ := List.forall_mem_cons.mp same
      rw [List.map_cons, restrictItems, first, inductionHypothesis others]

/-- A value is restricted to itself by nothing. -/
theorem HasDistinctKeys.restrictedTo_self {value : Json} (distinct : value.HasDistinctKeys) :
    value.restrictedTo value = value := by
  induction distinct with
  | array _ inductionHypothesis =>
      have items := restrictItems_map_eq (f := id) inductionHypothesis
      rw [List.map_id] at items
      rw [restrictedTo, items]
  | object distinct _ inductionHypothesis =>
      rw [restrictedTo, restrictFields_eq]
      intro entry isEntry
      exact ⟨entry.2, Fields.lookup_of_mem distinct isEntry, inductionHypothesis entry isEntry⟩
  | _ => rw [restrictedTo] <;> exact nofun

theorem HasDistinctKeys.of_lookup {fields : Fields}
    (distinct : (Json.object fields).HasDistinctKeys) {key : String} {value : Json}
    (found : fields.lookup key = some value) : value.HasDistinctKeys :=
  (hasDistinctKeys_object.mp distinct).2 _ (Fields.mem_of_lookup found)

theorem HasDistinctKeys.of_mem {items : List Json} (distinct : (Json.array items).HasDistinctKeys)
    {item : Json} (isItem : item ∈ items) : item.HasDistinctKeys :=
  hasDistinctKeys_array.mp distinct item isItem

end DesignCompiler.Json
