import DesignCompiler.Proofs.Design.Erasure
import DesignCompiler.Proofs.Design.Slots

/-!
Contract: the objects of a JSON value that are read as records.

Owns:
- `Place`, where a record stands in a node, and the object that stands there;
- `recordAt?`, the object at a place of the node at the end of a path, with the schema of the
  record it is read as;
- `Schema.HasOneSpelling`, the objects in which no declared field has both of its spellings.

An object is at a place whether its members are well formed or not.  An object of which no record
is made, as a colour with a malformed channel, is still found.

Does not own: the records themselves, see `DesignCompiler.Design.Reading`.
-/

set_option autoImplicit false

namespace DesignCompiler

def Json.fields? : Json → Option Fields
  | .object fields => some fields
  | _ => none

def Json.items? : Json → Option (List Json)
  | .array items => some items
  | _ => none

private theorem Json.fields?_eq_some {value : Json} {fields : Fields} :
    value.fields? = some fields ↔ value = .object fields := by
  cases value <;> simp [Json.fields?]

private theorem Json.items?_eq_some {value : Json} {items : List Json} :
    value.items? = some items ↔ value = .array items := by
  cases value <;> simp [Json.items?]

namespace Design

inductive PaintList where
  | fills
  | strokes
deriving DecidableEq

def PaintList.name : PaintList → String
  | .fills => "fills"
  | .strokes => "strokes"

inductive Place where
  | node
  | box
  | background
  | paint (list : PaintList) (position : Nat)
  | paintColor (list : PaintList) (position : Nat)
  | textStyle
deriving DecidableEq

def objectUnder? (fields : Fields) (name : String) : Option Fields :=
  (field? fields name).bind Json.fields?

def paintAt? (fields : Fields) (list : PaintList) (position : Nat) : Option Fields :=
  ((field? fields list.name).bind Json.items?).bind fun items =>
    (items[position]?).bind Json.fields?

/-- The object that stands at a place of a node, with the schema it is read by. -/
def Place.find? (fields : Fields) : Place → Option (Schema × Fields)
  | .node => some (nodeSchema (isTextNode fields), fields)
  | .box => (objectUnder? fields "absoluteBoundingBox").map (boxSchema, ·)
  | .background => (objectUnder? fields "backgroundColor").map (colorSchema, ·)
  | .paint list position => (paintAt? fields list position).map (paintSchema, ·)
  | .paintColor list position =>
    ((paintAt? fields list position).bind (objectUnder? · "color")).map (colorSchema, ·)
  | .textStyle =>
    if isTextNode fields then (objectUnder? fields "style").map (textStyleSchema, ·) else none

/-- The object at a place of the node at the end of a path. -/
def recordAt? (path : List Nat) (place : Place) (value : Json) : Option (Schema × Fields) :=
  ((nodeAt? path value).bind Json.fields?).bind place.find?

theorem recordAt?_cons {fields : Fields} {position : Nat} {item : Json}
    (found : (childItems fields)[position]? = some item) (path : List Nat) (place : Place) :
    recordAt? (position :: path) place (.object fields) = recordAt? path place item := by
  unfold recordAt?
  rw [nodeAt?, found, Option.bind_some]

/-- What holds of the objects at all places of a value holds of those of every child. -/
theorem forall_recordAt?_child {motive : Place → Schema → Fields → Prop} {fields : Fields}
    (everywhere : ∀ path place schema inner,
      recordAt? path place (.object fields) = some (schema, inner) → motive place schema inner)
    {item : Json} (isItem : item ∈ childItems fields) (path : List Nat) (place : Place)
    (schema : Schema) (inner : Fields) (found : recordAt? path place item = some (schema, inner)) :
    motive place schema inner := by
  obtain ⟨position, atPosition⟩ := List.mem_iff_getElem?.mp isItem
  apply everywhere (position :: path) place
  rw [recordAt?_cons atPosition]
  exact found

/-- What holds of the objects of a node and of those at all places of its children holds of those
at all places. -/
theorem forall_recordAt?_object {motive : Place → Schema → Fields → Prop} {fields : Fields}
    (own : ∀ place schema inner, place.find? fields = some (schema, inner) →
      motive place schema inner)
    (below : ∀ item ∈ childItems fields, ∀ path place schema inner,
      recordAt? path place item = some (schema, inner) → motive place schema inner)
    (path : List Nat) (place : Place) (schema : Schema) (inner : Fields)
    (found : recordAt? path place (.object fields) = some (schema, inner)) :
    motive place schema inner := by
  cases path with
  | nil => exact own place schema inner found
  | cons position path =>
      cases atPosition : (childItems fields)[position]? with
      | none => simp [recordAt?, nodeAt?, atPosition] at found
      | some item =>
          rw [recordAt?_cons atPosition] at found
          exact below item (List.mem_of_getElem? atPosition) path place schema inner found

theorem objectUnder?_of_lookup {fields : Fields} {name : String} {inner : Fields}
    (found : fields.lookup name = some (.object inner)) :
    objectUnder? fields name = some inner := by
  rw [objectUnder?, field?_of_lookup found]
  rfl

theorem objectUnder?_eq_some {fields : Fields} {name : String} {inner : Fields} :
    objectUnder? fields name = some inner ↔ field? fields name = some (.object inner) := by
  simp [objectUnder?, Option.bind_eq_some_iff, Json.fields?_eq_some]

theorem paintAt?_eq_some {fields : Fields} {list : PaintList} {position : Nat} {inner : Fields} :
    paintAt? fields list position = some inner ↔
      ∃ items, field? fields list.name = some (.array items) ∧
        items[position]? = some (.object inner) := by
  simp [paintAt?, Option.bind_eq_some_iff, Json.fields?_eq_some, Json.items?_eq_some]

/-- The value of a field is the value of an entry. -/
theorem exists_lookup_of_field? {fields : Fields} {name : String} {value : Json}
    (found : field? fields name = some value) : ∃ key, fields.lookup key = some value := by
  unfold field? at found
  split at found
  next own =>
    cases found
    exact ⟨name, own⟩
  · exact ⟨snakeCase name, found⟩

/-! ### Spellings -/

/-- No declared field is present in both of its spellings. -/
def Schema.HasOneSpelling (schema : Schema) (fields : Fields) : Prop :=
  ∀ name ∈ schema.names, fields.has name = true → fields.has (snakeCase name) = true →
    snakeCase name = name

instance (schema : Schema) (fields : Fields) : Decidable (schema.HasOneSpelling fields) :=
  inferInstanceAs (Decidable (∀ name ∈ schema.names, _ → _ → snakeCase name = name))

/-- The entries that belong to no field are foreign to all of them. -/
theorem Schema.HasOneSpelling.isForeign_extrasOf {schema : Schema} {fields : Fields}
    (oneSpelling : schema.HasOneSpelling fields) :
    IsForeign schema.names (extrasOf schema.names fields) := by
  intro entry isEntry name isName isSpelling
  obtain ⟨isMember, undeclared⟩ := List.mem_filter.mp isEntry
  rw [Bool.not_eq_true', Bool.eq_false_iff] at undeclared
  rcases List.mem_cons.mp isSpelling with own | other
  · exact undeclared (isDeclared_iff.mpr (Or.inl (own ▸ isName)))
  · have isOther : snakeCase name = entry.1 := (List.mem_singleton.mp other).symm
    cases present : fields.has name with
    | false => exact undeclared (isDeclared_iff.mpr (Or.inr ⟨name, isName, isOther, present⟩))
    | true =>
        have same := oneSpelling name isName present (isOther ▸ Fields.has_of_mem isMember)
        refine undeclared (isDeclared_iff.mpr (Or.inl ?_))
        rw [← isOther, same]
        exact isName

/-- Names in lower case have no second spelling. -/
theorem Schema.isForeign_extrasOf {schema : Schema}
    (lower : ∀ name ∈ schema.names, snakeCase name = name) (fields : Fields) :
    IsForeign schema.names (Design.extrasOf schema.names fields) :=
  Schema.HasOneSpelling.isForeign_extrasOf fun name isName _ _ => lower name isName

end Design

end DesignCompiler
