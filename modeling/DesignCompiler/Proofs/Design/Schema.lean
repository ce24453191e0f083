import DesignCompiler.Design.Reading
import DesignCompiler.Proofs.Json.Fields

/-!
Contract: the declared fields of records, and what happens without a malformed one.

Owns:
- `FieldType` and the values that are malformed for a field of a type;
- `Schema`, the declared fields of a record, no two of which share a spelling;
- `Schema.MayLose`, the keys of malformed entries that no other spelling stands in for;
- the law that a record without such entries is read as it was with them.

Does not own: the records inside of records, see `DesignCompiler.Proofs.Design.Erasure`.
-/

set_option autoImplicit false

namespace DesignCompiler.Design

/-! ### Spellings -/

/-- The keys under which a declared field is found. -/
def spellings (name : String) : List String :=
  [name, snakeCase name]

theorem field?_of_lookup {fields : Fields} {name : String} {value : Json}
    (found : fields.lookup name = some value) : field? fields name = some value := by
  unfold field?
  rw [found]

theorem field?_eq_none {fields : Fields} {name : String}
    (absent : ∀ key ∈ spellings name, fields.lookup key = none) : field? fields name = none := by
  unfold field?
  rw [absent name List.mem_cons_self]
  exact absent _ (List.mem_cons_of_mem _ List.mem_cons_self)

/-- A field that is present in one spelling only has the value under it. -/
theorem field?_of_only {fields : Fields} {name key : String} {value : Json}
    (isSpelling : key ∈ spellings name) (found : fields.lookup key = some value)
    (only : ∀ other ∈ spellings name, fields.has other = true → other = key) :
    field? fields name = some value := by
  unfold field?
  cases own : fields.lookup name with
  | some ownValue =>
      have same := only name List.mem_cons_self (Fields.has_iff.mpr ⟨ownValue, own⟩)
      rw [same, found] at own
      exact own.symm
  | none =>
      rcases List.mem_cons.mp isSpelling with rfl | isOther
      · rw [own] at found
        cases found
      · rw [← List.mem_singleton.mp isOther]
        exact found

/-- The value of a field depends on the entries under its spellings only. -/
theorem field?_congr {fields fields' : Fields} {name : String}
    (same : ∀ key ∈ spellings name, fields'.lookup key = fields.lookup key) :
    field? fields' name = field? fields name := by
  unfold field?
  rw [same name List.mem_cons_self,
    same (snakeCase name) (List.mem_cons_of_mem _ List.mem_cons_self)]

theorem isDeclared_iff {declared : List String} {fields : Fields} {key : String} :
    isDeclared declared fields key = true ↔
      key ∈ declared ∨ ∃ name ∈ declared, snakeCase name = key ∧ fields.has name = false := by
  unfold isDeclared
  rw [Bool.or_eq_true, List.contains_iff_mem, List.any_eq_true]
  simp

/-! ### Types of fields -/

inductive FieldType where
  | text
  | number
  | flag
  | color
  | box
  | paints
  | textStyle
  /-- The children and the type of a node, of which no value is passed over. -/
  | structural
deriving DecidableEq

/-- A record of numbers is malformed as a whole if it is no object or any of its members is present
and no number. -/
def IsMalformedTuple (names : List String) (value : Json) : Prop :=
  ∀ fields, value = .object fields →
    ∃ name ∈ names, ∃ member, field? fields name = some member ∧ number? member = none

def FieldType.Malformed : FieldType → Json → Prop
  | .text, value => ∀ text, value ≠ .string text
  | .number, value => number? value = none
  | .flag, value => flag? value = none
  | .color, value => IsMalformedTuple colorFields value
  | .box, value => IsMalformedTuple boxFields value
  | .paints, value => ∀ items, value ≠ .array items
  | .textStyle, value => ∀ fields, value ≠ .object fields
  | .structural, _ => False

private theorem text?_of_malformed {value : Json} (malformed : FieldType.text.Malformed value) :
    value.text? = none := by
  cases value with
  | string text => exact absurd rfl (malformed text)
  | _ => rfl

private theorem requiredNumber_of_malformed {fields : Fields} {name : String} {member : Json}
    (found : field? fields name = some member) (malformed : number? member = none)
    (default : Number) : requiredNumber fields name default = none := by
  unfold requiredNumber
  rw [found]
  exact malformed

theorem Color.read?_of_malformed {value : Json} (malformed : FieldType.color.Malformed value) :
    Color.read? value = none := by
  cases value with
  | object fields =>
      obtain ⟨name, isName, member, found, noNumber⟩ := malformed fields rfl
      have missing := requiredNumber_of_malformed found noNumber
      unfold Color.read?
      simp only [colorFields, List.mem_cons, List.not_mem_nil, or_false] at isName
      rcases isName with rfl | rfl | rfl | rfl <;> simp [missing]
  | _ => rfl

theorem Box.read?_of_malformed {value : Json} (malformed : FieldType.box.Malformed value) :
    Box.read? value = none := by
  cases value with
  | object fields =>
      obtain ⟨name, isName, member, found, noNumber⟩ := malformed fields rfl
      have missing := requiredNumber_of_malformed found noNumber
      unfold Box.read?
      simp only [boxFields, List.mem_cons, List.not_mem_nil, or_false] at isName
      rcases isName with rfl | rfl | rfl | rfl <;> simp [missing]
  | _ => rfl

theorem readPaints_of_malformed {value : Json} (malformed : FieldType.paints.Malformed value) :
    readPaints (some value) = [] := by
  cases value with
  | array items => exact absurd rfl (malformed items)
  | _ => rfl

theorem TextStyle.read?_of_malformed {value : Json}
    (malformed : FieldType.textStyle.Malformed value) : TextStyle.read? value = none := by
  cases value with
  | object fields => exact absurd rfl (malformed fields)
  | _ => rfl

/-! ### Schemas -/

/-- The declared fields of a record with their types.  A key spells one field at most. -/
structure Schema where
  fields : List (String × FieldType)
  distinct : ∀ first ∈ fields, ∀ second ∈ fields, ∀ key ∈ spellings first.1,
    key ∈ spellings second.1 → first = second

def Schema.names (schema : Schema) : List String :=
  schema.fields.map Prod.fst

def paintSchema : Schema where
  fields := [("type", .text), ("visible", .flag), ("color", .color), ("opacity", .number)]
  distinct := by decide +kernel

theorem paintSchema_names : paintSchema.names = paintFields :=
  rfl

def textStyleSchema : Schema where
  fields :=
    [("fontSize", .number), ("fontFamily", .text), ("fontWeight", .number),
     ("letterSpacing", .number), ("lineHeightPx", .number), ("textAlignHorizontal", .text)]
  distinct := by decide +kernel

theorem textStyleSchema_names : textStyleSchema.names = textStyleFields :=
  rfl

def commonFieldTypes : List (String × FieldType) :=
  [("id", .text), ("name", .text), ("absoluteBoundingBox", .box), ("backgroundColor", .color),
   ("fills", .paints), ("strokes", .paints), ("cornerRadius", .number), ("opacity", .number),
   ("layoutMode", .text), ("primaryAxisAlignItems", .text), ("counterAxisAlignItems", .text),
   ("paddingLeft", .number), ("paddingRight", .number), ("paddingTop", .number),
   ("paddingBottom", .number), ("itemSpacing", .number), ("layoutGrow", .number),
   ("children", .structural), ("type", .structural)]

def nodeSchema : Bool → Schema
  | true =>
    { fields := commonFieldTypes ++ [("characters", .text), ("style", .textStyle)]
      distinct := by decide +kernel }
  | false => { fields := commonFieldTypes, distinct := by decide +kernel }

theorem nodeSchema_names (isText : Bool) :
    (nodeSchema isText).names = if isText then commonFields ++ textFields else commonFields := by
  cases isText <;> rfl

theorem mem_nodeSchema {isText : Bool} {field : String × FieldType}
    (isCommon : field ∈ commonFieldTypes) : field ∈ (nodeSchema isText).fields := by
  cases isText
  · exact isCommon
  · exact List.mem_append_left _ isCommon

/-! ### Malformed entries -/

/-- Some keys are those of malformed entries, each being the only spelling of its field that is
present. -/
def Schema.MayLose (schema : Schema) (fields : Fields) (lost : List String) : Prop :=
  ∀ key ∈ lost, ∃ field ∈ schema.fields, key ∈ spellings field.1 ∧
    (∃ value, fields.lookup key = some value ∧ field.2.Malformed value) ∧
    ∀ other ∈ spellings field.1, fields.has other = true → other = key

namespace Schema.MayLose

variable {schema : Schema} {fields : Fields} {lost : List String}

theorem single {field : String × FieldType} (isField : field ∈ schema.fields) {key : String}
    (isSpelling : key ∈ spellings field.1) {value : Json}
    (found : fields.lookup key = some value) (malformed : field.2.Malformed value)
    (only : ∀ other ∈ spellings field.1, fields.has other = true → other = key) :
    schema.MayLose fields [key] := by
  intro lostKey isLost
  obtain rfl := List.mem_singleton.mp isLost
  exact ⟨field, isField, isSpelling, ⟨value, found, malformed⟩, only⟩

/-- A lost spelling of a declared field is the only one present, and its value is malformed. -/
theorem of_mem (mayLose : schema.MayLose fields lost) {field : String × FieldType}
    (isField : field ∈ schema.fields) {key : String} (isSpelling : key ∈ spellings field.1)
    (isLost : key ∈ lost) :
    (∃ value, fields.lookup key = some value ∧ field.2.Malformed value) ∧
      ∀ other ∈ spellings field.1, fields.has other = true → other = key := by
  obtain ⟨lostField, isLostField, spelled, malformed, only⟩ := mayLose key isLost
  obtain rfl := schema.distinct _ isLostField _ isField key spelled isSpelling
  exact ⟨malformed, only⟩

/-- No structural entry is lost. -/
theorem lookup_structural (mayLose : schema.MayLose fields lost) {name : String}
    (isField : (name, .structural) ∈ schema.fields) :
    (fields.without lost).lookup name = fields.lookup name := by
  refine Fields.lookup_without_of_notMem (fun isLost => ?_) fields
  obtain ⟨⟨_, _, impossible⟩, _⟩ := mayLose.of_mem isField List.mem_cons_self isLost
  exact impossible

/-- A declared field keeps its value, unless it was malformed and is absent now. -/
theorem field?_cases (mayLose : schema.MayLose fields lost) {field : String × FieldType}
    (isField : field ∈ schema.fields) :
    field? (fields.without lost) field.1 = field? fields field.1 ∨
      (field? (fields.without lost) field.1 = none ∧
        ∃ value, field? fields field.1 = some value ∧ field.2.Malformed value) := by
  by_cases spared : ∀ key ∈ spellings field.1, key ∉ lost
  · exact Or.inl (field?_congr fun key isSpelling =>
      Fields.lookup_without_of_notMem (spared key isSpelling) fields)
  · obtain ⟨key, isSpelling, isLost⟩ : ∃ key ∈ spellings field.1, key ∈ lost := by
      simpa using spared
    obtain ⟨⟨value, found, malformed⟩, only⟩ := mayLose.of_mem isField isSpelling isLost
    refine Or.inr ⟨field?_eq_none fun other otherSpelling => ?_, value, ?_, malformed⟩
    · by_cases otherLost : other ∈ lost
      · exact Fields.lookup_without_of_mem otherLost fields
      · rw [Fields.lookup_without_of_notMem otherLost]
        refine Fields.lookup_eq_none_of_has (Bool.eq_false_iff.mpr fun present => otherLost ?_)
        rw [only other otherSpelling present]
        exact isLost
    · exact field?_of_only isSpelling found only

/-- What takes a malformed value for an absent one reads a declared field as it was. -/
theorem reading (mayLose : schema.MayLose fields lost) {field : String × FieldType}
    (isField : field ∈ schema.fields) {α : Type} (read : Option Json → α)
    (tolerant : ∀ value, field.2.Malformed value → read (some value) = read none) :
    read (field? (fields.without lost) field.1) = read (field? fields field.1) := by
  rcases mayLose.field?_cases isField with same | ⟨absent, value, found, malformed⟩
  · rw [same]
  · rw [absent, found, tolerant value malformed]

theorem optionalText (mayLose : schema.MayLose fields lost) {name : String}
    (isField : (name, .text) ∈ schema.fields) :
    optionalText (fields.without lost) name = optionalText fields name :=
  mayLose.reading isField (·.bind Json.text?) fun _ => text?_of_malformed

theorem optionalNumber (mayLose : schema.MayLose fields lost) {name : String}
    (isField : (name, .number) ∈ schema.fields) :
    optionalNumber (fields.without lost) name = optionalNumber fields name :=
  mayLose.reading isField (·.bind number?) fun _ malformed => malformed

private theorem isDeclared_of_mem (mayLose : schema.MayLose fields lost) {key : String}
    (isLost : key ∈ lost) : isDeclared schema.names fields key = true := by
  obtain ⟨field, isField, isSpelling, _, only⟩ := mayLose key isLost
  have isName : field.1 ∈ schema.names := List.mem_map_of_mem isField
  rw [isDeclared_iff]
  rcases List.mem_cons.mp isSpelling with rfl | isOther
  · exact Or.inl isName
  · by_cases own : key = field.1
    · rw [own]
      exact Or.inl isName
    · refine Or.inr ⟨field.1, isName, (List.mem_singleton.mp isOther).symm, ?_⟩
      exact Bool.eq_false_iff.mpr fun present => own (only _ List.mem_cons_self present).symm

/-- Whether the second spelling of a field counts does not change while it is present. -/
theorem has_of_other (mayLose : schema.MayLose fields lost) {name : String}
    (isName : name ∈ schema.names) (present : fields.has (snakeCase name) = true)
    (kept : snakeCase name ∉ lost) : (fields.without lost).has name = fields.has name := by
  unfold Fields.has
  rw [Fields.lookup_without_of_notMem]
  intro isLost
  obtain ⟨field, isField, rfl⟩ := List.mem_map.mp isName
  have only := (mayLose.of_mem isField List.mem_cons_self isLost).2
  have same := only (snakeCase field.1) (List.mem_cons_of_mem _ List.mem_cons_self) present
  rw [same] at kept
  exact kept isLost

private theorem isDeclared_of_notMem (mayLose : schema.MayLose fields lost) {key : String}
    (present : fields.has key = true) (kept : key ∉ lost) :
    isDeclared schema.names (fields.without lost) key = isDeclared schema.names fields key := by
  rw [Bool.eq_iff_iff, isDeclared_iff, isDeclared_iff]
  refine or_congr_right (exists_congr fun name => and_congr_right fun isName =>
    and_congr_right fun isOther => ?_)
  subst isOther
  rw [mayLose.has_of_other isName present kept]

/-- The entries that belong to no declared field are the same. -/
theorem extrasOf (mayLose : schema.MayLose fields lost) :
    extrasOf schema.names (fields.without lost) = extrasOf schema.names fields := by
  unfold Design.extrasOf Fields.without
  rw [List.filter_filter]
  refine List.filter_congr fun entry isEntry => ?_
  by_cases isLost : entry.1 ∈ lost
  · rw [mayLose.isDeclared_of_mem isLost, List.contains_iff_mem.mpr isLost]
    exact Bool.and_false _
  · have declared := mayLose.isDeclared_of_notMem (Fields.has_of_mem isEntry) isLost
    unfold Fields.without at declared
    rw [declared, List.contains_eq_mem, decide_eq_false isLost]
    exact Bool.and_true _

end Schema.MayLose

end DesignCompiler.Design
