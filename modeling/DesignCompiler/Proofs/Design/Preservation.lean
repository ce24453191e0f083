import DesignCompiler.Proofs.Design.Acceptance
import DesignCompiler.Proofs.Design.Place
import DesignCompiler.Proofs.Json.Restriction

/-!
Contract: nothing of a well-formed design is lost when it is read and written.

Owns:
- `IsWellFormed`, the values whose records have their fields in the declared spelling and type, and
  no entry that is null;
- `Completes`, what the writing of a record may add and in which order it lists the entries;
- the law that the written tree, restricted to the keys of the value, is the value.

Does not own: trees with malformed entries, see `DesignCompiler.Proofs.Design.Rereading`.
-/

set_option autoImplicit false

namespace DesignCompiler.Design

/-! ### Well-formed values -/

/-- A value has the JSON type that is declared for a field.  The members of the records inside of
it are fields of their own, and so are a node's children and type. -/
def FieldType.Declares : FieldType → Json → Prop
  | .text, value => ∃ text, value = .string text
  | .number, value => ∃ number, value = .number number
  | .flag, value => ∃ flag, value = .bool flag
  | .color, value | .box, value | .textStyle, value => ∃ fields, value = .object fields
  | .paints, value => ∃ items, value = .array items ∧
      ∀ item ∈ items, ∃ fields, item = .object fields
  | .structural, _ => True

/-- The entries of a record that is written as it is declared. -/
structure Schema.Conforms (schema : Schema) (fields : Fields) : Prop where
  ownSpelling : ∀ name ∈ schema.names, snakeCase name ≠ name → fields.has (snakeCase name) = false
  notNull : ∀ entry ∈ fields, entry.2 ≠ .null
  declared : ∀ field ∈ schema.fields, ∀ value, fields.lookup field.1 = some value →
    field.2.Declares value

/-- A value the records of which are written as they are declared. -/
structure IsWellFormed (value : Json) : Prop where
  distinct : value.HasDistinctKeys
  conforms : ∀ path place schema fields, recordAt? path place value = some (schema, fields) →
    schema.Conforms fields

/-! ### Completed records -/

/-- What the writing of a record may do to its entries: it adds nothing but defaults, changes none
of the entries that belong to no field, and lists the declared fields in their order before the
other entries in theirs. -/
structure Completes (names : List String) (defaults fields written : Fields) : Prop where
  adds : ∀ key value, written.lookup key = some value → fields.has key = false →
    (key, value) ∈ defaults
  others : ∀ key, key ∉ names → written.lookup key = fields.lookup key
  order : written.map Prod.fst =
    names.filter written.has ++ (fields.without names).map Prod.fst

/-- The value written for a field keeps the value that was read, or is a default. -/
def Keeps (defaults fields : Fields) (name : String) (written : Option Json) : Prop :=
  match fields.lookup name with
  | some given => ∃ value, written = some value ∧ value.restrictedTo given = given
  | none => ∀ value, written = some value → (name, value) ∈ defaults

/-- The entries of a record are kept when it is written, and completed. -/
structure Preserves (schema : Schema) (defaults fields written : Fields) : Prop where
  completes : Completes schema.names defaults fields written
  restricted : (Json.object written).restrictedTo (.object fields) = .object fields

namespace Schema.Conforms

variable {schema : Schema} {fields : Fields}

/-- A declared field is found under its own name only. -/
theorem field?_eq (conforms : schema.Conforms fields) {name : String}
    (isName : name ∈ schema.names) : field? fields name = fields.lookup name := by
  unfold field?
  cases own : fields.lookup name with
  | some value => rfl
  | none =>
      by_cases same : snakeCase name = name
      · rw [same]
        exact own
      · exact Fields.lookup_eq_none_of_has (conforms.ownSpelling name isName same)

/-- A declared field that is found has its declared type. -/
theorem declares_of_field? (conforms : schema.Conforms fields) {name : String} {type : FieldType}
    (isField : (name, type) ∈ schema.fields) {value : Json}
    (found : field? fields name = some value) : type.Declares value := by
  rw [conforms.field?_eq (List.mem_map_of_mem isField)] at found
  exact conforms.declared _ isField value found

/-- The other entries are all those without a declared name, and none of them is left out. -/
theorem presentExtras_extrasOf (conforms : schema.Conforms fields) :
    presentExtras (extrasOf schema.names fields) = fields.without schema.names := by
  unfold presentExtras extrasOf Fields.without
  rw [List.filter_filter]
  refine List.filter_congr fun entry isEntry => ?_
  have notNull : entry.2.isNull = false := by
    cases value : entry.2 with
    | null => exact absurd value (conforms.notNull entry isEntry)
    | _ => rfl
  rw [notNull, Bool.not_false, Bool.true_and, Bool.eq_iff_iff, Bool.not_eq_true',
    Bool.not_eq_true', Bool.eq_false_iff, Bool.eq_false_iff, ne_eq, ne_eq, isDeclared_iff,
    List.contains_iff_mem, not_or, and_iff_left_iff_imp]
  rintro undeclared ⟨name, isName, isOther, -⟩
  by_cases same : snakeCase name = name
  · rw [← isOther, same] at undeclared
    exact undeclared isName
  · have absent := conforms.ownSpelling name isName same
    rw [isOther, Fields.has_of_mem isEntry] at absent
    cases absent

theorem isForeign_extrasOf (conforms : schema.Conforms fields) :
    IsForeign schema.names (extrasOf schema.names fields) := by
  refine Schema.HasOneSpelling.isForeign_extrasOf fun name isName _ present => ?_
  by_contra other
  rw [conforms.ownSpelling name isName other] at present
  cases present

section Records

variable {slots : List (String × Option Json)} {defaults : Fields}

/-- An entry that belongs to no field is written as it was read. -/
theorem lookup_recordEntries (conforms : schema.Conforms fields)
    (writes : schema.Writes slots (extrasOf schema.names fields)) {key : String}
    (undeclared : key ∉ schema.names) :
    (recordEntries slots (extrasOf schema.names fields)).lookup key = fields.lookup key := by
  rw [writes.lookup_of_notMem undeclared, conforms.presentExtras_extrasOf,
    Fields.lookup_without_of_notMem undeclared]

/-- A record keeps what stands under every key if it keeps its fields. -/
theorem keeps_recordEntries (conforms : schema.Conforms fields)
    (distinct : (Json.object fields).HasDistinctKeys)
    (writes : schema.Writes slots (extrasOf schema.names fields))
    (keeps : ∀ slot ∈ slots, Keeps defaults fields slot.1 slot.2) (key : String) :
    Keeps defaults fields key
      ((recordEntries slots (extrasOf schema.names fields)).lookup key) := by
  by_cases declared : key ∈ schema.names
  · obtain ⟨value, isSlot⟩ := writes.exists_slot declared
    rw [writes.lookup_of_mem isSlot]
    exact keeps _ isSlot
  · rw [conforms.lookup_recordEntries writes declared]
    unfold Keeps
    cases found : fields.lookup key with
    | none => exact nofun
    | some given => exact ⟨given, rfl, (distinct.of_lookup found).restrictedTo_self⟩

/-- A record is preserved if the value of each of its fields is kept. -/
theorem preserves (conforms : schema.Conforms fields)
    (distinct : (Json.object fields).HasDistinctKeys)
    (names_eq : slots.map Prod.fst = schema.names) (nodup : schema.names.Nodup)
    (keeps : ∀ slot ∈ slots, Keeps defaults fields slot.1 slot.2) :
    Preserves schema defaults fields (recordEntries slots (extrasOf schema.names fields)) := by
  have writes : schema.Writes slots (extrasOf schema.names fields) :=
    ⟨names_eq, nodup, conforms.isForeign_extrasOf⟩
  have kept := conforms.keeps_recordEntries distinct writes keeps
  refine ⟨⟨?_, fun key undeclared => conforms.lookup_recordEntries writes undeclared, ?_⟩, ?_⟩
  · intro key value found absent
    have keepsKey := kept key
    unfold Keeps at keepsKey
    rw [Fields.lookup_eq_none_of_has absent] at keepsKey
    exact keepsKey value found
  · rw [← conforms.presentExtras_extrasOf]
    exact writes.keys_eq
  · rw [Json.restrictedTo, Json.restrictFields_eq]
    intro entry isEntry
    have keepsKey := kept entry.1
    unfold Keeps at keepsKey
    rw [Fields.lookup_of_mem (Json.hasDistinctKeys_object.mp distinct).1 isEntry] at keepsKey
    exact keepsKey

end Records

end Schema.Conforms

/-! ### Values of fields -/

section Fields

variable {schema : Schema} {fields defaults : Fields}

/-- What is read of a declared value and written again keeps it. -/
theorem keeps_optional (conforms : schema.Conforms fields) {name : String} (type : FieldType)
    (isField : (name, type) ∈ schema.fields) {α : Type} {read? : Json → Option α}
    {toJson : α → Json}
    (rewrites : ∀ value, fields.lookup name = some value → type.Declares value →
      ∃ written, (read? value).map toJson = some written ∧
        written.restrictedTo value = value) :
    Keeps defaults fields name (((field? fields name).bind read?).map toJson) := by
  rw [conforms.field?_eq (List.mem_map_of_mem isField)]
  unfold Keeps
  cases found : fields.lookup name with
  | none => exact nofun
  | some value => exact rewrites value found (conforms.declared _ isField value found)

private theorem keeps_optionalText (conforms : schema.Conforms fields) {name : String}
    (isField : (name, .text) ∈ schema.fields) :
    Keeps defaults fields name ((optionalText fields name).map .string) := by
  refine keeps_optional conforms .text isField fun value _ declared => ?_
  obtain ⟨text, rfl⟩ := declared
  exact ⟨_, rfl, rfl⟩

private theorem keeps_optionalNumber (conforms : schema.Conforms fields) {name : String}
    (isField : (name, .number) ∈ schema.fields) :
    Keeps defaults fields name ((optionalNumber fields name).map .number) := by
  refine keeps_optional conforms .number isField fun value _ declared => ?_
  obtain ⟨number, rfl⟩ := declared
  exact ⟨_, rfl, rfl⟩

/-- A value that is written in any case is kept, or the default. -/
theorem keeps_getD {name : String} {value : Option Json} {default : Json}
    (keeps : Keeps defaults fields name value) (isDefault : (name, default) ∈ defaults) :
    Keeps defaults fields name (some (value.getD default)) := by
  unfold Keeps at keeps ⊢
  cases given : fields.lookup name with
  | none =>
      rw [given] at keeps
      intro written isWritten
      cases value with
      | none =>
          cases isWritten
          exact isDefault
      | some value =>
          cases isWritten
          exact keeps value rfl
  | some value =>
      rw [given] at keeps
      obtain ⟨written, rfl, same⟩ := keeps
      exact ⟨written, rfl, same⟩

private theorem keeps_text_getD (conforms : schema.Conforms fields) {name default : String}
    (isField : (name, .text) ∈ schema.fields) (isDefault : (name, .string default) ∈ defaults) :
    Keeps defaults fields name (some (.string ((optionalText fields name).getD default))) := by
  have keeps := keeps_getD (keeps_optionalText conforms isField) isDefault
  rw [Option.getD_map] at keeps
  exact keeps

private theorem keeps_requiredNumber (conforms : schema.Conforms fields) {name : String}
    {default : Number} (isField : (name, .number) ∈ schema.fields)
    (isDefault : (name, .number default) ∈ defaults) :
    ∃ number, requiredNumber fields name default = some number ∧
      Keeps defaults fields name (some (.number number)) := by
  have keeps := keeps_getD (keeps_optionalNumber conforms isField) isDefault
  rw [Option.getD_map] at keeps
  refine ⟨_, ?_, keeps⟩
  unfold requiredNumber optionalNumber
  cases found : field? fields name with
  | none => rfl
  | some value =>
      rw [conforms.field?_eq (List.mem_map_of_mem isField)] at found
      obtain ⟨number, rfl⟩ := conforms.declared _ isField value found
      rfl

end Fields

/-! ### The records -/

def colorDefaults : Fields :=
  [("r", .number 0), ("g", .number 0), ("b", .number 0), ("a", .number 1)]

def boxDefaults : Fields :=
  [("x", .number 0), ("y", .number 0), ("width", .number 0), ("height", .number 0)]

def paintDefaults : Fields :=
  [("type", .string "")]

def nodeDefaults : Fields :=
  [("id", .string ""), ("name", .string ""), ("fills", .array []), ("strokes", .array []),
   ("children", .array []), ("type", .string "OTHER")]

/-- A record of four numbers, each with its name and its default, is preserved. -/
theorem Schema.Conforms.preserves_numbers {α : Type} {schema : Schema} {fields : Fields}
    (conforms : schema.Conforms fields) (distinct : (Json.object fields).HasDistinctKeys)
    (first second third fourth : String × Number)
    (declared : schema.fields =
      [(first.1, .number), (second.1, .number), (third.1, .number), (fourth.1, .number)])
    (nodup : schema.names.Nodup) {read? : Json → Option α} {toJson : α → Json}
    (make : Number → Number → Number → Number → α)
    (reads : ∀ a b c d, requiredNumber fields first.1 first.2 = some a →
      requiredNumber fields second.1 second.2 = some b →
      requiredNumber fields third.1 third.2 = some c →
      requiredNumber fields fourth.1 fourth.2 = some d →
      read? (.object fields) = some (make a b c d))
    (writes : ∀ a b c d, toJson (make a b c d) = .object (recordEntries
      [(first.1, some (.number a)), (second.1, some (.number b)), (third.1, some (.number c)),
        (fourth.1, some (.number d))] (extrasOf schema.names fields))) :
    ∃ record written, read? (.object fields) = some record ∧ toJson record = .object written ∧
      Preserves schema [(first.1, .number first.2), (second.1, .number second.2),
        (third.1, .number third.2), (fourth.1, .number fourth.2)] fields written := by
  have number (entry : String × Number) (isEntry : entry ∈ [first, second, third, fourth]) :
      ∃ number, requiredNumber fields entry.1 entry.2 = some number ∧
        Keeps [(first.1, .number first.2), (second.1, .number second.2),
          (third.1, .number third.2), (fourth.1, .number fourth.2)] fields entry.1
          (some (.number number)) := by
    refine keeps_requiredNumber conforms ?_
      (List.mem_map_of_mem (f := fun entry => (entry.1, Json.number entry.2)) isEntry)
    rw [declared]
    exact List.mem_map_of_mem (f := fun entry => (entry.1, FieldType.number)) isEntry
  obtain ⟨a, readFirst, keepsFirst⟩ := number first (by simp)
  obtain ⟨b, readSecond, keepsSecond⟩ := number second (by simp)
  obtain ⟨c, readThird, keepsThird⟩ := number third (by simp)
  obtain ⟨d, readFourth, keepsFourth⟩ := number fourth (by simp)
  refine ⟨make a b c d, _, reads a b c d readFirst readSecond readThird readFourth,
    writes a b c d, conforms.preserves distinct (by simp [Schema.names, declared]) nodup ?_⟩
  simp only [List.forall_mem_cons]
  exact ⟨keepsFirst, keepsSecond, keepsThird, keepsFourth, List.forall_mem_nil _⟩

private theorem Color.preserves {fields : Fields} (conforms : colorSchema.Conforms fields)
    (distinct : (Json.object fields).HasDistinctKeys) :
    ∃ color written, Color.read? (.object fields) = some color ∧
      color.toJson = .object written ∧ Preserves colorSchema colorDefaults fields written :=
  conforms.preserves_numbers distinct ("r", 0) ("g", 0) ("b", 0) ("a", 1) rfl (by decide)
    (fun red green blue alpha => ⟨red, green, blue, alpha, extrasOf colorFields fields⟩)
    (fun _ _ _ _ red green blue alpha => by simp [Color.read?, red, green, blue, alpha])
    fun _ _ _ _ => Color.toJson_eq _

private theorem Box.preserves {fields : Fields} (conforms : boxSchema.Conforms fields)
    (distinct : (Json.object fields).HasDistinctKeys) :
    ∃ box written, Box.read? (.object fields) = some box ∧
      box.toJson = .object written ∧ Preserves boxSchema boxDefaults fields written :=
  conforms.preserves_numbers distinct ("x", 0) ("y", 0) ("width", 0) ("height", 0) rfl (by decide)
    (fun x y width height => ⟨x, y, width, height, extrasOf boxFields fields⟩)
    (fun _ _ _ _ x y width height => by simp [Box.read?, x, y, width, height])
    fun _ _ _ _ => Box.toJson_eq _

/-- What a preserved record keeps as the value of a field. -/
theorem keeps_record {α : Type} {read? : Json → Option α} {toJson : α → Json} {schema : Schema}
    {defaults fields : Fields}
    (preserves : ∃ record written, read? (.object fields) = some record ∧
      toJson record = .object written ∧ Preserves schema defaults fields written) :
    ∃ written, (read? (.object fields)).map toJson = some written ∧
      written.restrictedTo (.object fields) = .object fields := by
  obtain ⟨record, written, read, isWritten, preserved⟩ := preserves
  rw [read]
  exact ⟨_, congrArg some isWritten, preserved.restricted⟩

private theorem Paint.preserves {fields : Fields} (conforms : paintSchema.Conforms fields)
    (color : ∀ inner, objectUnder? fields "color" = some inner → colorSchema.Conforms inner)
    (distinct : (Json.object fields).HasDistinctKeys) :
    ∃ written, (Paint.read (.object fields)).toJson = .object written ∧
      Preserves paintSchema paintDefaults fields written := by
  refine ⟨_, Paint.toJson_eq _, conforms.preserves distinct rfl (by decide) ?_⟩
  simp only [Paint.slots, List.forall_mem_cons]
  refine ⟨?_, ?_, ?_, ?_, List.forall_mem_nil _⟩
  · exact keeps_text_getD conforms (by decide) (by simp [paintDefaults])
  · refine keeps_optional conforms .flag (by decide) fun value _ declared => ?_
    obtain ⟨flag, rfl⟩ := declared
    exact ⟨_, rfl, rfl⟩
  · refine keeps_optional conforms .color (by decide) fun value found declared => ?_
    obtain ⟨inner, rfl⟩ := declared
    exact keeps_record (Color.preserves (color inner (objectUnder?_of_lookup found))
      (distinct.of_lookup found))
  · exact keeps_optionalNumber conforms (by decide)

private theorem TextStyle.preserves {fields : Fields} (conforms : textStyleSchema.Conforms fields)
    (distinct : (Json.object fields).HasDistinctKeys) :
    ∃ style written, TextStyle.read? (.object fields) = some style ∧
      style.toJson = .object written ∧ Preserves textStyleSchema [] fields written := by
  refine ⟨_, _, rfl, TextStyle.toJson_eq _, conforms.preserves distinct rfl (by decide) ?_⟩
  simp only [TextStyle.slots, List.forall_mem_cons]
  refine ⟨?_, ?_, ?_, ?_, ?_, ?_, List.forall_mem_nil _⟩
  · exact keeps_optionalNumber conforms (by decide)
  · exact keeps_optionalText conforms (by decide)
  · exact keeps_optionalNumber conforms (by decide)
  · exact keeps_optionalNumber conforms (by decide)
  · exact keeps_optionalNumber conforms (by decide)
  · exact keeps_optionalText conforms (by decide)

/-! ### Nodes -/

theorem IsWellFormed.child {fields : Fields} (wellFormed : IsWellFormed (.object fields))
    {item : Json} (isItem : item ∈ childItems fields) : IsWellFormed item := by
  refine ⟨?_, forall_recordAt?_child wellFormed.conforms isItem⟩
  have children := lookup_children_of_mem isItem
  exact (wellFormed.distinct.of_lookup children).of_mem isItem

/-- A node is well formed if its records are, and its children. -/
theorem isWellFormed_object {fields : Fields} (distinct : (Json.object fields).HasDistinctKeys)
    (own : (nodeSchema (isTextNode fields)).Conforms fields)
    (box : ∀ inner, field? fields "absoluteBoundingBox" = some (.object inner) →
      boxSchema.Conforms inner)
    (background : ∀ inner, field? fields "backgroundColor" = some (.object inner) →
      colorSchema.Conforms inner)
    (paint : ∀ (list : PaintList) items inner, field? fields list.name = some (.array items) →
      .object inner ∈ items → paintSchema.Conforms inner ∧
        ∀ color, field? inner "color" = some (.object color) → colorSchema.Conforms color)
    (style : isTextNode fields = true → ∀ inner, field? fields "style" = some (.object inner) →
      textStyleSchema.Conforms inner)
    (below : ∀ item ∈ childItems fields, IsWellFormed item) : IsWellFormed (.object fields) := by
  have ofPaint {list : PaintList} {position : Nat} {inner : Fields}
      (found : paintAt? fields list position = some inner) : paintSchema.Conforms inner ∧
        ∀ color, field? inner "color" = some (.object color) → colorSchema.Conforms color := by
    obtain ⟨items, isList, atPosition⟩ := paintAt?_eq_some.mp found
    exact paint list items inner isList (List.mem_of_getElem? atPosition)
  refine ⟨distinct, ?_⟩
  refine forall_recordAt?_object (motive := fun _ schema inner => schema.Conforms inner)
    (fun place schema inner found => ?_) fun item isItem => (below item isItem).conforms
  cases place with
  | node =>
      cases found
      exact own
  | box =>
      obtain ⟨_, isBox, same⟩ := Option.map_eq_some_iff.mp found
      cases same
      exact box inner (objectUnder?_eq_some.mp isBox)
  | background =>
      obtain ⟨_, isColor, same⟩ := Option.map_eq_some_iff.mp found
      cases same
      exact background inner (objectUnder?_eq_some.mp isColor)
  | paint list position =>
      obtain ⟨_, isPaint, same⟩ := Option.map_eq_some_iff.mp found
      cases same
      exact (ofPaint isPaint).1
  | paintColor list position =>
      obtain ⟨_, isColor, same⟩ := Option.map_eq_some_iff.mp found
      cases same
      obtain ⟨source, isPaint, isColor⟩ := Option.bind_eq_some_iff.mp isColor
      exact (ofPaint isPaint).2 inner (objectUnder?_eq_some.mp isColor)
  | textStyle =>
      simp only [Place.find?] at found
      split at found
      next isText =>
        obtain ⟨_, isStyle, same⟩ := Option.map_eq_some_iff.mp found
        cases same
        exact style isText inner (objectUnder?_eq_some.mp isStyle)
      · cases found

section Nodes

variable {fields : Fields}

private theorem distinctKeys_of_field? (distinct : (Json.object fields).HasDistinctKeys)
    {name : String}
    {value : Json} (found : field? fields name = some value) : value.HasDistinctKeys := by
  obtain ⟨key, atKey⟩ := exists_lookup_of_field? found
  exact distinct.of_lookup atKey

namespace IsWellFormed

/-- The records at the places of a node are written as they are declared. -/
theorem conforms_place (wellFormed : IsWellFormed (.object fields)) (place : Place)
    {schema : Schema} {inner : Fields} (found : place.find? fields = some (schema, inner)) :
    schema.Conforms inner :=
  wellFormed.conforms [] place schema inner found

private theorem preserves_box (wellFormed : IsWellFormed (.object fields)) {inner : Fields}
    (found : objectUnder? fields "absoluteBoundingBox" = some inner) :
    ∃ box written, Box.read? (.object inner) = some box ∧ box.toJson = .object written ∧
      Preserves boxSchema boxDefaults inner written := by
  refine Box.preserves (wellFormed.conforms_place .box ?_)
    (distinctKeys_of_field? wellFormed.distinct (objectUnder?_eq_some.mp found))
  rw [Place.find?, found]
  rfl

private theorem preserves_background (wellFormed : IsWellFormed (.object fields)) {inner : Fields}
    (found : objectUnder? fields "backgroundColor" = some inner) :
    ∃ color written, Color.read? (.object inner) = some color ∧ color.toJson = .object written ∧
      Preserves colorSchema colorDefaults inner written := by
  refine Color.preserves (wellFormed.conforms_place .background ?_)
    (distinctKeys_of_field? wellFormed.distinct (objectUnder?_eq_some.mp found))
  rw [Place.find?, found]
  rfl

private theorem distinctKeys_paint (wellFormed : IsWellFormed (.object fields)) {list : PaintList}
    {position : Nat} {inner : Fields} (found : paintAt? fields list position = some inner) :
    (Json.object inner).HasDistinctKeys := by
  obtain ⟨items, isList, atPosition⟩ := paintAt?_eq_some.mp found
  exact (distinctKeys_of_field? wellFormed.distinct isList).of_mem (List.mem_of_getElem? atPosition)

private theorem preserves_paintColor (wellFormed : IsWellFormed (.object fields)) {list : PaintList}
    {position : Nat} {paint inner : Fields} (found : paintAt? fields list position = some paint)
    (isColor : objectUnder? paint "color" = some inner) :
    ∃ color written, Color.read? (.object inner) = some color ∧ color.toJson = .object written ∧
      Preserves colorSchema colorDefaults inner written := by
  refine Color.preserves (wellFormed.conforms_place (.paintColor list position) ?_)
    (distinctKeys_of_field? (wellFormed.distinctKeys_paint found)
      (objectUnder?_eq_some.mp isColor))
  simp [Place.find?, found, isColor]

private theorem preserves_paint (wellFormed : IsWellFormed (.object fields)) {list : PaintList}
    {position : Nat} {inner : Fields} (found : paintAt? fields list position = some inner) :
    ∃ written, (Paint.read (.object inner)).toJson = .object written ∧
      Preserves paintSchema paintDefaults inner written := by
  refine Paint.preserves (wellFormed.conforms_place (.paint list position) ?_)
    (fun color isColor => ?_) (wellFormed.distinctKeys_paint found)
  · rw [Place.find?, found]
    rfl
  · apply wellFormed.conforms_place (.paintColor list position)
    simp [Place.find?, found, isColor]

private theorem preserves_textStyle (wellFormed : IsWellFormed (.object fields))
    (isText : isTextNode fields = true) {inner : Fields}
    (found : objectUnder? fields "style" = some inner) :
    ∃ style written, TextStyle.read? (.object inner) = some style ∧
      style.toJson = .object written ∧ Preserves textStyleSchema [] inner written := by
  refine TextStyle.preserves (wellFormed.conforms_place .textStyle ?_)
    (distinctKeys_of_field? wellFormed.distinct (objectUnder?_eq_some.mp found))
  rw [Place.find?, if_pos isText, found]
  rfl

end IsWellFormed

private theorem keeps_paints (wellFormed : IsWellFormed (.object fields)) (list : PaintList)
    (isField : (list.name, .paints) ∈ commonFieldTypes)
    (isDefault : (list.name, .array []) ∈ nodeDefaults) :
    Keeps nodeDefaults fields list.name
      (some (.array ((readPaints (field? fields list.name)).map Paint.toJson))) := by
  have conforms := wellFormed.conforms_place .node rfl
  have field : field? fields list.name = fields.lookup list.name :=
    conforms.field?_eq (List.mem_map_of_mem (mem_nodeSchema isField))
  unfold Keeps
  cases found : fields.lookup list.name with
  | none =>
      intro value written
      rw [field, found] at written
      cases written
      exact isDefault
  | some value =>
      obtain ⟨items, rfl, objects⟩ := conforms.declared _ (mem_nodeSchema isField) value found
      rw [field, found]
      refine ⟨_, rfl, ?_⟩
      show (Json.array ((items.map Paint.read).map Paint.toJson)).restrictedTo (.array items) = _
      rw [List.map_map, Json.restrictedTo, Json.restrictItems_map_eq]
      intro item isItem
      obtain ⟨inner, rfl⟩ := objects item isItem
      obtain ⟨position, atPosition⟩ := List.mem_iff_getElem?.mp isItem
      have isPaint : paintAt? fields list position = some inner := by
        rw [paintAt?_eq_some, field]
        exact ⟨items, found, atPosition⟩
      obtain ⟨written, isWritten, preserved⟩ := wellFormed.preserves_paint isPaint
      rw [Function.comp_apply, isWritten]
      exact preserved.restricted

/-- The children of a node are kept, if each of them is. -/
theorem keeps_children (wellFormed : IsWellFormed (.object fields))
    (isTree : IsTree (.object fields))
    (kept : ∀ item ∈ childItems fields, (buildNode item).toJson.restrictedTo item = item) :
    Keeps nodeDefaults fields "children"
      (some (.array (((childItems fields).map buildNode).map Node.toJson))) := by
  have conforms := wellFormed.conforms_place .node rfl
  unfold Keeps
  cases found : fields.lookup "children" with
  | none =>
      intro value written
      have noItems : childItems fields = [] := by
        unfold childItems
        rw [found]
      rw [noItems] at written
      cases written
      simp [nodeDefaults]
  | some value =>
      have isList : ∃ items, value = .array items := by
        cases isTree with
        | childless _ children =>
            rcases children with absent | null
            · rw [absent] at found
              cases found
            · rw [null] at found
              cases found
              exact absurd rfl (conforms.notNull _ (Fields.mem_of_lookup null))
        | parent _ children _ =>
            rw [children] at found
            exact ⟨_, (Option.some.inj found).symm⟩
      obtain ⟨items, rfl⟩ := isList
      rw [childItems_eq found] at kept ⊢
      refine ⟨_, rfl, ?_⟩
      rw [List.map_map, Json.restrictedTo,
        Json.restrictItems_map_eq (f := Node.toJson ∘ buildNode) kept]

private theorem keeps_type (isTree : IsTree (.object fields)) :
    Keeps nodeDefaults fields "type" (some (.string (readKind fields).tag)) := by
  have type : HasTextType fields := by
    cases isTree with
    | childless type _ => exact type
    | parent type _ _ => exact type
  rw [tag_readKind]
  unfold Keeps
  rcases type with absent | ⟨tag, text⟩
  · rw [absent]
    intro value written
    cases written
    simp [nodeDefaults]
  · rw [text]
    exact ⟨_, rfl, rfl⟩

private theorem keeps_textSlots (wellFormed : IsWellFormed (.object fields)) :
    ∀ slot ∈ (readKind fields).slots, Keeps nodeDefaults fields slot.1 slot.2 := by
  have conforms := wellFormed.conforms_place .node rfl
  have names := declaredFields_readKind fields
  cases isText : isTextNode fields with
  | true =>
      rw [isText] at conforms
      rw [readKind_of_text (isTextNode_iff.mp isText)]
      show ∀ slot ∈ Kind.slots (.text _ _), _
      simp only [Kind.slots, List.forall_mem_cons]
      refine ⟨keeps_optionalText conforms (by decide), ?_, List.forall_mem_nil _⟩
      refine keeps_optional conforms .textStyle (by decide) fun value found declared => ?_
      obtain ⟨inner, rfl⟩ := declared
      exact keeps_record (wellFormed.preserves_textStyle isText (objectUnder?_of_lookup found))
  | false =>
      rw [isText] at names
      cases kind : readKind fields with
      | text characters style =>
          rw [kind] at names
          have shorter : commonFields ++ textFields = commonFields := names
          exact absurd shorter (by decide)
      | _ => exact List.forall_mem_nil _

private theorem writes_node (conforms : (nodeSchema (isTextNode fields)).Conforms fields)
    (children : List Json) :
    (nodeSchema (isTextNode fields)).Writes ((readAttributes fields).slots children)
      (extrasOf (nodeSchema (isTextNode fields)).names fields) := by
  refine ⟨?_, nodup_nodeSchema _, conforms.isForeign_extrasOf⟩
  rw [Attributes.names_slots]
  exact declaredFields_readKind fields

def nodeEntries (fields : Fields) : Fields :=
  recordEntries
    ((readAttributes fields).slots (((childItems fields).map buildNode).map Node.toJson))
    (extrasOf (nodeSchema (isTextNode fields)).names fields)

private theorem toJson_buildNode (fields : Fields) :
    (buildNode (.object fields)).toJson = .object (nodeEntries fields) := by
  have extras : (readAttributes fields).extras =
      extrasOf (nodeSchema (isTextNode fields)).names fields := by
    rw [← declaredFields_readKind fields]
    rfl
  rw [buildNode_object, Node.toJson_eq, extras]
  rfl

/-- A node is preserved, if each of its children is. -/
theorem preserves_node (wellFormed : IsWellFormed (.object fields))
    (isTree : IsTree (.object fields))
    (kept : ∀ item ∈ childItems fields, (buildNode item).toJson.restrictedTo item = item) :
    Preserves (nodeSchema (isTextNode fields)) nodeDefaults fields (nodeEntries fields) := by
  have conforms := wellFormed.conforms_place .node rfl
  refine conforms.preserves wellFormed.distinct ?_ (nodup_nodeSchema _) ?_
  · exact (writes_node conforms _).names_eq
  · have number {name : String} (isField : (name, .number) ∈ commonFieldTypes) :
        Keeps nodeDefaults fields name ((optionalNumber fields name).map .number) :=
      keeps_optionalNumber conforms (mem_nodeSchema isField)
    have text {name : String} (isField : (name, .text) ∈ commonFieldTypes) :
        Keeps nodeDefaults fields name ((optionalText fields name).map .string) :=
      keeps_optionalText conforms (mem_nodeSchema isField)
    rw [Attributes.slots, List.forall_mem_append]
    refine ⟨?_, keeps_textSlots wellFormed⟩
    simp only [Attributes.commonSlots, List.forall_mem_cons]
    refine ⟨?_, ?_, ?_, ?_, ?_, ?_, ?_, ?_, ?_, ?_, ?_, ?_, ?_, ?_, ?_, ?_, ?_, ?_, ?_,
      List.forall_mem_nil _⟩
    · exact keeps_text_getD conforms (mem_nodeSchema (by decide)) (by simp [nodeDefaults])
    · exact keeps_text_getD conforms (mem_nodeSchema (by decide)) (by simp [nodeDefaults])
    · refine keeps_optional conforms .box (mem_nodeSchema (by decide)) ?_
      rintro _ found ⟨inner, rfl⟩
      exact keeps_record (wellFormed.preserves_box (objectUnder?_of_lookup found))
    · refine keeps_optional conforms .color (mem_nodeSchema (by decide)) ?_
      rintro _ found ⟨inner, rfl⟩
      exact keeps_record (wellFormed.preserves_background (objectUnder?_of_lookup found))
    · exact keeps_paints wellFormed .fills (by decide) (by simp [nodeDefaults, PaintList.name])
    · exact keeps_paints wellFormed .strokes (by decide) (by simp [nodeDefaults, PaintList.name])
    · exact number (by decide)
    · exact number (by decide)
    · exact text (by decide)
    · exact text (by decide)
    · exact text (by decide)
    · exact number (by decide)
    · exact number (by decide)
    · exact number (by decide)
    · exact number (by decide)
    · exact number (by decide)
    · exact number (by decide)
    · exact keeps_children wellFormed isTree kept
    · exact keeps_type isTree

end Nodes

/-- A written tree, restricted to the keys of the value that was read, is this value. -/
theorem restrictedTo_toJson_buildNode {value : Json} (wellFormed : IsWellFormed value)
    (isTree : IsTree value) : (buildNode value).toJson.restrictedTo value = value := by
  induction value using treeInduction with
  | leaf value noObject =>
      cases isTree with
      | childless => exact absurd rfl (noObject _)
      | parent => exact absurd rfl (noObject _)
  | object fields inductionHypothesis =>
      have kept (item : Json) (isItem : item ∈ childItems fields) :
          (buildNode item).toJson.restrictedTo item = item :=
        inductionHypothesis item isItem (wellFormed.child isItem) (isTree.child isItem)
      rw [toJson_buildNode]
      exact (preserves_node wellFormed isTree kept).restricted

/-! ### The places of a written tree -/

def Place.defaults : Place → Fields
  | .node => nodeDefaults
  | .box => boxDefaults
  | .background | .paintColor _ _ => colorDefaults
  | .paint _ _ => paintDefaults
  | .textStyle => []

section Places

variable {fields : Fields}

/-- An optional record is written where it was read, and completed. -/
theorem completes_optional {α : Type} {read? : Json → Option α} {toJson : α → Json}
    {written inner : Fields} {name : String} {shape schema : Schema} {defaults : Fields}
    (value : field? written name = ((field? fields name).bind read?).map toJson)
    (objects : ∀ value, field? fields name = some value → ∃ inner, value = .object inner)
    (preserves : ∀ inner, objectUnder? fields name = some inner →
      ∃ record written, read? (.object inner) = some record ∧ toJson record = .object written ∧
        Preserves shape defaults inner written)
    (found : (objectUnder? written name).map (shape, ·) = some (schema, inner)) :
    ∃ given, (objectUnder? fields name).map (shape, ·) = some (schema, given) ∧
      Completes schema.names defaults given inner := by
  obtain ⟨_, isInner, same⟩ := Option.map_eq_some_iff.mp found
  cases same
  rw [objectUnder?_eq_some, value, Option.map_eq_some_iff] at isInner
  obtain ⟨record, isRecord, isWritten⟩ := isInner
  obtain ⟨source, atName, read⟩ := Option.bind_eq_some_iff.mp isRecord
  obtain ⟨given, rfl⟩ := objects source atName
  have isGiven := objectUnder?_eq_some.mpr atName
  obtain ⟨record', written', read', isWritten', preserved⟩ := preserves given isGiven
  rw [read] at read'
  cases read'
  rw [isWritten] at isWritten'
  cases isWritten'
  exact ⟨given, by rw [isGiven]; rfl, preserved.completes⟩

/-- The fields of a written node have the values that were read. -/
theorem field?_nodeEntries (wellFormed : IsWellFormed (.object fields)) :
    ∀ slot ∈ (readAttributes fields).slots (((childItems fields).map buildNode).map Node.toJson),
      field? (nodeEntries fields) slot.1 = slot.2 :=
  (writes_node (wellFormed.conforms_place .node rfl) _).field?_eq

private theorem isTextNode_nodeEntries (wellFormed : IsWellFormed (.object fields)) :
    isTextNode (nodeEntries fields) = isTextNode fields := by
  have type : (nodeEntries fields).lookup "type" = some (.string (readKind fields).tag) :=
    (writes_node (wellFormed.conforms_place .node rfl) _).lookup_of_mem
      (by simp [Attributes.slots, Attributes.commonSlots, readAttributes])
  unfold isTextNode
  rw [type, tag_readKind]
  cases (fields.lookup "type").bind Json.text? <;> rfl

private theorem field?_paints_nodeEntries (wellFormed : IsWellFormed (.object fields))
    (list : PaintList) :
    field? (nodeEntries fields) list.name =
      some (.array ((readPaints (field? fields list.name)).map Paint.toJson)) := by
  have values := field?_nodeEntries wellFormed
  cases list with
  | fills => exact values (_, _) (by simp [Attributes.slots, Attributes.commonSlots, readAttributes,
      PaintList.name])
  | strokes => exact values (_, _) (by simp [Attributes.slots, Attributes.commonSlots,
      readAttributes, PaintList.name])

/-- A paint is written at the position at which it was read. -/
theorem paintAt?_nodeEntries (wellFormed : IsWellFormed (.object fields)) {list : PaintList}
    {position : Nat} {written : Fields}
    (found : paintAt? (nodeEntries fields) list position = some written) :
    ∃ inner, paintAt? fields list position = some inner ∧
      (Paint.read (.object inner)).toJson = .object written := by
  have isField : (list.name, .paints) ∈ commonFieldTypes := by cases list <;> decide
  have conforms := wellFormed.conforms_place .node rfl
  have isName : list.name ∈ (nodeSchema (isTextNode fields)).names :=
    List.mem_map_of_mem (mem_nodeSchema isField)
  obtain ⟨items', isList', atPosition'⟩ := paintAt?_eq_some.mp found
  rw [field?_paints_nodeEntries wellFormed] at isList'
  cases isList'
  rw [List.getElem?_map, Option.map_eq_some_iff] at atPosition'
  obtain ⟨paint, isPaint, isWritten⟩ := atPosition'
  unfold readPaints at isPaint
  split at isPaint
  next items isList =>
    rw [List.getElem?_map, Option.map_eq_some_iff] at isPaint
    obtain ⟨item, atPosition, rfl⟩ := isPaint
    have atName : fields.lookup list.name = some (.array items) := by
      rw [← conforms.field?_eq isName]
      exact isList
    obtain ⟨_, same, objects⟩ := conforms.declared _ (mem_nodeSchema isField) _ atName
    cases same
    obtain ⟨inner, rfl⟩ := objects item (List.mem_of_getElem? atPosition)
    exact ⟨inner, paintAt?_eq_some.mpr ⟨items, isList, atPosition⟩, isWritten⟩
  · cases isPaint

/-- The colour of a written paint is the one that was read. -/
theorem field?_color_of_toJson (wellFormed : IsWellFormed (.object fields)) {list : PaintList}
    {position : Nat} {source written : Fields}
    (isSource : paintAt? fields list position = some source)
    (isWritten : (Paint.read (.object source)).toJson = .object written) :
    field? written "color" = ((field? source "color").bind Color.read?).map Color.toJson := by
  have conforms : paintSchema.Conforms source :=
    wellFormed.conforms_place (.paint list position) (by rw [Place.find?, isSource]; rfl)
  have writes : paintSchema.Writes (Paint.read (.object source)).slots
      (Paint.read (.object source)).extras := ⟨rfl, by decide, conforms.isForeign_extrasOf⟩
  rw [Paint.toJson_eq] at isWritten
  cases isWritten
  exact writes.field?_eq ("color", (Paint.read (.object source)).color.map Color.toJson)
    (by simp [Paint.slots])

/-- Every record of a written node stands where it was read, and completes what was read. -/
theorem completes_place (wellFormed : IsWellFormed (.object fields))
    (isTree : IsTree (.object fields)) {place : Place} {schema : Schema} {written : Fields}
    (found : place.find? (nodeEntries fields) = some (schema, written)) :
    ∃ given, place.find? fields = some (schema, given) ∧
      Completes schema.names place.defaults given written := by
  have conforms := wellFormed.conforms_place .node rfl
  have values := field?_nodeEntries wellFormed
  simp only [Attributes.slots, Attributes.commonSlots, List.forall_mem_append,
    List.forall_mem_cons] at values
  obtain ⟨⟨_, _, box, background, _⟩, ofText⟩ := values
  cases place with
  | node =>
      rw [Place.find?, isTextNode_nodeEntries wellFormed] at found
      cases found
      have kept (item : Json) (isItem : item ∈ childItems fields) :
          (buildNode item).toJson.restrictedTo item = item :=
        restrictedTo_toJson_buildNode (wellFormed.child isItem) (isTree.child isItem)
      exact ⟨fields, rfl, (preserves_node wellFormed isTree kept).completes⟩
  | box =>
      have isField :
          ("absoluteBoundingBox", FieldType.box) ∈ (nodeSchema (isTextNode fields)).fields :=
        mem_nodeSchema (by decide)
      exact completes_optional box (fun _ => conforms.declares_of_field? isField)
        (fun _ => wellFormed.preserves_box) found
  | background =>
      have isField :
          ("backgroundColor", FieldType.color) ∈ (nodeSchema (isTextNode fields)).fields :=
        mem_nodeSchema (by decide)
      exact completes_optional background (fun _ => conforms.declares_of_field? isField)
        (fun _ => wellFormed.preserves_background) found
  | paint list position =>
      rw [Place.find?, Option.map_eq_some_iff] at found
      obtain ⟨inner, atPosition, same⟩ := found
      cases same
      obtain ⟨given, isGiven, isWritten⟩ := paintAt?_nodeEntries wellFormed atPosition
      obtain ⟨written', isWritten', preserved⟩ := wellFormed.preserves_paint isGiven
      rw [isWritten] at isWritten'
      cases isWritten'
      exact ⟨given, by rw [Place.find?, isGiven]; rfl, preserved.completes⟩
  | paintColor list position =>
      cases atPosition : paintAt? (nodeEntries fields) list position with
      | none =>
          rw [Place.find?, atPosition] at found
          cases found
      | some paint =>
          rw [Place.find?, atPosition, Option.bind_some] at found
          obtain ⟨source, isSource, isWritten⟩ := paintAt?_nodeEntries wellFormed atPosition
          rw [Place.find?, isSource, Option.bind_some]
          have isField : ("color", FieldType.color) ∈ paintSchema.fields := by decide
          have paintConforms : paintSchema.Conforms source :=
            wellFormed.conforms_place (.paint list position) (by rw [Place.find?, isSource]; rfl)
          exact completes_optional (field?_color_of_toJson wellFormed isSource isWritten)
            (fun _ => paintConforms.declares_of_field? isField)
            (fun _ => wellFormed.preserves_paintColor isSource) found
  | textStyle =>
      rw [Place.find?, isTextNode_nodeEntries wellFormed] at found
      cases isText : isTextNode fields with
      | false =>
          rw [isText] at found
          cases found
      | true =>
          rw [isText, if_pos rfl] at found
          rw [Place.find?, if_pos isText]
          have kind : (readAttributes fields).kind = _ :=
            readKind_of_text (isTextNode_iff.mp isText)
          rw [kind] at ofText
          have style := ofText _ (List.mem_cons_of_mem _ List.mem_cons_self)
          have isField :
              ("style", FieldType.textStyle) ∈ (nodeSchema (isTextNode fields)).fields := by
            rw [isText]
            decide
          exact completes_optional style (fun _ => conforms.declares_of_field? isField)
            (fun _ => wellFormed.preserves_textStyle isText) found

/-- The children of a written node are the written children. -/
theorem childItems_nodeEntries (wellFormed : IsWellFormed (.object fields)) :
    childItems (nodeEntries fields) =
      (childItems fields).map fun item => (buildNode item).toJson := by
  have children : (nodeEntries fields).lookup "children" =
      some (.array (((childItems fields).map buildNode).map Node.toJson)) :=
    (writes_node (wellFormed.conforms_place .node rfl) _).lookup_of_mem
      (by simp [Attributes.slots, Attributes.commonSlots])
  rw [childItems_eq children, List.map_map]
  rfl

end Places

/-- Every record of a written tree stands at the place of a record that was read, and completes
this one. -/
theorem completes_recordAt {value : Json} (wellFormed : IsWellFormed value) (isTree : IsTree value)
    {path : List Nat} {place : Place} {schema : Schema} {written : Fields}
    (found : recordAt? path place (buildNode value).toJson = some (schema, written)) :
    ∃ given, recordAt? path place value = some (schema, given) ∧
      Completes schema.names place.defaults given written := by
  induction path generalizing value with
  | nil =>
      obtain ⟨fields, rfl⟩ := isTree.exists_object
      rw [toJson_buildNode] at found
      exact completes_place wellFormed isTree found
  | cons position path inductionHypothesis =>
      obtain ⟨fields, rfl⟩ := isTree.exists_object
      have children := childItems_nodeEntries wellFormed
      rw [toJson_buildNode] at found
      cases atPosition : (childItems fields)[position]? with
      | none =>
          have noChild : (childItems (nodeEntries fields))[position]? = none := by
            rw [children, List.getElem?_map, atPosition]
            rfl
          rw [recordAt?, nodeAt?, noChild] at found
          cases found
      | some item =>
          have written : (childItems (nodeEntries fields))[position]? =
              some (buildNode item).toJson := by
            rw [children, List.getElem?_map, atPosition]
            rfl
          have isItem := List.mem_of_getElem? atPosition
          rw [recordAt?_cons written] at found
          rw [recordAt?_cons atPosition]
          exact inductionHypothesis (wellFormed.child isItem) (isTree.child isItem) found

/-- Nothing of a well-formed design is lost when it is read and written: the written tree has the
value at every key of the value, and what its records have besides are defaults. -/
theorem IsWellFormed.preserved {value : Json} (wellFormed : IsWellFormed value) {node : Node}
    (accepted : Node.read value = .ok node) :
    node.toJson.restrictedTo value = value ∧
      ∀ path place schema written,
        recordAt? path place node.toJson = some (schema, written) →
        ∃ given, recordAt? path place value = some (schema, given) ∧
          Completes schema.names place.defaults given written := by
  have isTree := isTree_of_read accepted
  obtain rfl := Node.eq_buildNode_of_read accepted
  exact ⟨restrictedTo_toJson_buildNode wellFormed isTree,
    fun _ _ _ _ found => completes_recordAt wellFormed isTree found⟩

/-- A frame with a box of one member, a paint of a colour, an entry of its own that holds a null,
and a text in it, in an order that is not the one of writing. -/
theorem IsWellFormed.preserved_of_frame_with_text :
    let style : Fields := [("x", .string "kept"), ("fontSize", .number (.int 12))]
    let text : Fields :=
      [("type", .string "TEXT"), ("style", .object style), ("characters", .string "\x7d")]
    let color : Fields := [("g", .number (.int 1)), ("r", .number (.int 0))]
    let paint : Fields := [("color", .object color), ("visible", .bool false)]
    let box : Fields := [("width", .number (.int 3))]
    let frame : Fields :=
      [("mine", .object [("id", .null)]), ("absoluteBoundingBox", .object box),
        ("children", .array [.object text]), ("fills", .array [.object paint])]
    IsWellFormed (.object frame) ∧ ∃ node, Node.read (.object frame) = .ok node ∧
      node.toJson.restrictedTo (.object frame) = .object frame := by
  intro style text color paint box frame
  have ofStyle : textStyleSchema.Conforms style := by
    refine ⟨by decide +kernel, by simp [style], ?_⟩
    simp [style, textStyleSchema, FieldType.Declares, Fields.lookup_cons]
  have ofText : (nodeSchema true).Conforms text := by
    refine ⟨by decide +kernel, by simp [text], ?_⟩
    simp [text, nodeSchema, commonFieldTypes, FieldType.Declares, Fields.lookup_cons]
  have ofColor : colorSchema.Conforms color := by
    refine ⟨by decide +kernel, by simp [color], ?_⟩
    simp [color, colorSchema, FieldType.Declares, Fields.lookup_cons]
  have ofPaint : paintSchema.Conforms paint := by
    refine ⟨by decide +kernel, by simp [paint], ?_⟩
    simp [paint, paintSchema, FieldType.Declares, Fields.lookup_cons]
  have ofBox : boxSchema.Conforms box := by
    refine ⟨by decide +kernel, by simp [box], ?_⟩
    simp [box, boxSchema, FieldType.Declares, Fields.lookup_cons]
  have ofFrame : (nodeSchema false).Conforms frame := by
    refine ⟨by decide +kernel, by simp [frame], ?_⟩
    simp [frame, nodeSchema, commonFieldTypes, FieldType.Declares, Fields.lookup_cons]
  have child : IsWellFormed (.object text) := by
    refine isWellFormed_object (by simp [text, style]) ofText nofun nofun ?_ ?_ nofun
    · rintro (_ | _) <;> nofun
    · intro _ inner isStyle
      cases isStyle
      exact ofStyle
  have wellFormed : IsWellFormed (.object frame) := by
    refine isWellFormed_object ?_ ofFrame ?_ nofun ?_ nofun ?_
    · simp [frame, box, paint, color, text, style]
    · intro inner isBox
      cases isBox
      exact ofBox
    · intro list items inner isList isItem
      cases list <;> cases isList
      cases List.mem_singleton.mp isItem
      refine ⟨ofPaint, fun inner isColor => ?_⟩
      cases isColor
      exact ofColor
    · intro item isItem
      cases List.mem_singleton.mp isItem
      exact child
  have accepted : Node.read (.object frame) = .ok (buildNode (.object frame)) := rfl
  obtain ⟨same, -⟩ := wellFormed.preserved accepted
  exact ⟨wellFormed, _, accepted, same⟩

end DesignCompiler.Design
