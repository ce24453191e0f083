import DesignCompiler.Design.Writing
import DesignCompiler.Markup
import DesignCompiler.Proofs.Design.Schema
import DesignCompiler.Proofs.Design.Tree
import Mathlib.Data.List.Forall2

/-!
Contract: malformed optional entries count as absent, at any depth.

Owns:
- `Erases`, from a value to the same value without some of its malformed optional entries, and with
  blank paints in the place of paints that are no objects;
- the law that both values are read alike, so that everything made of the trees agrees.

An entry is erased only if the object does not carry the other spelling of its field as well: that
entry would be read in its place.

Does not own: which values are malformed for a field, see `DesignCompiler.Proofs.Design.Schema`.
-/

set_option autoImplicit false

namespace DesignCompiler.Design

def isTextNode (fields : Fields) : Bool :=
  (fields.lookup "type").bind Json.text? == some "TEXT"

/-- A paint without some of its malformed entries, or a blank one for what is no object. -/
inductive ErasesPaint : Json → Json → Prop where
  | same (value : Json) : ErasesPaint value value
  | blank {value : Json} (noObject : ∀ fields, value ≠ .object fields) :
      ErasesPaint value (.object [])
  | entries {fields : Fields} {lost : List String} (mayLose : paintSchema.MayLose fields lost) :
      ErasesPaint (.object fields) (.object (fields.without lost))

mutual

/-- A value without some of the malformed optional entries of its nodes. -/
inductive Erases : Json → Json → Prop where
  | same (value : Json) : Erases value value
  | node {fields fields' : Fields} {lost : List String}
      (mayLose : (nodeSchema (isTextNode fields)).MayLose fields lost)
      (entries : ErasesEntries (isTextNode fields) (fields.without lost) fields') :
      Erases (.object fields) (.object fields')

/-- The entries of a node, the values of which lose malformed entries themselves. -/
inductive ErasesEntries : Bool → Fields → Fields → Prop where
  | nil {isText : Bool} : ErasesEntries isText [] []
  | cons {isText : Bool} {key : String} {value value' : Json} {rest rest' : Fields}
      (first : ErasesValue isText key value value') (others : ErasesEntries isText rest rest') :
      ErasesEntries isText ((key, value) :: rest) ((key, value') :: rest')

/-- The value of an entry of a node: paints, a typography and children may lose entries. -/
inductive ErasesValue : Bool → String → Json → Json → Prop where
  | same {isText : Bool} {key : String} (value : Json) : ErasesValue isText key value value
  | paints {isText : Bool} {key : String} {items items' : List Json}
      (isPaints : key = "fills" ∨ key = "strokes")
      (paints : List.Forall₂ ErasesPaint items items') :
      ErasesValue isText key (.array items) (.array items')
  | textStyle {fields : Fields} {lost : List String}
      (mayLose : textStyleSchema.MayLose fields lost) :
      ErasesValue true "style" (.object fields) (.object (fields.without lost))
  | children {isText : Bool} {items items' : List Json} (trees : ErasesItems items items') :
      ErasesValue isText "children" (.array items) (.array items')

inductive ErasesItems : List Json → List Json → Prop where
  | nil : ErasesItems [] []
  | cons {item item' : Json} {rest rest' : List Json} (first : Erases item item')
      (others : ErasesItems rest rest') : ErasesItems (item :: rest) (item' :: rest')

end

/-! ### Paints and typographies -/

private theorem Schema.MayLose.read_paint {fields : Fields} {lost : List String}
    (mayLose : paintSchema.MayLose fields lost) :
    Paint.read (.object (fields.without lost)) = Paint.read (.object fields) := by
  have kind := mayLose.optionalText (show ("type", .text) ∈ paintSchema.fields by decide)
  have visible := mayLose.reading (show ("visible", .flag) ∈ paintSchema.fields by decide)
    (·.bind flag?) fun _ malformed => malformed
  have color := mayLose.reading (show ("color", .color) ∈ paintSchema.fields by decide)
    (·.bind Color.read?) fun _ => Color.read?_of_malformed
  have opacity := mayLose.optionalNumber (show ("opacity", .number) ∈ paintSchema.fields by decide)
  have extras := mayLose.extrasOf
  rw [paintSchema_names] at extras
  dsimp only at visible color
  rw [Paint.read, Paint.read, kind, visible, color, opacity, extras]

theorem ErasesPaint.read_eq {value value' : Json} (erases : ErasesPaint value value') :
    Paint.read value' = Paint.read value := by
  cases erases with
  | same => rfl
  | blank noObject =>
      cases value with
      | object fields => exact absurd rfl (noObject fields)
      | _ => rfl
  | entries mayLose => exact mayLose.read_paint

/-- Every paint stays in its place. -/
theorem readPaints_of_erasesPaint {items items' : List Json}
    (paints : List.Forall₂ ErasesPaint items items') :
    readPaints (some (.array items')) = readPaints (some (.array items)) := by
  show items'.map Paint.read = items.map Paint.read
  induction paints with
  | nil => rfl
  | cons first _ inductionHypothesis =>
      rw [List.map_cons, List.map_cons, first.read_eq, inductionHypothesis]

private theorem Schema.MayLose.read_textStyle {fields : Fields} {lost : List String}
    (mayLose : textStyleSchema.MayLose fields lost) :
    TextStyle.read? (.object (fields.without lost)) = TextStyle.read? (.object fields) := by
  have text {name : String} (isField : (name, .text) ∈ textStyleSchema.fields) :=
    mayLose.optionalText isField
  have number {name : String} (isField : (name, .number) ∈ textStyleSchema.fields) :=
    mayLose.optionalNumber isField
  have extras := mayLose.extrasOf
  rw [textStyleSchema_names] at extras
  rw [TextStyle.read?, TextStyle.read?, number (show ("fontSize", _) ∈ _ by decide),
    text (show ("fontFamily", _) ∈ _ by decide), number (show ("fontWeight", _) ∈ _ by decide),
    number (show ("letterSpacing", _) ∈ _ by decide),
    number (show ("lineHeightPx", _) ∈ _ by decide),
    text (show ("textAlignHorizontal", _) ∈ _ by decide), extras]

/-! ### Attributes -/

theorem isTextNode_iff {fields : Fields} :
    isTextNode fields = true ↔ fields.lookup "type" = some (.string "TEXT") := by
  unfold isTextNode
  rw [beq_iff_eq, Option.bind_eq_some_iff]
  constructor
  · rintro ⟨type, found, isText⟩
    cases type with
    | string tag =>
        rw [found, Option.some.inj isText]
    | _ => cases isText
  · intro found
    exact ⟨_, found, rfl⟩

private theorem readKind_congr {fields fields' : Fields}
    (type : fields'.lookup "type" = fields.lookup "type")
    (characters : isTextNode fields = true →
      optionalText fields' "characters" = optionalText fields "characters")
    (style : isTextNode fields = true →
      (field? fields' "style").bind TextStyle.read? =
        (field? fields "style").bind TextStyle.read?) :
    readKind fields' = readKind fields := by
  unfold readKind
  rw [type]
  split
  · rfl
  · rfl
  · rfl
  next found =>
    have isText := isTextNode_iff.mpr found
    rw [characters isText, style isText]
  · rfl
  · rfl

theorem declaredFields_readKind (fields : Fields) :
    (readKind fields).declaredFields = (nodeSchema (isTextNode fields)).names := by
  rw [nodeSchema_names]
  cases isText : isTextNode fields with
  | true =>
      rw [readKind_of_text (isTextNode_iff.mp isText)]
      rfl
  | false =>
      show _ = commonFields
      unfold readKind
      split
      · rfl
      · rfl
      · rfl
      next found =>
        rw [isTextNode_iff.mpr found] at isText
        cases isText
      · rfl
      · rfl

private theorem readAttributes_congr {fields fields' : Fields}
    (texts : ∀ name, (name, .text) ∈ commonFieldTypes →
      optionalText fields' name = optionalText fields name)
    (numbers : ∀ name, (name, .number) ∈ commonFieldTypes →
      optionalNumber fields' name = optionalNumber fields name)
    (box : (field? fields' "absoluteBoundingBox").bind Box.read? =
      (field? fields "absoluteBoundingBox").bind Box.read?)
    (background : (field? fields' "backgroundColor").bind Color.read? =
      (field? fields "backgroundColor").bind Color.read?)
    (fills : readPaints (field? fields' "fills") = readPaints (field? fields "fills"))
    (strokes : readPaints (field? fields' "strokes") = readPaints (field? fields "strokes"))
    (kind : readKind fields' = readKind fields)
    (extras : extrasOf (readKind fields).declaredFields fields' =
      extrasOf (readKind fields).declaredFields fields) :
    readAttributes fields' = readAttributes fields := by
  unfold readAttributes
  dsimp only
  rw [kind, extras, box, background, fills, strokes, texts "id" (by decide),
    texts "name" (by decide), texts "layoutMode" (by decide),
    texts "primaryAxisAlignItems" (by decide), texts "counterAxisAlignItems" (by decide),
    numbers "cornerRadius" (by decide), numbers "opacity" (by decide),
    numbers "paddingLeft" (by decide), numbers "paddingRight" (by decide),
    numbers "paddingTop" (by decide), numbers "paddingBottom" (by decide),
    numbers "itemSpacing" (by decide), numbers "layoutGrow" (by decide)]

/-- A node without its malformed entries says the same about itself. -/
theorem Schema.MayLose.readAttributes {fields : Fields} {lost : List String}
    (mayLose : (nodeSchema (isTextNode fields)).MayLose fields lost) :
    readAttributes (fields.without lost) = readAttributes fields := by
  have kind : readKind (fields.without lost) = readKind fields := by
    refine readKind_congr (mayLose.lookup_structural (mem_nodeSchema (by decide))) ?_ ?_
    · intro isText
      rw [isText] at mayLose
      exact mayLose.optionalText (show ("characters", _) ∈ (nodeSchema true).fields by decide)
    · intro isText
      rw [isText] at mayLose
      exact mayLose.reading (show ("style", .textStyle) ∈ (nodeSchema true).fields by decide)
        (·.bind TextStyle.read?) fun _ => TextStyle.read?_of_malformed
  have paints {name : String} (isField : (name, .paints) ∈ commonFieldTypes) :=
    mayLose.reading (mem_nodeSchema isField) readPaints fun _ => readPaints_of_malformed
  apply readAttributes_congr
  · intro name isField
    exact mayLose.optionalText (mem_nodeSchema isField)
  · intro name isField
    exact mayLose.optionalNumber (mem_nodeSchema isField)
  · exact mayLose.reading
      (mem_nodeSchema (show ("absoluteBoundingBox", .box) ∈ commonFieldTypes by decide))
      (·.bind Box.read?) fun _ => Box.read?_of_malformed
  · exact mayLose.reading
      (mem_nodeSchema (show ("backgroundColor", .color) ∈ commonFieldTypes by decide))
      (·.bind Color.read?) fun _ => Color.read?_of_malformed
  · exact paints (show ("fills", _) ∈ _ by decide)
  · exact paints (show ("strokes", _) ∈ _ by decide)
  · exact kind
  · rw [declaredFields_readKind]
    exact mayLose.extrasOf

/-! ### Values inside of a node -/

/-- The fields of a node the values of which may lose entries themselves. -/
def nestedFields : List String :=
  ["fills", "strokes", "style", "children"]

private theorem spellings_plain :
    ∀ field ∈ commonFieldTypes, field.2 ≠ .paints → field.2 ≠ .structural →
    ∀ key ∈ spellings field.1, key ∉ nestedFields := by
  decide +kernel

namespace ErasesValue

variable {isText : Bool} {key : String} {value value' : Json}

private theorem eq_of_plain (erases : ErasesValue isText key value value')
    (plain : key ∉ nestedFields) :
    value' = value := by
  cases erases with
  | same => rfl
  | paints isPaints _ =>
      rcases isPaints with rfl | rfl
      · exact absurd (by decide) plain
      · exact absurd (by decide) plain
  | textStyle => exact absurd (by decide) plain
  | children => exact absurd (by decide) plain

private theorem readPaints_eq (erases : ErasesValue isText key value value')
    (noChildren : key ≠ "children") :
    readPaints (some value') = readPaints (some value) := by
  cases erases with
  | same => rfl
  | paints _ paints => exact readPaints_of_erasesPaint paints
  | textStyle => rfl
  | children => exact absurd rfl noChildren

private theorem read_textStyle (erases : ErasesValue isText key value value') :
    TextStyle.read? value' = TextStyle.read? value := by
  cases erases with
  | same => rfl
  | paints _ _ => rfl
  | textStyle mayLose => exact mayLose.read_textStyle
  | children => rfl

private theorem children_cases (erases : ErasesValue isText key value value')
    (isChildren : key = "children") :
    value' = value ∨ ∃ items items', value = .array items ∧ value' = .array items' ∧
      ErasesItems items items' := by
  cases erases with
  | same => exact Or.inl rfl
  | paints isPaints _ =>
      rw [isChildren] at isPaints
      exact absurd isPaints (by decide)
  | textStyle => exact absurd isChildren (by decide)
  | children trees => exact Or.inr ⟨_, _, rfl, rfl, trees⟩

/-- A value that loses entries is the value of a declared field. -/
theorem eq_or_declared (erases : ErasesValue isText key value value') :
    value' = value ∨ key ∈ (nodeSchema isText).names := by
  cases erases with
  | same => exact Or.inl rfl
  | paints isPaints _ =>
      right
      rcases isPaints with rfl | rfl
      · cases isText <;> decide
      · cases isText <;> decide
  | textStyle => exact Or.inr (by decide)
  | children =>
      right
      cases isText <;> decide

end ErasesValue

namespace ErasesEntries

variable {isText : Bool} {fields fields' : Fields}

/-- The keys stay, and the values lose entries at most. -/
theorem lookup_cases (erases : ErasesEntries isText fields fields') (key : String) :
    (fields.lookup key = none ∧ fields'.lookup key = none) ∨
      ∃ value value', fields.lookup key = some value ∧ fields'.lookup key = some value' ∧
        ErasesValue isText key value value' := by
  induction fields generalizing fields' with
  | nil =>
      cases erases
      exact Or.inl ⟨rfl, rfl⟩
  | cons entry rest inductionHypothesis =>
      cases erases with
      | @cons _ first value value' _ rest' erasesFirst erasesOthers =>
          rw [Fields.lookup_cons, Fields.lookup_cons]
          by_cases same : first = key
          · subst same
            rw [if_pos rfl, if_pos rfl]
            exact Or.inr ⟨value, value', rfl, rfl, erasesFirst⟩
          · rw [if_neg same, if_neg same]
            exact inductionHypothesis erasesOthers

private theorem has_eq (erases : ErasesEntries isText fields fields') (key : String) :
    fields'.has key = fields.has key := by
  unfold Fields.has
  rcases erases.lookup_cases key with ⟨absent, absent'⟩ | ⟨value, value', found, found', _⟩
  · rw [absent, absent']
  · rw [found, found']
    rfl

/-- What reads two values alike of which one has lost entries reads the values under a key alike. -/
theorem lookup_reading (erases : ErasesEntries isText fields fields') (key : String) {α : Type}
    (read : Option Json → α)
    (alike : ∀ value value', ErasesValue isText key value value' →
      read (some value') = read (some value)) :
    read (fields'.lookup key) = read (fields.lookup key) := by
  rcases erases.lookup_cases key with ⟨absent, absent'⟩ | ⟨value, value', found, found', inside⟩
  · rw [absent, absent']
  · rw [found, found', alike value value' inside]

private theorem field?_reading (erases : ErasesEntries isText fields fields') (name : String)
    {α : Type} (read : Option Json → α)
    (alike : ∀ key ∈ spellings name, ∀ value value', ErasesValue isText key value value' →
      read (some value') = read (some value)) :
    read (field? fields' name) = read (field? fields name) := by
  have own := alike name List.mem_cons_self
  have other := alike (snakeCase name) (List.mem_cons_of_mem _ List.mem_cons_self)
  unfold field?
  rcases erases.lookup_cases name with ⟨absent, absent'⟩ | ⟨value, value', found, found', inside⟩
  · rw [absent, absent']
    exact erases.lookup_reading (snakeCase name) read other
  · rw [found, found']
    exact own value value' inside

/-- A field of which no value is nested has the same value. -/
theorem field?_plain (erases : ErasesEntries isText fields fields') {name : String}
    (plain : ∀ key ∈ spellings name, key ∉ nestedFields) :
    field? fields' name = field? fields name :=
  erases.field?_reading name id fun key isSpelling _ _ inside =>
    congrArg some (inside.eq_of_plain (plain key isSpelling))

theorem extrasOf (erases : ErasesEntries isText fields fields') :
    extrasOf (nodeSchema isText).names fields' = extrasOf (nodeSchema isText).names fields := by
  have declared (key : String) : isDeclared (nodeSchema isText).names fields' key =
      isDeclared (nodeSchema isText).names fields key := by
    rw [Bool.eq_iff_iff, isDeclared_iff, isDeclared_iff]
    simp only [erases.has_eq]
  unfold Design.extrasOf
  simp only [declared]
  have isNested {key : String} (isName : key ∈ (nodeSchema isText).names) :
      isDeclared (nodeSchema isText).names fields key = true :=
    isDeclared_iff.mpr (Or.inl isName)
  generalize isDeclared (nodeSchema isText).names fields = isDeclaredKey at isNested
  clear declared
  induction fields generalizing fields' with
  | nil =>
      cases erases
      rfl
  | cons entry rest inductionHypothesis =>
      cases erases with
      | @cons _ key value value' _ rest' inside others =>
          rw [List.filter_cons, List.filter_cons, inductionHypothesis others]
          rcases inside.eq_or_declared with rfl | isName
          · rfl
          · rw [isNested isName]
            rfl

private theorem lookup_type (erases : ErasesEntries isText fields fields') :
    fields'.lookup "type" = fields.lookup "type" :=
  erases.lookup_reading "type" id fun _ _ inside => congrArg some (inside.eq_of_plain (by decide))

/-- A node the values of which lose entries says the same about itself. -/
theorem readAttributes (erases : ErasesEntries isText fields fields')
    (ofText : isTextNode fields = isText) : readAttributes fields' = readAttributes fields := by
  have plain {name : String} {type : FieldType} (isField : (name, type) ∈ commonFieldTypes)
      (noPaints : type ≠ .paints) (notStructural : type ≠ .structural) :
      field? fields' name = field? fields name :=
    erases.field?_plain (spellings_plain _ isField noPaints notStructural)
  have paints {name : String} (noChildren : "children" ∉ spellings name) :
      readPaints (field? fields' name) = readPaints (field? fields name) :=
    erases.field?_reading name readPaints fun key isSpelling _ _ inside =>
      inside.readPaints_eq fun isChildren => noChildren (isChildren ▸ isSpelling)
  apply readAttributes_congr
  · intro name isField
    exact congrArg (·.bind Json.text?) (plain isField (by decide) (by decide))
  · intro name isField
    exact congrArg (·.bind number?) (plain isField (by decide) (by decide))
  · rw [plain (show (_, .box) ∈ _ by decide) (by decide) (by decide)]
  · rw [plain (show (_, .color) ∈ _ by decide) (by decide) (by decide)]
  · exact paints (by decide +kernel)
  · exact paints (by decide +kernel)
  · apply readKind_congr
    · exact erases.lookup_type
    · intro _
      have same : field? fields' "characters" = field? fields "characters" :=
        erases.field?_plain (by decide +kernel)
      exact congrArg (·.bind Json.text?) same
    · intro _
      exact erases.field?_reading "style" (·.bind TextStyle.read?) fun _ _ _ _ inside =>
        inside.read_textStyle
  · rw [declaredFields_readKind, ofText]
    exact erases.extrasOf

end ErasesEntries

/-! ### Trees -/

namespace ErasesItems

variable {items items' : List Json}

private theorem refl (items : List Json) : ErasesItems items items := by
  induction items with
  | nil => exact .nil
  | cons item rest inductionHypothesis => exact .cons (.same item) inductionHypothesis

/-- A function that the erasure of no item changes has the same values for all items. -/
theorem map_eq (erases : ErasesItems items items') {α : Type} (f : Json → α)
    (alike : ∀ item ∈ items, ∀ item', Erases item item' → f item' = f item) :
    items'.map f = items.map f := by
  induction items generalizing items' with
  | nil =>
      cases erases
      rfl
  | cons item rest inductionHypothesis =>
      obtain ⟨first, others⟩ := List.forall_mem_cons.mp alike
      cases erases with
      | cons erasesFirst erasesOthers =>
          rw [List.map_cons, List.map_cons, first _ erasesFirst,
            inductionHypothesis erasesOthers others]

end ErasesItems

private theorem itemDefects_congr {items items' : List Json}
    (alike : items'.map defects = items.map defects) (start : Nat) :
    itemDefects start items' = itemDefects start items := by
  induction items generalizing items' start with
  | nil =>
      rw [List.map_eq_nil_iff.mp alike]
  | cons item rest inductionHypothesis =>
      obtain ⟨item', rest', rfl, first, others⟩ := List.map_eq_cons_iff.mp alike
      rw [itemDefects, itemDefects, first, inductionHypothesis others]

namespace ErasesEntries

variable {isText : Bool} {fields fields' : Fields}

/-- The children lose entries one by one. -/
theorem childItems (erases : ErasesEntries isText fields fields') :
    ErasesItems (childItems fields) (childItems fields') := by
  unfold Design.childItems
  rcases erases.lookup_cases "children" with
    ⟨absent, absent'⟩ | ⟨value, value', found, found', inside⟩
  · rw [absent, absent']
    exact .nil
  · rw [found, found']
    rcases inside.children_cases rfl with rfl | ⟨items, items', rfl, rfl, trees⟩
    · exact ErasesItems.refl _
    · exact trees

theorem childrenDefects (erases : ErasesEntries isText fields fields')
    (alike : (Design.childItems fields').map defects = (Design.childItems fields).map defects) :
    childrenDefects fields' = childrenDefects fields := by
  rw [childrenDefects_eq, childrenDefects_eq]
  rcases erases.lookup_cases "children" with
    ⟨absent, absent'⟩ | ⟨value, value', found, found', inside⟩
  · rw [absent, absent']
  · rcases inside.children_cases rfl with rfl | ⟨items, items', rfl, rfl, _⟩
    · rw [found, found']
    · rw [childItems_eq found, childItems_eq found'] at alike
      rw [found, found']
      exact itemDefects_congr alike 0

end ErasesEntries

/-- What the reading of a value is made of. -/
structure ReadAlike (value value' : Json) : Prop where
  buildNode_eq : buildNode value' = buildNode value
  defects_eq : defects value' = defects value
  reachesCompoundType_eq : reachesCompoundType value' = reachesCompoundType value

theorem ReadAlike.read_eq {value value' : Json} (alike : ReadAlike value value') :
    Node.read value' = Node.read value := by
  unfold Node.read
  rw [alike.reachesCompoundType_eq, alike.defects_eq, alike.buildNode_eq]

/-- Two objects are read alike if they say the same about their nodes and their children are read
alike. -/
theorem ReadAlike.object {fields fields' : Fields}
    (attributes : readAttributes fields' = readAttributes fields)
    (type : fields'.lookup "type" = fields.lookup "type")
    (defects : childrenDefects fields' = childrenDefects fields)
    (buildNodes : (childItems fields').map buildNode = (childItems fields).map buildNode)
    (compounds : (childItems fields').map reachesCompoundType =
      (childItems fields).map reachesCompoundType) :
    ReadAlike (.object fields) (.object fields') := by
  refine ⟨?_, ?_, ?_⟩
  · rw [buildNode_object, buildNode_object, attributes, buildNodes]
  · have kind : readKind fields' = readKind fields := congrArg Attributes.kind attributes
    rw [Design.defects, Design.defects, defects]
    unfold typeDefects pathTag
    rw [type, kind]
  · rw [reachesCompoundType_object, reachesCompoundType_object]
    unfold hasCompoundType
    rw [type]
    have anyCompound := congrArg (List.any · id) compounds
    simp only [List.any_map, Function.id_comp] at anyCompound
    rw [anyCompound]

private theorem Erases.readAlike {value value' : Json} (erases : Erases value value') :
    ReadAlike value value' := by
  induction value using treeInduction generalizing value' with
  | leaf value noObject =>
      cases erases with
      | same => exact ⟨rfl, rfl, rfl⟩
      | node => exact absurd rfl (noObject _)
  | object fields inductionHypothesis =>
      cases erases with
      | same => exact ⟨rfl, rfl, rfl⟩
      | @node _ fields' lost mayLose entries =>
          have type : (fields.without lost).lookup "type" = fields.lookup "type" :=
            mayLose.lookup_structural (mem_nodeSchema (by decide))
          have children : (fields.without lost).lookup "children" = fields.lookup "children" :=
            mayLose.lookup_structural (mem_nodeSchema (by decide))
          have ofText : isTextNode (fields.without lost) = isTextNode fields := by
            unfold isTextNode
            rw [type]
          have sameItems : childItems (fields.without lost) = childItems fields := by
            unfold childItems
            rw [children]
          have sameDefects : childrenDefects (fields.without lost) = childrenDefects fields := by
            rw [childrenDefects_eq, childrenDefects_eq, children]
          have items := entries.childItems
          have alike {α : Type} (f : Json → α)
              (same : ∀ value value', ReadAlike value value' → f value' = f value) :
              (childItems fields').map f = (childItems (fields.without lost)).map f := by
            refine items.map_eq f fun item isItem item' erases => same _ _ ?_
            rw [sameItems] at isItem
            exact inductionHypothesis item isItem erases
          have buildNodes := alike buildNode fun _ _ alike => alike.buildNode_eq
          have defects := alike defects fun _ _ alike => alike.defects_eq
          have compounds := alike reachesCompoundType fun _ _ alike => alike.reachesCompoundType_eq
          rw [sameItems] at buildNodes compounds
          refine .object ?_ ?_ ?_ buildNodes compounds
          · exact (entries.readAttributes ofText).trans mayLose.readAttributes
          · exact (entries.lookup_type).trans type
          · exact (entries.childrenDefects defects).trans sameDefects

/-- The erasure of malformed optional entries changes nothing: the value is accepted as it was, and
the tree is written, listed, styled and rendered as it was.  Every paint has the place in its list
that it has in the value, whichever of the others are malformed. -/
theorem Erases.tolerated {value value' : Json} (erases : Erases value value') {node : Node}
    (accepted : Node.read value = .ok node) :
    ∃ node', Node.read value' = .ok node' ∧
      node'.toJson = node.toJson ∧ node'.frames = node.frames ∧
      (∀ depth, node'.markup? depth = node.markup? depth) ∧
      (∀ path, (node'.at? path).map (Style.declaration? ·.attributes) =
        (node.at? path).map (Style.declaration? ·.attributes)) ∧
      ∀ path (fields : Fields), nodeAt? path value = some (.object fields) →
        ∃ inner, node'.at? path = some inner ∧
          (∀ items, fields.lookup "fills" = some (.array items) →
            inner.attributes.fills = items.map Paint.read) ∧
          (∀ items, fields.lookup "strokes" = some (.array items) →
            inner.attributes.strokes = items.map Paint.read) := by
  refine ⟨node, erases.readAlike.read_eq.trans accepted, rfl, rfl, fun _ => rfl, fun _ => rfl, ?_⟩
  intro path fields atPath
  refine ⟨buildNode (.object fields), ?_, ?_, ?_⟩
  · rw [Node.eq_buildNode_of_read accepted, at?_buildNode, atPath]
    rfl
  · intro items fills
    rw [buildNode_object]
    show readPaints (field? fields "fills") = _
    rw [field?_of_lookup fills]
    rfl
  · intro items strokes
    rw [buildNode_object]
    show readPaints (field? fields "strokes") = _
    rw [field?_of_lookup strokes]
    rfl

/-- A text without a name that is none, with a text for its first paint, a typography of which the
size is a list, and a child of which the other spelling of the corner radius is null. -/
theorem Erases.tolerated_at_every_depth :
    let fields : Fields :=
      [("type", .string "TEXT"), ("name", .number 1),
        ("fills", .array [.string "red", .object [("type", .string "SOLID")]]),
        ("style", .object [("fontSize", .array []), ("fontFamily", .string "Inter")]),
        ("children", .array [.object [("corner_radius", .null), ("id", .string "1")]])]
    let fields' : Fields :=
      [("type", .string "TEXT"),
        ("fills", .array [.object [], .object [("type", .string "SOLID")]]),
        ("style", .object [("fontFamily", .string "Inter")]),
        ("children", .array [.object [("id", .string "1")]])]
    ∃ node node', Node.read (.object fields) = .ok node ∧ Node.read (.object fields') = .ok node' ∧
      node'.toJson = node.toJson := by
  intro fields fields'
  have name : (nodeSchema true).MayLose fields ["name"] :=
    .single (show ("name", .text) ∈ _ by decide) (by decide) (show _ = some (.number 1) from rfl)
      (fun _ => nofun) (by decide +kernel)
  have size : textStyleSchema.MayLose
      [("fontSize", .array []), ("fontFamily", .string "Inter")] ["fontSize"] :=
    .single (show ("fontSize", .number) ∈ _ by decide) (by decide) rfl rfl (by decide +kernel)
  have radius : (nodeSchema false).MayLose
      [("corner_radius", .null), ("id", .string "1")] ["corner_radius"] :=
    .single (show ("cornerRadius", .number) ∈ _ by decide) (by decide +kernel) rfl rfl
      (by decide +kernel)
  have paints : List.Forall₂ ErasesPaint [.string "red", .object [("type", .string "SOLID")]]
      [.object [], .object [("type", .string "SOLID")]] :=
    .cons (.blank fun _ => nofun) (.cons (.same _) .nil)
  have child : Erases (.object [("corner_radius", .null), ("id", .string "1")])
      (.object [("id", .string "1")]) :=
    .node radius (.cons (.same _) .nil)
  have erases : Erases (.object fields) (.object fields') := by
    refine .node name ?_
    exact .cons (.same _) (.cons (.paints (Or.inl rfl) paints) (.cons (.textStyle size)
      (.cons (.children (.cons child .nil)) .nil)))
  have accepted : Node.read (.object fields) = .ok (buildNode (.object fields)) := rfl
  obtain ⟨node', read, toJson, _⟩ := erases.tolerated accepted
  exact ⟨_, node', accepted, read, toJson⟩

end DesignCompiler.Design
