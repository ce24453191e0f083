import DesignCompiler.Proofs.Design.Acceptance
import DesignCompiler.Proofs.Design.Place
import DesignCompiler.Proofs.Markup.Visibility

/-!
Contract: a tree that was written is read as it was.

Owns:
- the trees without the entries that are null, which are never written and never shown;
- `Node.IsReadable`, the trees of which no entry is taken for a field it does not belong to;
- the reading of a written tree, which yields the tree without the null entries;
- the law that writing what was read reaches its normal form at once.

A field and its other spelling may not both be present: the second one would be an entry of its
own, and a field of the written tree if the first is malformed.

Does not own: which values are read at all, see `DesignCompiler.Proofs.Design.Acceptance`.
-/

set_option autoImplicit false

namespace DesignCompiler.Design

/-! ### Null entries -/

def Color.withoutNulls (color : Color) : Color :=
  { color with extras := presentExtras color.extras }

def Box.withoutNulls (box : Box) : Box :=
  { box with extras := presentExtras box.extras }

def Paint.withoutNulls (paint : Paint) : Paint :=
  { paint with color := paint.color.map Color.withoutNulls, extras := presentExtras paint.extras }

def TextStyle.withoutNulls (style : TextStyle) : TextStyle :=
  { style with extras := presentExtras style.extras }

def Kind.withoutNulls : Kind → Kind
  | .text characters style => .text characters (style.map TextStyle.withoutNulls)
  | kind => kind

def Attributes.withoutNulls (a : Attributes) : Attributes :=
  { a with
    box := a.box.map Box.withoutNulls
    background := a.background.map Color.withoutNulls
    fills := a.fills.map Paint.withoutNulls
    strokes := a.strokes.map Paint.withoutNulls
    kind := a.kind.withoutNulls
    extras := presentExtras a.extras }

mutual

def Node.withoutNulls : Node → Node
  | ⟨attributes, children⟩ => ⟨attributes.withoutNulls, Node.withoutNullsOf children⟩

def Node.withoutNullsOf : List Node → List Node
  | [] => []
  | node :: rest => Node.withoutNulls node :: Node.withoutNullsOf rest

end

private theorem Node.withoutNullsOf_eq_map (nodes : List Node) :
    Node.withoutNullsOf nodes = nodes.map Node.withoutNulls := by
  induction nodes with
  | nil => rfl
  | cons node rest inductionHypothesis =>
      rw [Node.withoutNullsOf, inductionHypothesis, List.map_cons]

private theorem Node.withoutNulls_eq (a : Attributes) (children : List Node) :
    Node.withoutNulls ⟨a, children⟩ = ⟨a.withoutNulls, children.map Node.withoutNulls⟩ := by
  rw [Node.withoutNulls, Node.withoutNullsOf_eq_map]

private theorem Node.attributes_withoutNulls (node : Node) :
    node.withoutNulls.attributes = node.attributes.withoutNulls := by
  obtain ⟨a, children⟩ := node
  rw [Node.withoutNulls_eq]

private theorem recordEntries_presentExtras (slots : List (String × Option Json))
    (extras : Fields) :
    recordEntries slots (presentExtras extras) = recordEntries slots extras := by
  unfold recordEntries
  rw [presentExtras_presentExtras]

private theorem Color.toJson_withoutNulls (color : Color) :
    color.withoutNulls.toJson = color.toJson := by
  rw [Color.toJson_eq, Color.toJson_eq]
  exact congrArg Json.object (recordEntries_presentExtras color.slots color.extras)

private theorem Box.toJson_withoutNulls (box : Box) : box.withoutNulls.toJson = box.toJson := by
  rw [Box.toJson_eq, Box.toJson_eq]
  exact congrArg Json.object (recordEntries_presentExtras box.slots box.extras)

private theorem TextStyle.toJson_withoutNulls (style : TextStyle) :
    style.withoutNulls.toJson = style.toJson := by
  rw [TextStyle.toJson_eq, TextStyle.toJson_eq]
  exact congrArg Json.object (recordEntries_presentExtras style.slots style.extras)

private theorem Paint.toJson_withoutNulls (paint : Paint) :
    paint.withoutNulls.toJson = paint.toJson := by
  have slots : paint.withoutNulls.slots = paint.slots := by
    simp [Paint.slots, Paint.withoutNulls, Function.comp_def, Color.toJson_withoutNulls]
  rw [Paint.toJson_eq, Paint.toJson_eq, slots]
  exact congrArg Json.object (recordEntries_presentExtras paint.slots paint.extras)

private theorem Kind.tag_withoutNulls (kind : Kind) : kind.withoutNulls.tag = kind.tag := by
  cases kind <;> rfl

private theorem Kind.slots_withoutNulls (kind : Kind) : kind.withoutNulls.slots = kind.slots := by
  cases kind <;>
    simp [Kind.withoutNulls, Kind.slots, Function.comp_def, TextStyle.toJson_withoutNulls]

private theorem Attributes.slots_withoutNulls (a : Attributes) (children : List Json) :
    a.withoutNulls.slots children = a.slots children := by
  simp [Attributes.slots, Attributes.commonSlots, Attributes.withoutNulls, Function.comp_def,
    Box.toJson_withoutNulls, Color.toJson_withoutNulls, Paint.toJson_withoutNulls,
    Kind.tag_withoutNulls, Kind.slots_withoutNulls]

private theorem Node.toJson_withoutNulls (node : Node) :
    node.withoutNulls.toJson = node.toJson := by
  induction node using Node.induction with
  | node a children inductionHypothesis =>
      have items : (children.map Node.withoutNulls).map Node.toJson =
          children.map Node.toJson := by
        rw [List.map_map]
        exact List.map_congr_left inductionHypothesis
      rw [Node.withoutNulls_eq, Node.toJson_eq, Node.toJson_eq, items,
        Attributes.slots_withoutNulls]
      exact congrArg Json.object (recordEntries_presentExtras _ a.extras)

/-! ### Trees that can be read -/

def Color.IsReadable (color : Color) : Prop :=
  IsForeign colorSchema.names color.extras

def Box.IsReadable (box : Box) : Prop :=
  IsForeign boxSchema.names box.extras

/-- The entries of a paint and of its colour are foreign to their fields. -/
structure Paint.IsReadable (paint : Paint) : Prop where
  color : ∀ color ∈ paint.color, color.IsReadable
  extras : IsForeign paintSchema.names paint.extras

def TextStyle.IsReadable (style : TextStyle) : Prop :=
  IsForeign textStyleSchema.names style.extras

def knownTags : List String :=
  ["FRAME", "COMPONENT", "INSTANCE", "TEXT"]

/-- A kind is not known by its tag only. -/
def Kind.IsReadable : Kind → Prop
  | .text _ typography => ∀ style ∈ typography, TextStyle.IsReadable style
  | .other tag => tag ∉ knownTags
  | _ => True

def Kind.schema : Kind → Schema
  | .text _ _ => nodeSchema true
  | _ => nodeSchema false

/-- The entries of the records of a node are foreign to their fields. -/
structure Attributes.IsReadable (a : Attributes) : Prop where
  box : ∀ box ∈ a.box, box.IsReadable
  background : ∀ color ∈ a.background, color.IsReadable
  fills : ∀ paint ∈ a.fills, paint.IsReadable
  strokes : ∀ paint ∈ a.strokes, paint.IsReadable
  kind : a.kind.IsReadable
  extras : IsForeign a.kind.schema.names a.extras

/-- No entry of a tree is taken for a field that it does not belong to. -/
inductive Node.IsReadable : Node → Prop where
  | node {attributes : Attributes} {children : List Node} (own : attributes.IsReadable)
      (below : ∀ child ∈ children, Node.IsReadable child) :
      Node.IsReadable ⟨attributes, children⟩

/-! ### Reading what was written -/

private theorem Color.read?_toJson {color : Color} (readable : color.IsReadable) :
    Color.read? color.toJson = some color.withoutNulls := by
  have writes : colorSchema.Writes color.slots color.extras := ⟨rfl, by decide, readable⟩
  have values := writes.field?_eq
  have extras : extrasOf colorFields _ = _ := writes.extrasOf_eq
  rw [Color.toJson_eq]
  generalize recordEntries color.slots color.extras = fields at values extras ⊢
  simp only [Color.slots, List.forall_mem_cons] at values
  obtain ⟨red, green, blue, alpha, -⟩ := values
  simp [Color.read?, requiredNumber, red, green, blue, alpha, extras, number?, Color.withoutNulls]

private theorem Box.read?_toJson {box : Box} (readable : box.IsReadable) :
    Box.read? box.toJson = some box.withoutNulls := by
  have writes : boxSchema.Writes box.slots box.extras := ⟨rfl, by decide, readable⟩
  have values := writes.field?_eq
  have extras : extrasOf boxFields _ = _ := writes.extrasOf_eq
  rw [Box.toJson_eq]
  generalize recordEntries box.slots box.extras = fields at values extras ⊢
  simp only [Box.slots, List.forall_mem_cons] at values
  obtain ⟨x, y, width, height, -⟩ := values
  simp [Box.read?, requiredNumber, x, y, width, height, extras, number?, Box.withoutNulls]

/-! Optional fields are read as they were written. -/

private theorem bind_text?_map (text : Option String) :
    (text.map Json.string).bind Json.text? = text := by
  cases text <;> rfl

private theorem bind_number?_map (number : Option Number) :
    (number.map Json.number).bind number? = number := by
  cases number <;> rfl

private theorem bind_flag?_map (flag : Option Bool) : (flag.map Json.bool).bind flag? = flag := by
  cases flag <;> rfl

/-- What is read of the JSON of an optional record. -/
theorem bind_read?_map {α β : Type} {toJson : α → Json} {read? : Json → Option β} {again : α → β}
    {record : Option α} (rereads : ∀ value ∈ record, read? (toJson value) = some (again value)) :
    (record.map toJson).bind read? = record.map again := by
  cases record with
  | none => rfl
  | some value => exact rereads value rfl

private theorem Paint.read_toJson {paint : Paint} (readable : paint.IsReadable) :
    Paint.read paint.toJson = paint.withoutNulls := by
  have writes : paintSchema.Writes paint.slots paint.extras := ⟨rfl, by decide, readable.extras⟩
  have values := writes.field?_eq
  have extras : extrasOf paintFields _ = _ := writes.extrasOf_eq
  have color : (paint.color.map Color.toJson).bind Color.read? = _ :=
    bind_read?_map fun _ isColor => Color.read?_toJson (readable.color _ isColor)
  rw [Paint.toJson_eq]
  generalize recordEntries paint.slots paint.extras = fields at values extras ⊢
  simp only [Paint.slots, List.forall_mem_cons] at values
  obtain ⟨kind, visible, painted, opacity, -⟩ := values
  simp [Paint.read, optionalText, optionalNumber, kind, visible, painted, opacity, extras, color,
    Json.text?, bind_flag?_map, bind_number?_map, Paint.withoutNulls]

private theorem TextStyle.read?_toJson {style : TextStyle} (readable : style.IsReadable) :
    TextStyle.read? style.toJson = some style.withoutNulls := by
  have writes : textStyleSchema.Writes style.slots style.extras := ⟨rfl, by decide, readable⟩
  have values := writes.field?_eq
  have extras : extrasOf textStyleFields _ = _ := writes.extrasOf_eq
  rw [TextStyle.toJson_eq]
  generalize recordEntries style.slots style.extras = fields at values extras ⊢
  simp only [TextStyle.slots, List.forall_mem_cons] at values
  obtain ⟨size, family, weight, spacing, height, align, -⟩ := values
  simp [TextStyle.read?, optionalText, optionalNumber, size, family, weight, spacing, height, align,
    extras, bind_text?_map, bind_number?_map, TextStyle.withoutNulls]

theorem Kind.names_schema (kind : Kind) : kind.schema.names = kind.declaredFields := by
  cases kind <;> rfl

theorem Attributes.writes {a : Attributes} (readable : a.IsReadable) (children : List Json) :
    a.kind.schema.Writes (a.slots children) a.extras := by
  refine ⟨?_, ?_, readable.extras⟩
  · rw [a.names_slots, Kind.names_schema]
  · cases a.kind <;> exact nodup_nodeSchema _

private theorem readPaints_toJson {paints : List Paint}
    (readable : ∀ paint ∈ paints, paint.IsReadable) :
    readPaints (some (.array (paints.map Paint.toJson))) = paints.map Paint.withoutNulls := by
  show (paints.map Paint.toJson).map Paint.read = _
  rw [List.map_map]
  exact List.map_congr_left fun paint isPaint => Paint.read_toJson (readable paint isPaint)

/-- The kind of a node is read as it was written: a text with its characters and its typography,
and any other kind by its tag. -/
theorem readKind_of_written {kind : Kind} (readable : kind.IsReadable) {fields : Fields}
    (type : fields.lookup "type" = some (.string kind.tag))
    (own : ∀ slot ∈ kind.slots, field? fields slot.1 = slot.2) :
    readKind fields = kind.withoutNulls := by
  rw [readKind_of_text type]
  cases kind with
  | text characters style =>
      simp only [Kind.slots, List.forall_mem_cons] at own
      obtain ⟨ownCharacters, ownStyle, -⟩ := own
      have again : (style.map TextStyle.toJson).bind TextStyle.read? = _ :=
        bind_read?_map fun _ isStyle => TextStyle.read?_toJson (readable _ isStyle)
      simp [Kind.tag, Kind.withoutNulls, optionalText, ownCharacters, ownStyle, again,
        bind_text?_map]
  | other tag =>
      simp only [Kind.IsReadable, knownTags, List.mem_cons, List.not_mem_nil, or_false,
        not_or] at readable
      obtain ⟨noFrame, noComponent, noCopy, noText⟩ := readable
      simp [Kind.tag, Kind.withoutNulls, noFrame, noComponent, noCopy, noText]
  | _ => rfl

/-- A node that was written says the same about itself, but for the null entries. -/
theorem readAttributes_written {a : Attributes} (readable : a.IsReadable) (children : List Json) :
    readAttributes (recordEntries (a.slots children) a.extras) = a.withoutNulls := by
  have writes := Attributes.writes readable children
  have values := writes.field?_eq
  have extras := writes.extrasOf_eq
  have type : (recordEntries (a.slots children) a.extras).lookup "type" =
      some (.string a.kind.tag) :=
    writes.lookup_of_mem (by simp [Attributes.slots, Attributes.commonSlots])
  have box : (a.box.map Box.toJson).bind Box.read? = _ :=
    bind_read?_map fun _ isBox => Box.read?_toJson (readable.box _ isBox)
  have background : (a.background.map Color.toJson).bind Color.read? = _ :=
    bind_read?_map fun _ isColor => Color.read?_toJson (readable.background _ isColor)
  have fills := readPaints_toJson readable.fills
  have strokes := readPaints_toJson readable.strokes
  generalize recordEntries (a.slots children) a.extras = fields at values extras type ⊢
  rw [Attributes.slots, List.forall_mem_append] at values
  have kind := readKind_of_written readable.kind type values.2
  rw [Kind.names_schema] at extras
  have declared : a.kind.withoutNulls.declaredFields = a.kind.declaredFields := by
    cases a.kind <;> rfl
  simp only [Attributes.commonSlots, List.forall_mem_cons] at values
  obtain ⟨⟨id, name, boxed, coloured, filled, stroked, radius, opacity, mode, primary, counter,
    left, right, top, bottom, spacing, grow, -⟩, -⟩ := values
  simp [readAttributes, optionalText, optionalNumber, kind, declared, extras, id, name, boxed, box,
    coloured, background, filled, fills, stroked, strokes, radius, opacity, mode, primary, counter,
    left, right, top, bottom, spacing, grow, Json.text?, bind_text?_map, bind_number?_map,
    Attributes.withoutNulls]

private theorem childItems_written {a : Attributes} (readable : a.IsReadable)
    (children : List Json) :
    childItems (recordEntries (a.slots children) a.extras) = children :=
  childItems_eq ((Attributes.writes readable children).lookup_of_mem
    (by simp [Attributes.slots, Attributes.commonSlots]))

/-- A written tree is read as it was, but for the null entries. -/
theorem buildNode_toJson {node : Node} (readable : node.IsReadable) :
    buildNode node.toJson = node.withoutNulls := by
  induction readable with
  | @node a children own _ inductionHypothesis =>
      rw [Node.toJson_eq, buildNode_object, readAttributes_written own, childItems_written own,
        Node.withoutNulls_eq, List.map_map]
      exact congrArg (Node.mk _) (List.map_congr_left inductionHypothesis)

/-- A written tree is in the grammar. -/
theorem isTree_toJson {node : Node} (readable : node.IsReadable) : IsTree node.toJson := by
  induction readable with
  | @node a children own _ inductionHypothesis =>
      have writes := Attributes.writes own (children.map Node.toJson)
      have written : Fields.lookup (recordEntries (a.slots (children.map Node.toJson)) a.extras)
          "children" = some (.array (children.map Node.toJson)) :=
        writes.lookup_of_mem (by simp [Attributes.slots, Attributes.commonSlots])
      rw [Node.toJson_eq]
      refine .parent (Or.inr ⟨a.kind.tag, ?_⟩) written ?_
      · exact writes.lookup_of_mem (by simp [Attributes.slots, Attributes.commonSlots])
      · intro item isItem
        obtain ⟨child, isChild, rfl⟩ := List.mem_map.mp isItem
        exact inductionHypothesis child isChild

private theorem Node.read_toJson {node : Node} (readable : node.IsReadable) :
    Node.read node.toJson = .ok node.withoutNulls := by
  rw [(isTree_toJson readable).read_eq, buildNode_toJson readable]

/-! ### Trees that were read -/

private theorem Color.isReadable_of_read? {value : Json} {color : Color}
    (read : Color.read? value = some color) : color.IsReadable := by
  cases value with
  | object fields =>
      simp only [Color.read?, Option.bind_eq_bind, Option.bind_eq_some_iff, Option.some.injEq]
        at read
      obtain ⟨red, -, green, -, blue, -, alpha, -, rfl⟩ := read
      exact colorSchema.isForeign_extrasOf (by decide +kernel) fields
  | _ => cases read

private theorem Box.isReadable_of_read? {value : Json} {box : Box}
    (read : Box.read? value = some box) : box.IsReadable := by
  cases value with
  | object fields =>
      simp only [Box.read?, Option.bind_eq_bind, Option.bind_eq_some_iff, Option.some.injEq]
        at read
      obtain ⟨x, -, y, -, width, -, height, -, rfl⟩ := read
      exact boxSchema.isForeign_extrasOf (by decide +kernel) fields
  | _ => cases read

private theorem isForeign_nil (names : List String) : IsForeign names [] := by
  intro entry isEntry
  cases isEntry

private theorem Paint.isReadable_blank : ({} : Paint).IsReadable where
  color := by
    intro color isColor
    cases isColor
  extras := isForeign_nil _

private theorem Paint.isReadable_read (value : Json) : (Paint.read value).IsReadable := by
  cases value with
  | object fields =>
      refine ⟨fun color isColor => ?_, paintSchema.isForeign_extrasOf (by decide +kernel) fields⟩
      obtain ⟨painted, -, read⟩ := Option.bind_eq_some_iff.mp isColor
      exact Color.isReadable_of_read? read
  | _ => exact Paint.isReadable_blank

private theorem isReadable_of_mem_readPaints {value : Option Json} {paint : Paint}
    (isPaint : paint ∈ readPaints value) : paint.IsReadable := by
  unfold readPaints at isPaint
  split at isPaint
  · obtain ⟨item, -, rfl⟩ := List.mem_map.mp isPaint
    exact Paint.isReadable_read item
  · cases isPaint

/-- An object describes a text with what it says about its characters and its typography, or else
a node of another kind. -/
theorem readKind_cases (fields : Fields) :
    (isTextNode fields = true ∧ readKind fields = .text (optionalText fields "characters")
      ((field? fields "style").bind TextStyle.read?)) ∨
    (isTextNode fields = false ∧ (readKind fields).schema = nodeSchema false ∧
      (readKind fields).IsReadable) := by
  by_cases hasTag : ∃ tag, fields.lookup "type" = some (.string tag)
  · obtain ⟨tag, type⟩ := hasTag
    rw [readKind_of_text type]
    by_cases isText : tag = "TEXT"
    · subst isText
      exact Or.inl ⟨isTextNode_iff.mpr type, rfl⟩
    · have other : isTextNode fields = false := by
        rw [Bool.eq_false_iff]
        intro text
        rw [isTextNode_iff.mp text] at type
        cases type
        exact isText rfl
      refine Or.inr ⟨other, ?_⟩
      rw [if_neg isText]
      split
      · exact ⟨rfl, trivial⟩
      · split
        · exact ⟨rfl, trivial⟩
        · split
          · exact ⟨rfl, trivial⟩
          · refine ⟨rfl, ?_⟩
            simp [Kind.IsReadable, knownTags, *]
  · have noTag (tag : String) : fields.lookup "type" ≠ some (.string tag) :=
      fun type => hasTag ⟨tag, type⟩
    have other : isTextNode fields = false := by
      rw [Bool.eq_false_iff]
      intro text
      exact noTag _ (isTextNode_iff.mp text)
    rw [readKind_of_no_text noTag]
    exact Or.inr ⟨other, rfl, by simp [Kind.IsReadable, knownTags]⟩

private theorem schema_readKind (fields : Fields) :
    (readKind fields).schema = nodeSchema (isTextNode fields) := by
  rcases readKind_cases fields with ⟨isText, kind⟩ | ⟨isOther, schema, -⟩
  · rw [isText, kind]
    rfl
  · rw [isOther, schema]

/-- No object that is read as a record has a declared field in both of its spellings. -/
def HasOneSpelling (value : Json) : Prop :=
  ∀ path place schema fields, recordAt? path place value = some (schema, fields) →
    schema.HasOneSpelling fields

/-- Only nodes and typographies have fields with two spellings. -/
theorem hasOneSpelling_object {fields : Fields}
    (own : (nodeSchema (isTextNode fields)).HasOneSpelling fields)
    (style : ∀ inner, objectUnder? fields "style" = some inner →
      textStyleSchema.HasOneSpelling inner)
    (below : ∀ item ∈ childItems fields, HasOneSpelling item) :
    HasOneSpelling (.object fields) := by
  have lower {schema : Schema} (names : ∀ name ∈ schema.names, snakeCase name = name)
      (inner : Fields) : schema.HasOneSpelling inner := fun name isName _ _ => names name isName
  refine forall_recordAt?_object (motive := fun _ schema inner => schema.HasOneSpelling inner)
    (fun place schema inner found => ?_) below
  cases place with
  | node =>
      cases found
      exact own
  | textStyle =>
      simp only [Place.find?] at found
      split at found
      · obtain ⟨_, isStyle, same⟩ := Option.map_eq_some_iff.mp found
        cases same
        exact style _ isStyle
      · cases found
  | box | background | paint | paintColor =>
      obtain ⟨_, _, same⟩ := Option.map_eq_some_iff.mp found
      cases same
      exact lower (by decide +kernel) inner

private theorem isReadable_readAttributes {fields : Fields}
    (oneSpelling : ∀ place schema inner, Place.find? fields place = some (schema, inner) →
      schema.HasOneSpelling inner) : (readAttributes fields).IsReadable where
  box := by
    intro box isBox
    obtain ⟨value, -, read⟩ := Option.bind_eq_some_iff.mp isBox
    exact Box.isReadable_of_read? read
  background := by
    intro color isColor
    obtain ⟨value, -, read⟩ := Option.bind_eq_some_iff.mp isColor
    exact Color.isReadable_of_read? read
  fills := fun _ => isReadable_of_mem_readPaints
  strokes := fun _ => isReadable_of_mem_readPaints
  kind := by
    show (readKind fields).IsReadable
    rcases readKind_cases fields with ⟨isText, kind⟩ | ⟨-, -, readable⟩
    · rw [kind]
      intro style isStyle
      obtain ⟨value, found, read⟩ := Option.bind_eq_some_iff.mp isStyle
      cases value with
      | object inner =>
          cases read
          refine (oneSpelling .textStyle textStyleSchema inner ?_).isForeign_extrasOf
          simp [Place.find?, isText, objectUnder?, found, Json.fields?]
      | _ => cases read
    · exact readable
  extras := by
    show IsForeign (readKind fields).schema.names (extrasOf (readKind fields).declaredFields fields)
    rw [← Kind.names_schema, schema_readKind]
    exact (oneSpelling .node _ fields rfl).isForeign_extrasOf

private theorem Attributes.isReadable_bare : ({} : Attributes).IsReadable where
  box := by
    intro box isBox
    cases isBox
  background := by
    intro color isColor
    cases isColor
  fills := by
    intro paint isPaint
    cases isPaint
  strokes := by
    intro paint isPaint
    cases isPaint
  kind := by simp [Kind.IsReadable, knownTags]
  extras := isForeign_nil _

/-- What is read of a value with one spelling of every field can be read again. -/
theorem isReadable_buildNode {value : Json} (oneSpelling : HasOneSpelling value) :
    (buildNode value).IsReadable := by
  induction value using treeInduction with
  | leaf value noObject =>
      have bare : buildNode value = ⟨{}, []⟩ := by
        cases value with
        | object fields => exact absurd rfl (noObject fields)
        | _ => rfl
      rw [bare]
      refine .node Attributes.isReadable_bare fun child isChild => ?_
      cases isChild
  | object fields inductionHypothesis =>
      rw [buildNode_object]
      refine .node (isReadable_readAttributes fun place schema inner found => ?_) ?_
      · exact oneSpelling [] place schema inner found
      · intro child isChild
        obtain ⟨item, isItem, rfl⟩ := List.mem_map.mp isChild
        exact inductionHypothesis item isItem (forall_recordAt?_child oneSpelling isItem)

/-! ### What is made of a tree -/

private theorem Paint.strokeLook_withoutNulls (paint : Paint) :
    paint.withoutNulls.strokeLook = paint.strokeLook := by
  unfold strokeLook withoutNulls
  rw [Option.map_map]
  rfl

private theorem Paint.fillLook_withoutNulls (paint : Paint) :
    paint.withoutNulls.fillLook = paint.fillLook :=
  congrArg (·, paint.opacity) paint.strokeLook_withoutNulls

private theorem Kind.textLook_withoutNulls (kind : Kind) :
    kind.withoutNulls.textLook = kind.textLook := by
  cases kind with
  | text characters style =>
      refine congrArg (fun bare => some (characters, bare)) ?_
      rw [Option.map_map]
      rfl
  | _ => rfl

private theorem Attributes.looksLike_withoutNulls (a : Attributes) :
    a.withoutNulls.LooksLike a where
  box := Option.map_map Box.size Box.withoutNulls a.box
  background := Option.map_map Color.look Color.withoutNulls a.background
  fill := by
    show (a.fills.map Paint.withoutNulls).head?.map Paint.fillLook = _
    rw [List.head?_map, Option.map_map]
    exact congrArg (a.fills.head?.map ·) (funext Paint.fillLook_withoutNulls)
  stroke := by
    show (a.strokes.map Paint.withoutNulls).head?.map Paint.strokeLook = _
    rw [List.head?_map, Option.map_map]
    exact congrArg (a.strokes.head?.map ·) (funext Paint.strokeLook_withoutNulls)
  cornerRadius := rfl
  opacity := rfl
  layoutMode := rfl
  layoutGrow := rfl
  layout _ := ⟨rfl, rfl, rfl, rfl, rfl, rfl, rfl⟩
  text := a.kind.textLook_withoutNulls

/-- Null entries are never shown. -/
theorem Node.looksLike_withoutNulls (node : Node) : node.withoutNulls.LooksLike node := by
  induction node using Node.induction with
  | node a children inductionHypothesis =>
      rw [Node.withoutNulls_eq]
      refine .tree a.looksLike_withoutNulls (List.length_map _) ?_
      intro position stripped child isStripped isChild
      rw [List.getElem?_map, isChild] at isStripped
      obtain rfl := Option.some.inj isStripped
      exact inductionHypothesis child (List.mem_of_getElem? isChild)

private theorem Node.frames_withoutNulls (node : Node) :
    node.withoutNulls.frames = node.frames.map Node.withoutNulls := by
  induction node using Node.induction with
  | node a children inductionHypothesis =>
      have frameLike : a.withoutNulls.kind.isFrameLike = a.kind.isFrameLike := by
        show a.kind.withoutNulls.isFrameLike = _
        cases a.kind <;> rfl
      have below : framesOf (children.map Node.withoutNulls) =
          (framesOf children).map Node.withoutNulls := by
        rw [framesOf_eq_flatMap, framesOf_eq_flatMap, List.map_flatMap, List.flatMap_map]
        exact List.flatMap_congr inductionHypothesis
      rw [Node.withoutNulls_eq, frames, frames, frameLike, below, List.map_append]
      split <;> simp [Node.withoutNulls_eq]

private theorem Node.at?_withoutNulls (path : List Nat) (node : Node) :
    node.withoutNulls.at? path = (node.at? path).map Node.withoutNulls := by
  induction path generalizing node with
  | nil => rfl
  | cons position path inductionHypothesis =>
      obtain ⟨a, children⟩ := node
      rw [Node.withoutNulls_eq]
      unfold Node.at?
      rw [List.getElem?_map]
      cases children[position]? with
      | none => rfl
      | some child => exact inductionHypothesis child

/-! ### The normal form -/

inductive NodeClass where
  | frame
  | component
  | copy
  | text
  | other
deriving DecidableEq

def Kind.nodeClass : Kind → NodeClass
  | .frame => .frame
  | .component => .component
  | .copy => .copy
  | .text _ _ => .text
  | .other _ => .other

/-- What is made of the attributes of every node in spite of null entries is the same at every
path. -/
theorem Node.map_at?_withoutNulls {α : Type} (f : Attributes → α)
    (same : ∀ a : Attributes, f a.withoutNulls = f a) (node : Node) (path : List Nat) :
    (node.withoutNulls.at? path).map (f ·.attributes) = (node.at? path).map (f ·.attributes) := by
  rw [Node.at?_withoutNulls, Option.map_map]
  refine congrArg (Option.map · (node.at? path)) (funext fun inner => ?_)
  rw [Function.comp_apply, Node.attributes_withoutNulls, same]

/-- What was read is in its normal form when it is written: it is read again, is written as it was,
has nodes of the same classes at the same places, and is listed, styled and rendered as it was. -/
theorem HasOneSpelling.reread {value : Json} (oneSpelling : HasOneSpelling value) {node : Node}
    (accepted : Node.read value = .ok node) :
    ∃ again, Node.read node.toJson = .ok again ∧ again.toJson = node.toJson ∧
      (∀ path, (again.at? path).map (·.attributes.kind.nodeClass) =
        (node.at? path).map (·.attributes.kind.nodeClass)) ∧
      again.frames.map (fun frame => (frame.attributes.kind.nodeClass, frame.toJson)) =
        node.frames.map (fun frame => (frame.attributes.kind.nodeClass, frame.toJson)) ∧
      (∀ path, (again.at? path).map (Style.declaration? ·.attributes) =
        (node.at? path).map (Style.declaration? ·.attributes)) ∧
      ∀ depth, again.markup? depth = node.markup? depth := by
  have readable : node.IsReadable := by
    rw [Node.eq_buildNode_of_read accepted]
    exact isReadable_buildNode oneSpelling
  have sameClass (a : Attributes) : a.withoutNulls.kind.nodeClass = a.kind.nodeClass := by
    show a.kind.withoutNulls.nodeClass = _
    cases a.kind <;> rfl
  refine ⟨node.withoutNulls, Node.read_toJson readable, node.toJson_withoutNulls, ?_, ?_, ?_, ?_⟩
  · exact Node.map_at?_withoutNulls (·.kind.nodeClass) sameClass node
  · rw [Node.frames_withoutNulls, List.map_map]
    refine List.map_congr_left fun frame _ => ?_
    rw [Function.comp_apply, Node.attributes_withoutNulls, sameClass, frame.toJson_withoutNulls]
  · exact Node.map_at?_withoutNulls Style.declaration?
      (fun a => Style.declaration?_congr a.looksLike_withoutNulls) node
  · intro depth
    unfold Node.markup?
    rw [node.looksLike_withoutNulls.markupChars?_eq]

/-- A frame of which the corner radius is a text under its other spelling, with an entry that is
null, a text for its first paint and a truth value for an opacity, and a text in it of which the
typography has members of all kinds. -/
theorem HasOneSpelling.reread_of_lenient_frame :
    let text : Fields :=
      [("type", .string "TEXT"), ("characters", .number 1),
        ("style", .object [("font_size", .string " 1e1 "), ("fontFamily", .null), ("x", .null)])]
    let frame : Fields :=
      [("type", .string "FRAME"), ("corner_radius", .string "+012.00"), ("note", .null),
        ("fills", .array [.string "red", .object [("visible", .string "YES"),
          ("opacity", .bool true)]]),
        ("children", .array [.object text])]
    HasOneSpelling (.object frame) ∧ ∃ node again, Node.read (.object frame) = .ok node ∧
      Node.read node.toJson = .ok again ∧ again.toJson = node.toJson := by
  intro text frame
  have inner : HasOneSpelling (.object text) := by
    refine hasOneSpelling_object (by decide +kernel) ?_ nofun
    intro style isStyle
    cases isStyle
    decide +kernel
  have oneSpelling : HasOneSpelling (.object frame) := by
    refine hasOneSpelling_object (by decide +kernel) nofun ?_
    intro item isItem
    obtain rfl := List.mem_singleton.mp isItem
    exact inner
  have accepted : Node.read (.object frame) = .ok (buildNode (.object frame)) := rfl
  obtain ⟨again, read, toJson, _⟩ := oneSpelling.reread accepted
  exact ⟨oneSpelling, _, again, accepted, read, toJson⟩

end DesignCompiler.Design
