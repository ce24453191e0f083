import DesignCompiler.Proofs.Design.Tree

/-!
Contract: which JSON values are design trees, and what is wrong with the others.

Owns:
- `IsTree`, the grammar of design trees;
- `HasDefect`, the defects of a value with the paths to them, and `Precedes`, their order;
- `AtomicTypes`, the values no node of which has a list or an object as its type;
- the reading of such a value: a tree, or all of its defects in order.

Does not own: what is read of a tree besides its shape.
-/

set_option autoImplicit false

namespace DesignCompiler.Design

def HasTextType (fields : Fields) : Prop :=
  fields.lookup "type" = none ∨ ∃ tag, fields.lookup "type" = some (.string tag)

/-- The grammar of design trees.  No other entry of an object matters. -/
inductive IsTree : Json → Prop where
  | childless {fields : Fields} (type : HasTextType fields)
      (children : fields.lookup "children" = none ∨ fields.lookup "children" = some .null) :
      IsTree (.object fields)
  | parent {fields : Fields} {items : List Json} (type : HasTextType fields)
      (children : fields.lookup "children" = some (.array items))
      (trees : ∀ item ∈ items, IsTree item) : IsTree (.object fields)

/-- No node has a list or an object as its type. -/
def AtomicTypes (value : Json) : Prop :=
  ∀ fields, Reaches value (.object fields) → ∀ type, fields.lookup "type" = some type →
    (∀ items, type ≠ .array items) ∧ (∀ entries, type ≠ .object entries)

/-- The name of a node in the paths to its defects: one of the four tags, or else the name of all
other nodes. -/
def nodeTag (fields : Fields) : String :=
  match fields.lookup "type" with
  | some (.string tag) => if tag ∈ ["FRAME", "COMPONENT", "INSTANCE", "TEXT"] then tag else "OTHER"
  | _ => "OTHER"

/-- A value has a defect at the end of a path. -/
inductive HasDefect : Json → List PathStep → DefectKind → Prop where
  | notObject {value : Json} (noObject : ∀ fields, value ≠ .object fields) :
      HasDefect value [.key "OTHER"] .notObject
  | childrenNotList {fields : Fields} {children : Json}
      (found : fields.lookup "children" = some children) (notNull : children ≠ .null)
      (notList : ∀ items, children ≠ .array items) :
      HasDefect (.object fields) [.key (nodeTag fields), .key "children"] .childrenNotList
  | typeNotText {fields : Fields} {type : Json} (found : fields.lookup "type" = some type)
      (notText : ∀ tag, type ≠ .string tag) :
      HasDefect (.object fields) [.key (nodeTag fields), .key "type"] .typeNotText
  | inChild {fields : Fields} {items : List Json} {position : Nat} {item : Json}
      {path : List PathStep} {kind : DefectKind}
      (children : fields.lookup "children" = some (.array items))
      (found : items[position]? = some item) (defect : HasDefect item path kind) :
      HasDefect (.object fields)
        (.key (nodeTag fields) :: .key "children" :: .index position :: path) kind

/-- The order of defects: depth first through the children, and a node's own type after everything
at or below its children. -/
inductive Precedes : List PathStep → List PathStep → Prop where
  | siblings (tag : PathStep) {first second : Nat} (before : first < second)
      (path path' : List PathStep) :
      Precedes (tag :: .key "children" :: .index first :: path)
        (tag :: .key "children" :: .index second :: path')
  | inChild (tag : PathStep) (position : Nat) {path path' : List PathStep}
      (precedes : Precedes path path') :
      Precedes (tag :: .key "children" :: .index position :: path)
        (tag :: .key "children" :: .index position :: path')
  | ownType (tag : PathStep) (path : List PathStep) :
      Precedes (tag :: .key "children" :: path) [tag, .key "type"]

theorem Precedes.ne {path path' : List PathStep} (precedes : Precedes path path') :
    path ≠ path' := by
  induction precedes with
  | siblings tag before _ _ =>
      intro same
      injection same with _ same
      injection same with _ same
      injection same with same _
      injection same with same
      exact Nat.ne_of_lt before same
  | inChild tag position _ inductionHypothesis =>
      intro same
      injection same with _ same
      injection same with _ same
      injection same with _ same
      exact inductionHypothesis same
  | ownType tag path =>
      intro same
      injection same with _ same
      injection same with same _
      injection same with same
      exact absurd same (by decide)

/-! ### Grammar and defects -/

private theorem HasTextType.eq_text {fields : Fields} (textType : HasTextType fields) {type : Json}
    (found : fields.lookup "type" = some type) : ∃ tag, type = .string tag := by
  rcases textType with absent | ⟨tag, text⟩
  · rw [absent] at found
    cases found
  · rw [text] at found
    exact ⟨tag, (Option.some.inj found).symm⟩

private theorem IsTree.not_hasDefect {value : Json} (isTree : IsTree value) {path : List PathStep}
    {kind : DefectKind} : ¬ HasDefect value path kind := by
  intro defect
  induction isTree generalizing path kind with
  | childless type children =>
      cases defect with
      | notObject noObject => exact noObject _ rfl
      | childrenNotList found notNull _ =>
          rcases children with absent | null
          · rw [absent] at found
            cases found
          · rw [null] at found
            exact notNull (Option.some.inj found).symm
      | typeNotText found notText =>
          obtain ⟨tag, text⟩ := type.eq_text found
          exact notText tag text
      | inChild list _ _ =>
          rcases children with absent | null
          · rw [absent] at list
            cases list
          · rw [null] at list
            cases list
  | parent type children _ inductionHypothesis =>
      cases defect with
      | notObject noObject => exact noObject _ rfl
      | childrenNotList found _ notList =>
          rw [children] at found
          exact notList _ (Option.some.inj found).symm
      | typeNotText found notText =>
          obtain ⟨tag, text⟩ := type.eq_text found
          exact notText tag text
      | inChild list found defect =>
          rw [children] at list
          cases list
          exact inductionHypothesis _ (List.mem_of_getElem? found) defect

theorem IsTree.exists_object {value : Json} (isTree : IsTree value) :
    ∃ fields, value = .object fields := by
  cases isTree <;> exact ⟨_, rfl⟩

theorem IsTree.child {fields : Fields} (isTree : IsTree (.object fields)) {item : Json}
    (isItem : item ∈ childItems fields) : IsTree item := by
  have list := lookup_children_of_mem isItem
  cases isTree with
  | childless _ children =>
      rcases children with absent | null
      · rw [absent] at list
        cases list
      · rw [null] at list
        cases list
  | parent _ children trees =>
      rw [childItems_eq children] at isItem
      exact trees item isItem

private theorem isTree_of_no_defect {value : Json}
    (flawless : ∀ path kind, ¬ HasDefect value path kind) :
    IsTree value := by
  induction value using treeInduction with
  | leaf value noObject => exact absurd (.notObject noObject) (flawless _ _)
  | object fields inductionHypothesis =>
      have type : HasTextType fields := by
        cases found : fields.lookup "type" with
        | none => exact Or.inl found
        | some type =>
            refine Or.inr (Classical.byContradiction fun noText => ?_)
            refine flawless _ _ (.typeNotText found fun tag isText => noText ⟨tag, ?_⟩)
            rw [found, isText]
      cases found : fields.lookup "children" with
      | none => exact .childless type (Or.inl found)
      | some children =>
          by_cases isNull : children = .null
          · exact .childless type (Or.inr (by rw [found, isNull]))
          · by_cases isList : ∃ items, children = .array items
            · obtain ⟨items, rfl⟩ := isList
              refine .parent type found fun item isItem => ?_
              obtain ⟨position, atPosition⟩ := List.mem_iff_getElem?.mp isItem
              rw [childItems_eq found] at inductionHypothesis
              exact inductionHypothesis item isItem fun path kind defect =>
                flawless _ _ (.inChild found atPosition defect)
            · exact absurd (.childrenNotList found isNull fun items list => isList ⟨items, list⟩)
                (flawless _ _)

/-- A value is in the grammar exactly if it has no defect. -/
theorem isTree_iff_no_defect {value : Json} :
    IsTree value ↔ ∀ path kind, ¬ HasDefect value path kind :=
  ⟨fun isTree _ _ => isTree.not_hasDefect, isTree_of_no_defect⟩

/-! ### The list of defects -/

private theorem pathTag_eq_nodeTag (fields : Fields) : pathTag fields = nodeTag fields := by
  unfold pathTag
  by_cases isText : ∃ tag, fields.lookup "type" = some (.string tag)
  · obtain ⟨tag, type⟩ := isText
    rw [readKind_of_text type]
    unfold nodeTag
    rw [type]
    by_cases isFrame : tag = "FRAME"
    · subst isFrame
      rfl
    by_cases isComponent : tag = "COMPONENT"
    · subst isComponent
      rfl
    by_cases isCopy : tag = "INSTANCE"
    · subst isCopy
      rfl
    by_cases isText : tag = "TEXT"
    · subst isText
      rfl
    simp [isFrame, isComponent, isCopy, isText]
  · have noText (tag : String) : fields.lookup "type" ≠ some (.string tag) :=
      fun type => isText ⟨tag, type⟩
    rw [readKind_of_no_text noText]
    show "OTHER" = nodeTag fields
    unfold nodeTag
    split
    next tag type => exact absurd type (noText tag)
    next => rfl

private theorem mem_typeDefects {fields : Fields} {defect : Defect} :
    defect ∈ typeDefects fields ↔
      ∃ type, fields.lookup "type" = some type ∧ (∀ tag, type ≠ .string tag) ∧
        defect = ⟨[.key "type"], .typeNotText⟩ := by
  unfold typeDefects
  split
  next absent =>
    refine ⟨nofun, ?_⟩
    rintro ⟨type, found, _, _⟩
    rw [absent] at found
    cases found
  next tag text =>
    refine ⟨nofun, ?_⟩
    rintro ⟨type, found, notText, _⟩
    rw [text] at found
    exact absurd (Option.some.inj found).symm (notText tag)
  next type notText found =>
    rw [List.mem_singleton]
    constructor
    · intro isDefect
      exact ⟨type, found, notText, isDefect⟩
    · rintro ⟨_, _, _, isDefect⟩
      exact isDefect

private theorem mem_itemDefects {items : List Json} {start : Nat} {defect : Defect} :
    defect ∈ itemDefects start items ↔
      ∃ position item inner, items[position]? = some item ∧ inner ∈ defects item ∧
        defect = inner.under [.key "children", .index (start + position)] := by
  induction items generalizing start with
  | nil =>
      refine ⟨nofun, ?_⟩
      rintro ⟨position, item, inner, found, _⟩
      cases found
  | cons first rest inductionHypothesis =>
      rw [itemDefects, List.mem_append, List.mem_map, inductionHypothesis]
      have shift (position : Nat) : start + 1 + position = start + (position + 1) := by omega
      constructor
      · rintro (⟨inner, isInner, rfl⟩ | ⟨position, item, inner, found, isInner, isDefect⟩)
        · exact ⟨0, first, inner, rfl, isInner, rfl⟩
        · rw [shift] at isDefect
          exact ⟨position + 1, item, inner, found, isInner, isDefect⟩
      · rintro ⟨position, item, inner, found, isInner, isDefect⟩
        cases position with
        | zero =>
            cases found
            exact Or.inl ⟨inner, isInner, isDefect.symm⟩
        | succ position =>
            rw [← shift] at isDefect
            exact Or.inr ⟨position, item, inner, found, isInner, isDefect⟩

private theorem mem_childrenDefects {fields : Fields} {defect : Defect} :
    defect ∈ childrenDefects fields ↔
      (∃ children, fields.lookup "children" = some children ∧ children ≠ .null ∧
        (∀ items, children ≠ .array items) ∧
        defect = ⟨[.key "children"], .childrenNotList⟩) ∨
      (∃ items position item inner, fields.lookup "children" = some (.array items) ∧
        items[position]? = some item ∧ inner ∈ defects item ∧
        defect = inner.under [.key "children", .index position]) := by
  rw [childrenDefects_eq]
  split
  next absent => simp [absent]
  next null => simp [null]
  next items list => simp [list, mem_itemDefects]
  next children notNull notList found =>
    rw [List.mem_singleton]
    constructor
    · intro isDefect
      exact Or.inl ⟨children, found, notNull, notList, isDefect⟩
    · rintro (⟨_, _, _, _, isDefect⟩ | ⟨items, _, _, _, list, _⟩)
      · exact isDefect
      · rw [found] at list
        exact absurd (Option.some.inj list) (notList items)

/-- The defects that are found are the defects that there are. -/
theorem mem_defects_iff {value : Json} {defect : Defect} :
    defect ∈ defects value ↔ HasDefect value defect.path defect.kind := by
  induction value using treeInduction generalizing defect with
  | leaf value noObject =>
      rw [defects_of_not_object noObject, List.mem_singleton]
      constructor
      · rintro rfl
        exact .notObject noObject
      · intro hasDefect
        obtain ⟨path, kind⟩ := defect
        cases hasDefect with
        | notObject _ => rfl
        | childrenNotList => exact absurd rfl (noObject _)
        | typeNotText => exact absurd rfl (noObject _)
        | inChild => exact absurd rfl (noObject _)
  | object fields inductionHypothesis =>
      rw [defects, List.mem_map, pathTag_eq_nodeTag]
      constructor
      · rintro ⟨inner, isInner, rfl⟩
        rcases List.mem_append.mp isInner with ofChildren | ofType
        · rcases mem_childrenDefects.mp ofChildren with
            ⟨children, found, notNull, notList, rfl⟩ |
            ⟨items, position, item, below, list, found, isBelow, rfl⟩
          · exact .childrenNotList found notNull notList
          · have isItem := List.mem_of_getElem? found
            rw [childItems_eq list] at inductionHypothesis
            exact .inChild list found ((inductionHypothesis item isItem).mp isBelow)
        · obtain ⟨type, found, notText, rfl⟩ := mem_typeDefects.mp ofType
          exact .typeNotText found notText
      · intro hasDefect
        obtain ⟨path, kind⟩ := defect
        cases hasDefect with
        | notObject noObject => exact absurd rfl (noObject fields)
        | childrenNotList found notNull notList =>
            refine ⟨⟨[.key "children"], .childrenNotList⟩, List.mem_append_left _ ?_, rfl⟩
            exact mem_childrenDefects.mpr (Or.inl ⟨_, found, notNull, notList, rfl⟩)
        | typeNotText found notText =>
            refine ⟨⟨[.key "type"], .typeNotText⟩, List.mem_append_right _ ?_, rfl⟩
            exact mem_typeDefects.mpr ⟨_, found, notText, rfl⟩
        | @inChild _ items position item path _ list found below =>
            rw [childItems_eq list] at inductionHypothesis
            have isBelow : ⟨path, kind⟩ ∈ defects item :=
              (inductionHypothesis item (List.mem_of_getElem? found)).mpr below
            refine ⟨Defect.under [.key "children", .index position] ⟨path, kind⟩,
              List.mem_append_left _ ?_, rfl⟩
            exact mem_childrenDefects.mpr
              (Or.inr ⟨items, position, item, _, list, found, isBelow, rfl⟩)

theorem defects_eq_nil_iff {value : Json} : defects value = [] ↔ IsTree value := by
  rw [isTree_iff_no_defect, List.eq_nil_iff_forall_not_mem]
  constructor
  · intro noneFound path kind defect
    exact noneFound ⟨path, kind⟩ (mem_defects_iff.mpr defect)
  · intro flawless defect found
    exact flawless _ _ (mem_defects_iff.mp found)

/-! ### The order of the defects -/

private theorem itemDefects_pairwise {items : List Json} (start : Nat) (tag : PathStep)
    (ordered : ∀ item ∈ items,
      (defects item).Pairwise fun first second => Precedes first.path second.path) :
    (itemDefects start items).Pairwise fun first second =>
      Precedes (tag :: first.path) (tag :: second.path) := by
  induction items generalizing start with
  | nil => exact .nil
  | cons item rest inductionHypothesis =>
      obtain ⟨orderedItem, orderedRest⟩ := List.forall_mem_cons.mp ordered
      rw [itemDefects, List.pairwise_append, List.pairwise_map]
      refine ⟨orderedItem.imp (.inChild tag start), inductionHypothesis (start + 1) orderedRest, ?_⟩
      rintro _ ofItem _ ofRest
      obtain ⟨first, _, rfl⟩ := List.mem_map.mp ofItem
      obtain ⟨position, _, second, _, _, rfl⟩ := mem_itemDefects.mp ofRest
      exact .siblings tag (by omega) first.path second.path

private theorem childrenDefects_pairwise {fields : Fields} (tag : PathStep)
    (ordered : ∀ item ∈ childItems fields,
      (defects item).Pairwise fun first second => Precedes first.path second.path) :
    (childrenDefects fields).Pairwise fun first second =>
      Precedes (tag :: first.path) (tag :: second.path) := by
  rw [childrenDefects_eq]
  split
  · exact .nil
  · exact .nil
  next items list =>
    rw [childItems_eq list] at ordered
    exact itemDefects_pairwise 0 tag ordered
  · exact List.pairwise_singleton _ _

/-- The defects are found in their order. -/
theorem defects_pairwise (value : Json) :
    (defects value).Pairwise fun first second => Precedes first.path second.path := by
  induction value using treeInduction with
  | leaf value noObject =>
      rw [defects_of_not_object noObject]
      exact List.pairwise_singleton _ _
  | object fields inductionHypothesis =>
      rw [defects, List.pairwise_map]
      refine List.pairwise_append.mpr ⟨childrenDefects_pairwise _ inductionHypothesis, ?_, ?_⟩
      · unfold typeDefects
        split
        · exact .nil
        · exact .nil
        · exact List.pairwise_singleton _ _
      · intro first ofChildren second ofType
        obtain ⟨_, _, _, rfl⟩ := mem_typeDefects.mp ofType
        rcases mem_childrenDefects.mp ofChildren with
          ⟨_, _, _, _, rfl⟩ | ⟨_, _, _, _, _, _, _, rfl⟩
        · exact .ownType _ _
        · exact .ownType _ _

/-! ### Reading -/

theorem hasCompoundType_eq_false_iff {fields : Fields} :
    hasCompoundType fields = false ↔ ∀ type, fields.lookup "type" = some type →
      (∀ items, type ≠ .array items) ∧ (∀ entries, type ≠ .object entries) := by
  unfold hasCompoundType
  cases fields.lookup "type" with
  | none => exact ⟨fun _ => nofun, fun _ => rfl⟩
  | some type =>
      constructor
      · intro simple _ found
        cases found
        constructor
        · rintro items rfl
          cases simple
        · rintro entries rfl
          cases simple
      · intro atomic
        obtain ⟨noList, noObject⟩ := atomic type rfl
        cases type with
        | array items => exact absurd rfl (noList items)
        | object entries => exact absurd rfl (noObject entries)
        | _ => rfl

/-- The type of every node of a tree is absent or a text. -/
theorem IsTree.reachesCompoundType_eq_false {value : Json} (isTree : IsTree value) :
    reachesCompoundType value = false := by
  have ownType {fields : Fields} (type : HasTextType fields) : hasCompoundType fields = false := by
    rw [hasCompoundType_eq_false_iff]
    intro value found
    obtain ⟨tag, rfl⟩ := type.eq_text found
    exact ⟨fun _ => nofun, fun _ => nofun⟩
  induction isTree with
  | @childless fields type children =>
      have noItems : childItems fields = [] := by
        unfold childItems
        rcases children with absent | null
        · rw [absent]
        · rw [null]
      rw [reachesCompoundType_object, ownType type, noItems]
      rfl
  | parent type children _ inductionHypothesis =>
      rw [reachesCompoundType_object, ownType type, childItems_eq children, Bool.false_or,
        List.any_eq_false]
      intro item isItem
      rw [inductionHypothesis item isItem]
      decide

/-- A value in the grammar is read. -/
theorem IsTree.read_eq {value : Json} (isTree : IsTree value) :
    Node.read value = .ok (buildNode value) := by
  unfold Node.read
  rw [isTree.reachesCompoundType_eq_false, if_neg Bool.false_ne_true,
    defects_eq_nil_iff.mpr isTree]

/-- Only values in the grammar are read. -/
theorem isTree_of_read {value : Json} {node : Node} (read : Node.read value = .ok node) :
    IsTree value := by
  rw [← defects_eq_nil_iff]
  unfold Node.read at read
  split at read
  · cases read
  · split at read
    · assumption
    · cases read

theorem atomicTypes_iff {value : Json} :
    AtomicTypes value ↔ reachesCompoundType value = false := by
  induction value using treeInduction with
  | leaf value noObject =>
      rw [reachesCompoundType_of_not_object noObject]
      refine ⟨fun _ => rfl, fun _ fields reaches => ?_⟩
      cases reaches with
      | here => exact absurd rfl (noObject fields)
      | child => exact absurd rfl (noObject _)
  | object fields inductionHypothesis =>
      rw [reachesCompoundType_object, Bool.or_eq_false_iff, List.any_eq_false]
      constructor
      · intro atomic
        refine ⟨hasCompoundType_eq_false_iff.mpr (atomic fields (.here _)), ?_⟩
        intro item isItem
        rw [Bool.not_eq_true, ← inductionHypothesis item isItem]
        exact fun below reaches => atomic below (.child isItem reaches)
      · rintro ⟨own, items⟩ below reaches
        cases reaches with
        | here => exact hasCompoundType_eq_false_iff.mp own
        | child isItem reaches =>
            have item := Bool.eq_false_iff.mpr (items _ isItem)
            exact (inductionHypothesis _ isItem).mpr item below reaches

theorem IsTree.atomicTypes {value : Json} (isTree : IsTree value) : AtomicTypes value :=
  atomicTypes_iff.mpr isTree.reachesCompoundType_eq_false

theorem atomicTypes_of_not_object {value : Json} (noObject : ∀ fields, value ≠ .object fields) :
    AtomicTypes value :=
  atomicTypes_iff.mpr (reachesCompoundType_of_not_object noObject)

theorem exists_read_eq_defective {value : Json} (flawed : ¬ IsTree value)
    (atomic : AtomicTypes value) : ∃ found, Node.read value = .error (.defective found) := by
  unfold Node.read
  rw [atomicTypes_iff.mp atomic, if_neg Bool.false_ne_true]
  cases found : defects value with
  | nil => exact absurd (defects_eq_nil_iff.mp found) flawed
  | cons first rest => exact ⟨first :: rest, rfl⟩

theorem read_eq_compoundType {value : Json} (compound : ¬ AtomicTypes value) :
    Node.read value = .error .compoundType := by
  rw [atomicTypes_iff, Bool.not_eq_false] at compound
  unfold Node.read
  rw [if_pos compound]

/-- Of a value without compound types, a tree is read exactly if it is in the grammar.  Otherwise
all defects are reported, each of them once, in their order. -/
theorem Node.read_of_atomicTypes {value : Json} (atomic : AtomicTypes value) :
    ((∃ node, Node.read value = .ok node) ↔ IsTree value) ∧
      (¬ IsTree value → ∃ found, Node.read value = .error (.defective found) ∧
        (∀ defect, defect ∈ found ↔ HasDefect value defect.path defect.kind) ∧
        found.Pairwise (fun first second => Precedes first.path second.path) ∧
        found.Nodup) := by
  have unique : (defects value).Nodup :=
    (defects_pairwise value).imp fun precedes same => precedes.ne (congrArg Defect.path same)
  rw [← defects_eq_nil_iff]
  unfold Node.read
  rw [atomicTypes_iff.mp atomic, if_neg Bool.false_ne_true]
  cases found : defects value with
  | nil => exact ⟨⟨fun _ => rfl, fun _ => ⟨_, rfl⟩⟩, fun flawed => absurd rfl flawed⟩
  | cons first rest =>
      rw [← found]
      refine ⟨⟨?_, ?_⟩, fun _ => ⟨defects value, ?_, ?_, defects_pairwise value, unique⟩⟩
      · rintro ⟨node, read⟩
        rw [found] at read
        cases read
      · intro none
        rw [found] at none
        cases none
      · rw [found]
      · exact fun _ => mem_defects_iff

/-- A text that stands for a child, a node of which the children are a flag, and a number as the
type of the whole. -/
theorem Node.read_of_three_defects :
    let value : Json := .object
      [("type", .number 1),
        ("children", .array
          [.string "x", .object [("type", .string "TEXT"), ("children", .bool true)]])]
    let found : List Defect :=
      [⟨[.key "OTHER", .key "children", .index 0, .key "OTHER"], .notObject⟩,
       ⟨[.key "OTHER", .key "children", .index 1, .key "TEXT", .key "children"], .childrenNotList⟩,
       ⟨[.key "OTHER", .key "type"], .typeNotText⟩]
    AtomicTypes value ∧ ¬ IsTree value ∧ Node.read value = .error (.defective found) ∧
      ∀ defect, defect ∈ found ↔ HasDefect value defect.path defect.kind := by
  intro value found
  have atomic : AtomicTypes value := atomicTypes_iff.mpr rfl
  have flawed : ¬ IsTree value := fun isTree => nomatch defects_eq_nil_iff.mpr isTree
  have reported : Node.read value = .error (.defective found) := rfl
  obtain ⟨_, read, isDefect, _⟩ := (Node.read_of_atomicTypes atomic).2 flawed
  rw [reported] at read
  cases read
  exact ⟨atomic, flawed, reported, isDefect⟩

end DesignCompiler.Design
