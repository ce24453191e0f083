import DesignCompiler.Design.Reading
import DesignCompiler.Proofs.Json.Fields

/-!
Contract: the nodes of a JSON value.

Owns:
- `childItems`, the values that an object lists as its children;
- `treeInduction`, the induction over the nodes of a value, and `Node.induction`, the one over the
  nodes of a tree;
- `Reaches`, from a node down to the nodes below it, and `nodeAt?`, the node at the end of a path;
- the kind of a node by its type;
- the recursions of the reading of trees, said of the list of children.

The recursions run along the entries of an object until the children come; here every one of them
is a function of the value under that key.

Does not own: which values are read, see `DesignCompiler.Proofs.Design.Acceptance`.
-/

set_option autoImplicit false

namespace DesignCompiler.Design

/-- The values that an object lists as its children. -/
def childItems (fields : Fields) : List Json :=
  match fields.lookup "children" with
  | some (.array items) => items
  | _ => []

theorem childItems_eq {fields : Fields} {items : List Json}
    (children : fields.lookup "children" = some (.array items)) : childItems fields = items := by
  unfold childItems
  rw [children]

private theorem childItems_cons (entry : String × Json) (rest : Fields) :
    childItems (entry :: rest) =
      if entry.1 = "children" then childItems [entry] else childItems rest := by
  unfold childItems
  rw [Fields.lookup_cons, Fields.lookup_cons]
  by_cases isChildren : entry.1 = "children"
  · rw [if_pos isChildren, if_pos isChildren, if_pos isChildren]
  · rw [if_neg isChildren, if_neg isChildren]

/-- The value under the children, if there are items. -/
theorem lookup_children_of_mem {fields : Fields} {item : Json} (isItem : item ∈ childItems fields) :
    fields.lookup "children" = some (.array (childItems fields)) := by
  unfold childItems at isItem ⊢
  split at isItem
  next items children => rw [children]
  next => cases isItem

private theorem sizeOf_childItem {fields : Fields} {item : Json}
    (isItem : item ∈ childItems fields) :
    sizeOf item < sizeOf (Json.object fields) := by
  have inItems := List.sizeOf_lt_of_mem isItem
  have inFields := List.sizeOf_lt_of_mem (Fields.mem_of_lookup (lookup_children_of_mem isItem))
  rw [Prod.mk.sizeOf_spec, Json.array.sizeOf_spec] at inFields
  rw [Json.object.sizeOf_spec]
  omega

/-- Induction over the nodes of a value: from the children of an object to the object. -/
@[elab_as_elim]
theorem treeInduction {motive : Json → Prop}
    (leaf : ∀ value, (∀ fields, value ≠ .object fields) → motive value)
    (object : ∀ fields, (∀ item ∈ childItems fields, motive item) → motive (.object fields))
    (value : Json) : motive value :=
  match value with
  | .object fields =>
    object fields fun item _ => treeInduction leaf object item
  | .null | .bool _ | .number _ | .string _ | .array _ => leaf _ fun _ => nofun
termination_by sizeOf value
decreasing_by exact sizeOf_childItem ‹_›

/-- Induction over the nodes of a tree: from the children of a node to the node. -/
@[elab_as_elim]
theorem Node.induction {motive : Node → Prop}
    (node : ∀ attributes children, (∀ child ∈ children, motive child) →
      motive ⟨attributes, children⟩)
    (tree : Node) : motive tree :=
  match tree with
  | ⟨attributes, children⟩ =>
    node attributes children fun child _ => Node.induction node child
termination_by sizeOf tree
decreasing_by
  have := List.sizeOf_lt_of_mem ‹_›
  rw [Node.mk.sizeOf_spec]
  omega

/-- The second value is the first one or is reached from it through lists of children. -/
inductive Reaches : Json → Json → Prop where
  | here (value : Json) : Reaches value value
  | child {fields : Fields} {item value : Json} (isItem : item ∈ childItems fields)
      (reaches : Reaches item value) : Reaches (.object fields) value

/-- The node at the end of a path of positions among the children. -/
def nodeAt? : List Nat → Json → Option Json
  | [], value => some value
  | position :: path, .object fields => ((childItems fields)[position]?).bind (nodeAt? path)
  | _ :: _, _ => none

/-- The node of a tree at the end of a path of positions among the children. -/
def Node.at? : List Nat → Node → Option Node
  | [], node => some node
  | position :: path, ⟨_, children⟩ => (children[position]?).bind (Node.at? path)

theorem Node.framesOf_eq_flatMap (nodes : List Node) :
    Node.framesOf nodes = nodes.flatMap Node.frames := by
  induction nodes with
  | nil => rfl
  | cons node rest inductionHypothesis =>
      rw [Node.framesOf, inductionHypothesis, List.flatMap_cons]

/-! ### Kinds -/

theorem readKind_of_text {fields : Fields} {tag : String}
    (type : fields.lookup "type" = some (.string tag)) :
    readKind fields =
      if tag = "FRAME" then .frame
      else if tag = "COMPONENT" then .component
      else if tag = "INSTANCE" then .copy
      else if tag = "TEXT" then
        .text (optionalText fields "characters") ((field? fields "style").bind TextStyle.read?)
      else .other tag := by
  unfold readKind
  rw [type]
  split
  next isFrame => cases isFrame; rfl
  next isComponent => cases isComponent; rfl
  next isCopy => cases isCopy; rfl
  next isText => cases isText; rfl
  next noFrame noComponent noCopy noText isTag =>
    cases isTag
    rw [if_neg noFrame, if_neg noComponent, if_neg noCopy, if_neg noText]
  next noText => exact absurd rfl (noText tag)

theorem readKind_of_no_text {fields : Fields}
    (noText : ∀ tag, fields.lookup "type" ≠ some (.string tag)) :
    readKind fields = .other "OTHER" := by
  unfold readKind
  split <;> first
    | rfl
    | next found => exact absurd found (noText _)

/-- The tag of a kind is the type that was read, or the one of all other nodes. -/
theorem tag_readKind (fields : Fields) :
    (readKind fields).tag = ((fields.lookup "type").bind Json.text?).getD "OTHER" := by
  by_cases hasTag : ∃ tag, fields.lookup "type" = some (.string tag)
  · obtain ⟨tag, type⟩ := hasTag
    rw [readKind_of_text type, type]
    split
    next isFrame => rw [isFrame]; rfl
    split
    next isComponent => rw [isComponent]; rfl
    split
    next isCopy => rw [isCopy]; rfl
    split
    next isText => rw [isText]; rfl
    rfl
  · have noTag (tag : String) : fields.lookup "type" ≠ some (.string tag) :=
      fun type => hasTag ⟨tag, type⟩
    rw [readKind_of_no_text noTag]
    cases type : fields.lookup "type" with
    | none => rfl
    | some value =>
        cases value with
        | string tag => exact absurd type (noTag tag)
        | _ => rfl

/-! ### Recursions over the children -/

private theorem buildNodes_eq_map (items : List Json) : buildNodes items = items.map buildNode := by
  induction items with
  | nil => rfl
  | cons item rest inductionHypothesis =>
      rw [buildNodes, inductionHypothesis, List.map_cons]

private theorem buildChildren_eq_map (fields : Fields) :
    buildChildren fields = (childItems fields).map buildNode := by
  induction fields with
  | nil => rfl
  | cons entry rest inductionHypothesis =>
      obtain ⟨key, value⟩ := entry
      rw [childItems_cons]
      by_cases isChildren : key = "children"
      · subst isChildren
        cases value <;> simp [buildChildren, childItems, Fields.lookup_cons, buildNodes_eq_map]
      · cases value <;> simp [buildChildren, isChildren, inductionHypothesis]

/-- The tree of an object has the trees of its children. -/
theorem buildNode_object (fields : Fields) :
    buildNode (.object fields) = ⟨readAttributes fields, (childItems fields).map buildNode⟩ := by
  rw [buildNode, buildChildren_eq_map]

/-- The tree that is read of a value is the one that the value describes. -/
theorem Node.eq_buildNode_of_read {value : Json} {node : Node}
    (read : Node.read value = .ok node) : node = buildNode value := by
  unfold Node.read at read
  split at read
  · cases read
  · split at read
    · exact (Except.ok.inj read).symm
    · cases read

/-- The nodes of a tree are the trees of the nodes, at the same paths. -/
theorem at?_buildNode (path : List Nat) (value : Json) :
    (buildNode value).at? path = (nodeAt? path value).map buildNode := by
  induction path generalizing value with
  | nil => rfl
  | cons position path inductionHypothesis =>
      cases value with
      | object fields =>
          rw [buildNode_object]
          unfold Node.at? nodeAt?
          rw [List.getElem?_map]
          cases (childItems fields)[position]? with
          | none => rfl
          | some item => exact inductionHypothesis item
      | _ => rfl

private theorem itemsReachCompoundType_eq_any (items : List Json) :
    itemsReachCompoundType items = items.any reachesCompoundType := by
  induction items with
  | nil => rfl
  | cons item rest inductionHypothesis =>
      rw [itemsReachCompoundType, inductionHypothesis, List.any_cons]

private theorem childrenReachCompoundType_eq_any (fields : Fields) :
    childrenReachCompoundType fields = (childItems fields).any reachesCompoundType := by
  induction fields with
  | nil => rfl
  | cons entry rest inductionHypothesis =>
      obtain ⟨key, value⟩ := entry
      rw [childItems_cons]
      by_cases isChildren : key = "children"
      · subst isChildren
        cases value <;>
          simp [childrenReachCompoundType, childItems, Fields.lookup_cons,
            itemsReachCompoundType_eq_any]
      · cases value <;> simp [childrenReachCompoundType, isChildren, inductionHypothesis]

theorem reachesCompoundType_object (fields : Fields) :
    reachesCompoundType (.object fields) =
      (hasCompoundType fields || (childItems fields).any reachesCompoundType) := by
  rw [reachesCompoundType, childrenReachCompoundType_eq_any]

theorem reachesCompoundType_of_not_object {value : Json}
    (noObject : ∀ fields, value ≠ .object fields) : reachesCompoundType value = false := by
  cases value with
  | object fields => exact absurd rfl (noObject fields)
  | _ => rw [reachesCompoundType]; exact noObject

theorem defects_of_not_object {value : Json} (noObject : ∀ fields, value ≠ .object fields) :
    defects value = [⟨[.key "OTHER"], .notObject⟩] := by
  cases value with
  | object fields => exact absurd rfl (noObject fields)
  | _ => rw [defects]; exact noObject

private theorem childrenDefects_cons (entry : String × Json) (rest : Fields) :
    childrenDefects (entry :: rest) =
      if entry.1 = "children" then childrenDefects [entry] else childrenDefects rest := by
  obtain ⟨key, value⟩ := entry
  by_cases isChildren : key = "children" <;> cases value <;> simp [childrenDefects, isChildren]

/-- The defects below the children are those of the value under the first such key. -/
theorem childrenDefects_eq (fields : Fields) :
    childrenDefects fields =
      match fields.lookup "children" with
      | none | some .null => []
      | some (.array items) => itemDefects 0 items
      | some _ => [⟨[.key "children"], .childrenNotList⟩] := by
  induction fields with
  | nil => rfl
  | cons entry rest inductionHypothesis =>
      obtain ⟨key, value⟩ := entry
      rw [childrenDefects_cons, Fields.lookup_cons]
      by_cases isChildren : key = "children"
      · subst isChildren
        rw [if_pos rfl, if_pos rfl]
        cases value <;> simp [childrenDefects]
      · rw [if_neg isChildren, if_neg isChildren, inductionHypothesis]

end DesignCompiler.Design
