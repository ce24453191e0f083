import DesignCompiler.Proofs.Design.Acceptance

/-!
Contract: the frames of a design tree, as they stand in the JSON value that the tree is read of.

Owns:
- `Node.placedFrames`, the frame-like nodes of a tree with the paths to them;
- `LeadsToFrame`, the paths to the objects of a JSON value that have the type of a frame;
- `Node.Shows`, what a node says about the object that it stands for;
- the law that the frames of a tree are the nodes of these objects, in the order of their paths.

Paths are positions among the children, from the root down, and are compared as words are: a node
comes before its children, and before everything below a later sibling.

Does not own: how files are fetched, see `DesignCompiler.Proofs.Figma.Frames`.
-/

set_option autoImplicit false

namespace DesignCompiler.Design

/-! ### Frames with their places -/

mutual

/-- The frame-like nodes of a tree with the paths to them, every node before its children. -/
def Node.placedFrames : Node → List (List Nat × Node)
  | ⟨attributes, children⟩ =>
    (if attributes.kind.isFrameLike then [([], ⟨attributes, children⟩)] else [])
      ++ Node.placedFramesOf 0 children

/-- The same of several siblings, the first of which has the given position. -/
def Node.placedFramesOf : Nat → List Node → List (List Nat × Node)
  | _, [] => []
  | position, node :: rest =>
    (Node.placedFrames node).map (fun placed => (position :: placed.1, placed.2))
      ++ Node.placedFramesOf (position + 1) rest

end

private theorem Node.map_snd_placedFramesOf {nodes : List Node}
    (each : ∀ node ∈ nodes, node.placedFrames.map Prod.snd = node.frames) (start : Nat) :
    (Node.placedFramesOf start nodes).map Prod.snd = Node.framesOf nodes := by
  induction nodes generalizing start with
  | nil => rfl
  | cons node rest inductionHypothesis =>
      rw [placedFramesOf, framesOf, List.map_append, List.map_map,
        inductionHypothesis fun later isLater => each later (List.mem_cons_of_mem node isLater),
        ← each node List.mem_cons_self]
      rfl

theorem Node.map_snd_placedFrames (root : Node) : root.placedFrames.map Prod.snd = root.frames := by
  induction root using Node.induction with
  | node attributes children inductionHypothesis =>
      rw [placedFrames, frames, List.map_append, map_snd_placedFramesOf inductionHypothesis]
      split <;> rfl

private theorem Node.mem_placedFramesOf {nodes : List Node} {start : Nat} {path : List Nat}
    {frame : Node} :
    (path, frame) ∈ Node.placedFramesOf start nodes ↔
      ∃ position node below, nodes[position]? = some node ∧ (below, frame) ∈ node.placedFrames ∧
        path = (start + position) :: below := by
  induction nodes generalizing start with
  | nil =>
      refine ⟨nofun, ?_⟩
      intro ⟨position, node, below, found, _⟩
      cases found
  | cons first rest inductionHypothesis =>
      rw [placedFramesOf, List.mem_append, List.mem_map, inductionHypothesis]
      have shift (position : Nat) : start + 1 + position = start + (position + 1) := by omega
      constructor
      · intro isPlaced
        rcases isPlaced with ⟨placed, isFrame, same⟩ | ⟨position, node, below, found, isFrame, same⟩
        · obtain ⟨rfl, rfl⟩ := Prod.mk.inj same
          exact ⟨0, first, placed.1, rfl, isFrame, rfl⟩
        · rw [shift] at same
          exact ⟨position + 1, node, below, found, isFrame, same⟩
      · intro ⟨position, node, below, found, isFrame, same⟩
        cases position with
        | zero =>
            cases found
            exact Or.inl ⟨(below, frame), isFrame, by rw [same]; rfl⟩
        | succ position =>
            rw [← shift] at same
            exact Or.inr ⟨position, node, below, found, isFrame, same⟩

private theorem Node.nil_mem_placedFrames {attributes : Attributes} {children : List Node}
    {frame : Node} :
    ([], frame) ∈ Node.placedFrames ⟨attributes, children⟩ ↔
      (⟨attributes, children⟩ : Node) = frame ∧ attributes.kind.isFrameLike = true := by
  have notBelow : ([], frame) ∉ Node.placedFramesOf 0 children := by
    intro isBelow
    obtain ⟨_, _, _, _, _, same⟩ := mem_placedFramesOf.mp isBelow
    cases same
  rw [placedFrames, List.mem_append, or_iff_left notBelow]
  split
  next frameLike =>
    rw [List.mem_singleton, Prod.mk.injEq, eq_self, true_and]
    constructor
    · intro same
      exact ⟨same.symm, frameLike⟩
    · intro ⟨same, _⟩
      exact same.symm
  next notFrameLike =>
    apply iff_of_false List.not_mem_nil
    intro ⟨_, frameLike⟩
    exact notFrameLike frameLike

private theorem Node.cons_mem_placedFrames {attributes : Attributes} {children : List Node}
    {frame : Node} {position : Nat} {below : List Nat} :
    (position :: below, frame) ∈ Node.placedFrames ⟨attributes, children⟩ ↔
      ∃ child, children[position]? = some child ∧ (below, frame) ∈ child.placedFrames := by
  have notHere : (position :: below, frame) ∉
      (if attributes.kind.isFrameLike then [([], (⟨attributes, children⟩ : Node))] else []) := by
    split <;> simp
  rw [placedFrames, List.mem_append, or_iff_right notHere, mem_placedFramesOf]
  constructor
  · intro ⟨position', child, below', found, isPlaced, same⟩
    rw [Nat.zero_add] at same
    cases same
    exact ⟨child, found, isPlaced⟩
  · intro ⟨child, found, isPlaced⟩
    exact ⟨position, child, below, found, isPlaced, by rw [Nat.zero_add]⟩

private theorem Node.mem_placedFrames {root frame : Node} {path : List Nat} :
    (path, frame) ∈ root.placedFrames ↔
      root.at? path = some frame ∧ frame.attributes.kind.isFrameLike = true := by
  induction root using Node.induction generalizing path with
  | node attributes children inductionHypothesis =>
      cases path with
      | nil =>
          rw [nil_mem_placedFrames, at?, Option.some.injEq]
          apply and_congr_right
          intro same
          rw [← same]
      | cons position below =>
          rw [cons_mem_placedFrames, at?]
          constructor
          · intro ⟨child, found, isPlaced⟩
            rw [found]
            exact (inductionHypothesis child (List.mem_of_getElem? found)).mp isPlaced
          · intro ⟨reached, frameLike⟩
            obtain ⟨child, found, reached⟩ := Option.bind_eq_some_iff.mp reached
            refine ⟨child, found, ?_⟩
            exact (inductionHypothesis child (List.mem_of_getElem? found)).mpr ⟨reached, frameLike⟩

private theorem Node.pairwise_placedFramesOf {nodes : List Node}
    (each : ∀ node ∈ nodes, node.placedFrames.Pairwise fun first second => first.1 < second.1)
    (start : Nat) :
    (Node.placedFramesOf start nodes).Pairwise fun first second => first.1 < second.1 := by
  induction nodes generalizing start with
  | nil => exact .nil
  | cons node rest inductionHypothesis =>
      rw [placedFramesOf]
      apply List.pairwise_append.mpr
      refine ⟨?_, ?_, ?_⟩
      · apply List.pairwise_map.mpr
        apply (each node List.mem_cons_self).imp
        intro first second before
        exact List.cons_lt_cons_iff.mpr (Or.inr ⟨rfl, before⟩)
      · apply inductionHypothesis
        intro later isLater
        exact each later (List.mem_cons_of_mem node isLater)
      · -- the paths of later siblings begin with a larger position
        intro first isFirst second isSecond
        obtain ⟨placed, _, rfl⟩ := List.mem_map.mp isFirst
        obtain ⟨position, _, below, _, _, path⟩ := mem_placedFramesOf.mp isSecond
        rw [path]
        apply List.cons_lt_cons_iff.mpr
        left
        omega

/-- Frames are listed in the order of their paths. -/
theorem Node.pairwise_placedFrames (root : Node) :
    root.placedFrames.Pairwise fun first second => first.1 < second.1 := by
  induction root using Node.induction with
  | node attributes children inductionHypothesis =>
      rw [placedFrames]
      apply List.pairwise_append.mpr
      refine ⟨?_, pairwise_placedFramesOf inductionHypothesis 0, ?_⟩
      · split
        · exact List.pairwise_singleton _ _
        · exact .nil
      · intro first isFirst second isSecond
        obtain ⟨position, _, below, _, _, path⟩ := mem_placedFramesOf.mp isSecond
        split at isFirst
        · rw [List.mem_singleton.mp isFirst, path]
          exact List.nil_lt_cons _ _
        · cases isFirst

/-! ### Frames of a JSON value -/

/-- A path leads to an object that has the type of a frame. -/
def LeadsToFrame (document : Json) (path : List Nat) : Prop :=
  ∃ fields, nodeAt? path document = some (.object fields) ∧
    ∃ tag ∈ ["FRAME", "COMPONENT", "INSTANCE"], fields.lookup "type" = some (.string tag)

def textUnder (fields : Fields) (key : String) : String :=
  match fields.lookup key with
  | some (.string text) => text
  | _ => ""

/-- What a node says about the object that it stands for. -/
structure Node.Shows (node : Node) (fields : Fields) : Prop where
  read : Node.read (.object fields) = .ok node
  type : fields.lookup "type" = some (.string node.attributes.kind.tag)
  id : node.attributes.id = textUnder fields "id"
  name : node.attributes.name = textUnder fields "name"
  children : node.children.length = (childItems fields).length

theorem isFrameLike_readKind_iff {fields : Fields} :
    (readKind fields).isFrameLike = true ↔
      ∃ tag ∈ ["FRAME", "COMPONENT", "INSTANCE"], fields.lookup "type" = some (.string tag) := by
  by_cases isText : ∃ tag, fields.lookup "type" = some (.string tag)
  · obtain ⟨tag, type⟩ := isText
    rw [readKind_of_text type, type]
    by_cases isFrame : tag = "FRAME"
    · simp [isFrame, Kind.isFrameLike]
    by_cases isComponent : tag = "COMPONENT"
    · simp [isComponent, Kind.isFrameLike]
    by_cases isCopy : tag = "INSTANCE"
    · simp [isCopy, Kind.isFrameLike]
    rw [if_neg isFrame, if_neg isComponent, if_neg isCopy]
    apply iff_of_false
    · split <;> simp [Kind.isFrameLike]
    · simp [isFrame, isComponent, isCopy]
  · rw [readKind_of_no_text fun tag type => isText ⟨tag, type⟩]
    apply iff_of_false Bool.false_ne_true
    intro ⟨tag, _, type⟩
    exact isText ⟨tag, type⟩

private theorem tag_of_isFrameLike {fields : Fields}
    (frameLike : (readKind fields).isFrameLike = true) :
    fields.lookup "type" = some (.string (readKind fields).tag) := by
  obtain ⟨tag, _, type⟩ := isFrameLike_readKind_iff.mp frameLike
  rw [tag_readKind, type]
  rfl

private theorem optionalText_getD {fields : Fields} {name : String}
    (oneSpelling : snakeCase name = name) :
    (optionalText fields name).getD "" = textUnder fields name := by
  have same : field? fields name = fields.lookup name := by
    unfold field?
    rw [oneSpelling]
    split
    next value found => exact found.symm
    next => rfl
  unfold optionalText textUnder
  rw [same]
  split
  next text found => rw [found]; rfl
  next noText =>
    cases found : fields.lookup name with
    | none => rfl
    | some value =>
        cases value with
        | string text => exact absurd found (noText text)
        | _ => rfl

theorem IsTree.nodeAt? {value node : Json} (isTree : IsTree value) {path : List Nat}
    (reached : Design.nodeAt? path value = some node) : IsTree node := by
  induction path generalizing value with
  | nil =>
      cases reached
      exact isTree
  | cons position path inductionHypothesis =>
      obtain ⟨fields, rfl⟩ := isTree.exists_object
      obtain ⟨item, found, reached⟩ := Option.bind_eq_some_iff.mp reached
      exact inductionHypothesis (isTree.child (List.mem_of_getElem? found)) reached

private theorem exists_object_of_at? {document : Json} {path : List Nat} {frame : Node}
    (isTree : IsTree document) (reached : (buildNode document).at? path = some frame) :
    ∃ fields, nodeAt? path document = some (.object fields) ∧
      Node.read (.object fields) = .ok frame ∧
      frame = ⟨readAttributes fields, (childItems fields).map buildNode⟩ := by
  rw [at?_buildNode] at reached
  obtain ⟨value, found, same⟩ := Option.map_eq_some_iff.mp reached
  have below := isTree.nodeAt? found
  obtain ⟨fields, rfl⟩ := below.exists_object
  exact ⟨fields, found, same ▸ below.read_eq, same ▸ buildNode_object fields⟩

/-- The frames that are listed for a tree stand for the objects with the type of a frame. -/
theorem exists_mem_placedFrames_iff {document : Json} (isTree : IsTree document)
    {path : List Nat} :
    (∃ frame, (path, frame) ∈ (buildNode document).placedFrames) ↔ LeadsToFrame document path := by
  constructor
  · intro ⟨frame, isPlaced⟩
    obtain ⟨reached, frameLike⟩ := Node.mem_placedFrames.mp isPlaced
    obtain ⟨fields, found, _, rfl⟩ := exists_object_of_at? isTree reached
    exact ⟨fields, found, isFrameLike_readKind_iff.mp frameLike⟩
  · intro ⟨fields, found, isFrame⟩
    refine ⟨buildNode (.object fields), Node.mem_placedFrames.mpr ⟨?_, ?_⟩⟩
    · rw [at?_buildNode, found, Option.map_some]
    · rw [buildNode_object]
      exact isFrameLike_readKind_iff.mpr isFrame

theorem exists_shows_of_mem_placedFrames {document : Json} (isTree : IsTree document)
    {path : List Nat} {frame : Node}
    (isPlaced : (path, frame) ∈ (buildNode document).placedFrames) :
    ∃ fields, nodeAt? path document = some (.object fields) ∧ frame.Shows fields := by
  obtain ⟨reached, frameLike⟩ := Node.mem_placedFrames.mp isPlaced
  obtain ⟨fields, found, read, rfl⟩ := exists_object_of_at? isTree reached
  refine ⟨fields, found, read, tag_of_isFrameLike frameLike, ?_, ?_, List.length_map ..⟩
  · exact optionalText_getD (by decide)
  · exact optionalText_getD (by decide)

end DesignCompiler.Design
