import DesignCompiler.Proofs.Design.Tree
import DesignCompiler.Proofs.Markup.Literal

/-!
Contract: what the markup of a tree shows.

Owns:
- `Skeleton`, the style declarations of a tree with the texts that it shows;
- `Node.skeleton?`, the skeleton of a tree, and `Skeleton.chars`, the markup of a skeleton;
- the law that the markup of a tree is that of its skeleton;
- the law that different skeletons have different markup at a depth, whatever follows.

Does not own: the source around the markup, see `DesignCompiler.Proofs.Component.Source`.
-/

set_option autoImplicit false

namespace DesignCompiler

open Design

/-- What a tree shows: for every node its style declaration, with the text of the node or else with
what its children show. -/
inductive Skeleton where
  | text (style : Style.Declaration) (characters : String)
  | tree (style : Style.Declaration) (children : List Skeleton)

namespace Design.Node

mutual

def skeleton? : Node → Except ColorFault Skeleton
  | ⟨attributes, children⟩ => do
    let style ← Style.declaration? attributes
    match attributes.kind.shownText? with
    | some characters => .ok (.text style characters)
    | none => do
      let shown ← skeletons? children
      .ok (.tree style shown)

def skeletons? : List Node → Except ColorFault (List Skeleton)
  | [] => .ok []
  | node :: rest => do
    let first ← skeleton? node
    let others ← skeletons? rest
    .ok (first :: others)

end

end Design.Node

namespace Skeleton

def style : Skeleton → Style.Declaration
  | .text style _ | .tree style _ => style

mutual

def chars (depth : Int) : Skeleton → List Char
  | .text style characters =>
    Node.element style.toFields depth (Node.textLine characters depth)
  | .tree style [] => Node.emptyElement style.toFields depth
  | .tree style (first :: rest) =>
    Node.element style.toFields depth (chars (depth + 1) first ++ siblingsChars (depth + 1) rest)

/-- The markup of the children after the first, each on lines of its own. -/
def siblingsChars (depth : Int) : List Skeleton → List Char
  | [] => []
  | child :: rest => '\n' :: chars depth child ++ siblingsChars depth rest

end

/-- Induction over the elements of a skeleton: from the children of an element to the element. -/
@[elab_as_elim]
theorem induction {motive : Skeleton → Prop}
    (text : ∀ style characters, motive (.text style characters))
    (tree : ∀ style children, (∀ child ∈ children, motive child) → motive (.tree style children))
    (skeleton : Skeleton) : motive skeleton :=
  match skeleton with
  | .text style characters => text style characters
  | .tree style children =>
    tree style children fun child _ => Skeleton.induction text tree child
termination_by sizeOf skeleton
decreasing_by
  have := List.sizeOf_lt_of_mem ‹_›
  rw [Skeleton.tree.sizeOf_spec]
  omega

end Skeleton

/-! ### The markup of a tree -/

namespace Design.Node

private theorem siblingsChars?_eq (depth : Int) (nodes : List Node)
    (eachMarkup : ∀ node ∈ nodes,
      node.markupChars? depth = node.skeleton?.map (Skeleton.chars depth)) :
    siblingsChars? depth nodes = (skeletons? nodes).map (Skeleton.siblingsChars depth) := by
  induction nodes with
  | nil => rfl
  | cons node rest inductionHypothesis =>
      obtain ⟨head, tail⟩ := List.forall_mem_cons.mp eachMarkup
      rw [siblingsChars?, skeletons?, head, inductionHypothesis tail]
      cases node.skeleton? with
      | error fault => rfl
      | ok first => cases skeletons? rest <;> rfl

/-- The markup of a tree is that of its skeleton, and neither exists without the other. -/
theorem markupChars?_eq (node : Node) (depth : Int) :
    node.markupChars? depth = node.skeleton?.map (Skeleton.chars depth) := by
  induction node using Node.induction generalizing depth with
  | node attributes children inductionHypothesis =>
      rw [markupChars?.eq_def, skeleton?]
      dsimp only
      cases Style.declaration? attributes with
      | error fault => rfl
      | ok style =>
          cases attributes.kind.shownText? with
          | some characters => rfl
          | none =>
              cases children with
              | nil => rfl
              | cons first rest =>
                  obtain ⟨ofFirst, ofRest⟩ := List.forall_mem_cons.mp inductionHypothesis
                  have siblings := siblingsChars?_eq (depth + 1) rest fun node isChild =>
                    ofRest node isChild (depth + 1)
                  dsimp only
                  rw [ofFirst, siblings, skeletons?]
                  cases first.skeleton? with
                  | error fault => rfl
                  | ok head => cases skeletons? rest <;> rfl

end Design.Node

/-! ### Elements in front of other text -/

/-- Texts that differ behind spaces differ. -/
theorem eq_of_spaces_append {spaces spaces' rest rest' : List Char} {c c' : Char}
    (blank : ∀ space ∈ spaces, space = ' ') (blank' : ∀ space ∈ spaces', space = ' ')
    (isText : c ≠ ' ') (isText' : c' ≠ ' ')
    (same : spaces ++ c :: rest = spaces' ++ c' :: rest') : c :: rest = c' :: rest' := by
  have isSpace {spaces : List Char} (blank : ∀ space ∈ spaces, space = ' ') :
      ∀ space ∈ spaces, (space == ' ') = true := fun space isIn => beq_iff_eq.mpr (blank space isIn)
  have ends {c : Char} (isText : c ≠ ' ') (rest : List Char) :
      ∀ first ∈ (c :: rest).head?, (first == ' ') = false := by
    rintro first ⟨⟩
    exact beq_eq_false_iff_ne.mpr isText
  exact (Text.eq_of_append_eq_append (isSpace blank) (isSpace blank') (ends isText rest)
    (ends isText' rest') same).2

theorem eq_space_of_mem_margin (depth : Int) : ∀ space ∈ margin depth, space = ' ' :=
  fun _ => List.eq_of_mem_replicate

namespace Design.Node

private theorem elementStart_append {style style' : Style.Declaration} {depth : Int}
    {rest rest' : List Char}
    (same : elementStart style.toFields depth ++ rest =
      elementStart style'.toFields depth ++ rest') : style = style' ∧ rest = rest' := by
  simp only [elementStart, List.append_assoc] at same
  exact Style.styleLiteral_append depth
    (List.append_cancel_left (List.append_cancel_left same))

def closingLine (depth : Int) : List Char :=
  '\n' :: margin depth ++ "</div>".toList

end Design.Node

namespace Skeleton

/-- The markup of an element after its style literal. -/
def body (depth : Int) : Skeleton → List Char
  | .text _ characters =>
    ['}', '>', '\n'] ++ Node.textLine characters depth ++ Node.closingLine depth
  | .tree _ [] => ['}', ' ', '/', '>']
  | .tree _ (first :: rest) =>
    ['}', '>', '\n'] ++ chars (depth + 1) first ++ siblingsChars (depth + 1) rest ++
      Node.closingLine depth

private theorem chars_eq (skeleton : Skeleton) (depth : Int) :
    skeleton.chars depth = Node.elementStart skeleton.style.toFields depth ++
      skeleton.body depth := by
  have around (style : Style.Declaration) (inside : List Char) :
      Node.element style.toFields depth inside = Node.elementStart style.toFields depth ++
        '}' :: '>' :: '\n' :: inside ++ Node.closingLine depth := by
    simp [Node.element, Node.closingLine]
  cases skeleton with
  | text style characters =>
      rw [chars, around]
      simp [body, Skeleton.style]
  | tree style children =>
      cases children with
      | nil => rfl
      | cons first rest =>
          rw [chars, around]
          simp [body, Skeleton.style]

/-- The markup of a skeleton begins behind its margin with an opening tag. -/
theorem exists_chars_eq (skeleton : Skeleton) (depth : Int) :
    ∃ later, skeleton.chars depth = margin depth ++ '<' :: 'd' :: later := by
  refine ⟨"iv style=\x7b".toList ++ styleLiteral skeleton.style.toFields depth ++
    skeleton.body depth, ?_⟩
  rw [chars_eq, Node.elementStart]
  simp

/-- The skeleton can be read off its markup, whatever follows, and so can what follows. -/
def IsDelimited (skeleton : Skeleton) : Prop :=
  ∀ (depth : Int) (other : Skeleton) (rest rest' : List Char),
    skeleton.chars depth ++ rest = other.chars depth ++ rest' → skeleton = other ∧ rest = rest'

/-- The children after the first can be read off their markup up to the closing tag, which no child
begins with. -/
theorem siblingsChars_append {depth : Int} {children others : List Skeleton}
    {rest rest' : List Char} (delimited : ∀ child ∈ children, child.IsDelimited)
    (same : siblingsChars (depth + 1) children ++ (Node.closingLine depth ++ rest) =
      siblingsChars (depth + 1) others ++ (Node.closingLine depth ++ rest')) :
    children = others ∧ rest = rest' := by
  have noChild (child : Skeleton) (rest rest' : List Char) :
      Node.closingLine depth ++ rest ≠ '\n' :: child.chars (depth + 1) ++ rest' := by
    intro same
    obtain ⟨later, begins⟩ := child.exists_chars_eq (depth + 1)
    rw [begins, Node.closingLine] at same
    simp only [List.cons_append, List.append_assoc] at same
    have tags := eq_of_spaces_append (eq_space_of_mem_margin depth)
      (eq_space_of_mem_margin (depth + 1)) (by decide) (by decide) (List.cons.inj same).2
    cases (List.cons.inj (List.cons.inj tags).2).1
  induction children generalizing others with
  | nil =>
      cases others with
      | nil => exact ⟨rfl, List.append_cancel_left (List.append_cancel_left same)⟩
      | cons other later =>
          simp only [siblingsChars, List.append_assoc, List.nil_append] at same
          exact absurd same (noChild other rest _)
  | cons child children inductionHypothesis =>
      obtain ⟨ofChild, ofChildren⟩ := List.forall_mem_cons.mp delimited
      cases others with
      | nil =>
          simp only [siblingsChars, List.append_assoc, List.nil_append] at same
          exact absurd same.symm (noChild child rest' _)
      | cons other later =>
          simp only [siblingsChars, List.cons_append, List.append_assoc] at same
          obtain ⟨sameChild, siblings⟩ := ofChild _ _ _ _ (List.cons.inj same).2
          obtain ⟨sameLater, sameRest⟩ := inductionHypothesis ofChildren siblings
          exact ⟨by rw [sameChild, sameLater], sameRest⟩

/-- What stands inside an element tells a text from children. -/
theorem textLine_append_ne_chars (characters : String) (depth : Int) (child : Skeleton)
    (rest rest' : List Char) :
    Node.textLine characters depth ++ rest ≠ child.chars (depth + 1) ++ rest' := by
  intro same
  obtain ⟨later, begins⟩ := child.exists_chars_eq (depth + 1)
  have text : Node.textLine characters depth ++ rest = (margin depth ++ [' ', ' ']) ++
      '{' :: (Json.stringChars false characters ++ '}' :: rest) := by
    simp [Node.textLine]
  have blank : ∀ space ∈ margin depth ++ [' ', ' '], space = ' ' :=
    List.forall_mem_append.mpr ⟨eq_space_of_mem_margin depth, by simp⟩
  rw [begins, text, List.append_assoc (margin (depth + 1))] at same
  have inside := eq_of_spaces_append blank (eq_space_of_mem_margin (depth + 1)) (by decide)
    (by decide) same
  cases (List.cons.inj inside).1

private theorem textLine_append {characters characters' : String} {depth : Int}
    {rest rest' : List Char}
    (same : Node.textLine characters depth ++ rest = Node.textLine characters' depth ++ rest') :
    characters = characters' ∧ rest = rest' := by
  simp only [Node.textLine, List.append_assoc, List.cons_append] at same
  have literals := List.append_cancel_left same
  obtain ⟨sameText, closing⟩ := Json.stringChars_append
    (List.cons.inj (List.cons.inj (List.cons.inj literals).2).2).2
  exact ⟨sameText, (List.cons.inj closing).2⟩

/-- The style and what stands inside the element can be read off the markup. -/
theorem chars_append {skeleton other : Skeleton} {depth : Int} {rest rest' : List Char}
    (same : skeleton.chars depth ++ rest = other.chars depth ++ rest') :
    skeleton.style = other.style ∧ skeleton.body depth ++ rest = other.body depth ++ rest' := by
  rw [chars_eq, chars_eq, List.append_assoc, List.append_assoc] at same
  exact Node.elementStart_append same

/-- What stands inside an element tells a text from a tree, which closes itself or has children. -/
theorem body_text_ne_body_tree (style style' : Style.Declaration) (characters : String)
    (children : List Skeleton) (depth : Int) (rest rest' : List Char) :
    body depth (.text style characters) ++ rest ≠ body depth (.tree style' children) ++ rest' := by
  intro same
  cases children with
  | nil => cases (List.cons.inj (List.cons.inj same).2).1
  | cons first later =>
      simp only [body, List.append_assoc] at same
      exact textLine_append_ne_chars characters depth first _ _ (List.append_cancel_left same)

/-- The children of an element can be read off what stands inside it. -/
theorem body_tree_append {style style' : Style.Declaration} {children others : List Skeleton}
    {depth : Int} {rest rest' : List Char} (delimited : ∀ child ∈ children, child.IsDelimited)
    (same : body depth (.tree style children) ++ rest =
      body depth (.tree style' others) ++ rest') : children = others ∧ rest = rest' := by
  cases children with
  | nil =>
      cases others with
      | nil => exact ⟨rfl, List.append_cancel_left same⟩
      | cons first' later' => cases (List.cons.inj (List.cons.inj same).2).1
  | cons first later =>
      cases others with
      | nil => cases (List.cons.inj (List.cons.inj same).2).1
      | cons first' later' =>
          obtain ⟨ofFirst, ofLater⟩ := List.forall_mem_cons.mp delimited
          simp only [body, List.append_assoc] at same
          obtain ⟨sameFirst, siblings⟩ := ofFirst _ _ _ _ (List.append_cancel_left same)
          obtain ⟨sameLater, sameRest⟩ := siblingsChars_append ofLater siblings
          exact ⟨congrArg₂ List.cons sameFirst sameLater, sameRest⟩

/-- Different skeletons have different markup at a depth, whatever follows. -/
theorem isDelimited (skeleton : Skeleton) : skeleton.IsDelimited := by
  induction skeleton using Skeleton.induction with
  | text style characters =>
      intro depth other rest rest' same
      obtain ⟨sameStyle, bodies⟩ := chars_append same
      cases other with
      | text style' characters' =>
          simp only [body, List.append_assoc] at bodies
          obtain ⟨sameText, closing⟩ := textLine_append (List.append_cancel_left bodies)
          exact ⟨congrArg₂ Skeleton.text sameStyle sameText, List.append_cancel_left closing⟩
      | tree style' children' =>
          exact absurd bodies (body_text_ne_body_tree style style' characters children' depth _ _)
  | tree style children inductionHypothesis =>
      intro depth other rest rest' same
      obtain ⟨sameStyle, bodies⟩ := chars_append same
      cases other with
      | text style' characters' =>
          exact absurd bodies.symm
            (body_text_ne_body_tree style' style characters' children depth _ _)
      | tree style' children' =>
          obtain ⟨sameChildren, sameRest⟩ := body_tree_append inductionHypothesis bodies
          exact ⟨congrArg₂ Skeleton.tree sameStyle sameChildren, sameRest⟩

end Skeleton

end DesignCompiler
