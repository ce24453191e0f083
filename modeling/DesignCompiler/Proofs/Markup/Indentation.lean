import DesignCompiler.Proofs.Markup.Skeleton
import Mathlib.Tactic.Ring

/-!
Contract: how the markup of a tree depends on its depth of nesting.

Owns:
- `indented`, a text with spaces in front of each of its lines;
- the law that the markup at a greater depth is the markup with spaces in front of its lines;
- `Skeleton.lineCount`, the number of lines of the markup, which no text and no depth changes.

A style literal and a text bring no line breaks of their own, so that all lines of the markup are
lines of its elements.

Does not own: what the markup shows, see `DesignCompiler.Proofs.Markup.Skeleton`.
-/

set_option autoImplicit false

namespace DesignCompiler

open Design

/-! ### Lines of texts -/

def linesOf (text : String) : List (List Char) :=
  text.toList.splitOn '\n'

/-- A text with two spaces for every level in front of each of its lines. -/
def indented (levels : Nat) (text : String) : String :=
  String.ofList (['\n'].intercalate ((linesOf text).map (margin levels ++ ·)))

theorem newline_notMem_margin (depth : Int) : '\n' ∉ margin depth := by
  intro isChar
  cases eq_space_of_mem_margin depth _ isChar

private theorem linesOf_indented (levels : Nat) (text : String) :
    linesOf (indented levels text) = (linesOf text).map (margin levels ++ ·) := by
  have isLine : ∀ line ∈ (linesOf text).map (margin levels ++ ·), '\n' ∉ line := by
    intro line isMoved
    obtain ⟨old, isOld, rfl⟩ := List.mem_map.mp isMoved
    have plain := Text.notMem_of_mem_splitOn isOld
    simp [newline_notMem_margin, plain]
  have hasLines : (linesOf text).map (margin levels ++ ·) ≠ [] := by
    simp [linesOf, List.splitOn_eq_splitOnP, List.splitOnP_ne_nil]
  rw [linesOf, indented, String.toList_ofList, List.splitOn_intercalate '\n' isLine hasLines]

/-! ### Moving all lines -/

/-- Spaces in front of every line of joined lines. -/
theorem intercalate_map_append (spaces : List Char) {lines : List (List Char)}
    (hasLines : lines ≠ []) (isLine : ∀ line ∈ lines, '\n' ∉ line) :
    ['\n'].intercalate (lines.map (spaces ++ ·)) =
      spaces ++ indentRest spaces (['\n'].intercalate lines) := by
  induction lines with
  | nil => exact absurd rfl hasLines
  | cons line lines inductionHypothesis =>
      obtain ⟨first, others⟩ := List.forall_mem_cons.mp isLine
      cases lines with
      | nil => simp [indentRest_of_notMem spaces first]
      | cons next later =>
          have moved := inductionHypothesis (List.cons_ne_nil _ _) others
          rw [List.map_cons] at moved
          rw [List.map_cons, List.map_cons, List.intercalate_cons_cons, moved,
            List.intercalate_cons_cons]
          simp only [List.append_assoc, List.cons_append, List.nil_append, indentRest_append,
            indentRest_newline, indentRest_of_notMem spaces first]

/-- A text with spaces in front of its first line and of all others. -/
theorem indented_eq (levels : Nat) (cs : List Char) :
    indented levels (String.ofList cs) =
      String.ofList (margin levels ++ indentRest (margin levels) cs) := by
  have hasLines : cs.splitOn '\n' ≠ [] := by
    rw [List.splitOn_eq_splitOnP]
    exact List.splitOnP_ne_nil _ _
  rw [indented, linesOf, String.toList_ofList,
    intercalate_map_append _ hasLines (fun _ => Text.notMem_of_mem_splitOn),
    List.intercalate_splitOn]

/-- Lines that are moved twice are moved by both margins. -/
theorem indentRest_indentRest {outer inner : List Char} (isMargin : '\n' ∉ inner)
    (cs : List Char) :
    indentRest outer (indentRest inner cs) = indentRest (outer ++ inner) cs := by
  induction cs with
  | nil => rfl
  | cons c cs inductionHypothesis =>
      by_cases isBreak : c = '\n'
      · rw [isBreak, indentRest_newline, indentRest_newline, List.cons_append, indentRest_newline,
          indentRest_append, indentRest_of_notMem outer isMargin, inductionHypothesis]
        simp
      · have single : '\n' ∉ [c] := by simpa using Ne.symm isBreak
        rw [← List.singleton_append, indentRest_append, indentRest_append, indentRest_append,
          indentRest_of_notMem inner single, indentRest_of_notMem outer single,
          indentRest_of_notMem (outer ++ inner) single, inductionHypothesis]

variable {depth : Int} {levels : Nat}

private theorem margin_add (nonneg : 0 ≤ depth) :
    margin (depth + levels) = margin levels ++ margin depth := by
  have spaces : (2 * (depth + levels)).toNat = (2 * (levels : Int)).toNat + (2 * depth).toNat := by
    omega
  rw [margin, margin, margin, List.replicate_append_replicate, spaces]

namespace Design.Node

/-- A text on one line stands further inside. -/
theorem indentRest_margin_append (levels : Nat) (nonneg : 0 ≤ depth) {line : List Char}
    (isLine : '\n' ∉ line) :
    margin (depth + levels) ++ line =
      margin levels ++ indentRest (margin levels) (margin depth ++ line) := by
  rw [margin_add nonneg, indentRest_of_notMem, List.append_assoc]
  simp [newline_notMem_margin, isLine]

private theorem styleLiteral_add (fields : Fields) (nonneg : 0 ≤ depth) :
    styleLiteral fields (depth + levels) =
      indentRest (margin levels) (styleLiteral fields depth) := by
  have inside : depth + levels + 1 = depth + 1 + levels := by ring
  rw [styleLiteral, styleLiteral, indentRest_indentRest (newline_notMem_margin _), inside,
    margin_add (by omega)]

private theorem elementStart_add (fields : Fields) (nonneg : 0 ≤ depth) :
    elementStart fields (depth + levels) =
      margin levels ++ indentRest (margin levels) (elementStart fields depth) := by
  have tag : '\n' ∉ "<div style=\x7b".toList := by decide
  rw [elementStart, elementStart, indentRest_margin_append levels nonneg tag,
    styleLiteral_add fields nonneg, indentRest_append _ (_ ++ _), List.append_assoc]

private theorem element_add (fields : Fields) (nonneg : 0 ≤ depth) (inside : List Char) :
    element fields (depth + levels) (margin levels ++ indentRest (margin levels) inside) =
      margin levels ++ indentRest (margin levels) (element fields depth inside) := by
  have closing : '\n' ∉ "</div>".toList := by decide
  have behind :
      indentRest (margin levels) "\x7d>\n".toList = "\x7d>\n".toList ++ margin levels := by
    show '\x7d' :: '>' :: '\n' :: (margin levels ++ []) = _
    simp
  unfold element
  rw [elementStart_add fields nonneg, List.append_assoc _ _ "</div>".toList,
    List.append_assoc _ _ "</div>".toList, List.cons_append, List.cons_append,
    indentRest_margin_append levels nonneg closing]
  simp only [indentRest_append, indentRest_newline, behind, List.append_assoc, List.cons_append]

private theorem emptyElement_add (fields : Fields) (nonneg : 0 ≤ depth) :
    emptyElement fields (depth + levels) =
      margin levels ++ indentRest (margin levels) (emptyElement fields depth) := by
  have closing : '\n' ∉ "\x7d />".toList := by decide
  rw [emptyElement, emptyElement, elementStart_add fields nonneg, indentRest_append,
    indentRest_of_notMem _ closing, List.append_assoc]

private theorem textLine_add (text : String) (nonneg : 0 ≤ depth) :
    textLine text (depth + levels) =
      margin levels ++ indentRest (margin levels) (textLine text depth) := by
  have inside : '\n' ∉ ' ' :: ' ' :: '\x7b' :: Json.stringChars false text ++ ['\x7d'] := by
    simp [Json.newline_notMem_stringChars]
  simpa [textLine] using indentRest_margin_append levels nonneg inside

end Design.Node

namespace Skeleton

private theorem siblingsChars_add (children : List Skeleton)
    (each : ∀ child ∈ children, child.chars (depth + levels) =
      margin levels ++ indentRest (margin levels) (child.chars depth)) :
    siblingsChars (depth + levels) children =
      indentRest (margin levels) (siblingsChars depth children) := by
  induction children with
  | nil => rfl
  | cons child rest inductionHypothesis =>
      obtain ⟨ofChild, ofRest⟩ := List.forall_mem_cons.mp each
      rw [siblingsChars, siblingsChars, ofChild, inductionHypothesis ofRest]
      simp only [List.cons_append, List.append_assoc, indentRest_newline, indentRest_append]

/-- The markup of a skeleton at a greater depth is its markup with spaces in front of every line. -/
theorem chars_add (skeleton : Skeleton) (nonneg : 0 ≤ depth) :
    skeleton.chars (depth + levels) =
      margin levels ++ indentRest (margin levels) (skeleton.chars depth) := by
  induction skeleton using Skeleton.induction generalizing depth with
  | text style characters =>
      rw [chars, chars, Node.textLine_add characters nonneg, Node.element_add _ nonneg]
  | tree style children inductionHypothesis =>
      cases children with
      | nil => rw [chars, chars, Node.emptyElement_add _ nonneg]
      | cons first rest =>
          obtain ⟨ofFirst, ofRest⟩ := List.forall_mem_cons.mp inductionHypothesis
          have deeper : depth + levels + 1 = depth + 1 + levels := by ring
          have inside : 0 ≤ depth + 1 := Int.add_nonneg nonneg Int.one_nonneg
          have siblings := siblingsChars_add rest fun child isChild => ofRest child isChild inside
          rw [chars, chars, deeper, ofFirst inside, siblings, List.append_assoc,
            ← indentRest_append, Node.element_add _ nonneg]

/-! ### The number of lines -/

/-- How many lines a style literal takes: one for every entry and two for the braces, or a single
one without entries. -/
def literalLines (style : Style.Declaration) : Nat :=
  if style.isEmpty then 1 else style.length + 2

mutual

def lineCount : Skeleton → Nat
  | .text style _ => literalLines style + 2
  | .tree style [] => literalLines style
  | .tree style (first :: rest) => literalLines style + lineCount first + lineCountOf rest + 1

def lineCountOf : List Skeleton → Nat
  | [] => 0
  | skeleton :: rest => lineCount skeleton + lineCountOf rest

end

private theorem count_laterEntries (depth : Int) (style : Style.Declaration) :
    (Style.laterEntries depth style).count '\n' = style.length := by
  induction style with
  | nil => rfl
  | cons entry rest inductionHypothesis =>
      have line := List.count_eq_zero.mpr (Style.newline_notMem_entryChars entry)
      have spaces := List.count_eq_zero.mpr (newline_notMem_margin (depth + 1))
      simp [Style.laterEntries, Style.entryBreak, line, spaces, inductionHypothesis]

private theorem count_styleLiteral (style : Style.Declaration) (depth : Int) :
    (styleLiteral style.toFields depth).count '\n' + 1 = literalLines style := by
  cases style with
  | nil => rfl
  | cons entry rest =>
      have line := List.count_eq_zero.mpr (Style.newline_notMem_entryChars entry)
      have spaces := List.count_eq_zero.mpr (newline_notMem_margin (depth + 1))
      simp [Style.styleLiteral_cons, Style.entryBreak, literalLines, line, spaces,
        count_laterEntries]

private theorem count_elementStart (style : Style.Declaration) (depth : Int) :
    (Node.elementStart style.toFields depth).count '\n' + 1 = literalLines style := by
  have spaces := List.count_eq_zero.mpr (newline_notMem_margin depth)
  rw [← count_styleLiteral style depth]
  simp [Node.elementStart, spaces]

private theorem count_element (style : Style.Declaration) (depth : Int) (inside : List Char) :
    (Node.element style.toFields depth inside).count '\n' =
      literalLines style + inside.count '\n' + 1 := by
  have spaces := List.count_eq_zero.mpr (newline_notMem_margin depth)
  rw [← count_elementStart style depth]
  simp [Node.element, spaces]
  omega

private theorem count_siblingsChars (depth : Int) (children : List Skeleton)
    (each : ∀ child ∈ children, (child.chars depth).count '\n' + 1 = child.lineCount) :
    (siblingsChars depth children).count '\n' = lineCountOf children := by
  induction children with
  | nil => rfl
  | cons child rest inductionHypothesis =>
      obtain ⟨ofChild, ofRest⟩ := List.forall_mem_cons.mp each
      rw [siblingsChars, lineCountOf, ← ofChild, List.cons_append, List.count_cons_self,
        List.count_append, inductionHypothesis ofRest]
      omega

private theorem count_chars (skeleton : Skeleton) (depth : Int) :
    (skeleton.chars depth).count '\n' + 1 = skeleton.lineCount := by
  induction skeleton using Skeleton.induction generalizing depth with
  | text style characters =>
      have inside : (Node.textLine characters depth).count '\n' = 0 := by
        simp [List.count_eq_zero, Node.textLine, newline_notMem_margin,
          Json.newline_notMem_stringChars]
      rw [chars, lineCount, count_element, inside]
  | tree style children inductionHypothesis =>
      cases children with
      | nil =>
          rw [chars, lineCount, ← count_elementStart style depth]
          simp [Node.emptyElement]
      | cons first rest =>
          obtain ⟨ofFirst, ofRest⟩ := List.forall_mem_cons.mp inductionHypothesis
          have siblings := count_siblingsChars (depth + 1) rest fun child isChild =>
            ofRest child isChild (depth + 1)
          rw [chars, lineCount, count_element, List.count_append, ← ofFirst (depth + 1), siblings]
          omega

end Skeleton

/-! ### Trees -/

namespace Design.Node

private theorem markup?_add (node : Node) (depth levels : Nat) :
    node.markup? (depth + levels : Nat) = (node.markup? depth).map (indented levels) := by
  rw [markup?, markup?, markupChars?_eq, markupChars?_eq]
  cases node.skeleton? with
  | error fault => rfl
  | ok skeleton =>
      have moved := indented_eq levels (skeleton.chars depth)
      rw [← Skeleton.chars_add skeleton (Int.natCast_nonneg depth)] at moved
      exact congrArg Except.ok moved.symm

theorem margin_eq_replicate (levels : Nat) : margin levels = List.replicate (2 * levels) ' ' :=
  rfl

private theorem prefix_of_mem_linesOf {node : Node} {depth : Nat} {markup : String}
    (made : node.markup? depth = .ok markup) :
    ∀ line ∈ linesOf markup, List.replicate (2 * depth) ' ' <+: line := by
  -- The markup is the one at depth zero, moved.
  have outermost := node.markup?_add 0 depth
  rw [Nat.zero_add, made] at outermost
  cases flat : node.markup? (0 : Nat) with
  | error fault =>
      rw [flat] at outermost
      cases outermost
  | ok text =>
      rw [flat] at outermost
      obtain rfl := Except.ok.inj outermost
      intro line isLine
      rw [linesOf_indented] at isLine
      obtain ⟨old, -, rfl⟩ := List.mem_map.mp isLine
      exact List.prefix_append _ _

private theorem length_linesOf_markup? {node : Node} {depth : Int} {markup : String}
    (made : node.markup? depth = .ok markup) :
    ∃ skeleton, node.skeleton? = .ok skeleton ∧ (linesOf markup).length = skeleton.lineCount := by
  rw [markup?, markupChars?_eq] at made
  cases shown : node.skeleton? with
  | error fault =>
      rw [shown] at made
      cases made
  | ok skeleton =>
      rw [shown] at made
      obtain rfl := Except.ok.inj made
      refine ⟨skeleton, rfl, ?_⟩
      rw [linesOf, String.toList_ofList, Text.length_splitOn, Skeleton.count_chars]

/-- The markup at a greater depth is the markup with two spaces for every further level in front of
each of its lines.  Every line begins with two spaces for every level of the depth, and there are
as many lines as the elements and their entries make, whatever the texts of the tree hold. -/
theorem markup?_shift (node : Node) (depth levels : Nat) :
    node.markup? (depth + levels : Nat) = (node.markup? depth).map (indented levels) ∧
      ∀ markup, node.markup? depth = .ok markup →
        linesOf (indented levels markup) =
            (linesOf markup).map (List.replicate (2 * levels) ' ' ++ ·) ∧
          (∀ line ∈ linesOf markup, List.replicate (2 * depth) ' ' <+: line) ∧
          ∃ skeleton, node.skeleton? = .ok skeleton ∧
            (linesOf markup).length = skeleton.lineCount := by
  refine ⟨node.markup?_add depth levels, fun markup made => ?_⟩
  have moved : linesOf (indented levels markup) =
      (linesOf markup).map (List.replicate (2 * levels) ' ' ++ ·) := by
    rw [linesOf_indented, margin_eq_replicate]
  exact ⟨moved, prefix_of_mem_linesOf made, length_linesOf_markup? made⟩

/-- A frame with a layout and a text of two lines, at depth one and two levels further inside: the
markup has ten lines. -/
theorem markup?_shift_of_frame_with_two_lines :
    let text : Node := ⟨{ kind := .text (some "a\nb") none }, []⟩
    let frame : Node := ⟨{ name := "c\td", layoutMode := some "VERTICAL", kind := .frame }, [text]⟩
    ∃ markup, frame.markup? (1 : Nat) = .ok markup ∧
      frame.markup? (3 : Nat) = .ok (indented 2 markup) ∧ (linesOf markup).length = 10 ∧
      ∀ line ∈ linesOf markup, [' ', ' '] <+: line := by
  intro text frame
  have isMade : (frame.markup? (1 : Nat)).toOption.isSome = true := by decide +kernel
  cases made : frame.markup? (1 : Nat) with
  | error fault =>
      rw [made] at isMade
      cases isMade
  | ok markup =>
      obtain ⟨shift, lines⟩ := markup?_shift frame 1 2
      obtain ⟨-, begins, skeleton, shown, count⟩ := lines markup made
      have ten : frame.skeleton?.toOption.map Skeleton.lineCount = some 10 := by decide +kernel
      rw [shown] at ten
      rw [made] at shift
      exact ⟨markup, rfl, shift, count.trans (Option.some.inj ten), begins⟩

end Design.Node

end DesignCompiler
