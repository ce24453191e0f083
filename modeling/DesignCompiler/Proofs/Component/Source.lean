import DesignCompiler.Proofs.Component.Name
import DesignCompiler.Proofs.Markup.Skeleton

/-!
Contract: the source of a component around its markup and its instructions.

Owns:
- the parts of a source: imports, comment, declaration, markup and ending;
- the law that sources of one variant are the same only for trees that show the same;
- `scriptLines`, the lines of a source, and the lines that instructions add to it.

Does not own: the markup, see `DesignCompiler.Proofs.Markup.Skeleton`.
-/

set_option autoImplicit false

namespace DesignCompiler.Component

/-! ### The parts of a source -/

namespace Variant

def imports : Variant → String
  | muiTsx => "import React from 'react';\nimport \x7b Box, BoxProps \x7d from '@mui/material';\n"
  | muiJsx => "import React from 'react';\nimport \x7b Box \x7d from '@mui/material';\n"
  | styledComponents => "import React from 'react';\nimport styled from 'styled-components';\n"
  | vanillaJsx => "import React from 'react';\n"

/-- What stands between the comment with its line break and the first name. -/
def lead : Variant → String
  | muiTsx | vanillaJsx => "interface "
  | muiJsx => "export const "
  | styledComponents =>
    "const Container = styled.div\x60\n  /* Add your styles here */\n\x60;\n\n" ++ "export const "

/-- The word of the first name: the name of the properties or that of the component. -/
def firstWord (name : String) : Variant → String
  | muiTsx | vanillaJsx => name ++ "Props"
  | muiJsx | styledComponents => name

/-- What stands between the first name and the markup. -/
def signature (name : String) : Variant → String
  | muiTsx =>
    " extends BoxProps" ++ " \x7b\n  className?: string;\n\x7d\n\n"
      ++ "export const " ++ name ++ ": React.FC<" ++ name
      ++ "Props> = (\x7b className, ...props \x7d) => \x7b\n"
      ++ "  return (\n    " ++ "<Box className=\x7bclassName\x7d \x7b...props\x7d>" ++ "\n"
  | muiJsx =>
    " = (\x7b className, ...props \x7d) => \x7b\n"
      ++ "  return (\n    " ++ "<Box className=\x7bclassName\x7d \x7b...props\x7d>" ++ "\n"
  | styledComponents =>
    " = (\x7b className \x7d) => \x7b\n"
      ++ "  return (\n    " ++ "<Container className=\x7bclassName\x7d>" ++ "\n"
  | vanillaJsx =>
    "" ++ " \x7b\n  className?: string;\n\x7d\n\n"
      ++ "export const " ++ name ++ ": React.FC<" ++ name
      ++ "Props> = (\x7b className \x7d) => \x7b\n"
      ++ "  return (\n    " ++ "<div className=\x7bclassName\x7d>" ++ "\n"

def closingTag : Variant → String
  | muiTsx | muiJsx => "</Box>"
  | styledComponents => "</Container>"
  | vanillaJsx => "</div>"

/-- What stands after the markup. -/
def ending (variant : Variant) (name : String) : String :=
  "\n    " ++ variant.closingTag ++ "\n  );\n\x7d;\n\nexport default " ++ name ++ ";\n"

/-- What follows the comment and its line break. -/
def code (variant : Variant) (name markup : String) : String :=
  variant.lead ++ variant.firstWord name ++ variant.signature name ++ markup
    ++ variant.ending name

end Variant

/-- A source is its imports, the comment and, behind a line break, the code. -/
theorem render_eq (variant : Variant) (name markup : String) (instructions : Option String) :
    render variant name markup instructions =
      variant.imports ++ instructionsComment instructions ++ "\n" ++ variant.code name markup := by
  have exported : "\nexport const " = "\n" ++ "export const " := rfl
  have container : "\nconst Container = styled.div\x60\n  /* Add your styles here */\n\x60;\n\n" =
      "\n" ++ "const Container = styled.div\x60\n  /* Add your styles here */\n\x60;\n\n" := rfl
  cases variant <;>
    unfold render Variant.code Variant.imports Variant.lead Variant.firstWord Variant.signature
      Variant.ending Variant.closingTag returnBlock <;>
    simp only [propertiesType, exported, container, String.append_assoc, -String.reduceAppend]

/-! ### What a source shows -/

private theorem Variant.firstWord_injective (variant : Variant) :
    Function.Injective fun name => variant.firstWord name := by
  intro name name' same
  cases variant with
  | muiTsx | vanillaJsx => exact (String.append_left_inj "Props").mp same
  | muiJsx | styledComponents => exact same

private theorem Variant.isAlphanumeric_firstWord (variant : Variant) {name : String}
    (plain : ∀ c ∈ name.toList, Text.isAlphanumeric c = true) :
    ∀ c ∈ (variant.firstWord name).toList, Text.isAlphanumeric c = true := by
  cases variant with
  | muiTsx | vanillaJsx =>
      rw [firstWord, String.toList_append]
      exact List.forall_mem_append.mpr ⟨plain, List.all_eq_true.mp (by decide)⟩
  | muiJsx | styledComponents => exact plain

/-- The first name is followed by a space. -/
theorem Variant.head?_signature (variant : Variant) (name : String) :
    (variant.signature name).toList.head? = some ' ' := by
  cases variant <;> unfold signature <;>
    simp only [String.toList_append, List.head?_append, -String.reduceAppend] <;> rfl

/-- A name of letters and digits can be read off the code, and with it what stands behind. -/
theorem Variant.code_inj (variant : Variant) {name name' markup markup' : String}
    (plain : ∀ c ∈ name.toList, Text.isAlphanumeric c = true)
    (plain' : ∀ c ∈ name'.toList, Text.isAlphanumeric c = true)
    (same : variant.code name markup = variant.code name' markup') : name = name' := by
  have ends (name markup : String) :
      ∀ c ∈ ((variant.signature name).toList ++
          (markup.toList ++ (variant.ending name).toList)).head?,
        Text.isAlphanumeric c = false := by
    rw [List.head?_append, variant.head?_signature]
    rintro c ⟨⟩
    rfl
  have chars := congrArg String.toList same
  simp only [code, String.toList_append, List.append_assoc] at chars
  have words := (Text.eq_of_append_eq_append (variant.isAlphanumeric_firstWord plain)
    (variant.isAlphanumeric_firstWord plain') (ends name markup) (ends name' markup')
    (List.append_cancel_left chars)).1
  exact variant.firstWord_injective (String.toList_inj.mp words)

/-- The name of a source is given for all trees, or derived for each. -/
theorem compiledName_cases (name : Option String) :
    (∃ given, ∀ root, compiledName root name = given) ∨
      ∀ root, compiledName root name = derive root.attributes.name := by
  unfold compiledName
  cases name.filter fun name => !name.isEmpty with
  | some given => exact Or.inl ⟨given, fun _ => rfl⟩
  | none => exact Or.inr fun _ => rfl

private theorem compiledName_eq_of_code {variant : Variant} {name : Option String}
    {first second : Design.Node} {markup markup' : String}
    (same : variant.code (compiledName first name) markup =
      variant.code (compiledName second name) markup') :
    compiledName first name = compiledName second name := by
  rcases compiledName_cases name with ⟨given, isGiven⟩ | isDerived
  · rw [isGiven first, isGiven second]
  · rw [isDerived, isDerived] at same ⊢
    exact variant.code_inj (isAlphanumeric_derive _).2 (isAlphanumeric_derive _).2 same

/-- A source is compiled exactly of a tree that has a skeleton, of which its markup is. -/
theorem compile?_eq_ok_iff {root : Design.Node} {variant : Variant}
    {name instructions : Option String} {depth : Int} {source : String} :
    compile? root variant name instructions depth = .ok source ↔
      ∃ skeleton, root.skeleton? = .ok skeleton ∧
        source = render variant (compiledName root name) (String.ofList (skeleton.chars depth))
          instructions := by
  unfold compile? Design.Node.markup?
  rw [root.markupChars?_eq]
  cases root.skeleton? with
  | error fault => exact iff_of_false nofun nofun
  | ok skeleton =>
      constructor
      · intro compiled
        exact ⟨skeleton, rfl, (Except.ok.inj compiled).symm⟩
      · rintro ⟨_, ⟨⟩, rfl⟩
        rfl

/-- Trees of which the same source is compiled show the same, whatever their texts are. -/
theorem skeleton?_eq_of_compile? {variant : Variant} {name instructions : Option String}
    {depth : Int} {first second : Design.Node} {source : String}
    (ofFirst : compile? first variant name instructions depth = .ok source)
    (ofSecond : compile? second variant name instructions depth = .ok source) :
    ∃ skeleton, first.skeleton? = .ok skeleton ∧ second.skeleton? = .ok skeleton := by
  obtain ⟨skeleton, shown, isSource⟩ := compile?_eq_ok_iff.mp ofFirst
  obtain ⟨skeleton', shown', isSource'⟩ := compile?_eq_ok_iff.mp ofSecond
  rw [isSource, render_eq, render_eq] at isSource'
  -- the names before the markups: only with the same name in front do the markups begin together
  have codes := (String.append_right_inj _).mp isSource'
  have names := compiledName_eq_of_code codes
  rw [names] at codes
  have chars := congrArg String.toList codes
  simp only [Variant.code, String.toList_append, String.toList_ofList, List.append_assoc] at chars
  have markups := List.append_cancel_left (List.append_cancel_left (List.append_cancel_left chars))
  exact ⟨skeleton, shown, (skeleton.isDelimited depth skeleton' _ _ markups).1 ▸ shown'⟩

/-- A text that closes literal, braces and element, breaks the line and names a placeholder is shown
as it is by both trees, which differ in what a source does not show. -/
theorem skeleton?_of_text_with_markup :
    let text := "\"\x7d</div>\n$name"
    let child (id : String) : Design.Node := ⟨{ id, kind := .text (some text) none }, []⟩
    let first : Design.Node := ⟨{ id := "1:2", name := "card", kind := .frame }, [child "1:3"]⟩
    let second : Design.Node := ⟨{ id := "4:5", name := "CARD", kind := .copy }, [child "4:6"]⟩
    ∃ source, compile? first .vanillaJsx none none = .ok source ∧
      compile? second .vanillaJsx none none = .ok source ∧
      first.skeleton? = .ok (.tree [] [.text [] text]) ∧
      second.skeleton? = .ok (.tree [] [.text [] text]) := by
  intro text child first second
  have shown : first.skeleton? = .ok (.tree [] [.text [] text]) := rfl
  have shown' : second.skeleton? = .ok (.tree [] [.text [] text]) := rfl
  have name : compiledName first none = "Card" := by decide
  have name' : compiledName second none = "Card" := by decide
  have compiled (root : Design.Node) (shown : root.skeleton? = .ok (.tree [] [.text [] text]))
      (name : compiledName root none = "Card") :
      compile? root .vanillaJsx none none = .ok (render .vanillaJsx "Card"
        (String.ofList (Skeleton.chars markupDepth (.tree [] [.text [] text]))) none) :=
    compile?_eq_ok_iff.mpr ⟨_, shown, by rw [name]⟩
  have ofFirst := compiled first shown name
  have ofSecond := compiled second shown' name'
  obtain ⟨skeleton, ofTree, ofTree'⟩ := skeleton?_eq_of_compile? ofFirst ofSecond
  rw [shown] at ofTree
  cases ofTree
  exact ⟨_, ofFirst, ofSecond, shown, ofTree'⟩

/-! ### Lines of a source -/

def isLineTerminator (c : Char) : Bool :=
  c == '\n' || c == '\r' || c == '\u2028' || c == '\u2029'

def scriptLines (source : String) : List String :=
  (source.toList.splitOnP isLineTerminator).map String.ofList

private theorem scriptLines_append (first second : String) :
    scriptLines (first ++ "\n" ++ second) = scriptLines first ++ scriptLines second := by
  have chars : (first ++ "\n" ++ second).toList = first.toList ++ '\n' :: second.toList := by
    simp [String.toList_append]
  rw [scriptLines, chars, List.splitOnP_append_cons _ _ rfl, List.map_append]
  rfl

/-- A text without line terminators is one line. -/
theorem scriptLines_eq_singleton {line : String}
    (isLine : ∀ c ∈ line.toList, isLineTerminator c = false) : scriptLines line = [line] := by
  rw [scriptLines, List.splitOnP_eq_singleton isLine, List.map_singleton, String.ofList_toList]

/-- No line holds a line terminator. -/
theorem isLineTerminator_of_mem_scriptLines {source line : String}
    (isLine : line ∈ scriptLines source) : ∀ c ∈ line.toList, isLineTerminator c = false := by
  obtain ⟨chars, isPart, rfl⟩ := List.mem_map.mp isLine
  rw [String.toList_ofList]
  exact Text.eq_false_of_mem_splitOnP chars isPart

namespace Variant

def importLines : Variant → List String
  | muiTsx => ["import React from 'react';", "import \x7b Box, BoxProps \x7d from '@mui/material';"]
  | muiJsx => ["import React from 'react';", "import \x7b Box \x7d from '@mui/material';"]
  | styledComponents => ["import React from 'react';", "import styled from 'styled-components';"]
  | vanillaJsx => ["import React from 'react';"]

end Variant

def behindLines (lines : List String) (rest : String) : String :=
  lines.foldr (fun line later => line ++ "\n" ++ later) rest

private theorem behindLines_append (lines : List String) (first rest : String) :
    behindLines lines first ++ rest = behindLines lines (first ++ rest) := by
  induction lines with
  | nil => rfl
  | cons line lines inductionHypothesis =>
      show line ++ "\n" ++ behindLines lines first ++ rest = _
      rw [String.append_assoc, inductionHypothesis]
      rfl

private theorem scriptLines_behindLines {lines : List String}
    (areLines : ∀ line ∈ lines, ∀ c ∈ line.toList, isLineTerminator c = false) (rest : String) :
    scriptLines (behindLines lines rest) = lines ++ scriptLines rest := by
  induction lines with
  | nil => rfl
  | cons line lines inductionHypothesis =>
      obtain ⟨isLine, areLater⟩ := List.forall_mem_cons.mp areLines
      show scriptLines (line ++ "\n" ++ behindLines lines rest) = _
      rw [scriptLines_append, scriptLines_eq_singleton isLine, inductionHypothesis areLater]
      rfl

private theorem Variant.scriptLines_imports (variant : Variant) (rest : String) :
    scriptLines (variant.imports ++ rest) = variant.importLines ++ scriptLines rest := by
  have imports : variant.imports = behindLines variant.importLines "" := by
    cases variant <;> decide +kernel
  have areLines : ∀ line ∈ variant.importLines, line.toList.any isLineTerminator = false := by
    cases variant <;> decide +kernel
  rw [imports, behindLines_append, String.empty_append,
    scriptLines_behindLines fun line isLine => Text.eq_false_of_any (areLines line isLine)]

/-- Without instructions a blank line separates the imports from the code. -/
theorem scriptLines_render_none (variant : Variant) (name markup : String) :
    scriptLines (render variant name markup none) =
      variant.importLines ++ "" :: scriptLines (variant.code name markup) := by
  rw [render_eq, String.append_assoc, String.append_assoc, variant.scriptLines_imports,
    ← String.append_assoc, scriptLines_append]
  rfl

/-- The lines of the comment stand between the blank line and the code. -/
theorem scriptLines_render_some (variant : Variant) (name markup : String) {instructions : String}
    (notEmpty : instructions ≠ "") :
    scriptLines (render variant name markup (some instructions)) =
      variant.importLines ++ "" ::
        (scriptLines ("// " ++ instructions) ++ scriptLines (variant.code name markup)) := by
  have comment : instructionsComment (some instructions) =
      "" ++ "\n" ++ ("// " ++ instructions) := by
    have break_eq : "\n// " = "\n" ++ "// " := rfl
    rw [instructionsComment, if_neg (by simpa using notEmpty), break_eq, String.empty_append,
      String.append_assoc]
  have source : render variant name markup (some instructions) =
      variant.imports ++ ("" ++ "\n" ++ (("// " ++ instructions) ++ "\n" ++
        variant.code name markup)) := by
    simp only [render_eq, comment, String.append_assoc, -String.reduceAppend]
  rw [source, variant.scriptLines_imports, scriptLines_append, scriptLines_append]
  rfl

/-- Instructions add lines behind the blank line after the imports: the lines of the comment with
them, which is one line exactly if no line ends inside the instructions. -/
theorem instructions_add_comment_lines (variant : Variant) (name markup : String)
    {instructions : String} (notEmpty : instructions ≠ "") :
    ∃ codeLines,
      scriptLines (render variant name markup none) = variant.importLines ++ "" :: codeLines ∧
      scriptLines (render variant name markup (some instructions)) =
        variant.importLines ++ "" :: (scriptLines ("// " ++ instructions) ++ codeLines) ∧
      (scriptLines (render variant name markup (some instructions)) =
          variant.importLines ++ "" :: ("// " ++ instructions) :: codeLines ↔
        ∀ c ∈ instructions.toList, isLineTerminator c = false) := by
  refine ⟨scriptLines (variant.code name markup), scriptLines_render_none variant name markup,
    scriptLines_render_some variant name markup notEmpty, ?_⟩
  have comment : ("// " ++ instructions).toList = ['/', '/', ' '] ++ instructions.toList :=
    String.toList_append
  rw [scriptLines_render_some variant name markup notEmpty]
  constructor
  · intro oneLine
    have lines : scriptLines ("// " ++ instructions) = ["// " ++ instructions] :=
      List.append_cancel_right (List.cons.inj (List.append_cancel_left oneLine)).2
    have isLine : "// " ++ instructions ∈ scriptLines ("// " ++ instructions) := by
      rw [lines]
      exact List.mem_singleton_self _
    have inComment := isLineTerminator_of_mem_scriptLines isLine
    rw [comment] at inComment
    exact (List.forall_mem_append.mp inComment).2
  · intro oneLine
    have inComment : ∀ c ∈ ("// " ++ instructions).toList, isLineTerminator c = false := by
      rw [comment]
      exact List.forall_mem_append.mpr ⟨Text.eq_false_of_any (by decide), oneLine⟩
    rw [scriptLines_eq_singleton inComment, List.singleton_append]

/-- Instructions with the line separator beyond ASCII are two lines of the source. -/
theorem instructions_with_line_separator :
    "first\u2028second" ≠ "" ∧
      ∃ codeLines,
        scriptLines (render .muiJsx "Card" "" none) =
          Variant.muiJsx.importLines ++ "" :: codeLines ∧
        scriptLines (render .muiJsx "Card" "" (some "first\u2028second")) =
          Variant.muiJsx.importLines ++ "" :: "// first" :: "second" :: codeLines := by
  have notEmpty : "first\u2028second" ≠ "" := by decide
  have comment : scriptLines ("// " ++ "first\u2028second") = ["// first", "second"] := by
    decide +kernel
  obtain ⟨codeLines, plain, commented, -⟩ :=
    instructions_add_comment_lines .muiJsx "Card" "" notEmpty
  rw [comment] at commented
  exact ⟨notEmpty, codeLines, plain, commented⟩

/-- Instructions on two lines: the second one is a line of the source, outside the comment. -/
theorem instructions_leave_comment :
    ∃ codeLines,
      scriptLines (render .vanillaJsx "Card" "" none) =
        Variant.vanillaJsx.importLines ++ "" :: codeLines ∧
      scriptLines (render .vanillaJsx "Card" "" (some "note\nalert(1)")) =
        Variant.vanillaJsx.importLines ++ "" :: "// note" :: "alert(1)" :: codeLines ∧
      "// note\nalert(1)" ∉
        scriptLines (render .vanillaJsx "Card" "" (some "note\nalert(1)")) := by
  have notEmpty : "note\nalert(1)" ≠ "" := by decide +kernel
  have comment : scriptLines ("// " ++ "note\nalert(1)") = ["// note", "alert(1)"] := by
    decide +kernel
  have commented := scriptLines_render_some .vanillaJsx "Card" "" notEmpty
  rw [comment, List.cons_append, List.cons_append, List.nil_append] at commented
  refine ⟨scriptLines (Variant.vanillaJsx.code "Card" ""),
    scriptLines_render_none .vanillaJsx "Card" "", commented, fun isLine => ?_⟩
  have inLine : '\n' ∈ "// note\nalert(1)".toList := by decide +kernel
  cases isLineTerminator_of_mem_scriptLines isLine '\n' inLine

end DesignCompiler.Component
