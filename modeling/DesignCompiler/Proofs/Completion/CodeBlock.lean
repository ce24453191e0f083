import DesignCompiler.Proofs.Completion.Answer
import DesignCompiler.Proofs.Component.Name
import DesignCompiler.Proofs.Text.Part
import DesignCompiler.Proofs.Text.Search
import DesignCompiler.Proofs.Text.Word

/-!
Contract: which part of an answer is taken for the code.

Owns:
- `fence`, `IsOpening` and `closing`, the lines around a block of code;
- what the readers of these lines accept;
- the law that the first block is taken, up to the first line that closes it, and the whole answer
  in the absence of any block.

Backticks may stand in the text before the block and in the code.  They are taken for a fence only
in threes, and in the code only at the beginning of a line.

Does not own: where answers come from, see `DesignCompiler.Proofs.Completion.Answer`.
-/

set_option autoImplicit false

namespace DesignCompiler.Completion

open DesignCompiler.Text (dropWhile_append_of_end)

/-! ### Lines around a block -/

def fence : List Char :=
  ['\x60', '\x60', '\x60']

/-- The line that opens a block: three backticks, a tag of word characters, `+` and `-`, and
blanks. -/
inductive IsOpening : List Char → Prop where
  | line {tag blanks : List Char} :
      (∀ c ∈ tag, Text.isWordCharacter c = true ∨ c = '+' ∨ c = '-') →
      (∀ c ∈ blanks, Text.isBlank c = true ∧ c ≠ '\n') →
      IsOpening (fence ++ tag ++ blanks ++ ['\n'])

def closing : List Char :=
  '\n' :: fence

theorem isTagCharacter_iff (c : Char) :
    isTagCharacter c = true ↔ Text.isWordCharacter c = true ∨ c = '+' ∨ c = '-' := by
  simp [isTagCharacter, or_assoc]

theorem isLineBlank_iff (c : Char) :
    isLineBlank c = true ↔ Text.isBlank c = true ∧ c ≠ '\n' := by
  simp [isLineBlank]

private theorem isTagCharacter_of_isBlank {c : Char} (blank : Text.isBlank c = true) :
    isTagCharacter c = false := by
  apply Bool.eq_false_iff.mpr
  intro isTag
  rcases (isTagCharacter_iff c).mp isTag with isWord | rfl | rfl
  · rw [Text.isBlank_of_isWordCharacter isWord] at blank
    cases blank
  · cases blank
  · cases blank

private theorem opened?_append {opening : List Char} (isOpening : IsOpening opening)
    (code : List Char) :
    opened? (opening ++ code) = some code := by
  cases isOpening with
  | @line tag blanks isTag isBlank =>
      have tagEnds : ∀ c ∈ (blanks ++ '\n' :: code).head?, isTagCharacter c = false := by
        cases blanks with
        | nil =>
            rintro c ⟨⟩
            exact isTagCharacter_of_isBlank rfl
        | cons first blanks =>
            rintro c ⟨⟩
            exact isTagCharacter_of_isBlank (isBlank first List.mem_cons_self).1
      have tagDropped : (tag ++ (blanks ++ '\n' :: code)).dropWhile isTagCharacter =
          blanks ++ '\n' :: code :=
        dropWhile_append_of_end (fun c isChar => (isTagCharacter_iff c).mpr (isTag c isChar))
          tagEnds
      have blanksDropped : (blanks ++ '\n' :: code).dropWhile isLineBlank = '\n' :: code :=
        dropWhile_append_of_end (fun c isChar => (isLineBlank_iff c).mpr (isBlank c isChar))
          (by rintro c ⟨⟩; rfl)
      have split : fence ++ tag ++ blanks ++ ['\n'] ++ code =
          '\x60' :: '\x60' :: '\x60' :: (tag ++ (blanks ++ '\n' :: code)) := by
        simp [fence]
      rw [split, opened?, tagDropped, blanksDropped]
      rfl

private theorem exists_opening_of_opened? {cs code : List Char} (opened : opened? cs = some code) :
    ∃ opening, IsOpening opening ∧ cs = opening ++ code := by
  unfold opened? at opened
  split at opened
  · next rest =>
      split at opened
      · next inside dropped =>
          obtain rfl := Option.some.inj opened
          let behind := rest.dropWhile isTagCharacter
          have isTag : ∀ c ∈ rest.takeWhile isTagCharacter,
              Text.isWordCharacter c = true ∨ c = '+' ∨ c = '-' := fun c isChar =>
            (isTagCharacter_iff c).mp (List.all_eq_true.mp List.all_takeWhile c isChar)
          have isBlank : ∀ c ∈ behind.takeWhile isLineBlank,
              Text.isBlank c = true ∧ c ≠ '\n' := fun c isChar =>
            (isLineBlank_iff c).mp (List.all_eq_true.mp List.all_takeWhile c isChar)
          have lineEnd : behind.takeWhile isLineBlank ++ '\n' :: inside = behind := by
            rw [← dropped, List.takeWhile_append_dropWhile]
          refine ⟨_, .line isTag isBlank, ?_⟩
          rw [List.append_assoc _ ['\n'], List.append_assoc _ _ (['\n'] ++ inside),
            List.singleton_append, lineEnd, List.append_assoc, List.takeWhile_append_dropWhile]
          rfl
      · cases opened
  · cases opened

private theorem IsOpening.fence_prefix {opening : List Char} (isOpening : IsOpening opening) :
    fence <+: opening := by
  cases isOpening with
  | line _ _ => simp [List.append_assoc]

/-- No closing line begins within a text that holds none, even if one follows this text: no part of
the closing line is its beginning and its end. -/
theorem not_closing_prefix {place rest : List Char} (notEmpty : place ≠ [])
    (noClosing : ¬ closing <:+: place) : ¬ closing <+: place ++ (closing ++ rest) := by
  intro begins
  rcases List.prefix_or_prefix_of_prefix begins (List.prefix_append place _) with whole | part
  · exact noClosing whole.isInfix
  · obtain ⟨behind, split⟩ := part
    have continues : place ++ behind <+: place ++ (closing ++ rest) := by
      rw [split]
      exact begins
    rw [List.prefix_append_right_inj] at continues
    cases behind with
    | nil =>
        rw [List.append_nil] at split
        exact noClosing (split ▸ List.infix_refl _)
    | cons c behind =>
        have lineEnd : c = '\n' := (List.cons_prefix_cons.mp continues).1
        cases place with
        | nil => exact notEmpty rfl
        | cons first place =>
            obtain ⟨-, inFence⟩ := List.cons.inj split
            have isBacktick : c ∈ fence := inFence ▸ List.mem_append_right _ List.mem_cons_self
            rw [lineEnd] at isBacktick
            revert isBacktick
            decide

private theorem closed?_cons {c : Char} {rest : List Char} (notHere : ¬ closing <+: c :: rest) :
    closed? (c :: rest) = (closed? rest).map (c :: ·) := by
  rw [closed?.eq_def]
  split
  · next rest same =>
      rw [same] at notHere
      exact absurd (List.prefix_append closing rest) notHere
  · next same =>
      obtain ⟨rfl, rfl⟩ := List.cons.inj same
      rfl
  · next same => cases same

private theorem closed?_append {code : List Char} (noClosing : ¬ closing <:+: code)
    (rest : List Char) :
    closed? (code ++ (closing ++ rest)) = some code := by
  induction code with
  | nil => rfl
  | cons c code inductionHypothesis =>
      have notHere : ¬ closing <+: c :: (code ++ (closing ++ rest)) :=
        not_closing_prefix (List.cons_ne_nil c code) noClosing
      have noneBehind : ¬ closing <:+: code := fun within =>
        noClosing (within.trans (List.suffix_cons c code).isInfix)
      rw [List.cons_append, closed?_cons notHere, inductionHypothesis noneBehind, Option.map_some]

private theorem exists_closing_of_closed? {cs code : List Char} (closed : closed? cs = some code) :
    ∃ rest, cs = code ++ (closing ++ rest) := by
  fun_induction closed? cs generalizing code with
  | case1 rest =>
      obtain rfl := Option.some.inj closed
      exact ⟨rest, rfl⟩
  | case2 c rest _ inductionHypothesis =>
      obtain ⟨code, isClosed, rfl⟩ := Option.map_eq_some_iff.mp closed
      obtain ⟨behind, rfl⟩ := inductionHypothesis isClosed
      exact ⟨behind, rfl⟩
  | case3 => cases closed

/-! ### Blocks -/

def blockHere? (cs : List Char) : Option (List Char) :=
  (opened? cs).bind closed?

private theorem firstBlock?_eq (cs : List Char) :
    firstBlock? cs = Text.firstMatch? blockHere? cs := by
  induction cs with
  | nil => rfl
  | cons c rest inductionHypothesis =>
      cases here : blockHere? (c :: rest) with
      | some code =>
          rw [Text.firstMatch?_of_eq_some here]
          unfold blockHere? at here
          rw [firstBlock?, here]
      | none =>
          rw [Text.firstMatch?_cons_of_eq_none here, ← inductionHypothesis]
          unfold blockHere? at here
          rw [firstBlock?, here]

private theorem blockHere?_append {opening code : List Char} (isOpening : IsOpening opening)
    (noClosing : ¬ closing <:+: code) (rest : List Char) :
    blockHere? (opening ++ (code ++ (closing ++ rest))) = some code := by
  rw [blockHere?, opened?_append isOpening, Option.bind_some, closed?_append noClosing]

private theorem exists_parts_of_blockHere? {cs code : List Char}
    (found : blockHere? cs = some code) :
    ∃ opening rest, IsOpening opening ∧ cs = opening ++ (code ++ (closing ++ rest)) := by
  obtain ⟨inside, opened, closed⟩ := Option.bind_eq_some_iff.mp found
  obtain ⟨opening, isOpening, rfl⟩ := exists_opening_of_opened? opened
  obtain ⟨rest, rfl⟩ := exists_closing_of_closed? closed
  exact ⟨opening, rest, isOpening, rfl⟩

/-- No block begins within a text without three backticks in a row that does not end with one. -/
theorem blockHere?_prose {prose place rest : List Char} (noFence : ¬ fence <:+: prose)
    (noTick : prose.getLast? ≠ some '\x60') (notEmpty : place ≠ []) (within : place <:+ prose) :
    blockHere? (place ++ rest) = none := by
  apply Option.eq_none_iff_forall_ne_some.mpr
  intro code found
  obtain ⟨opening, _, isOpening, split⟩ := exists_parts_of_blockHere? found
  have begins : fence <+: place ++ rest := by
    rw [split]
    exact isOpening.fence_prefix.trans (List.prefix_append opening _)
  rcases List.prefix_or_prefix_of_prefix begins (List.prefix_append place rest) with whole | part
  · exact noFence (whole.isInfix.trans within.isInfix)
  · -- All of the place belongs to the fence, so that the prose ends with a backtick.
    obtain ⟨before, rfl⟩ := within
    apply noTick
    rw [List.getLast?_append_of_ne_nil before notEmpty, List.getLast?_eq_some_getLast notEmpty]
    have isTick : place.getLast notEmpty ∈ fence := part.subset (List.getLast_mem notEmpty)
    simpa [fence] using isTick

private theorem firstBlock?_append {prose opening code : List Char} (noFence : ¬ fence <:+: prose)
    (noTick : prose.getLast? ≠ some '\x60') (isOpening : IsOpening opening)
    (noClosing : ¬ closing <:+: code) (rest : List Char) :
    firstBlock? (prose ++ (opening ++ (code ++ (closing ++ rest)))) = some code := by
  rw [firstBlock?_eq, Text.firstMatch?_append, Text.firstMatch?_of_eq_some]
  · exact blockHere?_append isOpening noClosing rest
  · intro place notEmpty within
    exact blockHere?_prose noFence noTick notEmpty within

private theorem exists_parts_of_firstBlock? {cs code : List Char}
    (found : firstBlock? cs = some code) :
    ∃ before opening rest, IsOpening opening ∧
      cs = before ++ (opening ++ (code ++ (closing ++ rest))) := by
  rw [firstBlock?_eq] at found
  obtain ⟨place, ⟨before, rfl⟩, here⟩ := Text.exists_suffix_of_firstMatch? found
  obtain ⟨opening, rest, isOpening, rfl⟩ := exists_parts_of_blockHere? here
  exact ⟨before, opening, rest, isOpening, rfl⟩

private theorem firstBlock?_infix {cs code : List Char} (found : firstBlock? cs = some code) :
    code <:+: cs := by
  obtain ⟨before, opening, rest, -, rfl⟩ := exists_parts_of_firstBlock? found
  exact ⟨before ++ opening, closing ++ rest, by simp only [List.append_assoc]⟩

/-! ### Code -/

/-- A block of code stands in a text: an opening line, and later the beginning of a line that closes
it. -/
def HasBlock (cs : List Char) : Prop :=
  ∃ before opening code rest, IsOpening opening ∧ cs = before ++ opening ++ code ++ closing ++ rest

private theorem firstBlock?_eq_none {cs : List Char} (noBlock : ¬ HasBlock cs) :
    firstBlock? cs = none := by
  apply Option.eq_none_iff_forall_ne_some.mpr
  intro code found
  obtain ⟨before, opening, rest, isOpening, rfl⟩ := exists_parts_of_firstBlock? found
  exact noBlock ⟨before, opening, code, rest, isOpening, by simp only [List.append_assoc]⟩

private theorem toList_codeBlock (content : String) :
    (codeBlock content).toList =
      Text.trimBy Text.isBlank ((firstBlock? content.toList).getD content.toList) := by
  unfold codeBlock Text.strip
  rw [String.toList_ofList]
  cases firstBlock? content.toList with
  | none => rfl
  | some code => rw [Option.map_some, Option.getD_some, Option.getD_some, String.toList_ofList]

private theorem codeBlock_infix (content : String) :
    (codeBlock content).toList <:+: content.toList := by
  rw [toList_codeBlock]
  refine (Text.trimBy_infix Text.isBlank _).trans ?_
  cases found : firstBlock? content.toList with
  | none => exact List.infix_refl _
  | some code => exact firstBlock?_infix found

/-- The code of the first block is taken, without the blanks around it.  Whatever the answer is, the
code is a part of it without blanks around, and all of it in the absence of a block. -/
theorem codeBlock_takes_first_block :
    (∀ prose opening code rest : String, ¬ fence <:+: prose.toList →
      prose.toList.getLast? ≠ some '\x60' → IsOpening opening.toList →
      ¬ closing <:+: code.toList →
      codeBlock (prose ++ opening ++ code ++ "\n```" ++ rest) = Text.strip code) ∧
    ∀ content : String, Text.IsTrimmed (codeBlock content) ∧
      (codeBlock content).toList <:+: content.toList ∧
      (¬ HasBlock content.toList → codeBlock content = Text.strip content) := by
  refine ⟨?_, fun content => ⟨isTrimmed_codeBlock content, codeBlock_infix content, ?_⟩⟩
  · intro prose opening code rest noFence noTick isOpening noClosing
    have lineEnd : "\n```".toList = closing := by
      decide
    have found : firstBlock? (prose ++ opening ++ code ++ "\n```" ++ rest).toList =
        some code.toList := by
      simp only [String.toList_append, lineEnd, List.append_assoc]
      exact firstBlock?_append noFence noTick isOpening noClosing rest.toList
    rw [codeBlock, found, Option.map_some, Option.getD_some, String.ofList_toList]
  · intro noBlock
    rw [codeBlock, firstBlock?_eq_none noBlock]
    rfl

/-- Of two blocks the first is taken, and backticks in it and before it do not matter.  A block that
is not closed is none. -/
theorem codeBlock_takes_first_of_two :
    codeBlock "Use ``x``:\n```tsx+x \t\n\na\n``b``` \n\n```\nor\n```\nc\n```" = "a\n``b```" ∧
      codeBlock " ```tsx\nx``` " = "```tsx\nx```" := by
  obtain ⟨takes, whole⟩ := codeBlock_takes_first_block
  constructor
  · have letters : Text.isWordCharacter 't' = true ∧ Text.isWordCharacter 's' = true ∧
        Text.isWordCharacter 'x' = true := by
      decide
    have blanks : Text.isBlank ' ' = true ∧ Text.isBlank '\t' = true := by
      decide
    have isOpening : IsOpening "```tsx+x \t\n".toList :=
      @IsOpening.line "tsx+x".toList " \t".toList (by simp [letters]) (by simp [blanks])
    have taken := takes "Use ``x``:\n" "```tsx+x \t\n" "\na\n``b``` \n" "\nor\n```\nc\n```"
      (by decide) (by decide) isOpening (by decide)
    exact taken.trans (by decide)
  · have noBlock : ¬ HasBlock " ```tsx\nx``` ".toList := by
      rintro ⟨before, opening, code, rest, -, split⟩
      have closes : closing <:+: " ```tsx\nx``` ".toList :=
        ⟨before ++ opening ++ code, rest, split.symm⟩
      revert closes
      decide
    exact ((whole " ```tsx\nx``` ").2.2 noBlock).trans (by decide)

end DesignCompiler.Completion
