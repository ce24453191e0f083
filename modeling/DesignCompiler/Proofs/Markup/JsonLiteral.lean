import DesignCompiler.Proofs.Design.Document
import DesignCompiler.Proofs.Json.RoundTrip
import DesignCompiler.Proofs.Markup.Indentation
import DesignCompiler.Proofs.Number.Range
import DesignCompiler.Proofs.Style.Rules

/-!
Contract: style literals as JSON texts.

Owns:
- the law that moving the lines of a JSON text is printing it at a deeper level of nesting;
- `fieldsOf`, the entries of a declaration with any keys, and `entryLines`, the lines they take;
- the law that there is a style literal unless an integer has too many digits or its depth is out of
  reach, that it shows its entries line by line and that they are read back from it;
- the law that no integer has in the declarations of nodes that are read from texts.

Does not own: reading texts of JSON values, see `DesignCompiler.Proofs.Json.RoundTrip`.
-/

set_option autoImplicit false

namespace DesignCompiler

/-! ### Moved texts -/

namespace Json

private theorem indentRest_cons_of_ne (spaces : List Char) {c : Char} (noBreak : c ≠ '\n')
    (cs : List Char) : indentRest spaces (c :: cs) = c :: indentRest spaces cs := by
  rw [indentRest, List.flatMap_cons, if_neg noBreak]
  rfl

private theorem indentRest_stringChars (spaces : List Char) (key : String) :
    indentRest spaces (stringChars Style.indented.ascii key) =
      stringChars Style.indented.ascii key :=
  indentRest_of_notMem spaces (newline_notMem_stringChars key)

/-- A gap is moved to the gap of a deeper level. -/
theorem indentRest_gap (levels depth : Nat) :
    indentRest (margin levels) (Style.indented.gap depth) =
      Style.indented.gap (depth + levels) := by
  have spaces : '\n' ∉ List.replicate (2 * depth) ' ' := by simp
  show indentRest _ ('\n' :: List.replicate (2 * depth) ' ') = '\n' :: List.replicate _ ' '
  rw [indentRest_newline, indentRest_of_notMem _ spaces, Design.Node.margin_eq_replicate,
    List.cons_append, List.replicate_append_replicate, Nat.mul_add, Nat.add_comm]

private theorem indentRest_separator (levels depth : Nat) :
    indentRest (margin levels) (Style.indented.separator depth) =
      Style.indented.separator (depth + levels) :=
  congrArg (',' :: ·) (indentRest_gap levels depth)

mutual

/-- A text has line breaks between its tokens only: with its lines moved it is the text of the same
value at a deeper level of nesting. -/
theorem indentRest_chars (levels depth : Nat) (value : Json) :
    indentRest (margin levels) (value.chars .indented depth) =
      value.chars .indented (depth + levels) := by
  match value with
  | .null | .bool true | .bool false | .array [] | .object [] => rfl
  | .number n => exact indentRest_of_notMem _ (newline_notMem_numberChars n)
  | .string s => exact indentRest_stringChars _ s
  | .array (first :: rest) =>
    have closing : indentRest (margin levels) [']'] = [']'] := rfl
    simp (disch := decide) only [chars, List.cons_append, indentRest_cons_of_ne, indentRest_append,
      indentRest_gap, closing, indentRest_chars levels (depth + 1) first,
      indentRest_itemsChars levels (depth + 1) rest, Nat.add_right_comm depth 1 levels]
  | .object ((key, first) :: rest) =>
    have colon : indentRest (margin levels) [':', ' '] = [':', ' '] := rfl
    have closing : indentRest (margin levels) ['}'] = ['}'] := rfl
    simp (disch := decide) only [chars, List.cons_append, indentRest_cons_of_ne, indentRest_append,
      indentRest_gap, colon, closing, indentRest_stringChars,
      indentRest_chars levels (depth + 1) first, indentRest_fieldsChars levels (depth + 1) rest,
      Nat.add_right_comm depth 1 levels]

private theorem indentRest_itemsChars (levels depth : Nat) (items : List Json) :
    indentRest (margin levels) (itemsChars .indented depth items) =
      itemsChars .indented (depth + levels) items := by
  match items with
  | [] => rfl
  | item :: rest =>
    simp only [itemsChars, indentRest_append, indentRest_separator,
      indentRest_chars levels depth item, indentRest_itemsChars levels depth rest]

theorem indentRest_fieldsChars (levels depth : Nat) (fields : Fields) :
    indentRest (margin levels) (fieldsChars .indented depth fields) =
      fieldsChars .indented (depth + levels) fields := by
  match fields with
  | [] => rfl
  | (key, value) :: rest =>
    have colon : indentRest (margin levels) [':', ' '] = [':', ' '] := rfl
    simp only [fieldsChars, indentRest_append, indentRest_separator, indentRest_stringChars, colon,
      indentRest_chars levels depth value, indentRest_fieldsChars levels depth rest]

end

/-! ### Numbers -/

/-- A number that can be read can also be read as it is written without a needless fraction. -/
theorem isReadable_plain {n : Number} (readable : IsReadable n) : IsReadable n.plain := by
  cases n with
  | int i => exact readable
  | float value =>
      unfold Number.plain
      dsimp only
      split
      · next i isInteger =>
          rw [IsReadable, Nat.length_toDigits_le_iff (by decide) (by decide)]
          have fewer : Binary64.topExponent - Binary64.unitExponent ≤ Reader.maxIntegerDigits := by
            decide
          exact (Binary64.natAbs_lt_of_toInt? isInteger).trans_le
            ((Nat.pow_le_pow_left (by decide) _).trans (Nat.pow_le_pow_right (by decide) fewer))
      · trivial

end Json

/-! ### Literals -/

private theorem margin_toNat (depth : Int) : margin depth.toNat = margin depth := by
  have same : (2 * (depth.toNat : Int)).toNat = (2 * depth).toNat := by omega
  rw [margin, margin, same]

/-- A style literal is the text of an object inside other ones. -/
theorem styleLiteral_eq_chars (fields : Fields) (depth : Int) :
    styleLiteral fields depth = (Json.object fields).chars .indented (depth + 1).toNat := by
  rw [styleLiteral, ← margin_toNat, Json.indentRest_chars, Nat.zero_add]

/-- A style literal is read back exactly if texts denote what it shows. -/
theorem read_styleLiteral_iff (fields : Fields) (depth : Int) :
    Json.read (styleLiteral fields depth) = .ok (.object fields) ↔
      (Json.object fields).IsDocument := by
  constructor
  · exact Json.isDocument_of_read
  · intro document
    rw [styleLiteral_eq_chars]
    exact document.read_chars .indented rfl _

namespace Style

open Design

/-! ### Entries -/

/-- The entries of a declaration with any keys as those of an object. -/
def fieldsOf (entries : List (String × Value)) : Fields :=
  entries.map fun entry => (entry.1, entry.2.toJson)

private theorem map_fst_fieldsOf (entries : List (String × Value)) :
    (fieldsOf entries).map Prod.fst = entries.map Prod.fst := by
  simp [fieldsOf]

/-- Texts denote a declaration if no integer in it has too many digits. -/
theorem isDocument_fieldsOf_iff {entries : List (String × Value)}
    (distinct : (entries.map Prod.fst).Nodup) :
    (Json.object (fieldsOf entries)).IsDocument ↔
      ∀ key n, (key, Value.number n) ∈ entries → Json.IsReadable n := by
  constructor
  · rintro (_ | _ | _ | _ | _ | ⟨-, inside⟩) key n isEntry
    cases inside _ (List.mem_map_of_mem isEntry) with
    | number readable => exact readable
  · intro readable
    refine .object ((map_fst_fieldsOf entries).symm ▸ distinct) fun field isField => ?_
    obtain ⟨⟨key, value⟩, isEntry, rfl⟩ := List.mem_map.mp isField
    cases value with
    | text text => exact .string text
    | number n => exact .number (readable key n isEntry)

/-- A declaration is written if no integer in it has too many digits. -/
theorem isWritable_fieldsOf_iff (entries : List (String × Value)) :
    (Json.object (fieldsOf entries)).isWritable = true ↔
      ∀ key n, (key, Value.number n) ∈ entries → Json.IsReadable n := by
  unfold Json.isWritable
  induction entries with
  | nil => exact iff_of_true rfl fun _ _ isEntry => absurd isEntry List.not_mem_nil
  | cons entry rest inductionHypothesis =>
      obtain ⟨key, value⟩ := entry
      have writable : value.toJson.isWritable = true ↔
          ∀ n, value = .number n → Json.IsReadable n := by
        cases value with
        | text text => exact iff_of_true rfl nofun
        | number n =>
            cases n with
            | int i => simp [Value.toJson, Json.isWritable, Json.IsReadable]
            | float x => simp [Value.toJson, Json.isWritable, Json.IsReadable]
      show (value.toJson.isWritable && Json.fieldsAreWritable (fieldsOf rest)) = true ↔ _
      rw [Bool.and_eq_true, inductionHypothesis, writable]
      constructor
      · rintro ⟨first, later⟩ key' n isEntry
        rcases List.mem_cons.mp isEntry with same | isLater
        · exact first n (Prod.mk.inj same).2.symm
        · exact later key' n isLater
      · intro all
        refine ⟨?_, fun key' n isLater => all key' n (List.mem_cons_of_mem _ isLater)⟩
        rintro n rfl
        exact all key n List.mem_cons_self

/-- The lines of some entries behind some spaces, with a comma after every entry but the last. -/
def entryLines (spaces : List Char) : List (String × Value) → List (List Char)
  | [] => []
  | [(key, value)] => [spaces ++ ' ' :: ' ' :: keyedChars key value]
  | (key, value) :: next :: rest =>
    (spaces ++ ' ' :: ' ' :: keyedChars key value ++ [',']) :: entryLines spaces (next :: rest)

private theorem length_entryLines (spaces : List Char) (entries : List (String × Value)) :
    (entryLines spaces entries).length = entries.length := by
  induction entries with
  | nil => rfl
  | cons entry rest inductionHypothesis =>
      cases rest with
      | nil => rfl
      | cons next rest => exact congrArg (· + 1) inductionHypothesis

/-- Every entry stands on a line of its own behind the spaces. -/
theorem prefix_of_mem_entryLines {spaces : List Char} {entries : List (String × Value)} :
    ∀ line ∈ entryLines spaces entries, spaces <+: line := by
  induction entries with
  | nil => exact List.forall_mem_nil _
  | cons entry rest inductionHypothesis =>
      cases rest with
      | nil => exact List.forall_mem_singleton.mpr (List.prefix_append _ _)
      | cons next rest =>
          refine List.forall_mem_cons.mpr ⟨?_, inductionHypothesis⟩
          rw [List.append_assoc]
          exact List.prefix_append _ _

private theorem newline_notMem_entryLines {spaces : List Char} (isMargin : '\n' ∉ spaces)
    {entries : List (String × Value)} : ∀ line ∈ entryLines spaces entries, '\n' ∉ line := by
  induction entries with
  | nil => exact List.forall_mem_nil _
  | cons entry rest inductionHypothesis =>
      have isLine := newline_notMem_keyedChars entry.1 entry.2
      cases rest with
      | nil => simp [entryLines, isMargin, isLine]
      | cons next rest =>
          refine List.forall_mem_cons.mpr ⟨?_, inductionHypothesis⟩
          simp [isMargin, isLine]

/-- An entry is known by its line. -/
theorem eq_of_entryLine {spaces rest : List Char} {entry entry' : String × Value}
    (ends : Json.EndsNumber rest)
    (same : spaces ++ ' ' :: ' ' :: keyedChars entry.1 entry.2 ++ rest =
      spaces ++ ' ' :: ' ' :: keyedChars entry'.1 entry'.2 ++ rest) : entry = entry' := by
  simp only [List.append_assoc, List.cons_append, List.append_cancel_left_eq, List.cons.injEq,
    true_and] at same
  obtain ⟨sameKey, sameValue, -⟩ := keyedChars_append ends ends same
  exact Prod.ext sameKey sameValue

/-- Entries are known by their lines. -/
theorem entryLines_injective (spaces : List Char) : Function.Injective (entryLines spaces) := by
  intro entries others same
  have sameLength := congrArg List.length same
  rw [length_entryLines, length_entryLines] at sameLength
  induction entries generalizing others with
  | nil => exact (List.eq_nil_of_length_eq_zero sameLength.symm).symm
  | cons entry rest inductionHypothesis =>
      obtain ⟨entry', rest', rfl⟩ := List.exists_cons_of_length_eq_add_one sameLength.symm
      have sameRest := Nat.succ.inj sameLength
      -- the last entry stands without a comma
      cases rest with
      | nil =>
          obtain rfl := List.eq_nil_of_length_eq_zero sameRest.symm
          have sameLine := congrArg (· ++ []) (List.cons.inj same).1
          obtain rfl := eq_of_entryLine Json.endsNumber_nil sameLine
          rfl
      | cons next rest =>
          obtain ⟨next', rest', rfl⟩ := List.exists_cons_of_length_eq_add_one sameRest.symm
          obtain ⟨sameLine, sameLines⟩ := List.cons.inj same
          obtain rfl := eq_of_entryLine (Json.EndsNumber.of_cons (by decide) []) sameLine
          rw [inductionHypothesis sameLines sameRest]

/-! ### Lines -/

private theorem gap_succ (level : Nat) :
    Json.Style.indented.gap (level + 1) = '\n' :: (margin level ++ [' ', ' ']) := by
  show '\n' :: List.replicate (2 * (level + 1)) ' ' = _
  rw [Design.Node.margin_eq_replicate, Nat.mul_add, ← List.replicate_append_replicate]
  rfl

/-- The lines of an object that has entries. -/
theorem chars_fieldsOf (level : Nat) {entries : List (String × Value)} (some : entries ≠ []) :
    (Json.object (fieldsOf entries)).chars .indented level =
      ['{'] ++ (entryLines (margin level) entries ++ [margin level ++ ['}']]).flatMap
        ('\n' :: ·) := by
  have later (entry : String × Value) (rest : List (String × Value)) :
      (entryLines (margin level) (entry :: rest)).flatMap ('\n' :: ·) =
        Json.Style.indented.gap (level + 1) ++ (keyedChars entry.1 entry.2 ++
          Json.fieldsChars .indented (level + 1) (fieldsOf rest)) := by
    rw [gap_succ]
    induction rest generalizing entry with
    | nil => simp [entryLines, fieldsOf, Json.fieldsChars]
    | cons next rest inductionHypothesis =>
        have moved : Json.fieldsChars .indented (level + 1) (fieldsOf (next :: rest)) = _ :=
          fieldsChars_cons (level + 1) next.1 next.2 (fieldsOf rest)
        rw [entryLines, List.flatMap_cons, inductionHypothesis next, moved, gap_succ]
        simp
  obtain ⟨entry, rest, rfl⟩ := List.exists_cons_of_ne_nil some
  have whole : (Json.object (fieldsOf (entry :: rest))).chars .indented level = _ :=
    chars_object_cons level entry.1 entry.2 (fieldsOf rest)
  rw [whole, List.flatMap_append, later]
  simp [Json.Style.gap, Json.Style.indented, Design.Node.margin_eq_replicate]

/-- The lines of a style literal that has entries. -/
theorem splitOn_styleLiteral {entries : List (String × Value)} (some : entries ≠ []) (depth : Int) :
    (styleLiteral (fieldsOf entries) depth).splitOn '\n' =
      ['{'] :: (entryLines (margin (depth + 1)) entries ++ [margin (depth + 1) ++ ['}']]) := by
  have spaces := newline_notMem_margin (depth + 1)
  rw [styleLiteral_eq_chars, chars_fieldsOf _ some, margin_toNat]
  refine Text.splitOn_append_flatMap ?_
  simp only [List.forall_mem_cons, List.forall_mem_append]
  exact ⟨by decide, newline_notMem_entryLines spaces, by simp [spaces], List.forall_mem_nil _⟩

/-- Entries are known by their literal at a depth. -/
theorem styleLiteral_injective (depth : Int) :
    Function.Injective fun entries => styleLiteral (fieldsOf entries) depth := by
  intro entries others same
  have sameLines := congrArg (List.splitOn '\n') same
  have braces : (styleLiteral (fieldsOf []) depth).splitOn '\n' = [['{', '}']] := rfl
  cases entries with
  | nil =>
      cases others with
      | nil => rfl
      | cons entry rest =>
          rw [braces, splitOn_styleLiteral (List.cons_ne_nil _ _)] at sameLines
          cases (List.cons.inj sameLines).1
  | cons entry rest =>
      cases others with
      | nil =>
          rw [braces, splitOn_styleLiteral (List.cons_ne_nil _ _)] at sameLines
          cases (List.cons.inj sameLines).1
      | cons entry' rest' =>
          rw [splitOn_styleLiteral (List.cons_ne_nil _ _),
            splitOn_styleLiteral (List.cons_ne_nil _ _)] at sameLines
          exact entryLines_injective _ (List.append_cancel_right (List.cons.inj sameLines).2)

private theorem prefix_of_mem_tail_splitOn (entries : List (String × Value)) (depth : Int) :
    ∀ line ∈ ((styleLiteral (fieldsOf entries) depth).splitOn '\n').tail,
      margin (depth + 1) <+: line := by
  by_cases empty : entries = []
  · rw [empty]
    exact List.forall_mem_nil _
  · rw [splitOn_styleLiteral empty, List.tail_cons, List.forall_mem_append]
    exact ⟨prefix_of_mem_entryLines, List.forall_mem_singleton.mpr (List.prefix_append _ _)⟩

private theorem margin_eq_replicate_max (depth : Int) :
    margin depth = List.replicate (max 0 (2 * depth)).toNat ' ' := by
  have same : (2 * depth).toNat = (max 0 (2 * depth)).toNat := by omega
  rw [margin, same]

/-! ### Declarations of any entries -/

section

variable {entries : List (String × Value)} {depth : Int}

private theorem styleLiteral?_of_readable
    (readable : ∀ key n, (key, Value.number n) ∈ entries → Json.IsReadable n) :
    styleLiteral? (fieldsOf entries) depth = (margin? (depth + 1)).map fun spaces =>
      indentRest spaces ((Json.object (fieldsOf entries)).chars .indented 0) :=
  if_pos ((isWritable_fieldsOf_iff entries).mpr readable)

private theorem styleLiteral?_of_unreadable
    (unreadable : ¬ ∀ key n, (key, Value.number n) ∈ entries → Json.IsReadable n) :
    styleLiteral? (fieldsOf entries) depth = .error .longInteger :=
  if_neg (mt (isWritable_fieldsOf_iff entries).mp unreadable)

private theorem styleLiteral?_of_near
    (readable : ∀ key n, (key, Value.number n) ∈ entries → Json.IsReadable n)
    (lower : -2 ^ 63 ≤ depth + 1) (upper : depth + 1 < 2 ^ 62) :
    styleLiteral? (fieldsOf entries) depth = .ok (styleLiteral (fieldsOf entries) depth) := by
  have isMargin : margin? (depth + 1) = .ok (margin (depth + 1)) := by
    rw [margin?, if_neg (by rw [maxIndex]; omega), if_neg (by rw [maxIndex]; omega)]
  rw [styleLiteral?_of_readable readable, isMargin]
  rfl

private theorem styleLiteral?_of_far
    (readable : ∀ key n, (key, Value.number n) ∈ entries → Json.IsReadable n)
    (far : depth + 1 < -2 ^ 63 ∨ 2 ^ 63 ≤ depth + 1) :
    styleLiteral? (fieldsOf entries) depth = .error .farDepth := by
  have noMargin : margin? (depth + 1) = .error .farDepth :=
    if_pos (by rw [maxIndex]; omega)
  rw [styleLiteral?_of_readable readable, noMargin]
  rfl

private theorem styleLiteral?_of_long
    (readable : ∀ key n, (key, Value.number n) ∈ entries → Json.IsReadable n)
    (long : 2 ^ 62 ≤ depth + 1) (near : depth + 1 < 2 ^ 63) :
    styleLiteral? (fieldsOf entries) depth = .error .longMargin := by
  have noMargin : margin? (depth + 1) = .error .longMargin := by
    rw [margin?, if_neg (by rw [maxIndex]; omega), if_pos (by rw [maxIndex]; omega)]
  rw [styleLiteral?_of_readable readable, noMargin]
  rfl

end

private theorem eq_margin_of_margin? {depth : Int} {spaces : List Char}
    (made : margin? depth = .ok spaces) : spaces = margin depth := by
  unfold margin? at made
  split at made
  · cases made
  · split at made
    · cases made
    · exact (Except.ok.inj made).symm

private theorem eq_styleLiteral_of_styleLiteral? {fields : Fields} {depth : Int}
    {literal : List Char}
    (shown : styleLiteral? fields depth = .ok literal) : styleLiteral fields depth = literal := by
  unfold styleLiteral? at shown
  split at shown
  · cases made : margin? (depth + 1) with
    | error fault =>
        rw [made] at shown
        cases shown
    | ok spaces =>
        rw [made] at shown
        rw [styleLiteral, ← eq_margin_of_margin? made]
        exact Except.ok.inj shown
  · cases shown

/-- A style declaration of any entries is shown as a JSON text, unless an integer in it has more
digits than are ever written or no line can be indented to its depth.  The text has these entries
and no others, in their order, on lines of their own, and they are read back from it.  No text of an
entry is moved or broken, whatever it holds. -/
theorem styleLiteral?_denotes_entries {entries : List (String × Value)}
    (distinct : (entries.map Prod.fst).Nodup) (depth : Int) :
    let spaces := List.replicate (max 0 (2 * (depth + 1))).toNat ' '
    let readable := ∀ key n, (key, Value.number n) ∈ entries → Json.IsReadable n
    (readable → -2 ^ 63 ≤ depth + 1 → depth + 1 < 2 ^ 62 →
      ∃ literal, styleLiteral? (fieldsOf entries) depth = .ok literal ∧
        Json.read literal = .ok (.object (fieldsOf entries)) ∧
        (∀ others, styleLiteral? (fieldsOf others) depth = .ok literal → others = entries) ∧
        (literal = ['{', '}'] ↔ entries = []) ∧
        (entries ≠ [] →
          literal.splitOn '\n' = ['{'] :: (entryLines spaces entries ++ [spaces ++ ['}']]) ∧
            (literal.splitOn '\n').length = entries.length + 2) ∧
        ∀ line ∈ (literal.splitOn '\n').tail, spaces <+: line) ∧
    (¬ readable → styleLiteral? (fieldsOf entries) depth = .error .longInteger) ∧
    (readable → depth + 1 < -2 ^ 63 ∨ 2 ^ 63 ≤ depth + 1 →
      styleLiteral? (fieldsOf entries) depth = .error .farDepth) ∧
    (readable → 2 ^ 62 ≤ depth + 1 → depth + 1 < 2 ^ 63 →
      styleLiteral? (fieldsOf entries) depth = .error .longMargin) := by
  intro spaces readable
  have isMargin : margin (depth + 1) = spaces := margin_eq_replicate_max (depth + 1)
  have different := styleLiteral_injective depth
  refine ⟨fun isReadable lower upper => ?_, styleLiteral?_of_unreadable, styleLiteral?_of_far,
    styleLiteral?_of_long⟩
  refine ⟨_, styleLiteral?_of_near isReadable lower upper, ?_, fun others shown => ?_,
    different.eq_iff' rfl, fun some => ?_, isMargin ▸ prefix_of_mem_tail_splitOn entries depth⟩
  · exact (read_styleLiteral_iff _ depth).mpr ((isDocument_fieldsOf_iff distinct).mpr isReadable)
  · exact different (eq_styleLiteral_of_styleLiteral? shown)
  · rw [splitOn_styleLiteral some depth, isMargin]
    exact ⟨rfl, by simp [length_entryLines]⟩

/-- The key and the text look like the ends of lines and of literals. -/
theorem styleLiteral?_denotes_entries_of_line_breaks :
    let entries : List (String × Value) :=
      [("a\n\x7d", .text "\",\n  \x7d\u2028"), ("opacity", .number (.float (.inversePower 1))),
        ("limit", .number (.float .nan)), ("order", .number (.int (-10)))]
    (entries.map Prod.fst).Nodup ∧
      ∃ literal, styleLiteral? (fieldsOf entries) 1 = .ok literal ∧
        Json.read literal = .ok (.object (fieldsOf entries)) ∧
        (literal.splitOn '\n').length = 6 ∧
        ∀ line ∈ (literal.splitOn '\n').tail, [' ', ' ', ' ', ' '] <+: line := by
  intro entries
  have distinct : (entries.map Prod.fst).Nodup := by decide
  have readable : ∀ key n, (key, Value.number n) ∈ entries → Json.IsReadable n := by
    intro key n isEntry
    simp only [entries, List.mem_cons, Prod.mk.injEq, reduceCtorEq, and_false, Value.number.injEq,
      List.not_mem_nil, or_false, false_or] at isEntry
    rcases isEntry with ⟨-, rfl⟩ | ⟨-, rfl⟩ | ⟨-, rfl⟩ <;> decide
  obtain ⟨literal, shown, isRead, -, -, lines, begins⟩ :=
    (styleLiteral?_denotes_entries distinct 1).1 readable (by decide) (by decide)
  exact ⟨distinct, literal, shown, isRead, (lines (List.cons_ne_nil _ _)).2, begins⟩

private theorem not_isReadable_of_long : ¬ Json.IsReadable (.int (10 ^ 4300)) := by
  have limit : Json.Reader.maxIntegerDigits = 4300 := rfl
  have base : Int.natAbs 10 = 10 := rfl
  rw [Json.IsReadable, Int.natAbs_pow, Nat.length_toDigits_le_iff (by decide) (by decide), limit,
    base]
  exact Nat.lt_irrefl _

/-- There is no literal for the least integer of 4301 digits, none at a depth far below zero and
none at the first depth whose margin is too long for a text. -/
theorem no_styleLiteral?_of_extremes :
    let long : List (String × Value) := [("a", .number (.int (10 ^ 4300)))]
    let short : List (String × Value) := [("a", .number (.int 1))]
    styleLiteral? (fieldsOf long) 0 = .error .longInteger ∧
      styleLiteral? (fieldsOf short) (-10 ^ 30) = .error .farDepth ∧
      styleLiteral? (fieldsOf short) (2 ^ 62 - 1) = .error .longMargin ∧
      ¬ ∀ entries : List (String × Value), (entries.map Prod.fst).Nodup → ∀ depth,
        ∃ literal, styleLiteral? (fieldsOf entries) depth = .ok literal ∧
          Json.read literal = .ok (.object (fieldsOf entries)) := by
  intro long short
  have readable : ∀ key n, (key, Value.number n) ∈ short → Json.IsReadable n := by
    intro key n isEntry
    obtain ⟨-, rfl⟩ : key = "a" ∧ n = .int 1 := by simpa [short] using isEntry
    decide
  have farDepth : styleLiteral? (fieldsOf short) (-10 ^ 30) = .error .farDepth :=
    styleLiteral?_of_far readable (.inl (by decide))
  refine ⟨styleLiteral?_of_unreadable fun all => ?_, farDepth,
    styleLiteral?_of_long readable (by decide) (by decide), fun always => ?_⟩
  · exact not_isReadable_of_long (all "a" _ List.mem_cons_self)
  · obtain ⟨literal, shown, -⟩ := always short (by decide) (-10 ^ 30)
    rw [farDepth] at shown
    cases shown

/-! ### Declarations of designs -/

section

variable {fields : Fields} (document : (Json.object fields).IsDocument)

include document

/-- The numbers in the declaration of an object that a text denotes are read. -/
theorem isReadable_of_declares {property : Property} {n : Number}
    (declares : Declares (readAttributes fields) property (.number n)) : Json.IsReadable n := by
  generalize isNumber : Value.number n = value at declares
  cases declares with
  | translucent isOpacity =>
      cases isNumber
      exact Json.isReadable_plain (isReadable_of_optionalNumber document isOpacity)
  | grow isGrow =>
      cases isNumber
      exact Json.isReadable_plain (isReadable_of_optionalNumber document isGrow)
  | weight typed isWeight =>
      cases isNumber
      obtain ⟨value, found, read⟩ := Option.bind_eq_some_iff.mp (read?_of_hasTypography typed)
      have isStyle := isDocument_of_field? document found
      cases value with
      | object entries =>
          obtain rfl := Option.some.inj read
          exact Json.isReadable_plain (isReadable_of_optionalNumber isStyle isWeight)
      | _ => cases read
  | _ => cases isNumber

/-- There is a style literal of every node that is read from a JSON text, at every depth to which it
can be indented, and it is read back. -/
theorem styleLiteral?_of_document {declaration : Declaration}
    (declared : declaration? (readAttributes fields) = .ok declaration) {depth : Int}
    (lower : -2 ^ 63 ≤ depth + 1) (upper : depth + 1 < 2 ^ 62) :
    styleLiteral? declaration.toFields depth = .ok (styleLiteral declaration.toFields depth) ∧
      Json.read (styleLiteral declaration.toFields depth) = .ok (.object declaration.toFields) := by
  let entries := declaration.map fun entry => (entry.1.name, entry.2)
  have named : declaration.toFields = fieldsOf entries := by
    simp [entries, fieldsOf, Declaration.toFields]
  have distinct := nodup_keys declared
  rw [named, map_fst_fieldsOf] at distinct
  have readable : ∀ key n, (key, Value.number n) ∈ entries → Json.IsReadable n := by
    intro key n isEntry
    obtain ⟨⟨property, value⟩, isDeclared, same⟩ := List.mem_map.mp isEntry
    obtain ⟨-, rfl⟩ := Prod.mk.inj same
    exact isReadable_of_declares document
      ((mem_declaration_iff declared property _).mp isDeclared)
  rw [named, read_styleLiteral_iff, isDocument_fieldsOf_iff distinct]
  exact ⟨styleLiteral?_of_near readable lower upper, readable⟩

end

end Style

end DesignCompiler
