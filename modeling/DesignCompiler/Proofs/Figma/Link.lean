import DesignCompiler.Figma.Address
import DesignCompiler.Proofs.Http.Percent
import DesignCompiler.Proofs.Text.Part
import DesignCompiler.Proofs.Text.Search

/-!
Contract: links to files and their nodes, and what is read from them.

Owns:
- `Link` and `Link.text`, the links to a file, part by part;
- `Spells`, the ways in which a link can write the name of a node;
- what `nodeId` makes of a name, and the names that it keeps;
- the law that the file and the node are read back from every link, and that every text without a
  link is refused.

Does not own: what is asked for with the name of a node, see `DesignCompiler.Proofs.Service.Link`.
-/

set_option autoImplicit false

namespace DesignCompiler.Figma

open DesignCompiler.Http DesignCompiler.Text
open DesignCompiler.Text (takeWhile_append_of_end)

/-! ### Names of nodes -/

/-- A character of a decoded name in the form that the service knows. -/
def withColon (c : Char) : Char :=
  if c = '-' then ':' else c

private theorem withColon_withColon (c : Char) : withColon (withColon c) = withColon c := by
  unfold withColon
  split
  · rfl
  · rfl

private theorem nodeIdChars_eq (cs : List Char) :
    nodeIdChars cs = (percentDecoded cs).map withColon :=
  rfl

private theorem not_startsEscape {c : Char} (other : c ≠ '%') (rest : List Char) :
    ¬ StartsEscape (c :: rest) := by
  intro starts
  cases starts
  exact other rfl

private theorem nodeIdChars_plain {c : Char} (other : c ≠ '%') (rest : List Char) :
    nodeIdChars (c :: rest) = withColon c :: nodeIdChars rest := by
  rw [nodeIdChars_eq, percentDecoded_plain (not_startsEscape other rest), List.map_cons,
    nodeIdChars_eq]

private theorem nodeIdChars_escape {high low : Char} {byte : UInt8}
    (isByte : escapedByte? high low = some byte) (isAscii : byte.toNat < 0x80) (rest : List Char) :
    nodeIdChars ('%' :: high :: low :: rest) =
      withColon (Char.ofNat byte.toNat) :: nodeIdChars rest := by
  rw [nodeIdChars_eq, percentDecoded_escape isByte isAscii, List.map_cons, nodeIdChars_eq]

theorem nodeIdChars_ne_nil {cs : List Char} (notEmpty : cs ≠ []) : nodeIdChars cs ≠ [] := by
  rw [nodeIdChars_eq, Ne, List.map_eq_nil_iff]
  exact percentDecoded_ne_nil notEmpty

/-- A name in the form that the service knows is kept if and only if no escape stands in it. -/
theorem nodeIdChars_nodeIdChars_iff (cs : List Char) :
    nodeIdChars (nodeIdChars cs) = nodeIdChars cs ↔ ¬ HasEscape (nodeIdChars cs) := by
  constructor
  · intro same escapes
    have shorter := length_percentDecoded_lt escapes
    have kept := congrArg List.length same
    rw [nodeIdChars_eq (nodeIdChars cs), List.length_map] at kept
    omega
  · intro plain
    rw [nodeIdChars_eq (nodeIdChars cs), (percentDecoded_eq_self_iff _).mpr plain, nodeIdChars_eq,
      List.map_map]
    apply List.map_congr_left
    intro c _
    exact withColon_withColon c

theorem nodeId_ofList (cs : List Char) :
    nodeId (String.ofList cs) = String.ofList (nodeIdChars cs) :=
  congrArg (fun cs => String.ofList (nodeIdChars cs)) String.toList_ofList

/-- A name is changed no more if and only if no escape is left in it. -/
theorem nodeId_nodeId_iff (name : String) :
    nodeId (nodeId name) = nodeId name ↔ ¬ HasEscape (nodeId name).toList := by
  have decoded : nodeId name = String.ofList (nodeIdChars name.toList) := rfl
  rw [decoded, nodeId_ofList, String.ofList_inj, String.toList_ofList]
  exact nodeIdChars_nodeIdChars_iff name.toList

/-- The ways to write the name of a node in a link: a colon as a hyphen or escaped, a semicolon
escaped, and every character as it is that has no meaning of its own in a link or in a name. -/
inductive Spells : List Char → List Char → Prop where
  | nil : Spells [] []
  | colon {form : String} {id spelling : List Char} :
      form ∈ ["-", ":", "%3A", "%3a"] → Spells id spelling →
      Spells (':' :: id) (form.toList ++ spelling)
  | semicolon {form : String} {id spelling : List Char} :
      form ∈ [";", "%3B", "%3b"] → Spells id spelling →
      Spells (';' :: id) (form.toList ++ spelling)
  | character {c : Char} {id spelling : List Char} :
      (c ≠ '%' ∧ c ≠ '-' ∧ c ≠ '&' ∧ c ≠ '#') → Spells id spelling →
      Spells (c :: id) (c :: spelling)

private theorem Spells.nodeIdChars_eq {id spelling : List Char} (spells : Spells id spelling) :
    nodeIdChars spelling = id := by
  induction spells with
  | nil => rfl
  | @colon form id spelling isForm _ inductionHypothesis =>
      simp only [List.mem_cons, List.not_mem_nil, or_false] at isForm
      rcases isForm with rfl | rfl | rfl | rfl
      · exact (nodeIdChars_plain (by decide) spelling).trans (congrArg _ inductionHypothesis)
      · exact (nodeIdChars_plain (by decide) spelling).trans (congrArg _ inductionHypothesis)
      · exact (@nodeIdChars_escape '3' 'A' 0x3A rfl (by decide) spelling).trans
          (congrArg _ inductionHypothesis)
      · exact (@nodeIdChars_escape '3' 'a' 0x3A rfl (by decide) spelling).trans
          (congrArg _ inductionHypothesis)
  | @semicolon form id spelling isForm _ inductionHypothesis =>
      simp only [List.mem_cons, List.not_mem_nil, or_false] at isForm
      rcases isForm with rfl | rfl | rfl
      · exact (nodeIdChars_plain (by decide) spelling).trans (congrArg _ inductionHypothesis)
      · exact (@nodeIdChars_escape '3' 'B' 0x3B rfl (by decide) spelling).trans
          (congrArg _ inductionHypothesis)
      · exact (@nodeIdChars_escape '3' 'b' 0x3B rfl (by decide) spelling).trans
          (congrArg _ inductionHypothesis)
  | @character c id spelling plain _ inductionHypothesis =>
      obtain ⟨noPercent, noHyphen, -, -⟩ := plain
      rw [nodeIdChars_plain noPercent, inductionHypothesis, withColon, if_neg noHyphen]

/-- A name that a link can spell is not changed by decoding it again. -/
theorem Spells.not_hasEscape {id spelling : List Char} (spells : Spells id spelling) :
    ¬ HasEscape id := by
  induction spells with
  | nil => exact not_hasEscape_nil
  | colon _ _ inductionHypothesis | semicolon _ _ inductionHypothesis =>
      rw [hasEscape_cons_iff, not_or]
      exact ⟨not_startsEscape (by decide) _, inductionHypothesis⟩
  | character plain _ inductionHypothesis =>
      rw [hasEscape_cons_iff, not_or]
      exact ⟨not_startsEscape plain.1 _, inductionHypothesis⟩

/-- No character of a text ends the value of a parameter. -/
def IsValue (cs : List Char) : Prop :=
  ∀ c ∈ cs, c ≠ '&' ∧ c ≠ '#'

theorem Spells.isValue {id spelling : List Char} (spells : Spells id spelling) :
    IsValue spelling := by
  induction spells with
  | nil => exact List.forall_mem_nil _
  | @colon form id spelling isForm _ inductionHypothesis =>
      have formIsValue : ∀ form ∈ ["-", ":", "%3A", "%3a"], ∀ c ∈ form.toList,
          c ≠ '&' ∧ c ≠ '#' := by
        simp
      exact List.forall_mem_append.mpr ⟨formIsValue form isForm, inductionHypothesis⟩
  | @semicolon form id spelling isForm _ inductionHypothesis =>
      have formIsValue : ∀ form ∈ [";", "%3B", "%3b"], ∀ c ∈ form.toList, c ≠ '&' ∧ c ≠ '#' := by
        simp
      exact List.forall_mem_append.mpr ⟨formIsValue form isForm, inductionHypothesis⟩
  | @character c id spelling plain _ inductionHypothesis =>
      obtain ⟨-, -, isValue⟩ := plain
      exact List.forall_mem_cons.mpr ⟨isValue, inductionHypothesis⟩

theorem Spells.ne_nil {id spelling : List Char} (spells : Spells id spelling) (named : id ≠ []) :
    spelling ≠ [] := by
  rintro rfl
  exact named spells.nodeIdChars_eq.symm

/-! ### Links -/

inductive Page where
  | design
  | file

def Page.path : Page → String
  | .design => "design/"
  | .file => "file/"

structure Link where
  page : Page
  key : List Char
  /-- The name of the file, which nobody reads. -/
  name : List Char
  fragment : Option (List Char)
  key_ne_nil : key ≠ []
  isAlphanumeric_key : ∀ c ∈ key, Text.isAlphanumeric c = true
  name_isPlain : ∀ c ∈ name, c ≠ '?' ∧ c ≠ '&' ∧ c ≠ '#'
  fragment_isPlain : ∀ c ∈ fragment.getD [], c ≠ '?' ∧ c ≠ '&'

def queryChars : Option (List (List Char)) → List Char
  | none => []
  | some parameters => '?' :: ['&'].intercalate parameters

def fragmentChars : Option (List Char) → List Char
  | none => []
  | some fragment => '#' :: fragment

/-- The text of a link with the parameters of its query, if it has one. -/
def Link.text (link : Link) (query : Option (List (List Char))) : String :=
  String.ofList ("https://www.figma.com/".toList ++ link.page.path.toList ++ link.key
    ++ '/' :: link.name ++ queryChars query ++ fragmentChars link.fragment)

def naming (spelling : List Char) : List Char :=
  "node-id=".toList ++ spelling

/-- A parameter with another key. -/
structure IsOther (parameter : List Char) : Prop where
  isPlain : ∀ c ∈ parameter, c ≠ '?' ∧ c ≠ '&' ∧ c ≠ '#'
  key : parameter.takeWhile (· != '=') ≠ "node-id".toList

/-- The link to a file stands in a text: its host, its page and the beginning of a key. -/
def LeadsToFile (cs : List Char) : Prop :=
  ∃ page : Page, ∃ c : Char, Text.isAlphanumeric c = true ∧
    "figma.com/".toList ++ page.path.toList ++ [c] <:+: cs

/-! ### Beginnings and runs -/

private theorem after?_append (start rest : List Char) :
    after? start (start ++ rest) = some rest := by
  rw [after?, if_pos (List.isPrefixOf_iff_prefix.mpr (List.prefix_append start rest)),
    List.drop_left]

theorem after?_eq_some_iff {start cs rest : List Char} :
    after? start cs = some rest ↔ cs = start ++ rest := by
  constructor
  · intro begun
    unfold after? at begun
    split at begun
    · next begins =>
        obtain ⟨behind, rfl⟩ := List.isPrefixOf_iff_prefix.mp begins
        rw [List.drop_left] at begun
        rw [Option.some.inj begun]
    · cases begun
  · rintro rfl
    exact after?_append start rest

theorem after?_eq_none_iff {start cs : List Char} : after? start cs = none ↔ ¬ start <+: cs := by
  unfold after?
  split
  · next begins =>
      exact iff_of_false nofun (not_not_intro (List.isPrefixOf_iff_prefix.mp begins))
  · next notBegins =>
      exact iff_of_true rfl fun begins => notBegins (List.isPrefixOf_iff_prefix.mpr begins)

private theorem run?_append {p : Char → Bool} {run rest : List Char} (notEmpty : run ≠ [])
    (inside : ∀ c ∈ run, p c = true) (ends : ∀ c ∈ rest.head?, p c = false) :
    run? p (run ++ rest) = some run := by
  rw [run?, takeWhile_append_of_end inside ends]
  cases run with
  | nil => exact absurd rfl notEmpty
  | cons c run => rfl

theorem run?_isSome_iff {p : Char → Bool} {cs : List Char} :
    (run? p cs).isSome ↔ ∃ c rest, cs = c :: rest ∧ p c = true := by
  cases cs with
  | nil => exact iff_of_false nofun nofun
  | cons c rest =>
      cases belongs : p c with
      | false => simp [run?, belongs]
      | true => simp [run?, belongs]

/-! ### Keys -/

/-- A key is found where its host and a page come first, and it reaches as far as it can. -/
theorem keyHere?_eq_some_iff {cs key : List Char} :
    keyHere? cs = some key ↔
      ∃ page : Page, ∃ rest, cs = "figma.com/".toList ++ (page.path.toList ++ rest) ∧
        run? Text.isAlphanumeric rest = some key := by
  have noDesign (rest : List Char) : after? "design/".toList ("file/".toList ++ rest) = none := rfl
  constructor
  · intro found
    obtain ⟨path, host, found⟩ := Option.bind_eq_some_iff.mp found
    obtain ⟨rest, page, found⟩ := Option.bind_eq_some_iff.mp found
    rw [after?_eq_some_iff.mp host]
    cases design : after? "design/".toList path with
    | some behind =>
        rw [design] at page
        obtain rfl : behind = rest := Option.some.inj page
        exact ⟨.design, behind, congrArg _ (after?_eq_some_iff.mp design), found⟩
    | none =>
        rw [design] at page
        exact ⟨.file, rest, congrArg _ (after?_eq_some_iff.mp page), found⟩
  · rintro ⟨page, rest, rfl, found⟩
    unfold keyHere?
    rw [after?_append "figma.com/".toList, Option.bind_eq_bind, Option.bind_some]
    cases page with
    | design =>
        rw [Page.path, after?_append "design/".toList rest]
        exact found
    | file =>
        rw [Page.path, noDesign, after?_append "file/".toList rest]
        exact found

private theorem keyHere?_cons_of_ne {c : Char} (other : c ≠ 'f') (rest : List Char) :
    keyHere? (c :: rest) = none := by
  apply Option.eq_none_iff_forall_ne_some.mpr
  intro key found
  obtain ⟨page, behind, same, -⟩ := keyHere?_eq_some_iff.mp found
  exact other (List.cons.inj same).1

private theorem Link.toList_text (link : Link) (query : Option (List (List Char))) :
    (link.text query).toList =
      "https://www.figma.com/".toList ++ link.page.path.toList ++ link.key ++ '/' :: link.name
        ++ queryChars query ++ fragmentChars link.fragment :=
  String.toList_ofList

private theorem toList_host : "https://www.figma.com/".toList =
    "https://www.".toList ++ "figma.com/".toList := by
  decide

/-- The key of a link is read up to the slash behind it. -/
theorem Link.firstMatch?_keyHere? (link : Link) (query : Option (List (List Char))) :
    firstMatch? keyHere? (link.text query).toList = some link.key := by
  have noLetter : ∀ c ∈ "https://www.".toList, c ≠ 'f' := by
    simp
  rw [Link.toList_text, toList_host]
  simp only [List.append_assoc, List.cons_append]
  rw [firstMatch?_append]
  · apply firstMatch?_of_eq_some
    refine keyHere?_eq_some_iff.mpr ⟨link.page, _, rfl, ?_⟩
    apply run?_append link.key_ne_nil link.isAlphanumeric_key
    rintro c ⟨⟩
    rfl
  · intro place notEmpty within
    cases place with
    | nil => exact absurd rfl notEmpty
    | cons c place =>
        have member : c ∈ "https://www.".toList := within.subset List.mem_cons_self
        exact keyHere?_cons_of_ne (noLetter c member) _

/-- A key is found in a text if and only if a link to a file stands in it. -/
theorem firstMatch?_keyHere?_eq_none_iff (cs : List Char) :
    firstMatch? keyHere? cs = none ↔ ¬ LeadsToFile cs := by
  rw [firstMatch?_eq_none_iff]
  constructor
  · rintro nowhere ⟨page, c, isKey, within⟩
    obtain ⟨place, ⟨rest, rfl⟩, suffix⟩ := List.infix_iff_prefix_suffix.mp within
    have isSome := run?_isSome_iff.mpr ⟨c, rest, rfl, isKey⟩
    obtain ⟨key, run⟩ := Option.isSome_iff_exists.mp isSome
    have same : "figma.com/".toList ++ page.path.toList ++ [c] ++ rest =
        "figma.com/".toList ++ (page.path.toList ++ (c :: rest)) := by
      simp only [List.append_assoc, List.singleton_append]
    have found := keyHere?_eq_some_iff.mpr ⟨page, c :: rest, same, run⟩
    exact absurd (nowhere _ suffix) (Option.ne_none_iff_exists'.mpr ⟨key, found⟩)
  · intro noLink place suffix
    apply Option.eq_none_iff_forall_ne_some.mpr
    intro key found
    obtain ⟨page, behind, rfl, run⟩ := keyHere?_eq_some_iff.mp found
    obtain ⟨c, rest, rfl, isKey⟩ := run?_isSome_iff.mp (Option.isSome_iff_exists.mpr ⟨key, run⟩)
    refine noLink ⟨page, c, isKey, List.IsInfix.trans ⟨[], rest, ?_⟩ suffix.isInfix⟩
    simp only [List.nil_append, List.append_assoc, List.singleton_append]

/-! ### Parameters -/

private theorem nodeHere?_cons_of_plain {c : Char} (plain : c ≠ '?' ∧ c ≠ '&') (rest : List Char) :
    nodeHere? (c :: rest) = none := by
  simp only [nodeHere?, plain.1, plain.2, decide_false, Bool.or_false, Bool.false_eq_true,
    if_false]

private theorem nodeHere?_cons_of_separator {separator : Char}
    (separates : separator = '?' ∨ separator = '&') (rest : List Char) :
    nodeHere? (separator :: rest) =
      (after? "node-id=".toList rest).bind (run? fun c => c != '&' && c != '#') := by
  rcases separates with rfl | rfl
  · rfl
  · rfl

/-- A text with none of the characters that begin a parameter is passed over. -/
theorem firstMatch?_nodeHere?_plain {plain : List Char} (isPlain : ∀ c ∈ plain, c ≠ '?' ∧ c ≠ '&')
    (rest : List Char) :
    firstMatch? nodeHere? (plain ++ rest) = firstMatch? nodeHere? rest := by
  apply firstMatch?_append
  intro place notEmpty within
  cases place with
  | nil => exact absurd rfl notEmpty
  | cons c place =>
      exact nodeHere?_cons_of_plain (isPlain c (within.subset List.mem_cons_self)) _

/-- What may stand behind the value of a parameter. -/
def EndsValue (rest : List Char) : Prop :=
  ∀ c ∈ rest.head?, c = '&' ∨ c = '#'

private theorem IsOther.not_naming {parameter rest : List Char} (other : IsOther parameter)
    (ends : EndsValue rest) : ¬ "node-id=".toList <+: parameter ++ rest := by
  have notWithin : ¬ "node-id=".toList <+: parameter := by
    rintro ⟨value, rfl⟩
    exact other.key rfl
  have noEnd : ∀ c ∈ "node-id=".toList, ¬ (c = '&' ∨ c = '#') := by
    simp
  rintro ⟨behind, same⟩
  rcases List.append_eq_append_iff.mp same with ⟨missing, rfl, -⟩ | ⟨missing, key, rfl⟩
  · exact notWithin (List.prefix_append _ missing)
  · cases missing with
    | nil =>
        rw [List.append_nil] at key
        exact notWithin (key ▸ List.prefix_refl _)
    | cons c missing =>
        have member : c ∈ "node-id=".toList := by
          rw [key]
          exact List.mem_append_right _ List.mem_cons_self
        exact noEnd c member (ends c rfl)

/-- A parameter with another key is passed over. -/
theorem firstMatch?_nodeHere?_other {parameter rest : List Char} (other : IsOther parameter)
    (ends : EndsValue rest) {separator : Char}
    (separates : separator = '?' ∨ separator = '&') :
    firstMatch? nodeHere? (separator :: (parameter ++ rest)) = firstMatch? nodeHere? rest := by
  have notHere : nodeHere? (separator :: (parameter ++ rest)) = none := by
    rw [nodeHere?_cons_of_separator separates, after?_eq_none_iff.mpr (other.not_naming ends)]
    rfl
  rw [firstMatch?_cons_of_eq_none notHere]
  apply firstMatch?_nodeHere?_plain
  intro c member
  obtain ⟨noQuestion, noAmpersand, -⟩ := other.isPlain c member
  exact ⟨noQuestion, noAmpersand⟩

private theorem firstMatch?_nodeHere?_naming {spelling rest : List Char} (notEmpty : spelling ≠ [])
    (isValue : IsValue spelling) (ends : EndsValue rest) {separator : Char}
    (separates : separator = '?' ∨ separator = '&') :
    firstMatch? nodeHere? (separator :: (naming spelling ++ rest)) = some spelling := by
  apply firstMatch?_of_eq_some
  have run : run? (fun c => c != '&' && c != '#') (spelling ++ rest) = some spelling := by
    apply run?_append notEmpty
    · intro c member
      simpa using isValue c member
    · intro c first
      rcases ends c first with rfl | rfl
      · rfl
      · rfl
  have names : naming spelling ++ rest = "node-id=".toList ++ (spelling ++ rest) :=
    List.append_assoc _ _ _
  rw [nodeHere?_cons_of_separator separates, names, after?_append, Option.bind_some, run]

private theorem endsValue_fragmentChars (fragment : Option (List Char)) :
    EndsValue (fragmentChars fragment) := by
  cases fragment with
  | none => exact nofun
  | some fragment =>
      rintro c ⟨⟩
      exact Or.inr rfl

private theorem endsValue_parameters (parameters : List (List Char)) {rest : List Char}
    (ends : EndsValue rest) :
    EndsValue (parameters.flatMap (fun parameter => '&' :: parameter) ++ rest) := by
  cases parameters with
  | nil => exact ends
  | cons parameter parameters =>
      rintro c ⟨⟩
      exact Or.inl rfl

/-- Parameters with other keys are passed over. -/
theorem firstMatch?_nodeHere?_others {parameters : List (List Char)}
    (others : ∀ parameter ∈ parameters, IsOther parameter) {rest : List Char}
    (ends : EndsValue rest) :
    firstMatch? nodeHere? (parameters.flatMap (fun parameter => '&' :: parameter) ++ rest) =
      firstMatch? nodeHere? rest := by
  induction parameters with
  | nil => rfl
  | cons parameter parameters inductionHypothesis =>
      obtain ⟨other, others⟩ := List.forall_mem_cons.mp others
      rw [List.flatMap_cons, List.append_assoc, List.cons_append,
        firstMatch?_nodeHere?_other other (endsValue_parameters parameters ends) (Or.inr rfl)]
      exact inductionHypothesis others

private theorem intercalate_cons (parameter : List Char) (parameters : List (List Char)) :
    ['&'].intercalate (parameter :: parameters) =
      parameter ++ parameters.flatMap fun parameter => '&' :: parameter := by
  induction parameters generalizing parameter with
  | nil => rw [List.intercalate_singleton, List.flatMap_nil, List.append_nil]
  | cons next parameters inductionHypothesis =>
      rw [List.intercalate_cons_cons, inductionHypothesis, List.flatMap_cons]
      simp only [List.append_assoc, List.cons_append, List.nil_append]

private theorem queryChars_cons (parameter : List Char) (parameters : List (List Char)) :
    queryChars (some (parameter :: parameters)) =
      '?' :: (parameter ++ parameters.flatMap fun parameter => '&' :: parameter) := by
  rw [queryChars, intercalate_cons]

/-- Behind its first parameters, the parameter for the node is the first that is found. -/
theorem firstMatch?_nodeHere?_query {before after : List (List Char)}
    (others : ∀ parameter ∈ before, IsOther parameter) {spelling : List Char}
    (notEmpty : spelling ≠ []) (isValue : IsValue spelling) {rest : List Char}
    (ends : EndsValue rest) :
    firstMatch? nodeHere? (queryChars (some (before ++ naming spelling :: after)) ++ rest) =
      some spelling := by
  have behind := endsValue_parameters after ends
  cases before with
  | nil =>
      rw [List.nil_append, queryChars_cons, List.cons_append, List.append_assoc]
      exact firstMatch?_nodeHere?_naming notEmpty isValue behind (Or.inl rfl)
  | cons first before =>
      obtain ⟨other, others⟩ := List.forall_mem_cons.mp others
      have named := endsValue_parameters (naming spelling :: after) ends
      rw [List.cons_append, queryChars_cons, List.flatMap_append, List.cons_append,
        List.append_assoc, List.append_assoc,
        firstMatch?_nodeHere?_other other (endsValue_parameters before named) (Or.inl rfl),
        firstMatch?_nodeHere?_others others named, List.flatMap_cons, List.append_assoc,
        List.cons_append]
      exact firstMatch?_nodeHere?_naming notEmpty isValue behind (Or.inr rfl)

private theorem isOther_nil : IsOther [] :=
  ⟨List.forall_mem_nil _, by decide⟩

/-- In a query without the parameter for the node nothing is found. -/
theorem firstMatch?_nodeHere?_query_others {query : Option (List (List Char))}
    (others : ∀ parameter ∈ query.getD [], IsOther parameter) {rest : List Char}
    (ends : EndsValue rest) :
    firstMatch? nodeHere? (queryChars query ++ rest) = firstMatch? nodeHere? rest := by
  cases query with
  | none => rfl
  | some parameters =>
      cases parameters with
      | nil => exact firstMatch?_nodeHere?_other isOther_nil ends (Or.inl rfl)
      | cons parameter parameters =>
          obtain ⟨other, others⟩ := List.forall_mem_cons.mp others
          rw [queryChars_cons, List.cons_append, List.append_assoc,
            firstMatch?_nodeHere?_other other (endsValue_parameters parameters ends) (Or.inl rfl)]
          exact firstMatch?_nodeHere?_others others ends

private theorem Link.firstMatch?_nodeHere? (link : Link) (query : Option (List (List Char))) :
    firstMatch? nodeHere? (link.text query).toList =
      firstMatch? nodeHere? (queryChars query ++ fragmentChars link.fragment) := by
  have hostIsPlain : ∀ c ∈ "https://www.figma.com/".toList, c ≠ '?' ∧ c ≠ '&' := by
    simp
  have pageIsPlain : ∀ c ∈ link.page.path.toList, c ≠ '?' ∧ c ≠ '&' := by
    cases link.page with
    | design => simp [Page.path]
    | file => simp [Page.path]
  have keyIsPlain : ∀ c ∈ link.key, c ≠ '?' ∧ c ≠ '&' := by
    intro c member
    have letter := link.isAlphanumeric_key c member
    constructor
    · rintro rfl
      cases letter
    · rintro rfl
      cases letter
  have nameIsPlain : ∀ c ∈ '/' :: link.name, c ≠ '?' ∧ c ≠ '&' := by
    refine List.forall_mem_cons.mpr ⟨by decide, ?_⟩
    intro c member
    obtain ⟨noQuestion, noAmpersand, -⟩ := link.name_isPlain c member
    exact ⟨noQuestion, noAmpersand⟩
  rw [Link.toList_text, List.append_assoc]
  apply firstMatch?_nodeHere?_plain
  simp only [List.forall_mem_append]
  exact ⟨⟨⟨hostIsPlain, pageIsPlain⟩, keyIsPlain⟩, nameIsPlain⟩

private theorem Link.firstMatch?_nodeHere?_fragment (link : Link) :
    firstMatch? nodeHere? (fragmentChars link.fragment) = none := by
  have isPlain : ∀ c ∈ fragmentChars link.fragment, c ≠ '?' ∧ c ≠ '&' := by
    have within := link.fragment_isPlain
    cases fragment : link.fragment with
    | none => exact List.forall_mem_nil _
    | some chars =>
        rw [fragment] at within
        exact List.forall_mem_cons.mpr ⟨by decide, within⟩
  rw [← List.append_nil (fragmentChars link.fragment), firstMatch?_nodeHere?_plain isPlain]
  rfl

/-! ### Reading links -/

/-- The file and the value of the parameter for the node are read from a link. -/
theorem Link.readLink_text_naming (link : Link) {before after : List (List Char)}
    (others : ∀ parameter ∈ before, IsOther parameter) {spelling : List Char}
    (notEmpty : spelling ≠ []) (isValue : IsValue spelling) :
    readLink (link.text (some (before ++ naming spelling :: after))) =
      some (String.ofList link.key, some (String.ofList (nodeIdChars spelling))) := by
  rw [readLink, link.firstMatch?_keyHere?, link.firstMatch?_nodeHere?,
    firstMatch?_nodeHere?_query others notEmpty isValue (endsValue_fragmentChars link.fragment)]
  rfl

/-- A link without the parameter for a node leads to the file alone. -/
theorem Link.readLink_text_others (link : Link) {query : Option (List (List Char))}
    (others : ∀ parameter ∈ query.getD [], IsOther parameter) :
    readLink (link.text query) = some (String.ofList link.key, none) := by
  rw [readLink, link.firstMatch?_keyHere?, link.firstMatch?_nodeHere?,
    firstMatch?_nodeHere?_query_others others (endsValue_fragmentChars link.fragment),
    link.firstMatch?_nodeHere?_fragment]
  rfl

theorem readLink_eq_none_iff (text : String) :
    readLink text = none ↔ ¬ LeadsToFile text.toList := by
  rw [readLink, Option.map_eq_none_iff, firstMatch?_keyHere?_eq_none_iff]

/-- Reading undoes writing: from a link are read the key of its file and the name of its node,
however the name is spelled and whatever else stands in the link; no node is read from a link that
names none; and nothing is read from exactly the texts in which no link to a file stands. -/
theorem readLink_reads_back :
    (∀ (link : Link) (before after : List (List Char)) (id spelling : List Char),
      (∀ parameter ∈ before ++ after, IsOther parameter) → Spells id spelling → id ≠ [] →
        readLink (link.text (some (before ++ naming spelling :: after))) =
          some (String.ofList link.key, some (String.ofList id))) ∧
    (∀ (link : Link) (query : Option (List (List Char))),
      (∀ parameter ∈ query.getD [], IsOther parameter) →
        readLink (link.text query) = some (String.ofList link.key, none)) ∧
    (∀ text : String, readLink text = none ↔ ¬ LeadsToFile text.toList) := by
  refine ⟨?_, ?_, readLink_eq_none_iff⟩
  · intro link before after id spelling others spells named
    obtain ⟨othersBefore, -⟩ := List.forall_mem_append.mp others
    rw [link.readLink_text_naming othersBefore (spells.ne_nil named) spells.isValue,
      spells.nodeIdChars_eq]
  · intro link query others
    exact link.readLink_text_others others

/-- Every colon and semicolon of a name may be spelled in its own way, a link need not name a node,
and without a key behind its page a text is no link. -/
theorem readLink_reads_back_mixed_spellings :
    readLink "https://www.figma.com/design/aB3/Shop-2?m=dev&node-id=1-2%3b3%3A4;5&t=x-y#top" =
        some ("aB3", some "1:2;3:4;5") ∧
      readLink "https://www.figma.com/file/aB3/Shop-2?node-idx=7-8" = some ("aB3", none) ∧
      readLink "https://www.figma.com/design/?node-id=7-8" = none ∧
      ¬ LeadsToFile "https://www.figma.com/design/?node-id=7-8".toList := by
  obtain ⟨named, unnamed, refused⟩ := readLink_reads_back
  let design : Link := ⟨.design, "aB3".toList, "Shop-2".toList, some "top".toList,
    by decide, List.all_eq_true.mp (by decide), by simp, by simp⟩
  let file : Link := ⟨.file, "aB3".toList, "Shop-2".toList, none,
    by decide, List.all_eq_true.mp (by decide), by simp, nofun⟩
  have spells : Spells "1:2;3:4;5".toList "1-2%3b3%3A4;5".toList :=
    .character (by decide) (@Spells.colon "-" _ _ (by decide)
      (.character (by decide) (@Spells.semicolon "%3b" _ _ (by decide)
        (.character (by decide) (@Spells.colon "%3A" _ _ (by decide)
          (.character (by decide) (@Spells.semicolon ";" _ _ (by decide)
            (.character (by decide) .nil))))))))
  have mode : IsOther "m=dev".toList := ⟨by simp, by decide⟩
  have time : IsOther "t=x-y".toList := ⟨by simp, by decide⟩
  have index : IsOther "node-idx=7-8".toList := ⟨by simp, by decide⟩
  have unread : readLink "https://www.figma.com/design/?node-id=7-8" = none := by
    decide +kernel
  refine ⟨?_, ?_, unread, (refused _).mp unread⟩
  · have text : design.text (some (["m=dev".toList] ++ naming "1-2%3b3%3A4;5".toList ::
        ["t=x-y".toList])) =
        "https://www.figma.com/design/aB3/Shop-2?m=dev&node-id=1-2%3b3%3A4;5&t=x-y#top" := by
      decide +kernel
    have others : ∀ parameter ∈ ["m=dev".toList] ++ ["t=x-y".toList], IsOther parameter :=
      List.forall_mem_cons.mpr ⟨mode, List.forall_mem_singleton.mpr time⟩
    have read := named design _ _ _ _ others spells (by decide)
    rw [text] at read
    exact read
  · have text : file.text (some ["node-idx=7-8".toList]) =
        "https://www.figma.com/file/aB3/Shop-2?node-idx=7-8" := by
      decide +kernel
    have read := unnamed file (some ["node-idx=7-8".toList]) (List.forall_mem_singleton.mpr index)
    rw [text] at read
    exact read

end DesignCompiler.Figma
