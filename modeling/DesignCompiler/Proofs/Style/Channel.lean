import DesignCompiler.Component.Compile
import DesignCompiler.Proofs.Composition
import DesignCompiler.Proofs.Design.Tree
import DesignCompiler.Proofs.Number.Rounding

/-!
Contract: which trees are styled and compiled at all.

Owns:
- `Number.channelFault?`, why a number is no channel of a colour;
- `Attributes.paintedColors`, the colours that a node shows;
- `Node.Renders`, the nodes that the markup of a tree shows;
- the law that a tree is compiled exactly if the channels of all colours that it shows are in range.

Does not own: the values that are declared, see `DesignCompiler.Style.Declaration`.
-/

set_option autoImplicit false

namespace DesignCompiler

/-! ### Channels -/

/-- Why a number is no channel, if it is none: it is undefined, infinite, or rounded to an infinity
when it is scaled to 255. -/
def Number.channelFault? : Number → Option ColorFault
  | .float .nan => some .undefined
  | .float (.infinite _) => some .infinite
  | .float (.finite value) => if value.steps * 255 < Binary64.overflow then none else some .infinite
  | .int value =>
    if (value * 255).natAbs * 2 ^ Binary64.unitExponent < Binary64.overflow then none
    else some .tooLarge

/-- A finite value is rounded to a whole number, halves upwards. -/
theorem Binary64.exists_floor?_addHalf (value : Finite) :
    ∃ whole, (addHalf (.finite value)).floor? = .ok whole := by
  show ∃ whole, (ofSteps (value.signedSteps + (Nat.pow 2 (unitExponent - 1) : Nat))).floor? =
    .ok whole
  unfold ofSteps
  rcases nearest_cases _ _ with ⟨_, rounded, isFinite⟩ | ⟨large, _⟩
  · rw [isFinite]
    exact ⟨_, rfl⟩
  · exact absurd value.natAbs_addHalf_lt (Nat.not_lt.mpr large)

/-- Every number has a channel, or a fault because of which it has none. -/
theorem channel?_cases (n : Number) :
    (n.channelFault? = none ∧ ∃ whole, channel? n = .ok whole) ∨
      ∃ fault, n.channelFault? = some fault ∧ channel? n = .error fault := by
  cases n with
  | int value =>
      rw [Number.channelFault?, channel?]
      rcases Binary64.ofInt?_cases (value * 255) with ⟨small, rounded, scaled⟩ | ⟨large, scaled⟩
      · rw [scaled, if_pos small]
        exact Or.inl ⟨rfl, Binary64.exists_floor?_addHalf rounded⟩
      · rw [scaled, if_neg (Nat.not_lt.mpr large)]
        exact Or.inr ⟨.tooLarge, rfl, rfl⟩
  | float value =>
      cases value with
      | nan => exact Or.inr ⟨.undefined, rfl, rfl⟩
      | infinite negative => exact Or.inr ⟨.infinite, rfl, rfl⟩
      | finite value =>
          rw [Number.channelFault?, channel?, Binary64.scale]
          rcases Binary64.nearest_cases value.negative (value.steps * 255) with
            ⟨small, rounded, scaled⟩ | ⟨large, scaled⟩
          · rw [scaled, if_pos small]
            exact Or.inl ⟨rfl, Binary64.exists_floor?_addHalf rounded⟩
          · rw [scaled, if_neg (Nat.not_lt.mpr large)]
            exact Or.inr ⟨.infinite, rfl, rfl⟩

theorem exists_channel?_iff (n : Number) :
    (∃ whole, channel? n = .ok whole) ↔ n.channelFault? = none := by
  rcases channel?_cases n with ⟨noFault, isChannel⟩ | ⟨fault, hasFault, noChannel⟩
  · exact iff_of_true isChannel noFault
  · rw [noChannel, hasFault]
    exact iff_of_false nofun nofun

namespace Design

def Color.channelNumbers (color : Color) : List Number :=
  [color.red, color.green, color.blue]

theorem Color.exists_cssText?_iff (color : Color) :
    (∃ text, color.cssText? = .ok text) ↔
      ∀ channel ∈ color.channelNumbers, channel.channelFault? = none := by
  unfold Color.cssText? Color.channelNumbers
  simp only [exists_ok_bind_iff, List.forall_mem_cons, ← exists_channel?_iff]
  constructor
  · rintro ⟨red, isRed, green, isGreen, blue, isBlue, -⟩
    exact ⟨⟨red, isRed⟩, ⟨green, isGreen⟩, ⟨blue, isBlue⟩, nofun⟩
  · rintro ⟨⟨red, isRed⟩, ⟨green, isGreen⟩, ⟨blue, isBlue⟩, -⟩
    refine ⟨red, isRed, green, isGreen, blue, isBlue, ?_⟩
    split <;> exact ⟨_, rfl⟩

/-- The opacity of a colour makes no difference. -/
theorem Color.exists_cssText?_withAlpha (color : Color) (alpha : Number) :
    (∃ text, Color.cssText? { color with alpha := alpha } = .ok text) ↔
      ∃ text, color.cssText? = .ok text := by
  rw [exists_cssText?_iff, exists_cssText?_iff]
  rfl

/-- The colours that a node shows.  The background colour is one of them also where the first fill
is painted over it. -/
def Attributes.paintedColors (a : Attributes) : List Color :=
  a.background.toList ++ (Style.firstSolid? a.fills).toList.map Prod.snd ++
    (Style.firstSolid? a.strokes).toList.map Prod.snd

/-- All channels of the colours that a node shows are in range. -/
def Attributes.HasChannels (a : Attributes) : Prop :=
  ∀ color ∈ a.paintedColors, ∀ channel ∈ color.channelNumbers, channel.channelFault? = none

end Design

/-! ### Declarations -/

namespace Style

open Design

theorem exists_valuesOf_iff (a : Attributes) (properties : List Property) :
    (∃ values, valuesOf a properties = .ok values) ↔
      ∀ property ∈ properties, ∃ value, property.value? a = .ok value := by
  induction properties with
  | nil => exact iff_of_true ⟨[], rfl⟩ nofun
  | cons property rest inductionHypothesis =>
      unfold valuesOf
      simp only [exists_ok_bind_iff, List.forall_mem_cons, ← inductionHypothesis]
      constructor
      · rintro ⟨value, isValue, values, areValues, -⟩
        exact ⟨⟨value, isValue⟩, values, areValues⟩
      · rintro ⟨⟨value, isValue⟩, values, areValues⟩
        exact ⟨value, isValue, values, areValues, _, rfl⟩

theorem exists_background?_iff (a : Attributes) :
    (∃ background, background? a = .ok background) ↔
      ∀ color ∈ a.background.toList ++ (firstSolid? a.fills).toList.map Prod.snd,
        ∃ text, color.cssText? = .ok text := by
  have flat : (∃ text, a.background.mapM Color.cssText? = .ok text) ↔
      ∀ color ∈ a.background.toList, ∃ text, color.cssText? = .ok text := by
    cases a.background with
    | none => simp [pure, Except.pure]
    | some color =>
        rw [Option.mapM_some, exists_ok_map_iff, Option.toList_some, List.forall_mem_singleton]
  unfold background?
  rw [exists_ok_bind_iff, List.forall_mem_append, ← flat]
  cases firstSolid? a.fills with
  | none => simp
  | some painted =>
      obtain ⟨paint, color⟩ := painted
      simp only [exists_ok_bind_iff, Option.toList_some, List.map_cons, List.map_nil,
        List.forall_mem_singleton, ← Color.exists_cssText?_withAlpha color (paint.opacity.getD 1)]
      constructor
      · rintro ⟨text, isFlat, painted, isPainted, -⟩
        exact ⟨⟨text, isFlat⟩, painted, isPainted⟩
      · rintro ⟨⟨text, isFlat⟩, painted, isPainted⟩
        exact ⟨text, isFlat, painted, isPainted, _, rfl⟩

theorem exists_border?_iff (a : Attributes) :
    (∃ border, border? a = .ok border) ↔
      ∀ color ∈ (firstSolid? a.strokes).toList.map Prod.snd,
        ∃ text, color.cssText? = .ok text := by
  unfold border?
  cases firstSolid? a.strokes with
  | none => simp
  | some painted =>
      obtain ⟨paint, color⟩ := painted
      simp only [exists_ok_bind_iff, Option.toList_some, List.map_cons, List.map_nil,
        List.forall_mem_singleton, ← Color.exists_cssText?_withAlpha color 1]
      constructor
      · rintro ⟨painted, isPainted, -⟩
        exact ⟨painted, isPainted⟩
      · rintro ⟨painted, isPainted⟩
        exact ⟨painted, isPainted, _, rfl⟩

/-- A node has a declaration exactly if its colours have channels. -/
theorem exists_declaration?_iff (a : Attributes) :
    (∃ declaration, declaration? a = .ok declaration) ↔ a.HasChannels := by
  have ofBackground : (∃ value, Property.value? a .backgroundColor = .ok value) ↔
      ∃ background, background? a = .ok background := by
    rw [Property.value?, exists_ok_bind_iff]
    simp
  have ofBorder : (∃ value, Property.value? a .border = .ok value) ↔
      ∃ border, border? a = .ok border := by
    rw [Property.value?, exists_ok_bind_iff]
    simp
  have colors : a.HasChannels ↔
      (∃ background, background? a = .ok background) ∧ ∃ border, border? a = .ok border := by
    rw [exists_background?_iff, exists_border?_iff, ← List.forall_mem_append]
    simp only [Attributes.HasChannels, Attributes.paintedColors, Color.exists_cssText?_iff]
  unfold declaration?
  rw [exists_valuesOf_iff, colors, ← ofBackground, ← ofBorder]
  constructor
  · intro values
    exact ⟨values .backgroundColor (by decide), values .border (by decide)⟩
  · rintro ⟨background, border⟩ property -
    cases property with
    | backgroundColor => exact background
    | border => exact border
    | _ => exact ⟨_, rfl⟩

end Style

/-! ### Trees -/

namespace Design.Node

/-- The attributes of the nodes that the markup of a tree shows: those of the tree itself and,
unless it shows a text, those below it. -/
inductive Renders : Node → Attributes → Prop where
  | here (attributes : Attributes) (children : List Node) :
      Renders ⟨attributes, children⟩ attributes
  | child {attributes inner : Attributes} {children : List Node} {child : Node}
      (noText : attributes.kind.shownText? = none) (isChild : child ∈ children)
      (renders : Renders child inner) : Renders ⟨attributes, children⟩ inner

/-- What holds of all attributes that a tree shows holds of its own and of those its children
show. -/
theorem forall_renders_iff {a : Attributes} {children : List Node} {motive : Attributes → Prop} :
    (∀ inner, Renders ⟨a, children⟩ inner → motive inner) ↔
      motive a ∧ (a.kind.shownText? = none →
        ∀ child ∈ children, ∀ inner, child.Renders inner → motive inner) := by
  constructor
  · intro everywhere
    exact ⟨everywhere a (.here a children), fun noText child isChild inner renders =>
      everywhere inner (.child noText isChild renders)⟩
  · rintro ⟨own, below⟩ inner renders
    cases renders with
    | here => exact own
    | child noText isChild renders => exact below noText _ isChild inner renders

theorem exists_siblingsChars?_iff {depth : Int} (nodes : List Node) :
    (∃ markup, siblingsChars? depth nodes = .ok markup) ↔
      ∀ node ∈ nodes, ∃ markup, markupChars? depth node = .ok markup := by
  induction nodes with
  | nil => exact iff_of_true ⟨[], rfl⟩ nofun
  | cons node rest inductionHypothesis =>
      unfold siblingsChars?
      simp only [exists_ok_bind_iff, List.forall_mem_cons, ← inductionHypothesis]
      constructor
      · rintro ⟨head, isHead, tail, isTail, -⟩
        exact ⟨⟨head, isHead⟩, tail, isTail⟩
      · rintro ⟨⟨head, isHead⟩, tail, isTail⟩
        exact ⟨head, isHead, tail, isTail, _, rfl⟩

/-- A tree has markup exactly if all nodes that are shown have declarations. -/
theorem exists_markupChars?_iff (node : Node) (depth : Int) :
    (∃ markup, markupChars? depth node = .ok markup) ↔
      ∀ a, node.Renders a → ∃ declaration, Style.declaration? a = .ok declaration := by
  induction node using Node.induction generalizing depth with
  | node a children inductionHypothesis =>
      have siblings : (∀ child ∈ children, ∃ markup, markupChars? (depth + 1) child = .ok markup) ↔
          ∀ child ∈ children, ∀ inner, child.Renders inner →
            ∃ declaration, Style.declaration? inner = .ok declaration :=
        forall₂_congr fun child isChild => inductionHypothesis child isChild (depth + 1)
      unfold markupChars?
      rw [exists_ok_bind_iff, forall_renders_iff, ← siblings]
      cases shown : a.kind.shownText? with
      | some text =>
          constructor
          · rintro ⟨style, isStyle, -⟩
            exact ⟨⟨style, isStyle⟩, nofun⟩
          · rintro ⟨⟨style, isStyle⟩, -⟩
            exact ⟨style, isStyle, _, rfl⟩
      | none =>
          cases children with
          | nil =>
              constructor
              · rintro ⟨style, isStyle, -⟩
                exact ⟨⟨style, isStyle⟩, fun _ => nofun⟩
              · rintro ⟨⟨style, isStyle⟩, -⟩
                exact ⟨style, isStyle, _, rfl⟩
          | cons first rest =>
              simp only [exists_ok_bind_iff, List.forall_mem_cons, ← exists_siblingsChars?_iff,
                true_imp_iff]
              constructor
              · rintro ⟨style, isStyle, head, isHead, tail, isTail, -⟩
                exact ⟨⟨style, isStyle⟩, ⟨head, isHead⟩, tail, isTail⟩
              · rintro ⟨⟨style, isStyle⟩, ⟨head, isHead⟩, tail, isTail⟩
                exact ⟨style, isStyle, head, isHead, tail, isTail, _, rfl⟩

/-- A tree has markup exactly if the channels of all colours that it shows are in range. -/
theorem exists_markup?_iff (root : Node) (depth : Int) :
    (∃ markup, root.markup? depth = .ok markup) ↔ ∀ a, root.Renders a → a.HasChannels := by
  have characters : (∃ markup, root.markup? depth = .ok markup) ↔
      ∃ markup, root.markupChars? depth = .ok markup :=
    exists_ok_map_iff
  simp only [characters, exists_markupChars?_iff root depth, Style.exists_declaration?_iff]

end Design.Node

namespace Component

open Design

/-- A tree is compiled exactly if the channels of all colours that it shows are in range, whatever
the variant, the name and the instructions. -/
theorem exists_compile?_iff (root : Node) (variant : Variant) (name instructions : Option String)
    (depth : Int) :
    (∃ source, compile? root variant name instructions depth = .ok source) ↔
      ∀ a, root.Renders a → a.HasChannels := by
  unfold compile?
  rw [exists_ok_bind_iff, ← Node.exists_markup?_iff root depth]
  constructor
  · rintro ⟨markup, isMarkup, -⟩
    exact ⟨markup, isMarkup⟩
  · rintro ⟨markup, isMarkup⟩
    exact ⟨markup, isMarkup, _, rfl⟩

/-- A node whose background colour has an integer beyond all doubles is read, and has neither a
declaration nor a source. -/
theorem compile?_of_channel_beyond_doubles :
    let value : Json := .object [("backgroundColor", .object [("r", .number (.int (10 ^ 309)))])]
    ∃ node, Node.read value = .ok node ∧ Style.declaration? node.attributes = .error .tooLarge ∧
      compile? node .vanillaJsx none none = .error .tooLarge := by
  have tooLarge : channel? (.int (10 ^ 309)) = .error .tooLarge := by
    have fault : Number.channelFault? (.int (10 ^ 309)) = some .tooLarge := by
      rw [Number.channelFault?, if_neg]
      decide +kernel
    rcases channel?_cases (.int (10 ^ 309)) with ⟨noFault, -⟩ | ⟨other, isFault, noChannel⟩
    · rw [fault] at noFault
      cases noFault
    · rw [fault] at isFault
      cases isFault
      exact noChannel
  -- The rest of the run does not depend on the number.
  revert tooLarge
  generalize Number.int (10 ^ 309) = number
  intro tooLarge value
  have background : Style.background? (buildNode value).attributes = .error .tooLarge := by
    show (do
      let flat ← some <$> Color.cssText? ⟨number, 0, 0, 1, []⟩
      Except.ok flat) = Except.error ColorFault.tooLarge
    rw [Color.cssText?, tooLarge]
    rfl
  have declaration : Style.declaration? (buildNode value).attributes = .error .tooLarge := by
    have width : Style.Property.value? (buildNode value).attributes .width = .ok none := rfl
    have height : Style.Property.value? (buildNode value).attributes .height = .ok none := rfl
    have color : Style.Property.value? (buildNode value).attributes .backgroundColor =
        .error .tooLarge := by
      rw [Style.Property.value?, background]
      rfl
    rw [Style.declaration?, Style.Property.all, Style.valuesOf, width, Style.valuesOf, height,
      Style.valuesOf, color]
    rfl
  refine ⟨buildNode value, rfl, declaration, ?_⟩
  have markup : (buildNode value).markupChars? markupDepth = .error .tooLarge := by
    rw [show buildNode value = ⟨(buildNode value).attributes, []⟩ from rfl, Node.markupChars?,
      declaration]
    rfl
  rw [compile?, Node.markup?, markup]
  rfl

end Component

end DesignCompiler
