import DesignCompiler.Proofs.Markup.Skeleton
import DesignCompiler.Proofs.Style.Channel

/-!
Contract: which parts of a tree its markup shows.

Owns:
- `Attributes.LooksLike`, the nodes whose declarations are made from the same values;
- `Node.LooksLike`, the trees whose rendered nodes look alike, and `Node.bare`, a tree without all
  that is never shown;
- the law that trees that look alike have the same markup, or the same fault.

Does not own: what the markup tells about a tree, see `DesignCompiler.Proofs.Markup.Skeleton`.
-/

set_option autoImplicit false

namespace DesignCompiler

namespace Design

/-! ### Nodes that look alike -/

def Box.size (box : Box) : Number × Number :=
  (box.width, box.height)

def Color.look (color : Color) : List Number × Number :=
  (color.channelNumbers, color.alpha)

/-- What a stroke shows: its kind, whether it is hidden, and the channels of its colour. -/
def Paint.strokeLook (paint : Paint) : String × Bool × Option (List Number) :=
  (paint.kind, paint.visible == some false, paint.color.map Color.channelNumbers)

/-- What a fill shows: its own opacity besides. -/
def Paint.fillLook (paint : Paint) : (String × Bool × Option (List Number)) × Option Number :=
  (paint.strokeLook, paint.opacity)

/-- A typography without the entries that it does not declare. -/
def TextStyle.bare (style : TextStyle) : TextStyle :=
  { style with extras := [] }

/-- The characters and the typography of a text; other kinds have neither. -/
def Kind.textLook : Kind → Option (Option String × Option TextStyle)
  | .text characters style => some (characters, style.map TextStyle.bare)
  | _ => none

/-- The fields that count inside an automatic layout agree. -/
structure Attributes.LaysOutLike (a b : Attributes) : Prop where
  primaryAlign : a.primaryAlign = b.primaryAlign
  counterAlign : a.counterAlign = b.counterAlign
  paddingLeft : a.paddingLeft = b.paddingLeft
  paddingRight : a.paddingRight = b.paddingRight
  paddingTop : a.paddingTop = b.paddingTop
  paddingBottom : a.paddingBottom = b.paddingBottom
  itemSpacing : a.itemSpacing = b.itemSpacing

/-- The visible fields of two nodes agree. -/
structure Attributes.LooksLike (a b : Attributes) : Prop where
  box : a.box.map Box.size = b.box.map Box.size
  background : a.background.map Color.look = b.background.map Color.look
  fill : a.fills.head?.map Paint.fillLook = b.fills.head?.map Paint.fillLook
  stroke : a.strokes.head?.map Paint.strokeLook = b.strokes.head?.map Paint.strokeLook
  cornerRadius : a.cornerRadius = b.cornerRadius
  opacity : a.opacity = b.opacity
  layoutMode : a.layoutMode = b.layoutMode
  layoutGrow : a.layoutGrow = b.layoutGrow
  /-- Only a node with a layout has to agree in the fields of the layout. -/
  layout : (∃ mode, a.layoutMode = some mode ∧ mode ≠ "") → a.LaysOutLike b
  text : a.kind.textLook = b.kind.textLook

/-- The rendered nodes of two trees look alike.  Nothing is asked of what is below a text that is
shown. -/
inductive Node.LooksLike : Node → Node → Prop where
  | text {a b : Attributes} {children others : List Node} {shown : String}
      (alike : a.LooksLike b) (isShown : a.kind.shownText? = some shown) :
      LooksLike ⟨a, children⟩ ⟨b, others⟩
  | tree {a b : Attributes} {children others : List Node} (alike : a.LooksLike b)
      (count : children.length = others.length)
      (each : ∀ (position : Nat) (child other : Node), children[position]? = some child →
        others[position]? = some other → LooksLike child other) :
      LooksLike ⟨a, children⟩ ⟨b, others⟩

/-! ### Declarations -/

private theorem Color.cssText?_congr {color other : Color}
    (channels : color.channelNumbers = other.channelNumbers)
    (alpha : color.alpha = other.alpha) : color.cssText? = other.cssText? := by
  simp only [channelNumbers, List.cons.injEq, and_true] at channels
  obtain ⟨red, green, blue⟩ := channels
  unfold cssText?
  rw [red, green, blue, alpha]

end Design

namespace Style

open Design

/-- Lists whose first paints look alike as strokes have a solid first paint both or neither. -/
theorem firstSolid?_cases {paints others : List Paint}
    (same : paints.head?.map Paint.strokeLook = others.head?.map Paint.strokeLook) :
    (firstSolid? paints = none ∧ firstSolid? others = none) ∨
      ∃ paint color other tint, firstSolid? paints = some (paint, color) ∧
        firstSolid? others = some (other, tint) ∧ paints.head? = some paint ∧
        others.head? = some other ∧ color.channelNumbers = tint.channelNumbers := by
  cases paints with
  | nil =>
      cases others with
      | nil => exact Or.inl ⟨rfl, rfl⟩
      | cons other rest => cases same
  | cons paint rest =>
      cases others with
      | nil => cases same
      | cons other rest' =>
          simp only [List.head?_cons, Option.map_some, Option.some.injEq, Paint.strokeLook,
            Prod.mk.injEq] at same
          obtain ⟨kind, hidden, colors⟩ := same
          have shown : paint.visible = some false ↔ other.visible = some false := by
            rw [← beq_iff_eq, hidden, beq_iff_eq]
          rw [firstSolid?, firstSolid?, kind]
          simp only [shown]
          split
          · exact Or.inl ⟨rfl, rfl⟩
          · cases ofPaint : paint.color with
            | none =>
                rw [ofPaint] at colors
                rw [Option.map_eq_none_iff.mp colors.symm]
                exact Or.inl ⟨rfl, rfl⟩
            | some color =>
                rw [ofPaint] at colors
                obtain ⟨tint, ofOther, channels⟩ := Option.map_eq_some_iff.mp colors.symm
                rw [ofOther]
                exact Or.inr ⟨paint, color, other, tint, rfl, rfl, rfl, rfl, channels.symm⟩

variable {a b : Attributes}

theorem background?_congr
    (looks : a.background.map Color.look = b.background.map Color.look)
    (fill : a.fills.head?.map Paint.fillLook = b.fills.head?.map Paint.fillLook) :
    background? a = background? b := by
  have flat : a.background.mapM Color.cssText? = b.background.mapM Color.cssText? := by
    cases ofA : a.background with
    | none =>
        rw [ofA] at looks
        rw [Option.map_eq_none_iff.mp looks.symm]
    | some color =>
        rw [ofA] at looks
        obtain ⟨other, ofB, look⟩ := Option.map_eq_some_iff.mp looks.symm
        obtain ⟨channels, alpha⟩ := Prod.mk.inj look
        rw [ofB, Option.mapM_some, Option.mapM_some, Color.cssText?_congr channels alpha]
  have strokes := congrArg (Option.map Prod.fst) fill
  rw [Option.map_map, Option.map_map] at strokes
  unfold background?
  rw [flat]
  rcases firstSolid?_cases strokes with ⟨noneA, noneB⟩ |
    ⟨paint, color, other, tint, solidA, solidB, firstA, firstB, channels⟩
  · rw [noneA, noneB]
  · rw [firstA, firstB, Option.map_some, Option.map_some, Option.some.injEq] at fill
    have opacity : paint.opacity = other.opacity := (Prod.mk.inj fill).2
    have painted : Color.cssText? { color with alpha := paint.opacity.getD 1 } =
        Color.cssText? { tint with alpha := other.opacity.getD 1 } :=
      Color.cssText?_congr channels (by rw [opacity])
    rw [solidA, solidB]
    dsimp only
    rw [painted]

theorem border?_congr
    (stroke : a.strokes.head?.map Paint.strokeLook = b.strokes.head?.map Paint.strokeLook) :
    border? a = border? b := by
  unfold border?
  rcases firstSolid?_cases stroke with ⟨noneA, noneB⟩ |
    ⟨paint, color, other, tint, solidA, solidB, -, -, channels⟩
  · rw [noneA, noneB]
  · have painted : Color.cssText? { color with alpha := 1 } =
        Color.cssText? { tint with alpha := 1 } :=
      Color.cssText?_congr channels rfl
    rw [solidA, solidB]
    dsimp only
    rw [painted]

private theorem typography?_congr (alike : a.LooksLike b) :
    (typography? a).map TextStyle.bare = (typography? b).map TextStyle.bare := by
  have texts := alike.text
  unfold typography?
  cases ofA : a.kind <;> cases ofB : b.kind <;> rw [ofA, ofB] at texts <;>
    simp_all [Kind.textLook]

/-- What is made of the typography of a node, its undeclared entries left aside, is the same. -/
theorem typography?_bind_congr {α : Type} (alike : a.LooksLike b) (f : TextStyle → Option α)
    (declared : ∀ style : TextStyle, f style.bare = f style) :
    (typography? a).bind f = (typography? b).bind f := by
  have bare (style : Option TextStyle) : style.bind f = (style.map TextStyle.bare).bind f := by
    cases style with
    | none => rfl
    | some style => exact (declared style).symm
  rw [bare, bare (typography? b), typography?_congr alike]

/-- What is made of the layout of a node is the same if it is so where there is a layout. -/
theorem layout?_bind_congr {α : Type} (alike : a.LooksLike b) {f g : String → Option α}
    (inside : a.LaysOutLike b → ∀ mode, f mode = g mode) :
    (layout? a).bind f = (layout? b).bind g := by
  have same : layout? a = layout? b := by
    unfold layout?
    rw [alike.layoutMode]
  rw [← same]
  cases layout : layout? a with
  | none => rfl
  | some mode =>
      obtain ⟨given, notEmpty⟩ := Option.filter_eq_some_iff.mp layout
      exact inside (alike.layout ⟨mode, given, by simpa using notEmpty⟩) mode

/-- A property has the same value for nodes that look alike. -/
theorem value?_congr (alike : a.LooksLike b) (property : Property) :
    property.value? a = property.value? b := by
  have size {β : Type} (f : Number × Number → β) :
      a.box.map (f ∘ Box.size) = b.box.map (f ∘ Box.size) := by
    rw [← Option.map_map, alike.box, Option.map_map]
  cases property with
  | width => exact congrArg Except.ok (size fun size => Value.text (pixels size.1))
  | height => exact congrArg Except.ok (size fun size => Value.text (pixels size.2))
  | backgroundColor =>
      rw [Property.value?, Property.value?, background?_congr alike.background alike.fill]
  | border => rw [Property.value?, Property.value?, border?_congr alike.stroke]
  | borderRadius => rw [Property.value?, Property.value?, alike.cornerRadius]
  | opacity => rw [Property.value?, Property.value?, alike.opacity]
  | flexGrow => rw [Property.value?, Property.value?, alike.layoutGrow]
  | display | flexDirection =>
      simp only [Property.value?, Option.map_eq_bind]
      exact congrArg Except.ok (layout?_bind_congr alike fun _ _ => rfl)
  | justifyContent | alignItems | paddingLeft | paddingRight | paddingTop | paddingBottom | gap =>
      simp only [Property.value?, Option.map_eq_bind]
      refine congrArg Except.ok (layout?_bind_congr alike fun inside _ => ?_)
      simp [inside.primaryAlign, inside.counterAlign, inside.paddingLeft, inside.paddingRight,
        inside.paddingTop, inside.paddingBottom, inside.itemSpacing]
  | fontSize | fontFamily | fontWeight | letterSpacing | lineHeight | textAlign =>
      simp only [Property.value?, Option.map_eq_bind]
      exact congrArg Except.ok (typography?_bind_congr alike _ fun _ => rfl)

/-- Nodes that look alike have the same declaration, or the same fault. -/
theorem declaration?_congr (alike : a.LooksLike b) : declaration? a = declaration? b := by
  have values (properties : List Property) : valuesOf a properties = valuesOf b properties := by
    induction properties with
    | nil => rfl
    | cons property rest inductionHypothesis =>
        rw [valuesOf, valuesOf, value?_congr alike, inductionHypothesis]
  exact values Property.all

end Style

/-! ### Trees -/

namespace Design

/-- The text that a node shows is one of the things in which nodes that look alike agree. -/
theorem Kind.shownText?_eq (kind : Kind) :
    kind.shownText? =
      (kind.textLook.bind Prod.fst).filter fun characters => !characters.isEmpty := by
  rcases kind with _ | _ | _ | ⟨_ | characters, style⟩ | _
  case text.some =>
    rw [shownText?, textLook, Option.bind_some, Option.filter_some]
    cases characters.isEmpty <;> rfl
  all_goals rfl

private theorem Kind.shownText?_congr {kind other : Kind} (same : kind.textLook = other.textLook) :
    kind.shownText? = other.shownText? := by
  rw [shownText?_eq, shownText?_eq, same]

namespace Node

private theorem skeletons?_of_each {children others : List Node}
    (count : children.length = others.length)
    (each : ∀ (position : Nat) (child other : Node), children[position]? = some child →
      others[position]? = some other → child.skeleton? = other.skeleton?) :
    skeletons? children = skeletons? others := by
  induction children generalizing others with
  | nil => rw [List.eq_nil_of_length_eq_zero count.symm]
  | cons child rest inductionHypothesis =>
      cases others with
      | nil => cases count
      | cons other rest' =>
          rw [skeletons?, skeletons?, each 0 child other rfl rfl,
            inductionHypothesis (Nat.succ.inj count) fun position => each (position + 1)]

/-- Trees that look alike show the same, or have the same fault. -/
theorem LooksLike.skeleton?_eq {first second : Node} (alike : first.LooksLike second) :
    first.skeleton? = second.skeleton? := by
  induction alike with
  | text alike isShown =>
      have shown := Kind.shownText?_congr alike.text
      rw [skeleton?, skeleton?, Style.declaration?_congr alike, ← shown, isShown]
  | tree alike count _ inductionHypothesis =>
      rw [skeleton?, skeleton?, Style.declaration?_congr alike,
        Kind.shownText?_congr alike.text, skeletons?_of_each count inductionHypothesis]

/-- The markup of trees that look alike is the same at every depth. -/
theorem LooksLike.markupChars?_eq {first second : Node} (alike : first.LooksLike second)
    (depth : Int) : first.markupChars? depth = second.markupChars? depth := by
  rw [Node.markupChars?_eq, Node.markupChars?_eq, alike.skeleton?_eq]

end Node

/-! ### Trees without what is never shown -/

/-- A paint of one colour without what counts neither in fills nor in strokes. -/
def Paint.bare (paint : Paint) : Paint :=
  { paint with
    color := paint.color.map fun color => { color with alpha := 1, extras := [] }
    extras := [] }

/-- A kind without the tag of what is no text. -/
def Kind.bare : Kind → Kind
  | .text characters style => .text characters (style.map TextStyle.bare)
  | _ => .other ""

/-- What a node says about itself without identifiers, names, places and undeclared entries, and
without the paints after the first. -/
def Attributes.bare (a : Attributes) : Attributes :=
  { a with
    id := ""
    name := ""
    box := a.box.map fun box => { width := box.width, height := box.height }
    background := a.background.map fun color => { color with extras := [] }
    fills := (a.fills.take 1).map Paint.bare
    strokes := (a.strokes.take 1).map fun paint => { paint.bare with opacity := none }
    kind := a.kind.bare
    extras := [] }

mutual

/-- A tree whose nodes are bare and whose texts have no children. -/
def Node.bare : Node → Node
  | ⟨a, children⟩ => ⟨a.bare, if a.kind.shownText?.isSome then [] else Node.bareOf children⟩

def Node.bareOf : List Node → List Node
  | [] => []
  | node :: rest => Node.bare node :: Node.bareOf rest

end

private theorem Node.bareOf_eq_map (nodes : List Node) :
    Node.bareOf nodes = nodes.map Node.bare := by
  induction nodes with
  | nil => rfl
  | cons node rest inductionHypothesis =>
      rw [Node.bareOf, inductionHypothesis, List.map_cons]

private theorem Paint.strokeLook_bare (paint : Paint) :
    paint.bare.strokeLook = paint.strokeLook := by
  unfold strokeLook bare
  rw [Option.map_map]
  rfl

private theorem Attributes.looksLike_bare (a : Attributes) : a.LooksLike a.bare where
  box := by
    show _ = (a.box.map _).map Box.size
    rw [Option.map_map]
    rfl
  background := by
    show _ = (a.background.map _).map Color.look
    rw [Option.map_map]
    rfl
  fill := by
    show _ = ((a.fills.take 1).map Paint.bare).head?.map Paint.fillLook
    cases a.fills with
    | nil => rfl
    | cons paint rest =>
        exact congrArg (fun look => some (look, paint.opacity)) paint.strokeLook_bare.symm
  stroke := by
    show _ = ((a.strokes.take 1).map _).head?.map Paint.strokeLook
    cases a.strokes with
    | nil => rfl
    | cons paint rest => exact congrArg some paint.strokeLook_bare.symm
  cornerRadius := rfl
  opacity := rfl
  layoutMode := rfl
  layoutGrow := rfl
  layout _ := ⟨rfl, rfl, rfl, rfl, rfl, rfl, rfl⟩
  text := by
    show a.kind.textLook = a.kind.bare.textLook
    cases a.kind with
    | text characters style =>
        show some (characters, _) = some (characters, (style.map TextStyle.bare).map TextStyle.bare)
        rw [Option.map_map]
        rfl
    | _ => rfl

private theorem Node.looksLike_bare (node : Node) : node.LooksLike node.bare := by
  induction node using Node.induction with
  | node a children inductionHypothesis =>
      rw [bare]
      cases shown : a.kind.shownText? with
      | some text => exact .text a.looksLike_bare shown
      | none =>
          rw [bareOf_eq_map]
          refine .tree a.looksLike_bare (by simp) ?_
          intro position child other isChild isOther
          rw [Option.isSome_none, if_neg Bool.false_ne_true, List.getElem?_map, isChild] at isOther
          obtain rfl := Option.some.inj isOther
          exact inductionHypothesis child (List.mem_of_getElem? isChild)

/-- Trees whose visible fields agree in all rendered nodes have the same markup, or the same fault.
Whatever a bare tree lacks is never shown. -/
theorem Node.same_markup_of_looksLike (depth : Int) :
    (∀ first second : Node, first.LooksLike second →
      first.markup? depth = second.markup? depth) ∧
    ∀ root : Node, root.bare.markup? depth = root.markup? depth := by
  have same (first second : Node) (alike : first.LooksLike second) :
      first.markup? depth = second.markup? depth := by
    rw [markup?, markup?, alike.markupChars?_eq depth]
  exact ⟨same, fun root => (same root root.bare root.looksLike_bare).symm⟩

/-- A frame and a vector that look alike: they differ in names, places, opacities of colours,
later paints, paddings without a layout, and in what is below a text. -/
theorem Node.same_markup_of_frame_and_vector :
    let blue (alpha : Number) : Option Color := some { blue := 1, alpha }
    let style : TextStyle := { fontSize := some (.int 12) }
    let text (children : List Node) : Node := ⟨{ kind := .text (some "a") (some style) }, children⟩
    let first : Node :=
      ⟨{ id := "1:2", name := "card",
         box := some { x := .int 4, width := .int 10, height := .int 20 },
         fills := [{ kind := "SOLID", color := blue 0 }],
         strokes := [{ kind := "SOLID", color := blue 1, opacity := some 0 }],
         paddingLeft := some (.int 8), kind := .frame }, [text []]⟩
    let second : Node :=
      ⟨{ box := some { width := .int 10, height := .int 20, extras := [("z", .null)] },
         fills := [{ kind := "SOLID", visible := some true, color := blue 1 }, {}],
         strokes := [{ kind := "SOLID", color := blue 0 }],
         kind := .other "VECTOR" }, [text [text []]]⟩
    first.LooksLike second ∧ first.markup? 2 = second.markup? 2 ∧
      ∃ markup, first.markup? 2 = .ok markup := by
  intro blue style text first second
  have alike : first.LooksLike second := by
    refine .tree ⟨rfl, rfl, rfl, rfl, rfl, rfl, rfl, rfl, ?_, rfl⟩ rfl ?_
    · rintro ⟨mode, given, -⟩
      cases given
    · rintro (_ | position) child other isChild isOther
      · cases isChild
        cases isOther
        exact .text ⟨rfl, rfl, rfl, rfl, rfl, rfl, rfl, rfl,
          fun _ => ⟨rfl, rfl, rfl, rfl, rfl, rfl, rfl⟩, rfl⟩ rfl
      · cases isChild
  have isMade : (first.markup? 2).toOption.isSome = true := by decide +kernel
  refine ⟨alike, (Node.same_markup_of_looksLike 2).1 first second alike, ?_⟩
  cases made : first.markup? 2 with
  | ok markup => exact ⟨markup, rfl⟩
  | error fault =>
      rw [made] at isMade
      cases isMade

end Design

end DesignCompiler
