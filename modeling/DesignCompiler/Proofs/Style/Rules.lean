import DesignCompiler.Proofs.Composition
import DesignCompiler.Proofs.Markup.Visibility
import Mathlib.Data.List.Basic

/-!
Contract: the rules by which a node gets its style declaration.

Owns:
- `Declares`, the rules: which value a property has for a node, if it has one;
- `Property.SameSource`, the fields of a node from which a property is made;
- the law that a declaration holds what the rules say in a fixed order, and that the fields of one
  property change no other.

Does not own: the texts of numbers and colours, nor which nodes have a declaration, see
`DesignCompiler.Proofs.Style.Channel`.
-/

set_option autoImplicit false

namespace DesignCompiler

namespace Design

/-- A paint shows a colour: it is not hidden, solid and has this colour. -/
structure Paint.Shows (paint : Paint) (color : Color) : Prop where
  notHidden : paint.visible ≠ some false
  solid : paint.kind = "SOLID"
  colored : paint.color = some color

def Attributes.HasLayout (a : Attributes) : Prop :=
  ∃ mode, a.layoutMode = some mode ∧ mode ≠ ""

def Attributes.HasTypography (a : Attributes) (style : TextStyle) : Prop :=
  ∃ characters, a.kind = .text characters (some style)

end Design

namespace Style

open Design

/-! ### Rules -/

/-- The length of which a property is made.  Paddings and gaps count in a layout only. -/
def Property.lengthField? (a : Attributes) : Property → Option Number
  | .borderRadius => a.cornerRadius
  | .paddingLeft => (layout? a).bind fun _ => a.paddingLeft
  | .paddingRight => (layout? a).bind fun _ => a.paddingRight
  | .paddingTop => (layout? a).bind fun _ => a.paddingTop
  | .paddingBottom => (layout? a).bind fun _ => a.paddingBottom
  | .gap => (layout? a).bind fun _ => a.itemSpacing
  | .fontSize => (typography? a).bind TextStyle.fontSize
  | .letterSpacing => (typography? a).bind TextStyle.letterSpacing
  | .lineHeight => (typography? a).bind TextStyle.lineHeight
  | _ => none

/-- The rules of style declarations. -/
inductive Declares (a : Attributes) : Property → Value → Prop where
  | width {box : Box} (isBox : a.box = some box) : Declares a .width (.text (pixels box.width))
  | height {box : Box} (isBox : a.box = some box) : Declares a .height (.text (pixels box.height))
  /-- The background colour, where no fill is painted over it. -/
  | flat {color : Color} {text : String}
      (noFill : ∀ paint tint, a.fills.head? = some paint → ¬ paint.Shows tint)
      (isBackground : a.background = some color) (written : color.cssText? = .ok text) :
      Declares a .backgroundColor (.text text)
  /-- The first fill, with its own opacity in the place of that of its colour. -/
  | painted {paint : Paint} {color : Color} {text : String}
      (isFirst : a.fills.head? = some paint) (shows : paint.Shows color)
      (written : Color.cssText? { color with alpha := paint.opacity.getD 1 } = .ok text) :
      Declares a .backgroundColor (.text text)
  /-- A length that is not zero. -/
  | length {property : Property} {n : Number} (isLength : property.lengthField? a = some n)
      (nonzero : n.isZero = false) : Declares a property (.text (pixels n))
  /-- The first stroke, which is never transparent. -/
  | outlined {paint : Paint} {color : Color} {text : String}
      (isFirst : a.strokes.head? = some paint) (shows : paint.Shows color)
      (written : Color.cssText? { color with alpha := 1 } = .ok text) :
      Declares a .border (.text ("1px solid " ++ text))
  | translucent {n : Number} (isOpacity : a.opacity = some n) (below : n.lt 1 = true) :
      Declares a .opacity (.number n.plain)
  | display (layout : a.HasLayout) : Declares a .display (.text "flex")
  | row (isRow : a.layoutMode = some "HORIZONTAL") : Declares a .flexDirection (.text "row")
  | column (layout : a.HasLayout) (noRow : a.layoutMode ≠ some "HORIZONTAL") :
      Declares a .flexDirection (.text "column")
  | primary (layout : a.HasLayout) :
      Declares a .justifyContent (choice primaryAlignment a.primaryAlign "flex-start")
  | counter (layout : a.HasLayout) :
      Declares a .alignItems (choice counterAlignment a.counterAlign "flex-start")
  | grow {n : Number} (isGrow : a.layoutGrow = some n) (positive : Number.lt 0 n = true) :
      Declares a .flexGrow (.number n.plain)
  | family {style : TextStyle} {family : String} (typed : a.HasTypography style)
      (isFamily : style.fontFamily = some family) (named : family ≠ "") :
      Declares a .fontFamily (.text family)
  | weight {style : TextStyle} {n : Number} (typed : a.HasTypography style)
      (isWeight : style.fontWeight = some n) (nonzero : n.isZero = false) :
      Declares a .fontWeight (.number n.plain)
  | textAlign {style : TextStyle} (typed : a.HasTypography style) :
      Declares a .textAlign (choice textAlignment style.align "left")

/-- The fields agree from which a property is made. -/
def Property.SameSource (a b : Attributes) : Property → Prop
  | .width => a.box.map Box.width = b.box.map Box.width
  | .height => a.box.map Box.height = b.box.map Box.height
  | .backgroundColor => a.background.map Color.look = b.background.map Color.look ∧
      a.fills.head?.map Paint.fillLook = b.fills.head?.map Paint.fillLook
  | .borderRadius => a.cornerRadius = b.cornerRadius
  | .border => a.strokes.head?.map Paint.strokeLook = b.strokes.head?.map Paint.strokeLook
  | .opacity => a.opacity = b.opacity
  | .display | .flexDirection => a.layoutMode = b.layoutMode
  | .justifyContent => a.layoutMode = b.layoutMode ∧ a.primaryAlign = b.primaryAlign
  | .alignItems => a.layoutMode = b.layoutMode ∧ a.counterAlign = b.counterAlign
  | .paddingLeft => a.layoutMode = b.layoutMode ∧ a.paddingLeft = b.paddingLeft
  | .paddingRight => a.layoutMode = b.layoutMode ∧ a.paddingRight = b.paddingRight
  | .paddingTop => a.layoutMode = b.layoutMode ∧ a.paddingTop = b.paddingTop
  | .paddingBottom => a.layoutMode = b.layoutMode ∧ a.paddingBottom = b.paddingBottom
  | .gap => a.layoutMode = b.layoutMode ∧ a.itemSpacing = b.itemSpacing
  | .flexGrow => a.layoutGrow = b.layoutGrow
  | .fontSize => (typography? a).map TextStyle.fontSize = (typography? b).map TextStyle.fontSize
  | .fontFamily =>
      (typography? a).map TextStyle.fontFamily = (typography? b).map TextStyle.fontFamily
  | .fontWeight =>
      (typography? a).map TextStyle.fontWeight = (typography? b).map TextStyle.fontWeight
  | .letterSpacing =>
      (typography? a).map TextStyle.letterSpacing = (typography? b).map TextStyle.letterSpacing
  | .lineHeight =>
      (typography? a).map TextStyle.lineHeight = (typography? b).map TextStyle.lineHeight
  | .textAlign => (typography? a).map TextStyle.align = (typography? b).map TextStyle.align

/-! ### The parts of a node -/

variable {a b : Attributes}

theorem firstSolid?_eq_some_iff {paints : List Paint} {paint : Paint} {color : Color} :
    firstSolid? paints = some (paint, color) ↔ paints.head? = some paint ∧ paint.Shows color := by
  cases paints with
  | nil => simp [firstSolid?]
  | cons first rest =>
      rw [firstSolid?, List.head?_cons, Option.some.injEq]
      split
      next hidden =>
        constructor
        · intro isPaint
          cases isPaint
        · rintro ⟨rfl, shows⟩
          rcases hidden with invisible | patterned
          · exact absurd invisible shows.notHidden
          · exact absurd shows.solid patterned
      next shown =>
        rw [not_or, not_not] at shown
        rw [Option.map_eq_some_iff]
        constructor
        · rintro ⟨tint, colored, same⟩
          obtain ⟨rfl, rfl⟩ := Prod.mk.inj same
          exact ⟨rfl, shown.1, shown.2, colored⟩
        · rintro ⟨rfl, shows⟩
          exact ⟨color, shows.colored, rfl⟩

theorem firstSolid?_eq_none_iff {paints : List Paint} :
    firstSolid? paints = none ↔
      ∀ paint color, paints.head? = some paint → ¬ paint.Shows color := by
  rw [Option.eq_none_iff_forall_ne_some, Prod.forall]
  simp only [ne_eq, firstSolid?_eq_some_iff, not_and]

theorem layout?_eq_some_iff {mode : String} :
    layout? a = some mode ↔ a.layoutMode = some mode ∧ mode ≠ "" := by
  unfold layout?
  rw [Option.filter_eq_some_iff]
  simp

theorem hasLayout_iff : a.HasLayout ↔ ∃ mode, layout? a = some mode := by
  simp only [Attributes.HasLayout, layout?_eq_some_iff]

theorem typography?_eq_some_iff {style : TextStyle} :
    typography? a = some style ↔ a.HasTypography style := by
  unfold typography? Attributes.HasTypography
  cases a.kind <;> simp

/-! ### Values -/

/-- A background that exists is the first fill that is shown, or else the background colour. -/
theorem background?_cases {background : Option String} (found : background? a = .ok background) :
    (firstSolid? a.fills = none ∧ a.background.mapM Color.cssText? = .ok background) ∨
      ∃ paint color text, firstSolid? a.fills = some (paint, color) ∧
        Color.cssText? { color with alpha := paint.opacity.getD 1 } = .ok text ∧
        background = some text := by
  unfold background? at found
  obtain ⟨flat, isFlat, rest⟩ := exists_of_bind_eq_ok found
  cases solid : firstSolid? a.fills with
  | none =>
      rw [solid] at rest
      obtain rfl := Except.ok.inj rest
      exact Or.inl ⟨rfl, isFlat⟩
  | some painted =>
      obtain ⟨paint, color⟩ := painted
      rw [solid] at rest
      obtain ⟨text, written, last⟩ := exists_of_bind_eq_ok rest
      exact Or.inr ⟨paint, color, text, rfl, written, (Except.ok.inj last).symm⟩

theorem mapM_cssText?_eq_ok_some_iff {color : Option Color} {text : String} :
    color.mapM Color.cssText? = .ok (some text) ↔ ∃ c, color = some c ∧ c.cssText? = .ok text := by
  cases color with
  | none =>
      constructor
      · intro isText
        cases isText
      · rintro ⟨c, isColor, -⟩
        cases isColor
  | some c =>
      rw [Option.mapM_some]
      cases written : c.cssText? <;> simp [written]

/-- The first paint has one colour at most. -/
theorem eq_of_firstSolid? {paints : List Paint} {paint other : Paint} {color tint : Color}
    (solid : firstSolid? paints = some (paint, color)) (isFirst : paints.head? = some other)
    (shows : other.Shows tint) : other = paint ∧ tint = color := by
  rw [firstSolid?_eq_some_iff.mpr ⟨isFirst, shows⟩] at solid
  exact Prod.mk.inj (Option.some.inj solid)

theorem declares_background_iff {background : Option String}
    (found : background? a = .ok background) {value : Value} :
    Declares a .backgroundColor value ↔ background.map Value.text = some value := by
  rcases background?_cases found with ⟨unpainted, flat⟩ | ⟨paint, color, text, solid, written, rfl⟩
  · have noFill := firstSolid?_eq_none_iff.mp unpainted
    constructor
    · rintro (_ | _ | ⟨-, isBackground, written⟩ | ⟨isFirst, shows, -⟩ | ⟨isLength, -⟩)
      · rw [mapM_cssText?_eq_ok_some_iff.mpr ⟨_, isBackground, written⟩] at flat
        obtain rfl := Except.ok.inj flat
        rfl
      · exact absurd shows (noFill _ _ isFirst)
      · cases isLength
    · intro isValue
      obtain ⟨text, rfl, rfl⟩ := Option.map_eq_some_iff.mp isValue
      obtain ⟨color, isBackground, written⟩ := mapM_cssText?_eq_ok_some_iff.mp flat
      exact .flat noFill isBackground written
  · obtain ⟨isFirst, shows⟩ := firstSolid?_eq_some_iff.mp solid
    constructor
    · rintro (_ | _ | ⟨noFill, -, -⟩ | ⟨isOther, otherShows, otherWritten⟩ | ⟨isLength, -⟩)
      · exact absurd shows (noFill paint color isFirst)
      · obtain ⟨rfl, rfl⟩ := eq_of_firstSolid? solid isOther otherShows
        obtain rfl := Except.ok.inj (written.symm.trans otherWritten)
        rfl
      · cases isLength
    · rintro ⟨⟩
      exact .painted isFirst shows written

theorem declares_border_iff {border : Option String} (found : border? a = .ok border)
    {value : Value} : Declares a .border value ↔ border.map Value.text = some value := by
  unfold border? at found
  cases solid : firstSolid? a.strokes with
  | none =>
      rw [solid] at found
      obtain rfl := Except.ok.inj found
      constructor
      · rintro (_ | _ | _ | _ | ⟨isLength, -⟩ | ⟨isFirst, shows, -⟩)
        · cases isLength
        · exact absurd shows (firstSolid?_eq_none_iff.mp solid _ _ isFirst)
      · intro isValue
        cases isValue
  | some painted =>
      obtain ⟨paint, color⟩ := painted
      rw [solid] at found
      obtain ⟨text, written, last⟩ := exists_of_bind_eq_ok found
      obtain rfl := Except.ok.inj last
      obtain ⟨isFirst, shows⟩ := firstSolid?_eq_some_iff.mp solid
      constructor
      · rintro (_ | _ | _ | _ | ⟨isLength, -⟩ | ⟨isOther, otherShows, otherWritten⟩)
        · cases isLength
        · obtain ⟨rfl, rfl⟩ := eq_of_firstSolid? solid isOther otherShows
          obtain rfl := Except.ok.inj (written.symm.trans otherWritten)
          rfl
      · rintro ⟨⟩
        exact .outlined isFirst shows written

theorem length?_eq_some_iff {n : Option Number} {value : Value} :
    length? n = some value ↔ ∃ m, n = some m ∧ m.isZero = false ∧ .text (pixels m) = value := by
  unfold length?
  rw [Option.map_eq_some_iff]
  simp only [Option.filter_eq_some_iff, Bool.not_eq_true', and_assoc]

private theorem length?_bind {α : Type} (part : Option α) (field : α → Option Number) :
    (part.bind fun inner => length? (field inner)) = length? (part.bind field) := by
  cases part <;> rfl

/-- A property that is made of a length has the value of this length. -/
theorem Property.value?_of_length {property : Property} {n : Number}
    (isLength : property.lengthField? a = some n) :
    property.value? a = .ok (length? (property.lengthField? a)) := by
  cases property <;> first
    | rfl
    | exact congrArg Except.ok (length?_bind _ _)
    | cases isLength

variable {property : Property} {value : Value}

private theorem value?_backgroundColor (declares : Declares a .backgroundColor value)
    (declared : ∃ found, Property.value? a .backgroundColor = .ok found) :
    Property.value? a .backgroundColor = .ok (some value) := by
  obtain ⟨found, isValue⟩ := declared
  obtain ⟨background, isFound, -⟩ := exists_of_bind_eq_ok isValue
  rw [Property.value?, isFound, ok_bind, (declares_background_iff isFound).mp declares]

private theorem value?_border (declares : Declares a .border value)
    (declared : ∃ found, Property.value? a .border = .ok found) :
    Property.value? a .border = .ok (some value) := by
  obtain ⟨found, isValue⟩ := declared
  obtain ⟨border, isFound, -⟩ := exists_of_bind_eq_ok isValue
  rw [Property.value?, isFound, ok_bind, (declares_border_iff isFound).mp declares]

theorem Declares.value?_eq (declares : Declares a property value)
    (declared : ∃ found, property.value? a = .ok found) :
    property.value? a = .ok (some value) := by
  cases declares with
  | width isBox | height isBox => rw [Property.value?, isBox, Option.map_some]
  | flat noFill isBackground written =>
      exact value?_backgroundColor (.flat noFill isBackground written) declared
  | painted isFirst shows written =>
      exact value?_backgroundColor (.painted isFirst shows written) declared
  | length isLength nonzero =>
      rw [Property.value?_of_length isLength,
        length?_eq_some_iff.mpr ⟨_, isLength, nonzero, rfl⟩]
  | outlined isFirst shows written => exact value?_border (.outlined isFirst shows written) declared
  | translucent isOpacity below =>
      rw [Property.value?, isOpacity, Option.filter_some, if_pos below, Option.map_some]
  | display layout | primary layout | counter layout =>
      obtain ⟨mode, isMode⟩ := hasLayout_iff.mp layout
      rw [Property.value?, isMode, Option.map_some]
  | row isRow =>
      have isMode : layout? a = some "HORIZONTAL" := layout?_eq_some_iff.mpr ⟨isRow, by decide⟩
      rw [Property.value?, isMode, Option.map_some, if_pos rfl]
  | column layout noRow =>
      obtain ⟨mode, isMode⟩ := hasLayout_iff.mp layout
      have noRow : mode ≠ "HORIZONTAL" := by
        rintro rfl
        exact noRow (layout?_eq_some_iff.mp isMode).1
      rw [Property.value?, isMode, Option.map_some, if_neg noRow]
  | grow isGrow positive =>
      rw [Property.value?, isGrow, Option.filter_some, if_pos positive, Option.map_some]
  | family typed isFamily named =>
      have isText := typography?_eq_some_iff.mpr typed
      rw [Property.value?, isText, Option.bind_some, isFamily, Option.filter_some,
        if_pos (by simpa using named), Option.map_some]
  | weight typed isWeight nonzero =>
      have isText := typography?_eq_some_iff.mpr typed
      rw [Property.value?, isText, Option.bind_some, isWeight, weight?, Option.filter_some,
        if_pos (by simpa using nonzero), Option.map_some]
  | textAlign typed =>
      rw [Property.value?, typography?_eq_some_iff.mpr typed, Option.map_some]

private theorem declares_of_length
    (isLength : property.value? a = .ok (length? (property.lengthField? a)))
    (isValue : property.value? a = .ok (some value)) : Declares a property value := by
  rw [isLength] at isValue
  obtain ⟨n, isField, nonzero, rfl⟩ := length?_eq_some_iff.mp (Except.ok.inj isValue)
  exact .length isField nonzero

private theorem declares_of_value? (isValue : property.value? a = .ok (some value)) :
    Declares a property value := by
  cases property with
  | width | height =>
      obtain ⟨box, isBox, rfl⟩ := Option.map_eq_some_iff.mp (Except.ok.inj isValue)
      constructor
      exact isBox
  | backgroundColor =>
      obtain ⟨background, isFound, same⟩ := exists_of_bind_eq_ok isValue
      exact (declares_background_iff isFound).mpr (Except.ok.inj same)
  | border =>
      obtain ⟨border, isFound, same⟩ := exists_of_bind_eq_ok isValue
      exact (declares_border_iff isFound).mpr (Except.ok.inj same)
  | borderRadius => exact declares_of_length rfl isValue
  | paddingLeft | paddingRight | paddingTop | paddingBottom | gap | fontSize | letterSpacing
  | lineHeight =>
      exact declares_of_length (congrArg Except.ok (length?_bind _ _)) isValue
  | opacity =>
      obtain ⟨n, isKept, rfl⟩ := Option.map_eq_some_iff.mp (Except.ok.inj isValue)
      obtain ⟨isOpacity, below⟩ := Option.filter_eq_some_iff.mp isKept
      exact .translucent isOpacity below
  | flexGrow =>
      obtain ⟨n, isKept, rfl⟩ := Option.map_eq_some_iff.mp (Except.ok.inj isValue)
      obtain ⟨isGrow, positive⟩ := Option.filter_eq_some_iff.mp isKept
      exact .grow isGrow positive
  | display | justifyContent | alignItems =>
      obtain ⟨mode, isMode, rfl⟩ := Option.map_eq_some_iff.mp (Except.ok.inj isValue)
      constructor
      exact hasLayout_iff.mpr ⟨mode, isMode⟩
  | flexDirection =>
      obtain ⟨mode, isMode, rfl⟩ := Option.map_eq_some_iff.mp (Except.ok.inj isValue)
      have given := (layout?_eq_some_iff.mp isMode).1
      split
      next isRow => exact .row (isRow ▸ given)
      next noRow =>
        refine .column (hasLayout_iff.mpr ⟨mode, isMode⟩) fun isRow => noRow ?_
        exact Option.some.inj (given.symm.trans isRow)
  | fontFamily =>
      obtain ⟨style, isText, found⟩ := Option.bind_eq_some_iff.mp (Except.ok.inj isValue)
      obtain ⟨family, isKept, rfl⟩ := Option.map_eq_some_iff.mp found
      obtain ⟨isFamily, named⟩ := Option.filter_eq_some_iff.mp isKept
      exact .family (typography?_eq_some_iff.mp isText) isFamily (by simpa using named)
  | fontWeight =>
      obtain ⟨style, isText, found⟩ := Option.bind_eq_some_iff.mp (Except.ok.inj isValue)
      obtain ⟨n, isKept, rfl⟩ := Option.map_eq_some_iff.mp found
      obtain ⟨isWeight, nonzero⟩ := Option.filter_eq_some_iff.mp isKept
      exact .weight (typography?_eq_some_iff.mp isText) isWeight (by simpa using nonzero)
  | textAlign =>
      obtain ⟨style, isText, rfl⟩ := Option.map_eq_some_iff.mp (Except.ok.inj isValue)
      exact .textAlign (typography?_eq_some_iff.mp isText)

/-- A property of nodes that agree in its source has the same value, or the same fault. -/
theorem Property.SameSource.value?_eq (same : property.SameSource a b) :
    property.value? a = property.value? b := by
  have layout (sameMode : a.layoutMode = b.layoutMode) : layout? a = layout? b := by
    rw [layout?, layout?, sameMode]
  cases property with
  | width | height =>
      have size := congrArg (Option.map fun n => Value.text (pixels n)) same
      rw [Option.map_map, Option.map_map] at size
      exact congrArg Except.ok size
  | backgroundColor => rw [value?, value?, background?_congr same.1 same.2]
  | border => rw [value?, value?, border?_congr same]
  | borderRadius | opacity | flexGrow =>
      unfold SameSource at same
      rw [value?, value?, same]
  | display | flexDirection => rw [value?, value?, layout same]
  | justifyContent | alignItems | paddingLeft | paddingRight | paddingTop | paddingBottom | gap =>
      rw [value?, value?, layout same.1, same.2]
  | fontSize | fontWeight | letterSpacing | lineHeight =>
      exact congrArg Except.ok (bind_congr_of_map same _)
  | fontFamily =>
      exact congrArg Except.ok (bind_congr_of_map same fun family =>
        (family.filter fun name => !name.isEmpty).map Value.text)
  | textAlign =>
      have aligned := congrArg (Option.map fun align => choice textAlignment align "left") same
      rw [Option.map_map, Option.map_map] at aligned
      exact congrArg Except.ok aligned

/-! ### Declarations -/

def Property.pair? (a : Attributes) (property : Property) : Option (Property × Value) :=
  (property.value? a).toOption.join.map (property, ·)

private theorem valuesOf_eq_filterMap {properties : List Property} {declaration : Declaration}
    (declared : valuesOf a properties = .ok declaration) :
    declaration = properties.filterMap (Property.pair? a) := by
  induction properties generalizing declaration with
  | nil => exact (Except.ok.inj declared).symm
  | cons first rest inductionHypothesis =>
      obtain ⟨found, isValue, others⟩ := exists_of_bind_eq_ok declared
      obtain ⟨values, areValues, last⟩ := exists_of_bind_eq_ok others
      obtain rfl := Except.ok.inj last
      rw [List.filterMap_cons, Property.pair?, isValue, ← inductionHypothesis areValues]
      cases found <;> rfl

variable {declaration : Declaration}

private theorem Property.mem_all (property : Property) : property ∈ Property.all := by
  cases property <;> decide

private theorem exists_value? (declared : declaration? a = .ok declaration) (property : Property) :
    ∃ found, property.value? a = .ok found :=
  (exists_valuesOf_iff a Property.all).mp ⟨declaration, declared⟩ property property.mem_all

theorem mem_declaration_iff (declared : declaration? a = .ok declaration) (property : Property)
    (value : Value) : (property, value) ∈ declaration ↔ Declares a property value := by
  obtain ⟨found, isValue⟩ := exists_value? declared property
  rw [valuesOf_eq_filterMap declared, List.mem_filterMap]
  constructor
  · rintro ⟨other, -, isEntry⟩
    obtain ⟨shown, isShown, same⟩ := Option.map_eq_some_iff.mp isEntry
    obtain ⟨rfl, rfl⟩ := Prod.mk.inj same
    rw [isValue] at isShown
    obtain rfl := isShown
    exact declares_of_value? isValue
  · intro declares
    refine ⟨property, property.mem_all, ?_⟩
    rw [Property.pair?, declares.value?_eq ⟨found, isValue⟩]
    rfl

/-- The properties of a declaration are those that have a value, in the order of all properties. -/
theorem map_fst_declaration (declared : declaration? a = .ok declaration) :
    declaration.map Prod.fst = Property.all.filter fun property => (property.pair? a).isSome := by
  rw [valuesOf_eq_filterMap declared, List.map_filterMap, ← List.filterMap_eq_filter]
  refine List.filterMap_congr fun property _ => ?_
  rw [Property.pair?]
  cases isValue : (property.value? a).toOption.join <;> simp [Option.guard, Property.pair?, isValue]

/-- The typography of a text that was read. -/
theorem read?_of_hasTypography {fields : Fields} {style : TextStyle}
    (typed : (readAttributes fields).HasTypography style) :
    (field? fields "style").bind TextStyle.read? = some style := by
  obtain ⟨characters, isText⟩ := typed
  replace isText : readKind fields = .text characters (some style) := isText
  unfold readKind at isText
  split at isText
  all_goals first
    | exact (Kind.text.inj isText).2
    | cases isText

/-- The names of the properties in the order in which they are declared. -/
def vocabulary : List String :=
  ["width", "height", "backgroundColor", "borderRadius", "border", "opacity", "display",
   "flexDirection", "justifyContent", "alignItems", "paddingLeft", "paddingRight", "paddingTop",
   "paddingBottom", "gap", "flexGrow", "fontSize", "fontFamily", "fontWeight", "letterSpacing",
   "lineHeight", "textAlign"]

private theorem map_name_all : Property.all.map Property.name = vocabulary :=
  rfl

private theorem map_fst_toFields (declaration : Declaration) :
    declaration.toFields.map Prod.fst = (declaration.map Prod.fst).map Property.name := by
  simp [Declaration.toFields]

theorem has_toFields_iff : declaration.toFields.has property.name = true ↔
    property ∈ declaration.map Prod.fst := by
  rw [Fields.has_eq_true_iff_mem, map_fst_toFields,
    List.mem_map_of_injective Property.name_injective]

/-- The keys of a declaration are the vocabulary without the keys that are absent. -/
theorem map_fst_toFields_eq_filter (declared : declaration? a = .ok declaration) :
    declaration.toFields.map Prod.fst = vocabulary.filter declaration.toFields.has := by
  have present : (fun property : Property => (property.pair? a).isSome) =
      declaration.toFields.has ∘ Property.name := by
    funext property
    rw [Function.comp_apply, Bool.eq_iff_iff, has_toFields_iff, map_fst_declaration declared,
      List.mem_filter]
    simp [property.mem_all]
  rw [← map_name_all, List.filter_map, ← present, ← map_fst_declaration declared, map_fst_toFields]

/-- No key is declared twice. -/
theorem nodup_keys (declared : declaration? a = .ok declaration) :
    (declaration.toFields.map Prod.fst).Nodup := by
  have distinct : vocabulary.Nodup := by decide
  rw [map_fst_toFields_eq_filter declared]
  exact distinct.filter _

end Style

end DesignCompiler
