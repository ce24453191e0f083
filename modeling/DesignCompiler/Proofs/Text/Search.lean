import DesignCompiler.Text.Search
import Mathlib.Data.List.Infix

/-!
Contract: searching a text for the first place where a partial reader finds something.

Owns:
- the search behind a beginning in which nothing is found;
- the law that nothing is found if and only if the reader fails at every place, and that whatever is
  found is found at a place.

Does not own: the readers, see `DesignCompiler.Proofs.Figma.Link` and
`DesignCompiler.Proofs.Completion.CodeBlock`.
-/

set_option autoImplicit false

namespace DesignCompiler.Text

variable {α : Type} {reader : List Char → Option α}

theorem firstMatch?_of_eq_some {cs : List Char} {found : α} (here : reader cs = some found) :
    firstMatch? reader cs = some found := by
  cases cs with
  | nil => exact here
  | cons c rest => rw [firstMatch?, here]

theorem firstMatch?_cons_of_eq_none {c : Char} {rest : List Char}
    (notHere : reader (c :: rest) = none) :
    firstMatch? reader (c :: rest) = firstMatch? reader rest := by
  rw [firstMatch?, notHere]

/-- A beginning is passed over if the reader fails at each of its places. -/
theorem firstMatch?_append {before rest : List Char}
    (nowhere : ∀ place, place ≠ [] → place <:+ before → reader (place ++ rest) = none) :
    firstMatch? reader (before ++ rest) = firstMatch? reader rest := by
  induction before with
  | nil => rfl
  | cons c before inductionHypothesis =>
      have notHere : reader (c :: (before ++ rest)) = none :=
        nowhere (c :: before) (List.cons_ne_nil c before) (List.suffix_refl _)
      rw [List.cons_append, firstMatch?_cons_of_eq_none notHere]
      apply inductionHypothesis
      intro place notEmpty within
      exact nowhere place notEmpty (within.trans (List.suffix_cons c before))

theorem exists_suffix_of_firstMatch? {cs : List Char} {found : α}
    (first : firstMatch? reader cs = some found) :
    ∃ place, place <:+ cs ∧ reader place = some found := by
  induction cs with
  | nil => exact ⟨[], List.suffix_refl [], first⟩
  | cons c rest inductionHypothesis =>
      cases here : reader (c :: rest) with
      | some other =>
          rw [firstMatch?_of_eq_some here] at first
          exact ⟨c :: rest, List.suffix_refl _, here.trans first⟩
      | none =>
          rw [firstMatch?_cons_of_eq_none here] at first
          obtain ⟨place, within, found⟩ := inductionHypothesis first
          exact ⟨place, within.trans (List.suffix_cons c rest), found⟩

theorem firstMatch?_eq_none_iff {cs : List Char} :
    firstMatch? reader cs = none ↔ ∀ place, place <:+ cs → reader place = none := by
  induction cs with
  | nil => simp [firstMatch?]
  | cons c rest inductionHypothesis =>
      constructor
      · intro nothing place within
        cases here : reader (c :: rest) with
        | some found =>
            rw [firstMatch?_of_eq_some here] at nothing
            cases nothing
        | none =>
            rw [firstMatch?_cons_of_eq_none here] at nothing
            rcases List.suffix_cons_iff.mp within with rfl | within
            · exact here
            · exact inductionHypothesis.mp nothing place within
      · intro nowhere
        rw [firstMatch?_cons_of_eq_none (nowhere _ (List.suffix_refl _))]
        apply inductionHypothesis.mpr
        intro place within
        exact nowhere place (within.trans (List.suffix_cons c rest))

end DesignCompiler.Text
