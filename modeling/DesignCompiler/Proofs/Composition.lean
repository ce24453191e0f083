import Mathlib.Control.Monad.Basic
import Mathlib.Data.List.Forall2

/-!
Contract: what a computation made of steps that may fail tells about its steps.

Owns:
- the result of a step that does not fail;
- that all steps succeed if and only if the whole does;
- the results of one step for every entry of a list.

Does not own: which steps fail, see the modules about the readers.
-/

set_option autoImplicit false

namespace DesignCompiler

variable {ε α β : Type}

theorem ok_bind (value : α) (next : α → Except ε β) : (Except.ok value >>= next) = next value :=
  rfl

/-- The steps of a computation that succeeds. -/
theorem exists_of_bind_eq_ok {first : Except ε α} {next : α → Except ε β} {result : β}
    (bound : first >>= next = .ok result) :
    ∃ value, first = .ok value ∧ next value = .ok result := by
  cases first with
  | error fault => cases bound
  | ok value => exact ⟨value, rfl, bound⟩

theorem exists_ok_bind_iff {x : Except ε α} {f : α → Except ε β} :
    (∃ b, x >>= f = .ok b) ↔ ∃ a, x = .ok a ∧ ∃ b, f a = .ok b := by
  constructor
  · rintro ⟨b, bound⟩
    obtain ⟨a, first, last⟩ := exists_of_bind_eq_ok bound
    exact ⟨a, first, b, last⟩
  · rintro ⟨a, rfl, last⟩
    exact last

theorem exists_ok_map_iff {x : Except ε α} {f : α → β} :
    (∃ b, f <$> x = .ok b) ↔ ∃ a, x = .ok a := by
  cases x with
  | error fault => exact iff_of_false nofun nofun
  | ok a => exact iff_of_true ⟨_, rfl⟩ ⟨a, rfl⟩

/-- What is made of one part of a record is the same if this part is. -/
theorem bind_congr_of_map {γ : Type} {x y : Option α} {part : α → β}
    (same : x.map part = y.map part) (f : β → Option γ) :
    (x.bind fun record => f (part record)) = y.bind fun record => f (part record) := by
  have ofPart (z : Option α) : (z.bind fun record => f (part record)) = (z.map part).bind f := by
    cases z <;> rfl
  rw [ofPart, ofPart, same]

/-! ### Lists of results -/

variable {f : α → Option β}

private theorem mapM_cons_eq_some {x : α} {xs : List α} {y : β} {ys : List β} (first : f x = some y)
    (others : xs.mapM f = some ys) : (x :: xs).mapM f = some (y :: ys) := by
  simp [List.mapM_cons, first, others]

/-- Results that are all there stand in the order of what they are results of. -/
theorem exists_mapM_eq_some {relation : α → β → Prop} {xs : List α}
    (present : ∀ x ∈ xs, ∃ y, f x = some y ∧ relation x y) :
    ∃ ys, xs.mapM f = some ys ∧ List.Forall₂ relation xs ys := by
  induction xs with
  | nil => exact ⟨[], rfl, .nil⟩
  | cons x xs inductionHypothesis =>
      obtain ⟨y, first, related⟩ := present x List.mem_cons_self
      obtain ⟨ys, others, allRelated⟩ := inductionHypothesis
        fun other isOther => present other (List.mem_cons_of_mem x isOther)
      exact ⟨y :: ys, mapM_cons_eq_some first others, .cons related allRelated⟩

theorem mapM_eq_none {xs : List α} {x : α} (isIn : x ∈ xs) (absent : f x = none) :
    xs.mapM f = none := by
  induction isIn with
  | head xs => simp [List.mapM_cons, absent]
  | tail other _ inductionHypothesis =>
      rw [List.mapM_cons, inductionHypothesis]
      cases f other <;> rfl

end DesignCompiler
