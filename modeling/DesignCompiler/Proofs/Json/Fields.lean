import DesignCompiler.Json.Basic

/-!
Contract: looking up the entries of objects.

Owns:
- `lookup` along the list of entries, of which the first with a key counts;
- `lookup` in appended lists of entries, and where no entry has a key;
- `lookup` after entries were taken out by `without`;
- what `put` changes: the value under one key, and the keys only if this one is new.

Does not own: which keys an object has.
-/

set_option autoImplicit false

namespace DesignCompiler.Fields

@[simp] theorem lookup_nil (key : String) : lookup [] key = none :=
  rfl

theorem lookup_cons (entry : String × Json) (rest : Fields) (key : String) :
    lookup (entry :: rest) key = if entry.1 = key then some entry.2 else lookup rest key := by
  obtain ⟨first, value⟩ := entry
  unfold lookup
  rw [List.lookup_cons]
  by_cases same : first = key
  · subst same
    rw [beq_self_eq_true, if_pos rfl]
  · rw [beq_eq_false_iff_ne.mpr fun equal => same equal.symm, if_neg same]

theorem mem_of_lookup {fields : Fields} {key : String} {value : Json}
    (found : fields.lookup key = some value) : (key, value) ∈ fields := by
  induction fields with
  | nil => cases found
  | cons entry rest inductionHypothesis =>
      rw [lookup_cons] at found
      split at found
      next same =>
        cases found
        rw [← same]
        exact List.mem_cons_self
      next => exact List.mem_cons_of_mem _ (inductionHypothesis found)

theorem has_iff {fields : Fields} {key : String} :
    fields.has key = true ↔ ∃ value, fields.lookup key = some value :=
  Option.isSome_iff_exists

theorem lookup_eq_none_of_has {fields : Fields} {key : String} (absent : fields.has key = false) :
    fields.lookup key = none :=
  Option.isNone_iff_eq_none.mp (by rw [← Option.not_isSome]; exact congrArg (!·) absent)

/-- The key of every entry is present. -/
theorem has_of_mem {fields : Fields} {entry : String × Json} (isEntry : entry ∈ fields) :
    fields.has entry.1 = true := by
  induction fields with
  | nil => cases isEntry
  | cons first rest inductionHypothesis =>
      unfold has
      rw [lookup_cons]
      rcases List.mem_cons.mp isEntry with rfl | later
      · rw [if_pos rfl]
        rfl
      · split
        · rfl
        · exact inductionHypothesis later

theorem lookup_eq_none {fields : Fields} {key : String}
    (absent : ∀ entry ∈ fields, entry.1 ≠ key) : fields.lookup key = none := by
  cases found : fields.lookup key with
  | none => rfl
  | some value => exact absurd rfl (absent _ (mem_of_lookup found))

theorem lookup_append (fields rest : Fields) (key : String) :
    lookup (fields ++ rest) key = (fields.lookup key).or (rest.lookup key) :=
  List.lookup_append

theorem has_eq_true_iff_mem {fields : Fields} {key : String} :
    fields.has key = true ↔ key ∈ fields.map Prod.fst := by
  rw [List.mem_map]
  constructor
  · intro present
    obtain ⟨value, found⟩ := has_iff.mp present
    exact ⟨(key, value), mem_of_lookup found, rfl⟩
  · rintro ⟨entry, isEntry, rfl⟩
    exact has_of_mem isEntry

/-- Where the keys are distinct, the value of an entry is found under its key. -/
theorem lookup_of_mem {fields : Fields} (distinct : (fields.map Prod.fst).Nodup)
    {entry : String × Json} (isEntry : entry ∈ fields) :
    fields.lookup entry.1 = some entry.2 := by
  induction fields with
  | nil => cases isEntry
  | cons first rest inductionHypothesis =>
      rw [List.map_cons, List.nodup_cons] at distinct
      rw [lookup_cons]
      rcases List.mem_cons.mp isEntry with rfl | later
      · rw [if_pos rfl]
      · rw [if_neg, inductionHypothesis distinct.2 later]
        intro same
        exact distinct.1 (same ▸ List.mem_map_of_mem later)

/-! ### Entries that are taken out -/

theorem lookup_without_of_mem {lost : List String} {key : String} (isLost : key ∈ lost)
    (fields : Fields) : (fields.without lost).lookup key = none := by
  refine lookup_eq_none_of_has (Bool.eq_false_iff.mpr fun present => ?_)
  obtain ⟨value, found⟩ := has_iff.mp present
  have kept := (List.mem_filter.mp (mem_of_lookup found)).2
  rw [List.contains_eq_mem, decide_eq_true isLost] at kept
  cases kept

theorem lookup_without_of_notMem {lost : List String} {key : String} (kept : key ∉ lost)
    (fields : Fields) : (fields.without lost).lookup key = fields.lookup key := by
  induction fields with
  | nil => rfl
  | cons entry rest inductionHypothesis =>
      unfold without at inductionHypothesis ⊢
      rw [List.filter_cons, lookup_cons]
      by_cases same : entry.1 = key
      · rw [if_pos same, same, List.contains_eq_mem, decide_eq_false kept, Bool.not_false,
          if_pos rfl, lookup_cons, if_pos same]
      · rw [if_neg same, ← inductionHypothesis]
        split
        · rw [lookup_cons, if_neg same]
        · rfl

/-! ### Entries that are stored -/

private theorem lookup_put (fields : Fields) (key : String) (value : Json) (other : String) :
    (fields.put key value).lookup other =
      if key = other then some value else fields.lookup other := by
  induction fields with
  | nil => simp [put, lookup_cons]
  | cons entry rest inductionHypothesis =>
      rw [put]
      by_cases here : entry.1 = key
      · rw [if_pos here, lookup_cons, lookup_cons, here]
        by_cases same : key = other <;> simp [same]
      · rw [if_neg here, lookup_cons, lookup_cons, inductionHypothesis]
        by_cases same : key = other
        · subst same
          rw [if_neg here, if_pos rfl, if_pos rfl]
        · rw [if_neg same, if_neg same]

/-- Of two values stored under one key the last one counts. -/
theorem put_put (fields : Fields) (key : String) (first last : Json) :
    (fields.put key first).put key last = fields.put key last := by
  induction fields with
  | nil => simp [put]
  | cons entry rest inductionHypothesis =>
      by_cases here : entry.1 = key
      · simp [put, here]
      · simp [put, here, inductionHypothesis]

/-- Storing keeps the keys in order; a new one comes last. -/
theorem map_fst_put (fields : Fields) (key : String) (value : Json) :
    (fields.put key value).map Prod.fst =
      if key ∈ fields.map Prod.fst then fields.map Prod.fst else fields.map Prod.fst ++ [key] := by
  induction fields with
  | nil => rfl
  | cons entry rest inductionHypothesis =>
      by_cases here : entry.1 = key
      · simp [put, here]
      · rw [put, if_neg here, List.map_cons, inductionHypothesis, List.map_cons]
        by_cases later : key ∈ rest.map Prod.fst
        · rw [if_pos later, if_pos (List.mem_cons_of_mem _ later)]
        · rw [if_neg later, if_neg, List.cons_append]
          exact List.not_mem_cons_of_ne_of_not_mem (Ne.symm here) later

/-- A value under a new key is stored at the end. -/
theorem put_of_notMem {fields : Fields} {key : String} (fresh : key ∉ fields.map Prod.fst)
    (value : Json) : fields.put key value = fields ++ [(key, value)] := by
  induction fields with
  | nil => rfl
  | cons entry rest inductionHypothesis =>
      rw [List.map_cons, List.mem_cons, not_or] at fresh
      rw [put, if_neg (Ne.symm fresh.1), inductionHypothesis fresh.2, List.cons_append]

/-- The entries after storing are the old ones and the new one. -/
theorem mem_put {fields : Fields} {key : String} {value : Json} {entry : String × Json}
    (isEntry : entry ∈ fields.put key value) : entry = (key, value) ∨ entry ∈ fields := by
  induction fields with
  | nil => exact Or.inl (List.mem_singleton.mp isEntry)
  | cons first rest inductionHypothesis =>
      rw [put] at isEntry
      split at isEntry
      · exact (List.mem_cons.mp isEntry).imp id (List.mem_cons_of_mem first)
      · rcases List.mem_cons.mp isEntry with rfl | later
        · exact Or.inr List.mem_cons_self
        · exact (inductionHypothesis later).imp id (List.mem_cons_of_mem first)

/-- Some entries differ from others in the value of one key only, which comes last if it is new. -/
structure IsUpdate (before after : Fields) (key : String) (value : Json) : Prop where
  stored : after.lookup key = some value
  others : ∀ other, other ≠ key → after.lookup other = before.lookup other
  order : after.map Prod.fst =
    if key ∈ before.map Prod.fst then before.map Prod.fst else before.map Prod.fst ++ [key]

theorem isUpdate_put (fields : Fields) (key : String) (value : Json) :
    IsUpdate fields (fields.put key value) key value where
  stored := by rw [lookup_put, if_pos rfl]
  others other apart := by rw [lookup_put, if_neg (Ne.symm apart)]
  order := map_fst_put fields key value

end DesignCompiler.Fields
