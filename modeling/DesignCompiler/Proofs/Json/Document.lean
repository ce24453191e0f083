import DesignCompiler.Proofs.Composition
import DesignCompiler.Proofs.Json.Fields
import DesignCompiler.Proofs.Json.Number

/-!
Contract: the values that JSON texts denote.

Owns:
- `Json.IsDocument`, the values whose integers have not too many digits and no object of which has
  two entries of one key;
- the law that every value that is read is one of them.

Does not own: reading the texts of such values back, see `DesignCompiler.Proofs.Json.RoundTrip`.
-/

set_option autoImplicit false

namespace DesignCompiler.Json

/-- The values that JSON texts denote. -/
inductive IsDocument : Json → Prop where
  | null : IsDocument .null
  | bool (value : Bool) : IsDocument (.bool value)
  | number {value : Number} (readable : IsReadable value) : IsDocument (.number value)
  | string (value : String) : IsDocument (.string value)
  | array {items : List Json} (inside : ∀ item ∈ items, IsDocument item) : IsDocument (.array items)
  | object {fields : Fields} (distinct : (fields.map Prod.fst).Nodup)
      (inside : ∀ entry ∈ fields, IsDocument entry.2) : IsDocument (.object fields)

theorem isDocument_noFields : (Json.object []).IsDocument :=
  .object List.Pairwise.nil (List.forall_mem_nil _)

/-- Storing a value that texts denote. -/
theorem IsDocument.put {fields : Fields} (document : (Json.object fields).IsDocument) (key : String)
    {value : Json} (isValue : value.IsDocument) :
    (Json.object (fields.put key value)).IsDocument := by
  cases document with
  | object distinct inside =>
      refine .object ?_ ?_
      · rw [Fields.map_fst_put]
        split
        · exact distinct
        · rename_i fresh
          exact List.nodup_append.mpr ⟨distinct, by simp, by
            rintro other isKey _ isNew rfl
            exact fresh (List.mem_singleton.mp isNew ▸ isKey)⟩
      · intro entry isEntry
        rcases Fields.mem_put isEntry with rfl | old
        · exact isValue
        · exact inside entry old

namespace Reader

/-- What the readers yield with so much fuel. -/
structure YieldsDocuments (fuel : Nat) : Prop where
  value : ∀ {cs value rest}, readValue fuel cs = .ok (value, rest) → value.IsDocument
  items : ∀ {cs items rest}, readItems fuel cs = .ok (items, rest) → (Json.array items).IsDocument
  fields : ∀ {fields cs all rest}, (Json.object fields).IsDocument →
    readFields fuel fields cs = .ok (all, rest) → (Json.object all).IsDocument

private theorem YieldsDocuments.value_succ {fuel : Nat} (yields : YieldsDocuments fuel)
    {cs : List Char}
    {value : Json} {rest : List Char} (read : readValue (fuel + 1) cs = .ok (value, rest)) :
    value.IsDocument := by
  unfold readValue at read
  split at read
  · cases read; exact .null
  · cases read; exact .bool true
  · cases read; exact .bool false
  · cases read; exact .number trivial
  · cases read; exact .number trivial
  · cases read; exact .number trivial
  · obtain ⟨found, -, done⟩ := exists_of_bind_eq_ok read
    cases done
    exact .string _
  · split at read
    · cases read
      exact .array (List.forall_mem_nil _)
    · obtain ⟨found, items, done⟩ := exists_of_bind_eq_ok read
      cases done
      exact yields.items items
  · split at read
    · cases read
      exact isDocument_noFields
    · obtain ⟨found, fields, done⟩ := exists_of_bind_eq_ok read
      cases done
      exact yields.fields isDocument_noFields fields
  · obtain ⟨found, number, done⟩ := exists_of_bind_eq_ok read
    cases done
    exact .number (isReadable_of_readNumber number)

private theorem YieldsDocuments.items_succ {fuel : Nat} (yields : YieldsDocuments fuel)
    {cs : List Char}
    {items : List Json} {rest : List Char} (read : readItems (fuel + 1) cs = .ok (items, rest)) :
    (Json.array items).IsDocument := by
  rw [readItems] at read
  obtain ⟨⟨item, others⟩, first, read⟩ := exists_of_bind_eq_ok read
  have isFirst := yields.value first
  dsimp only at read
  split at read
  · cases read
    exact .array (by simpa using isFirst)
  · obtain ⟨⟨later, others⟩, more, done⟩ := exists_of_bind_eq_ok read
    cases done
    cases yields.items more with
    | array areLater => exact .array (List.forall_mem_cons.mpr ⟨isFirst, areLater⟩)
  · cases read

private theorem YieldsDocuments.fields_succ {fuel : Nat} (yields : YieldsDocuments fuel)
    {fields : Fields}
    {cs : List Char} {all : Fields} {rest : List Char} (before : (Json.object fields).IsDocument)
    (read : readFields (fuel + 1) fields cs = .ok (all, rest)) : (Json.object all).IsDocument := by
  unfold readFields at read
  split at read
  · obtain ⟨⟨key, others⟩, -, read⟩ := exists_of_bind_eq_ok read
    dsimp only at read
    split at read
    · obtain ⟨⟨value, others⟩, found, read⟩ := exists_of_bind_eq_ok read
      have stored := before.put key (yields.value found)
      dsimp only at read
      split at read
      · cases read
        exact stored
      · exact yields.fields stored read
      · cases read
    · cases read
  · cases read

/-- The readers yield values that texts denote, and of entries again such ones. -/
theorem yieldsDocuments (fuel : Nat) : YieldsDocuments fuel := by
  induction fuel with
  | zero => constructor <;> intros <;> simp_all [readValue, readItems, readFields, faultAt]
  | succ fuel inductionHypothesis =>
      exact ⟨inductionHypothesis.value_succ, inductionHypothesis.items_succ,
        inductionHypothesis.fields_succ⟩

end Reader

/-- What a text denotes is a value that texts denote. -/
theorem isDocument_of_read {cs : List Char} {value : Json} (read : Json.read cs = .ok value) :
    value.IsDocument := by
  unfold Json.read Reader.readDocument at read
  split at read
  · rename_i found document
    cases read
    obtain ⟨⟨value, rest⟩, first, done⟩ := exists_of_bind_eq_ok document
    dsimp only at done
    split at done
    · cases done
      exact (Reader.yieldsDocuments _).value first
    · cases done
  · cases read
  · cases read

end DesignCompiler.Json
