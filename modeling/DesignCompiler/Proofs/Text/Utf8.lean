import DesignCompiler.Text.Utf8
import Mathlib.Data.List.Basic

/-!
Contract: UTF-8 read back, and how much a decoder can make of bytes.

Owns:
- `Utf8Pending.IsSound`, the beginnings of sequences that go on with a continuation byte only;
- the law that a decoder reads the encoding of a character back, also after a gap;
- the law that every byte and every encoded character adds one piece at most.

Does not own: percent escapes, see `DesignCompiler.Proofs.Http.Percent`.
-/

set_option autoImplicit false

namespace DesignCompiler.Text

/-! ### Leading bytes -/

section Leads

variable {byte : UInt8}

theorem utf8Lead_single (isAscii : byte.toNat < 0x80) :
    utf8Lead byte = .single (Char.ofNat byte.toNat) := by
  simp only [utf8Lead]
  rw [if_pos isAscii]

private theorem utf8Lead_two (lower : 0xC2 ≤ byte.toNat) (upper : byte.toNat < 0xE0) :
    utf8Lead byte = .begins ⟨byte.toNat - 0xC0, 0, 0x80, 0xBF⟩ := by
  simp only [utf8Lead]
  rw [if_neg (by omega), if_neg (by omega), if_pos upper]

/-- Overlong forms and surrogates are excluded by the second byte. -/
theorem utf8Lead_three (lower : 0xE0 ≤ byte.toNat) (upper : byte.toNat < 0xF0) :
    utf8Lead byte = .begins ⟨byte.toNat - 0xE0, 1, if byte.toNat = 0xE0 then 0xA0 else 0x80,
      if byte.toNat = 0xED then 0x9F else 0xBF⟩ := by
  simp only [utf8Lead]
  rw [if_neg (by omega), if_neg (by omega), if_neg (by omega)]
  by_cases first : byte.toNat = 0xE0
  · rw [if_pos first, if_pos first, if_neg (by omega), first]
  · rw [if_neg first, if_neg first]
    by_cases surrogates : byte.toNat = 0xED
    · rw [if_pos surrogates, if_pos surrogates, surrogates]
    · rw [if_neg surrogates, if_neg surrogates, if_pos upper]

/-- Overlong forms and values beyond the last code point are excluded by the second byte. -/
theorem utf8Lead_four (lower : 0xF0 ≤ byte.toNat) (upper : byte.toNat ≤ 0xF4) :
    utf8Lead byte = .begins ⟨byte.toNat - 0xF0, 2, if byte.toNat = 0xF0 then 0x90 else 0x80,
      if byte.toNat = 0xF4 then 0x8F else 0xBF⟩ := by
  simp only [utf8Lead]
  rw [if_neg (by omega), if_neg (by omega), if_neg (by omega), if_neg (by omega),
    if_neg (by omega), if_neg (by omega)]
  by_cases first : byte.toNat = 0xF0
  · rw [if_pos first, if_pos first, if_neg (by omega), first]
  · rw [if_neg first, if_neg first]
    by_cases last : byte.toNat = 0xF4
    · rw [if_neg (by omega), if_pos last, if_pos last, last]
    · rw [if_pos (by omega), if_neg last]

private theorem utf8Lead_stray
    (outside : 0x80 ≤ byte.toNat ∧ byte.toNat < 0xC2 ∨ 0xF4 < byte.toNat) :
    utf8Lead byte = .stray := by
  simp only [utf8Lead]
  rw [if_neg (by omega)]
  rcases outside with ⟨-, below⟩ | above
  · rw [if_pos below]
  · rw [if_neg (by omega), if_neg (by omega), if_neg (by omega), if_neg (by omega),
      if_neg (by omega), if_neg (by omega), if_neg (by omega), if_neg (by omega)]

end Leads

/-- A beginning goes on with a continuation byte, if it goes on. -/
structure Utf8Pending.IsSound (pending : Utf8Pending) : Prop where
  lowest : 0x80 ≤ pending.lowest
  highest : pending.highest ≤ 0xBF

private theorem Utf8Pending.isSound_of_usual (bits further : Nat) :
    Utf8Pending.IsSound ⟨bits, further, 0x80, 0xBF⟩ :=
  ⟨by simp, by simp⟩

private theorem Utf8Pending.isSound_of_lead {byte : UInt8} {pending : Utf8Pending}
    (begun : utf8Lead byte = .begins pending) : pending.IsSound := by
  have range : byte.toNat < 0x80 ∨ (0xC2 ≤ byte.toNat ∧ byte.toNat < 0xE0) ∨
      (0xE0 ≤ byte.toNat ∧ byte.toNat < 0xF0) ∨ (0xF0 ≤ byte.toNat ∧ byte.toNat ≤ 0xF4) ∨
      (0x80 ≤ byte.toNat ∧ byte.toNat < 0xC2 ∨ 0xF4 < byte.toNat) := by
    omega
  rcases range with isAscii | ⟨lower, upper⟩ | ⟨lower, upper⟩ | ⟨lower, upper⟩ | outside
  · rw [utf8Lead_single isAscii] at begun
    cases begun
  · rw [utf8Lead_two lower upper] at begun
    rw [← Utf8Lead.begins.inj begun]
    exact isSound_of_usual _ 0
  · rw [utf8Lead_three lower upper] at begun
    rw [← Utf8Lead.begins.inj begun]
    exact ⟨by dsimp only; split <;> omega, by dsimp only; split <;> omega⟩
  · rw [utf8Lead_four lower upper] at begun
    rw [← Utf8Lead.begins.inj begun]
    exact ⟨by dsimp only; split <;> omega, by dsimp only; split <;> omega⟩
  · rw [utf8Lead_stray outside] at begun
    cases begun

/-! ### Steps of the decoder -/

private theorem utf8Pieces_begin {byte : UInt8} {pending : Utf8Pending}
    (begun : utf8Lead byte = .begins pending) (rest : List UInt8) :
    utf8Pieces none (byte :: rest) = utf8Pieces (some pending) rest := by
  rw [utf8Pieces, begun]

private theorem utf8Pieces_continue {byte : UInt8} {bits further lowest highest : Nat}
    (lower : lowest ≤ byte.toNat) (upper : byte.toNat ≤ highest) (rest : List UInt8) :
    utf8Pieces (some ⟨bits, further + 1, lowest, highest⟩) (byte :: rest) =
      utf8Pieces (some ⟨bits * 64 + (byte.toNat - 0x80), further, 0x80, 0xBF⟩) rest := by
  rw [utf8Pieces, if_pos ⟨lower, upper⟩]

private theorem utf8Pieces_complete {byte : UInt8} {bits lowest highest : Nat}
    (lower : lowest ≤ byte.toNat) (upper : byte.toNat ≤ highest) (rest : List UInt8) :
    utf8Pieces (some ⟨bits, 0, lowest, highest⟩) (byte :: rest) =
      some (Char.ofNat (bits * 64 + (byte.toNat - 0x80))) :: utf8Pieces none rest := by
  rw [utf8Pieces, if_pos ⟨lower, upper⟩]

/-- A byte that does not belong to a sequence leaves a gap and is read anew. -/
theorem utf8Pieces_gap {byte : UInt8} {pending : Utf8Pending}
    (outside : ¬ (pending.lowest ≤ byte.toNat ∧ byte.toNat ≤ pending.highest))
    (rest : List UInt8) :
    utf8Pieces (some pending) (byte :: rest) = none :: utf8Pieces none (byte :: rest) := by
  cases lead : utf8Lead byte with
  | single c => simp only [utf8Pieces, if_neg outside, lead]
  | begins next => simp only [utf8Pieces, if_neg outside, lead]
  | stray => simp only [utf8Pieces, if_neg outside, lead]

/-! ### Encoded characters -/

theorem utf8Pieces_encodeChar (c : Char) (rest : List UInt8) :
    utf8Pieces none (String.utf8EncodeChar c ++ rest) = some c :: utf8Pieces none rest := by
  have valid : c.toNat < 0xD800 ∨ 0xDFFF < c.toNat ∧ c.toNat < 0x110000 := c.valid
  have value (n : Nat) (small : n < 256) : (UInt8.ofNat n).toNat = n :=
    UInt8.toNat_ofNat_of_lt' small
  have read {n : Nat} (same : n = c.toNat) : Char.ofNat n = c := by
    rw [same, Char.ofNat_toNat]
  have unfolded : c.val.toNat = c.toNat := rfl
  unfold String.utf8EncodeChar
  simp only [unfolded]
  split
  · next small =>
    rw [List.singleton_append, utf8Pieces, utf8Lead_single]
    · simp only
      rw [read (value _ (by omega))]
    · rw [value _ (by omega)]
      omega
  split
  · next large small =>
    have first := value (c.toNat / 64 % 32 + 0xC0) (by omega)
    have second := value (c.toNat % 64 + 0x80) (by omega)
    rw [List.cons_append, List.singleton_append,
      utf8Pieces_begin (utf8Lead_two (by omega) (by omega)),
      utf8Pieces_complete (by omega) (by omega), read (by omega)]
  split
  · next large small =>
    have first := value (c.toNat / 4096 % 16 + 0xE0) (by omega)
    have second := value (c.toNat / 64 % 64 + 0x80) (by omega)
    have third := value (c.toNat % 64 + 0x80) (by omega)
    rw [List.cons_append, List.cons_append, List.singleton_append,
      utf8Pieces_begin (utf8Lead_three (by omega) (by omega)),
      utf8Pieces_continue (by split <;> omega) (by split <;> omega),
      utf8Pieces_complete (by omega) (by omega), read (by omega)]
  · next large =>
    have first := value (c.toNat / 262144 % 8 + 0xF0) (by omega)
    have second := value (c.toNat / 4096 % 64 + 0x80) (by omega)
    have third := value (c.toNat / 64 % 64 + 0x80) (by omega)
    have fourth := value (c.toNat % 64 + 0x80) (by omega)
    rw [List.cons_append, List.cons_append, List.cons_append, List.singleton_append,
      utf8Pieces_begin (utf8Lead_four (by omega) (by omega)),
      utf8Pieces_continue (by split <;> omega) (by split <;> omega),
      utf8Pieces_continue (by omega) (by omega),
      utf8Pieces_complete (by omega) (by omega), read (by omega)]

theorem utf8Lossy_utf8Bytes (cs : List Char) : utf8Lossy (utf8Bytes cs) = cs := by
  induction cs with
  | nil => rfl
  | cons c rest inductionHypothesis =>
      unfold utf8Lossy utf8Bytes at inductionHypothesis ⊢
      rw [List.flatMap_cons, utf8Pieces_encodeChar, List.map_cons, inductionHypothesis]
      rfl

/-! ### Counting pieces -/

/-- The pieces that a beginning may become by itself. -/
def owedPieces : Option Utf8Pending → Nat
  | none => 0
  | some _ => 1

/-- The states that a decoder can be in. -/
def IsSoundState : Option Utf8Pending → Prop
  | none => True
  | some pending => pending.IsSound

/-- A decoder makes at most a number of pieces of some bytes, besides the one that it owes. -/
def HasPieces (count : Nat) (bytes : List UInt8) : Prop :=
  ∀ state, IsSoundState state → (utf8Pieces state bytes).length ≤ owedPieces state + count

theorem hasPieces_nil : HasPieces 0 [] := by
  intro state _
  cases state with
  | none => exact Nat.le_refl _
  | some pending => exact Nat.le_refl _

section

variable {count : Nat} {rest : List UInt8}

private theorem HasPieces.length_start (bounded : HasPieces count rest) (byte : UInt8) :
    (utf8Pieces none (byte :: rest)).length ≤ count + 1 := by
  have behind := bounded none trivial
  simp only [owedPieces] at behind
  cases lead : utf8Lead byte with
  | single c =>
      simp only [utf8Pieces, lead, List.length_cons]
      omega
  | begins pending =>
      have continued := bounded (some pending) (Utf8Pending.isSound_of_lead lead)
      rw [utf8Pieces_begin lead]
      simp only [owedPieces] at continued
      omega
  | stray =>
      simp only [utf8Pieces, lead, List.length_cons]
      omega

/-- One more byte is one more piece at most. -/
theorem HasPieces.byte (bounded : HasPieces count rest) (byte : UInt8) :
    HasPieces (count + 1) (byte :: rest) := by
  intro state sound
  cases state with
  | none =>
      have start := bounded.length_start byte
      simp only [owedPieces]
      omega
  | some pending =>
      obtain ⟨bits, further, lowest, highest⟩ := pending
      by_cases within : lowest ≤ byte.toNat ∧ byte.toNat ≤ highest
      · cases further with
        | zero =>
            have behind := bounded none trivial
            rw [utf8Pieces_complete within.1 within.2, List.length_cons]
            simp only [owedPieces] at behind ⊢
            omega
        | succ further =>
            have continued := bounded (some _)
              (Utf8Pending.isSound_of_usual (bits * 64 + (byte.toNat - 0x80)) further)
            rw [utf8Pieces_continue within.1 within.2]
            simp only [owedPieces] at continued ⊢
            omega
      · have start := bounded.length_start byte
        rw [utf8Pieces_gap within, List.length_cons]
        simp only [owedPieces]
        omega

private theorem exists_encodeChar_eq_cons (c : Char) :
    ∃ byte others, String.utf8EncodeChar c = byte :: others ∧
      (byte.toNat < 0x80 ∨ 0xBF < byte.toNat) := by
  have value (n : Nat) (small : n < 256) : (UInt8.ofNat n).toNat = n :=
    UInt8.toNat_ofNat_of_lt' small
  unfold String.utf8EncodeChar
  dsimp only
  split
  · refine ⟨_, _, rfl, Or.inl ?_⟩
    rw [value _ (by omega)]
    omega
  split
  · refine ⟨_, _, rfl, Or.inr ?_⟩
    rw [value _ (by omega)]
    omega
  split
  · refine ⟨_, _, rfl, Or.inr ?_⟩
    rw [value _ (by omega)]
    omega
  · refine ⟨_, _, rfl, Or.inr ?_⟩
    rw [value _ (by omega)]
    omega

/-- One more character is one more piece at most: it goes on with no beginning. -/
theorem HasPieces.encodeChar (bounded : HasPieces count rest) (c : Char) :
    HasPieces (count + 1) (String.utf8EncodeChar c ++ rest) := by
  intro state sound
  have behind := bounded none trivial
  simp only [owedPieces] at behind
  cases state with
  | none =>
      rw [utf8Pieces_encodeChar, List.length_cons]
      simp only [owedPieces]
      omega
  | some pending =>
      obtain ⟨lowest, highest⟩ : pending.IsSound := sound
      obtain ⟨byte, others, encoded, isLead⟩ := exists_encodeChar_eq_cons c
      have split : utf8Pieces (some pending) (String.utf8EncodeChar c ++ rest) =
          none :: utf8Pieces none (String.utf8EncodeChar c ++ rest) := by
        rw [encoded, List.cons_append, utf8Pieces_gap (by omega)]
      rw [split, utf8Pieces_encodeChar, List.length_cons, List.length_cons]
      simp only [owedPieces]
      omega

end

private theorem utf8Pieces_some_ne_nil (pending : Utf8Pending) (bytes : List UInt8) :
    utf8Pieces (some pending) bytes ≠ [] := by
  induction bytes generalizing pending with
  | nil => exact List.cons_ne_nil _ _
  | cons byte rest inductionHypothesis =>
      obtain ⟨bits, further, lowest, highest⟩ := pending
      by_cases within : lowest ≤ byte.toNat ∧ byte.toNat ≤ highest
      · cases further with
        | zero =>
            rw [utf8Pieces_complete within.1 within.2]
            exact List.cons_ne_nil _ _
        | succ further =>
            rw [utf8Pieces_continue within.1 within.2]
            exact inductionHypothesis _
      · rw [utf8Pieces_gap within]
        exact List.cons_ne_nil _ _

theorem utf8Pieces_cons_ne_nil (byte : UInt8) (rest : List UInt8) :
    utf8Pieces none (byte :: rest) ≠ [] := by
  cases lead : utf8Lead byte with
  | single c => simp only [utf8Pieces, lead, ne_eq, reduceCtorEq, not_false_eq_true]
  | begins pending =>
      rw [utf8Pieces_begin lead]
      exact utf8Pieces_some_ne_nil pending rest
  | stray => simp only [utf8Pieces, lead, ne_eq, reduceCtorEq, not_false_eq_true]

theorem HasPieces.length_utf8Lossy {count : Nat} {bytes : List UInt8}
    (bounded : HasPieces count bytes) : (utf8Lossy bytes).length ≤ count := by
  have start := bounded none trivial
  rw [owedPieces, Nat.zero_add] at start
  rwa [utf8Lossy, List.length_map]

end DesignCompiler.Text
