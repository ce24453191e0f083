import DesignCompiler.Http.Percent
import DesignCompiler.Proofs.Text.Utf8
import Mathlib.Data.List.Infix

/-!
Contract: what decoding percent escapes does to a text.

Owns:
- `StartsEscape` and `HasEscape`, the places where an escape stands, and induction from one such
  place to the next;
- how plain characters and escaped ASCII characters are decoded;
- the law that decoding keeps a text if and only if no escape stands in it.

What is decoded may hold escapes again, so that decoding twice need not be decoding once.

Does not own: which texts are decoded, see `DesignCompiler.Proofs.Figma.Link`.
-/

set_option autoImplicit false

namespace DesignCompiler.Http

open DesignCompiler.Text

/-! ### Escapes -/

/-- A text begins with a percent sign and two hexadecimal digits. -/
inductive StartsEscape : List Char → Prop where
  | escape {high low : Char} {byte : UInt8} {rest : List Char} :
      escapedByte? high low = some byte → StartsEscape ('%' :: high :: low :: rest)

/-- A percent sign and two hexadecimal digits stand somewhere in a text. -/
def HasEscape (cs : List Char) : Prop :=
  ∃ place, place <:+ cs ∧ StartsEscape place

theorem not_hasEscape_nil : ¬ HasEscape [] := by
  rintro ⟨place, within, starts⟩
  rw [List.suffix_nil.mp within] at starts
  cases starts

theorem hasEscape_cons_iff (c : Char) (rest : List Char) :
    HasEscape (c :: rest) ↔ StartsEscape (c :: rest) ∨ HasEscape rest := by
  simp only [HasEscape, List.suffix_cons_iff, or_and_right, exists_or, exists_eq_left]

/-- A text is empty, or it begins with an escape, or with a character that stands for itself. -/
theorem escapeInduction {motive : List Char → Prop} (nil : motive [])
    (escape : ∀ {high low : Char} {byte : UInt8} {rest : List Char},
      escapedByte? high low = some byte → motive rest → motive ('%' :: high :: low :: rest))
    (plain : ∀ {c : Char} {rest : List Char},
      ¬ StartsEscape (c :: rest) → motive rest → motive (c :: rest))
    (cs : List Char) : motive cs := by
  generalize size : cs.length = length
  induction length using Nat.strongRecOn generalizing cs with
  | _ length inductionHypothesis =>
      subst size
      by_cases starts : StartsEscape cs
      · cases starts with
        | @escape high low byte rest isByte =>
            have shorter : rest.length < ('%' :: high :: low :: rest).length := by
              simp only [List.length_cons]
              omega
            exact escape isByte (inductionHypothesis rest.length shorter rest rfl)
      · cases cs with
        | nil => exact nil
        | cons c rest =>
            exact plain starts (inductionHypothesis rest.length (Nat.lt_succ_self _) rest rfl)

/-! ### Bytes -/

private theorem percentBytes_escape {high low : Char} {byte : UInt8}
    (isByte : escapedByte? high low = some byte) (rest : List Char) :
    percentBytes ('%' :: high :: low :: rest) = byte :: percentBytes rest := by
  rw [percentBytes, if_pos rfl, isByte]

private theorem percentBytes_plain {c : Char} {rest : List Char}
    (plain : ¬ StartsEscape (c :: rest)) :
    percentBytes (c :: rest) = String.utf8EncodeChar c ++ percentBytes rest := by
  match rest with
  | [] => exact (List.append_nil _).symm
  | [second] => rfl
  | second :: third :: rest =>
      have noByte : (if c = '%' then escapedByte? second third else none) = none := by
        by_cases percent : c = '%'
        · rw [if_pos percent]
          apply Option.eq_none_iff_forall_ne_some.mpr
          intro byte isByte
          subst percent
          exact plain (.escape isByte)
        · rw [if_neg percent]
      rw [percentBytes, noByte]

private theorem percentBytes_of_no_escape {cs : List Char} (plain : ¬ HasEscape cs) :
    percentBytes cs = utf8Bytes cs := by
  induction cs with
  | nil => rfl
  | cons c rest inductionHypothesis =>
      rw [hasEscape_cons_iff, not_or] at plain
      rw [percentBytes_plain plain.1, inductionHypothesis plain.2]
      rfl

/-- An escape makes one piece at most of three characters. -/
theorem hasPieces_percentBytes (cs : List Char) : HasPieces cs.length (percentBytes cs) := by
  induction cs using escapeInduction with
  | nil => exact hasPieces_nil
  | @escape high low byte rest isByte inductionHypothesis =>
      rw [percentBytes_escape isByte]
      intro state sound
      have bound := inductionHypothesis.byte byte state sound
      simp only [List.length_cons]
      omega
  | @plain c rest notHere inductionHypothesis =>
      rw [percentBytes_plain notHere]
      exact inductionHypothesis.encodeChar c

private theorem exists_hasPieces_of_hasEscape {cs : List Char} (escapes : HasEscape cs) :
    ∃ count < cs.length, HasPieces count (percentBytes cs) := by
  induction cs using escapeInduction with
  | nil => exact absurd escapes not_hasEscape_nil
  | @escape high low byte rest isByte _ =>
      refine ⟨rest.length + 1, ?_, ?_⟩
      · simp only [List.length_cons]
        omega
      · rw [percentBytes_escape isByte]
        exact (hasPieces_percentBytes rest).byte byte
  | @plain c rest notHere inductionHypothesis =>
      have behind := ((hasEscape_cons_iff c rest).mp escapes).resolve_left notHere
      obtain ⟨count, fewer, bounded⟩ := inductionHypothesis behind
      refine ⟨count + 1, Nat.succ_lt_succ fewer, ?_⟩
      rw [percentBytes_plain notHere]
      exact bounded.encodeChar c

/-! ### Texts -/

theorem length_percentDecoded_lt {cs : List Char} (escapes : HasEscape cs) :
    (percentDecoded cs).length < cs.length := by
  obtain ⟨count, fewer, bounded⟩ := exists_hasPieces_of_hasEscape escapes
  exact Nat.lt_of_le_of_lt bounded.length_utf8Lossy fewer

theorem percentDecoded_eq_self_iff (cs : List Char) : percentDecoded cs = cs ↔ ¬ HasEscape cs := by
  constructor
  · intro same escapes
    have shorter := length_percentDecoded_lt escapes
    rw [same] at shorter
    exact Nat.lt_irrefl _ shorter
  · intro plain
    rw [percentDecoded, percentBytes_of_no_escape plain, utf8Lossy_utf8Bytes]

theorem percentDecoded_plain {c : Char} {rest : List Char} (plain : ¬ StartsEscape (c :: rest)) :
    percentDecoded (c :: rest) = c :: percentDecoded rest := by
  rw [percentDecoded, percentBytes_plain plain, utf8Lossy, utf8Pieces_encodeChar]
  rfl

theorem percentDecoded_escape {high low : Char} {byte : UInt8}
    (isByte : escapedByte? high low = some byte) (isAscii : byte.toNat < 0x80) (rest : List Char) :
    percentDecoded ('%' :: high :: low :: rest) =
      Char.ofNat byte.toNat :: percentDecoded rest := by
  rw [percentDecoded, percentBytes_escape isByte, utf8Lossy, utf8Pieces, utf8Lead_single isAscii]
  rfl

theorem percentDecoded_ne_nil {cs : List Char} (notEmpty : cs ≠ []) : percentDecoded cs ≠ [] := by
  induction cs using escapeInduction with
  | nil => exact absurd rfl notEmpty
  | @escape high low byte rest isByte _ =>
      rw [percentDecoded, percentBytes_escape isByte, utf8Lossy, Ne, List.map_eq_nil_iff]
      exact utf8Pieces_cons_ne_nil byte (percentBytes rest)
  | @plain c rest notHere _ =>
      rw [percentDecoded_plain notHere]
      exact List.cons_ne_nil c _

end DesignCompiler.Http
