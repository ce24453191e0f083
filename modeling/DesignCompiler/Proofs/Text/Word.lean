import DesignCompiler.Proofs.Text.Case
import DesignCompiler.Text.WordCharacter

/-!
Contract: blanks are no characters of words.

Owns:
- `blankRanges`, the codes of the blanks, to be compared with the codes of words range by range;
- the law that no blank belongs to a word.

Does not own: the codes of words, see `DesignCompiler.Text.WordCharacter`.
-/

set_option autoImplicit false

namespace DesignCompiler.Text

def blankRanges : List (Nat × Nat) :=
  [(0x09, 0x0D), (0x1C, 0x20), (0x85, 0x85), (0xA0, 0xA0), (0x1680, 0x1680), (0x2000, 0x200A),
   (0x2028, 0x2029), (0x202F, 0x202F), (0x205F, 0x205F), (0x3000, 0x3000)]

private theorem inRanges_iff (ranges : List (Nat × Nat)) (n : Nat) :
    inRanges ranges n = true ↔ ∃ range ∈ ranges, range.1 ≤ n ∧ n ≤ range.2 := by
  simp [inRanges]

private theorem inRanges_of_isBlank {c : Char} (blank : isBlank c = true) :
    inRanges blankRanges c.toNat = true := by
  simp only [isBlank, isWhiteSpace, Bool.or_eq_true, Bool.and_eq_true, decide_eq_true_eq,
    beq_iff_eq] at blank
  simp only [inRanges, blankRanges, List.any_cons, List.any_nil, Bool.or_eq_true,
    Bool.and_eq_true, decide_eq_true_eq]
  omega

/-- No blank belongs to a word. -/
theorem isBlank_of_isWordCharacter {c : Char} (isWord : isWordCharacter c = true) :
    isBlank c = false := by
  apply Bool.eq_false_iff.mpr
  intro blank
  unfold isWordCharacter at isWord
  simp only [Bool.or_eq_true, Bool.and_eq_true, beq_iff_eq] at isWord
  rcases isWord with (isLetter | rfl) | ⟨-, inTable⟩
  · rw [isBlank_of_isAlphanumeric isLetter] at blank
    cases blank
  · cases blank
  · have apart : ∀ blanks ∈ blankRanges, ∀ letters ∈ wordRanges,
        blanks.2 < letters.1 ∨ letters.2 < blanks.1 := by
      decide +kernel
    obtain ⟨blanks, isRange, _⟩ := (inRanges_iff blankRanges _).mp (inRanges_of_isBlank blank)
    obtain ⟨letters, isRange', _⟩ := (inRanges_iff wordRanges _).mp inTable
    have := apart blanks isRange letters isRange'
    omega

end DesignCompiler.Text
