import DesignCompiler.Proofs.Text.Part
import DesignCompiler.Text.Case

/-!
Contract: the letters that the case mappings leave.

Owns:
- `forall_ascii`, by which a law of the ASCII characters is checked code by code;
- the law that nothing but letters and digits is left, and no capital by the lower-case form;
- the letters that a letter or digit leaves.

Does not own: which characters of a layer name are mapped, see
`DesignCompiler.Proofs.Component.Words`.
-/

set_option autoImplicit false

namespace DesignCompiler.Text

/-- A law of the ASCII characters, checked code by code. -/
theorem forall_ascii {motive : Char → Prop} (ofCode : ∀ code < 0x80, motive (Char.ofNat code))
    {c : Char} (isAscii : c.toNat < 0x80) : motive c := by
  have ofChar := ofCode c.toNat isAscii
  rwa [Char.ofNat_toNat] at ofChar

theorem toNat_lt_of_isAlphanumeric {c : Char} (isLetter : isAlphanumeric c = true) :
    c.toNat < 0x80 := by
  have bounds : ((decide (65 ≤ c.val ∧ c.val ≤ 90) || decide (97 ≤ c.val) && decide (c.val ≤ 122))
      || decide (48 ≤ c.val) && decide (c.val ≤ 57)) = true := isLetter
  simp only [Bool.or_eq_true, Bool.and_eq_true, decide_eq_true_eq, UInt32.le_iff_toNat_le] at bounds
  change ((65 ≤ c.toNat ∧ c.toNat ≤ 90) ∨ (97 ≤ c.toNat ∧ c.toNat ≤ 122)) ∨
    (48 ≤ c.toNat ∧ c.toNat ≤ 57) at bounds
  omega

theorem isBlank_of_isAlphanumeric {c : Char} (isLetter : isAlphanumeric c = true) :
    isBlank c = false := by
  have isAscii := toNat_lt_of_isAlphanumeric isLetter
  revert isLetter
  exact forall_ascii (motive := fun c => isAlphanumeric c = true → isBlank c = false)
    (by decide) isAscii

theorem isAlphanumeric_of_mem_upperLetters {c letter : Char}
    (isLetter : letter ∈ upperLetters c) : isAlphanumeric letter = true := by
  unfold upperLetters at isLetter
  split at isLetter
  next isPlain =>
    rw [List.mem_singleton.mp isLetter]
    have isAscii := toNat_lt_of_isAlphanumeric isPlain
    revert isPlain
    exact forall_ascii
      (motive := fun c => isAlphanumeric c = true → isAlphanumeric c.toUpper = true)
      (by decide) isAscii
  next =>
    have residues :
        (capitalResidues.all fun entry => entry.2.toList.all isAlphanumeric) = true := by
      decide
    cases found : capitalResidues.lookup c.toNat with
    | none =>
        rw [found] at isLetter
        cases isLetter
    | some residue =>
        rw [found] at isLetter
        obtain ⟨_, _, split, _⟩ := List.lookup_eq_some_iff.mp found
        have letters := List.all_eq_true.mp residues (c.toNat, residue)
          (split ▸ List.mem_append_right _ List.mem_cons_self)
        exact List.all_eq_true.mp letters letter isLetter

theorem isAlphanumeric_of_mem_lowerLetters {c letter : Char}
    (isLetter : letter ∈ lowerLetters c) : isAlphanumeric letter = true :=
  (List.mem_filter.mp isLetter).2

/-- No capital is left by the lower-case form of a character. -/
theorem isUpper_of_mem_lowerLetters {c letter : Char} (isLetter : letter ∈ lowerLetters c) :
    letter.isUpper = false := by
  obtain ⟨isChar, isPlain⟩ := List.mem_filter.mp isLetter
  unfold lowerChar at isChar
  split at isChar
  next isAscii =>
    rw [List.mem_singleton.mp isChar]
    exact forall_ascii (motive := fun c => c.toLower.isUpper = false) (by decide) isAscii
  next beyond =>
    have others : ∀ letter ∈ ['i', '\u0307', 'k'], letter.isUpper = false :=
      eq_false_of_any (by decide)
    split at isChar
    · exact others letter (List.mem_append_left ['k'] isChar)
    · split at isChar
      · exact others letter (List.mem_append_right ['i', '\u0307'] isChar)
      · rw [List.mem_singleton.mp isChar] at isPlain
        exact absurd (toNat_lt_of_isAlphanumeric isPlain) beyond

theorem upperLetters_of_isAlphanumeric {c : Char} (isLetter : isAlphanumeric c = true) :
    upperLetters c = [c.toUpper] :=
  if_pos isLetter

theorem lowerLetters_of_isAlphanumeric {c : Char} (isLetter : isAlphanumeric c = true) :
    lowerLetters c = [c.toLower] := by
  have isAscii := toNat_lt_of_isAlphanumeric isLetter
  have staysLetter : isAlphanumeric c.toLower = true := by
    revert isLetter
    exact forall_ascii
      (motive := fun c => isAlphanumeric c = true → isAlphanumeric c.toLower = true)
      (by decide) isAscii
  rw [lowerLetters, lowerChar, if_pos isAscii, List.filter_cons_of_pos staysLetter, List.filter_nil]

end DesignCompiler.Text
