import DesignCompiler.Number.Lenient
import Mathlib.Data.List.TakeWhile
import DesignCompiler.Proofs.Json.Number

/-!
Contract: how large the integers are that design data gives as texts.

Owns:
- the lengths of the forms that a written integer goes through, none of which is longer than the one
  before;
- the law that such an integer has no more digits than one that JSON texts may hold.

Does not own: which fields of design data are numbers.
-/

set_option autoImplicit false

namespace DesignCompiler

private theorem length_splitSign_le (cs : List Char) : (splitSign cs).2.length ≤ cs.length := by
  unfold splitSign
  split <;> simp

private theorem natAbs_lt_of_signedDigits? {cs : List Char} {i : Int}
    (read : signedDigits? cs = some i) :
    i.natAbs < 10 ^ cs.length := by
  have digits := length_splitSign_le cs
  unfold signedDigits? at read
  cases sign : splitSign cs with
  | mk negative unsigned =>
      rw [sign] at digits read
      obtain ⟨value, isValue, rfl⟩ := Option.map_eq_some_iff.mp read
      obtain ⟨n, isNumber, same⟩ := Option.bind_eq_some_iff.mp isValue
      obtain rfl := Option.some.inj same
      have below : n < 10 ^ unsigned.length := by
        unfold digitsValue? at isNumber
        split at isNumber
        · next isRun =>
            cases isNumber
            exact Json.ofDigitChars_lt (List.all_eq_true.mp (Bool.and_eq_true_iff.mp isRun).2)
        · cases isNumber
      have magnitude : (if negative = true then -(n : Int) else n).natAbs = n := by
        split_ifs <;> simp
      rw [magnitude]
      exact below.trans_le (Nat.pow_le_pow_right (by decide) digits)

private theorem natAbs_lt_of_usualInteger? {cs : List Char} {i : Int}
    (read : usualInteger? cs = some i) :
    i.natAbs < 10 ^ cs.length := by
  unfold usualInteger? at read
  dsimp only at read
  split at read
  · cases read
  · have below := natAbs_lt_of_signedDigits? read
    split_ifs at below
    · exact below.trans_le (Nat.pow_le_pow_right (by decide) (Nat.zero_le _))
    · exact below

private theorem length_dropInnerUnderscores {cs kept : List Char}
    (dropped : dropInnerUnderscores cs = some kept) : kept.length ≤ cs.length := by
  unfold dropInnerUnderscores at dropped
  split at dropped
  · cases dropped
  · cases dropped
    exact List.length_filter_le _ _

private theorem length_dropZeroFraction {cs kept : List Char}
    (dropped : dropZeroFraction cs = some kept) :
    kept.length ≤ cs.length := by
  unfold dropZeroFraction at dropped
  split at dropped
  · cases dropped
    exact le_rfl
  · split at dropped
    · cases dropped
      exact (List.takeWhile_prefix _).length_le
    · cases dropped

private theorem length_dropLeadingZeros {cs kept : List Char}
    (dropped : dropLeadingZeros cs = some kept) :
    kept.length ≤ cs.length := by
  unfold dropLeadingZeros at dropped
  split at dropped
  · next rest =>
      have shorter := List.length_dropWhile_le (fun c => c == '0' || c == '_') rest
      split at dropped
      · cases dropped
        rw [List.length_drop]
        omega
      · next digits behind =>
          cases dropped
          rw [behind] at shorter
          simpa using shorter
      · next c digits _ behind =>
          split at dropped
          · cases dropped
            rw [behind] at shorter
            exact shorter.trans (Nat.le_succ _)
          · cases dropped
  · cases dropped
    exact le_rfl
  · split at dropped
    · cases dropped
      exact le_rfl
    · cases dropped
  · cases dropped

/-- The forms that an integer without a plus sign goes through. -/
theorem natAbs_lt_of_unsigned {unsigned : List Char} {i : Int}
    (read : (do
      let significant ← dropLeadingZeros unsigned
      let whole ← dropZeroFraction significant
      let digits ← dropInnerUnderscores whole
      usualInteger? digits) = some i) : i.natAbs < 10 ^ unsigned.length := by
  simp only [Option.bind_eq_bind, Option.bind_eq_some_iff] at read
  obtain ⟨significant, isSignificant, whole, isWhole, digits, isDigits, usual⟩ := read
  refine (natAbs_lt_of_usualInteger? usual).trans_le (Nat.pow_le_pow_right (by decide) ?_)
  calc digits.length ≤ whole.length := length_dropInnerUnderscores isDigits
    _ ≤ significant.length := length_dropZeroFraction isWhole
    _ ≤ unsigned.length := length_dropLeadingZeros isSignificant

private theorem natAbs_lt_of_lenientInteger? {cs : List Char} {i : Int}
    (read : lenientInteger? cs = some i) : i.natAbs < 10 ^ maxIntegerLength := by
  unfold lenientInteger? at read
  dsimp only at read
  generalize Text.trimBy Text.isWhiteSpace cs = text at read
  split at read
  · cases read
  · next short =>
      rw [Nat.not_lt] at short
      refine lt_of_lt_of_le ?_ (Nat.pow_le_pow_right (by decide) short)
      cases usual : usualInteger? text with
      | some j =>
          rw [usual] at read
          cases read
          exact natAbs_lt_of_usualInteger? usual
      | none =>
          rw [usual] at read
          dsimp only at read
          split at read
          · cases read
          · exact (natAbs_lt_of_unsigned read).trans_le
              (Nat.pow_le_pow_right (by decide) (Nat.le_succ _))
          · exact natAbs_lt_of_unsigned read

/-- An integer that design data gives as a text can be written and read again. -/
theorem isReadable_of_lenientNumber? {s : String} {n : Number} (read : lenientNumber? s = some n) :
    Json.IsReadable n := by
  unfold lenientNumber? at read
  split at read
  · next i isInteger =>
      cases read
      have below := natAbs_lt_of_lenientInteger? isInteger
      have same : Json.Reader.maxIntegerDigits = maxIntegerLength := rfl
      rw [Json.IsReadable, same, Nat.length_toDigits_le_iff (by decide) (by decide)]
      exact below
  · obtain ⟨x, _, rfl⟩ := Option.map_eq_some_iff.mp read
    trivial

end DesignCompiler
