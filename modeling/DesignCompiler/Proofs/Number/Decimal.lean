import DesignCompiler.Number.Shortest
import DesignCompiler.Proofs.Number.Rounding
import Mathlib.Tactic.Ring

/-!
Contract: decimal numbers that read back as a double.

Owns:
- `Decimal.padded`, a decimal number with zeros at the end of its digits, which has the same
  nearest double;
- the law that the shortest digits of a finite double read back as this double.

Does not own: that no fewer digits do, nor the texts of numbers.
-/

set_option autoImplicit false

namespace DesignCompiler

theorem toDigits_mul_pow {n : Nat} (positive : 0 < n) (zeros : Nat) :
    Nat.toDigits 10 (n * 10 ^ zeros) = Nat.toDigits 10 n ++ List.replicate zeros '0' := by
  induction zeros with
  | zero => rw [Nat.pow_zero, Nat.mul_one, List.replicate_zero, List.append_nil]
  | succ zeros inductionHypothesis =>
      have positive' : 0 < n * 10 ^ zeros := Nat.mul_pos positive (Nat.pow_pos (by decide))
      have next : n * 10 ^ (zeros + 1) = 10 * (n * 10 ^ zeros) + 0 := by
        rw [Nat.pow_succ]
        ring
      rw [next, ← Nat.toDigits_append_toDigits (by decide) positive' (by decide),
        inductionHypothesis, Nat.toDigits_zero, List.append_assoc, ← List.replicate_succ']

theorem length_toDigits_mul_pow {n : Nat} (positive : 0 < n) (zeros : Nat) :
    (Nat.toDigits 10 (n * 10 ^ zeros)).length = (Nat.toDigits 10 n).length + zeros := by
  rw [toDigits_mul_pow positive, List.length_append, List.length_replicate]

namespace Decimal

/-- The same number with zeros put to the end of its digits. -/
def padded (d : Decimal) (zeros : Nat) : Decimal :=
  ⟨d.digits * 10 ^ zeros, d.exponent - zeros⟩

theorem padded_zero (d : Decimal) : d.padded 0 = d := by
  simp [padded]

private theorem padded_padded (d : Decimal) (zeros more : Nat) :
    (d.padded zeros).padded more = d.padded (zeros + more) := by
  simp only [padded, Nat.pow_add, Nat.mul_assoc, Decimal.mk.injEq, true_and]
  omega

private theorem leadingExponent_padded {d : Decimal} (nonzero : d.digits ≠ 0) (zeros : Nat) :
    (d.padded zeros).leadingExponent = d.leadingExponent := by
  have length := length_toDigits_mul_pow (Nat.pos_of_ne_zero nonzero) zeros
  simp only [leadingExponent, digitChars, padded, length]
  omega

private theorem ratio_padded (d : Decimal) :
    ∃ factor, 0 < factor ∧ (d.padded 1).ratio = (factor * d.ratio.1, factor * d.ratio.2) := by
  obtain ⟨digits, exponent⟩ := d
  cases exponent with
  | ofNat n =>
      cases n with
      | zero =>
          have exponent : Int.ofNat 0 - (1 : Nat) = Int.negSucc 0 := rfl
          refine ⟨10, by decide, ?_⟩
          simp only [padded, ratio, exponent, Nat.pow_eq, Prod.mk.injEq, Nat.zero_add, Nat.mul_one,
            and_true]
          ring
      | succ n =>
          have exponent : Int.ofNat (n + 1) - (1 : Nat) = Int.ofNat n := by
            simp only [Int.ofNat_eq_natCast]
            omega
          refine ⟨1, by decide, ?_⟩
          simp only [padded, ratio, exponent, Nat.pow_eq, Nat.one_mul, Prod.mk.injEq, and_true]
          ring
  | negSucc n =>
      have exponent : Int.negSucc n - (1 : Nat) = Int.negSucc (n + 1) := by
        omega
      refine ⟨10, by decide, ?_⟩
      simp only [padded, ratio, exponent, Nat.pow_eq, Prod.mk.injEq]
      constructor <;> ring

/-- Zeros at the end of the digits make no difference for the nearest double. -/
theorem toBinary64_padded (negative : Bool) (d : Decimal) (zeros : Nat) :
    (d.padded zeros).toBinary64 negative = d.toBinary64 negative := by
  induction zeros with
  | zero => rw [padded_zero]
  | succ zeros inductionHypothesis =>
      rw [← padded_padded, ← inductionHypothesis]
      generalize d.padded zeros = d
      unfold toBinary64
      by_cases zero : d.digits = 0
      · have zero' : (d.padded 1).digits = 0 := by
          simp [padded, zero]
        rw [if_pos (Or.inl zero), if_pos (Or.inl zero')]
      · have nonzero : (d.padded 1).digits ≠ 0 := by
          simp [padded, zero]
        obtain ⟨factor, positive, ratio⟩ := ratio_padded d
        simp only [zero, nonzero, false_or, leadingExponent_padded zero, ratio,
          Binary64.ofRatio_mul_mul positive]

theorem exists_padded_trimUpTo (limit : Nat) (d : Decimal) :
    ∃ zeros, d = (trimUpTo limit d).padded zeros := by
  induction limit generalizing d with
  | zero => exact ⟨0, (padded_zero d).symm⟩
  | succ limit inductionHypothesis =>
      unfold trimUpTo
      split
      next divisible =>
        obtain ⟨zeros, isPadded⟩ := inductionHypothesis ⟨d.digits / 10, d.exponent + 1⟩
        refine ⟨zeros + 1, ?_⟩
        rw [← padded_padded, ← isPadded]
        obtain ⟨digits, exponent⟩ := d
        simp only at divisible
        simp only [padded, Nat.pow_one, Decimal.mk.injEq]
        constructor <;> omega
      · exact ⟨0, (padded_zero d).symm⟩

theorem toBinary64_trimmed (negative : Bool) (d : Decimal) :
    d.trimmed.toBinary64 negative = d.toBinary64 negative := by
  obtain ⟨zeros, isPadded⟩ := exists_padded_trimUpTo d.digitChars.length d
  calc d.trimmed.toBinary64 negative
      = (d.trimmed.padded zeros).toBinary64 negative := (toBinary64_padded _ _ _).symm
    _ = d.toBinary64 negative := congrArg (toBinary64 negative) isPadded.symm

private theorem ratio_of_negative (digits : Nat) {places : Nat} (positive : 0 < places) :
    (Decimal.mk digits (-places)).ratio = (digits, 10 ^ places) := by
  obtain ⟨n, rfl⟩ := Nat.exists_eq_succ_of_ne_zero (Nat.ne_of_gt positive)
  rfl

end Decimal

namespace Binary64.Finite

private theorem digits_exact (value : Finite) :
    value.exact.digits = value.steps * 5 ^ unitExponent := by
  rw [exact, Nat.pow_eq]

/-- The first of all digits of a value is neither too small nor too large to be read. -/
theorem leadingExponent_exact {value : Finite} (nonzero : value.significand ≠ 0) :
    -400 ≤ value.exact.leadingExponent ∧ value.exact.leadingExponent < 400 := by
  have positive : 0 < value.steps :=
    Nat.mul_pos (Nat.pos_of_ne_zero nonzero) (Nat.two_pow_pos _)
  have atLeast : ¬ (Nat.toDigits 10 value.exact.digits).length ≤ 674 := by
    rw [Nat.length_toDigits_le_iff (by decide) (by decide), Nat.not_lt, digits_exact]
    calc 10 ^ 674 ≤ 5 ^ unitExponent := by decide +kernel
      _ ≤ value.steps * 5 ^ unitExponent := Nat.le_mul_of_pos_left _ positive
  have atMost : (Nat.toDigits 10 value.exact.digits).length ≤ 1474 := by
    rw [Nat.length_toDigits_le_iff (by decide) (by decide), digits_exact]
    calc value.steps * 5 ^ unitExponent
        < 2 ^ topExponent * 5 ^ unitExponent :=
          Nat.mul_lt_mul_of_pos_right value.steps_lt (Nat.pow_pos (by decide))
      _ ≤ 10 ^ 1474 := by decide +kernel
  have exponent : value.exact.exponent = -1074 := rfl
  unfold Decimal.leadingExponent Decimal.digitChars
  rw [exponent]
  generalize (Nat.toDigits 10 value.exact.digits).length = length at atLeast atMost
  omega

/-- Whole steps over a power of ten, as which all digits are read. -/
theorem nearest_of_digits (negative : Bool) (steps n : Nat) :
    nearest negative (steps * 5 ^ n * 2 ^ n) (10 ^ n) = nearest negative steps 1 := by
  have numerator : steps * 5 ^ n * 2 ^ n = 10 ^ n * steps := by
    rw [Nat.mul_assoc, ← Nat.mul_pow, Nat.mul_comm]
  have positive : 0 < 10 ^ n := Nat.pow_pos (Nat.zero_lt_succ 9)
  have scaled := nearest_mul_mul positive negative steps 1
  rw [Nat.mul_one] at scaled
  rw [numerator, scaled]

/-- All digits of a value read back as the value. -/
theorem toBinary64_exact {value : Finite} (nonzero : value.significand ≠ 0) :
    value.exact.toBinary64 value.negative = .finite value := by
  have positive : 0 < value.steps :=
    Nat.mul_pos (Nat.pos_of_ne_zero nonzero) (Nat.two_pow_pos _)
  have powers : 0 < 5 ^ unitExponent := Nat.pow_pos (Nat.zero_lt_succ 4)
  have digits : value.exact.digits ≠ 0 := by
    rw [digits_exact]
    exact Nat.ne_of_gt (Nat.mul_pos positive powers)
  obtain ⟨atLeast, below⟩ := leadingExponent_exact nonzero
  have positiveUnit : 0 < unitExponent := by decide
  unfold Decimal.toBinary64
  rw [if_neg (not_or.mpr ⟨digits, Int.not_lt.mpr atLeast⟩), if_neg (Int.not_le.mpr below),
    ← nearest_steps value]
  unfold exact ofRatio
  generalize unitExponent = unit at positiveUnit ⊢
  rw [Decimal.ratio_of_negative _ positiveUnit]
  exact nearest_of_digits _ _ unit

private theorem isReadBy_of_decimal? {value : Finite} {count : Nat} {d : Decimal}
    (found : value.decimal? count = some d) : d.toBinary64 value.negative = .finite value := by
  have read := List.find?_some found
  unfold isReadBy at read
  exact of_decide_eq_true read

/-- The shortest digits of a value read back as the value. -/
theorem toBinary64_shortest (value : Finite) :
    value.shortest.toBinary64 value.negative = .finite value := by
  unfold shortest
  split
  next zero =>
    have noSteps : value.steps = 0 := by
      rw [steps, zero, Nat.zero_mul]
    have nearest := nearest_steps value
    rw [noSteps] at nearest
    unfold Decimal.toBinary64 ofRatio
    rw [if_pos (Or.inl rfl), Nat.zero_mul, nearest]
  next nonzero =>
    rw [Decimal.toBinary64_trimmed]
    cases found : (List.range' 1 17).findSome? value.decimal? with
    | none => exact toBinary64_exact nonzero
    | some d =>
        obtain ⟨count, -, isDecimal⟩ := List.exists_of_findSome?_eq_some found
        exact isReadBy_of_decimal? isDecimal

end Binary64.Finite

end DesignCompiler
