import DesignCompiler.Http.Url
import Mathlib.Data.List.TakeWhile

/-!
Contract: addresses that can be read.

Owns:
- `IsPathChar`, the characters that stand for themselves in the path of an address;
- the law that a path of such characters is an address.

Does not own: which paths are asked for, see `DesignCompiler.Proofs.Service.Link`.
-/

set_option autoImplicit false

namespace DesignCompiler.Http

private theorem splitAtFirst_of_forall {p : Char → Bool} {cs : List Char}
    (nowhere : ∀ c ∈ cs, p c = false) : splitAtFirst p cs = (cs, []) := by
  have passes : ∀ c ∈ cs, (!p c) = true := by
    intro c member
    rw [nowhere c member]
    rfl
  rw [splitAtFirst, List.takeWhile_eq_self_iff.mpr passes, List.dropWhile_eq_nil_iff.mpr passes]

/-- A character that stands for itself in the path of an address. -/
def IsPathChar (c : Char) : Prop :=
  (0x20 ≤ c.toNat ∧ c.toNat ≠ 0x7F) ∧ c ≠ ':' ∧ c ≠ '#' ∧ c ≠ '?'

instance : DecidablePred IsPathChar :=
  fun _ => inferInstanceAs (Decidable (_ ∧ _))

/-- A path is an address without a host. -/
theorem Url.read_path {path : List Char} (plain : ∀ c ∈ path, IsPathChar c)
    (noHost : ∀ rest, path ≠ '/' :: '/' :: rest) :
    Url.read (String.ofList path) = .ok ⟨[], [], path, none⟩ := by
  have noControl : path.findIdx? (fun c => c.toNat < 0x20 || c.toNat == 0x7F) = none := by
    rw [List.findIdx?_eq_none_iff]
    intro c member
    obtain ⟨⟨printable, notDelete⟩, -⟩ := plain c member
    simp only [Bool.or_eq_false_iff, decide_eq_false_iff_not, beq_eq_false_iff_ne]
    exact ⟨Nat.not_lt.mpr printable, notDelete⟩
  have noColon : splitAtFirst (· == ':') path = (path, []) :=
    splitAtFirst_of_forall fun c member => beq_eq_false_iff_ne.mpr (plain c member).2.1
  have noHash : splitAtFirst (· == '#') path = (path, []) :=
    splitAtFirst_of_forall fun c member => beq_eq_false_iff_ne.mpr (plain c member).2.2.1
  have noQuestion : splitAtFirst (· == '?') path = (path, []) :=
    splitAtFirst_of_forall fun c member => beq_eq_false_iff_ne.mpr (plain c member).2.2.2
  have noScheme : splitScheme path = ([], path) := by
    rw [splitScheme, noColon]
    cases path with
    | nil => rfl
    | cons first name => rfl
  have noQuery : splitQuery path = (path, none) := by
    rw [splitQuery, noQuestion]
  have ownHost : readHost [] [] = .ok [] := rfl
  unfold Url.read
  simp only [String.toList_ofList, noControl, noScheme, noHash, ownHost, noQuery]
  rfl

end DesignCompiler.Http
