import Mathlib.Data.Int.ModEq
import WasmGauge.Value.Arithmetic

/-!
# Integers of a fixed kind

Wrapping an integer gives the only integer of the kind that is equal to it modulo the size of the kind.
So it does not matter whether the numbers of a sum are wrapped before they are added, and an integer of
the kind stays as it is.

## Main statements

- `IntKind.wrap_eq_iff`: what wrapping gives.
- `Value.add_scalar`, `Value.sub_scalar_int`: sums and differences stay within their kind.
-/

namespace WasmGauge

namespace IntKind

variable {k : IntKind} {i j : Int}

/-! ## §1 Wrapping -/

/-- A kind has all integers between zero and one that it has. -/
theorem holds_of_le (hi : k.holds i = true) (hj : 0 ≤ j) (hle : j ≤ i) : k.holds j = true := by
  have hleast : k.least ≤ 0 := by
    unfold least
    split <;> omega
  simp only [holds, Bool.and_eq_true, decide_eq_true_eq] at hi ⊢
  omega

theorem exists_eq_succ (hk : 0 < k.bits) : ∃ m signed, k = ⟨m + 1, signed⟩ := by
  obtain ⟨bits, signed⟩ := k
  obtain ⟨m, rfl⟩ : ∃ m, bits = m + 1 := ⟨bits - 1, (Nat.sub_add_cancel hk).symm⟩
  exact ⟨m, signed, rfl⟩

/-- The integers of a kind with a sign lie around zero, and those without one begin there. -/
theorem holds_succ_iff {m : Nat} {signed : Bool} :
    IntKind.holds ⟨m + 1, signed⟩ i = true ↔
      if signed then -(twoPow m : Int) ≤ i ∧ i < twoPow m else 0 ≤ i ∧ i < twoPow (m + 1) := by
  cases signed with
  | true =>
    simp only [holds, least, greatest, if_true, Nat.add_sub_cancel, Bool.and_eq_true,
      decide_eq_true_eq]
    omega
  | false =>
    simp only [holds, least, greatest, Bool.false_eq_true, if_false, Bool.and_eq_true,
      decide_eq_true_eq]
    omega

theorem wrap_modEq (k : IntKind) (i : Int) : k.wrap i ≡ i [ZMOD twoPow k.bits] := by
  unfold wrap
  cases k.signed with
  | true => exact Int.bmod_emod
  | false => exact Int.mod_modEq i _

theorem holds_wrap (hk : 0 < k.bits) (i : Int) : k.holds (k.wrap i) = true := by
  obtain ⟨m, signed, rfl⟩ := exists_eq_succ hk
  have hpos : 0 < twoPow m := Nat.two_pow_pos m
  have hsize : twoPow (m + 1) = twoPow m * 2 := rfl
  rw [holds_succ_iff]
  cases signed with
  | true =>
    have hlow := Int.le_bmod (x := i) (m := twoPow (m + 1)) (by omega)
    have hhigh := Int.bmod_lt (x := i) (m := twoPow (m + 1)) (by omega)
    simp only [wrap, if_true]
    omega
  | false =>
    have hlow := Int.emod_nonneg i (b := (twoPow (m + 1) : Int)) (by omega)
    have hhigh := Int.emod_lt_of_pos i (b := (twoPow (m + 1) : Int)) (by omega)
    simpa [wrap] using ⟨hlow, hhigh⟩

/-- Two integers of a kind that are equal modulo its size are equal. -/
theorem eq_of_modEq (hk : 0 < k.bits) (hi : k.holds i = true) (hj : k.holds j = true)
    (h : i ≡ j [ZMOD twoPow k.bits]) : i = j := by
  obtain ⟨m, signed, rfl⟩ := exists_eq_succ hk
  have hsize : twoPow (m + 1) = twoPow m * 2 := rfl
  rw [holds_succ_iff] at hi hj
  -- the integers of a kind are as many as its size, and so no two of them lie that far apart
  have hclose : |j - i| < twoPow (m + 1) := by
    rw [abs_lt]
    cases signed <;> simp only [if_true, if_false, Bool.false_eq_true] at hi hj <;> omega
  have hzero := Int.eq_zero_of_abs_lt_dvd h.dvd hclose
  omega

/-- Wrapping gives the only integer of the kind that is equal to `i` modulo the size of the kind. -/
theorem wrap_eq_iff (hk : 0 < k.bits) :
    k.wrap i = j ↔ k.holds j = true ∧ j ≡ i [ZMOD twoPow k.bits] := by
  constructor
  · rintro rfl
    exact ⟨holds_wrap hk i, wrap_modEq k i⟩
  · rintro ⟨hj, hmod⟩
    exact eq_of_modEq hk (holds_wrap hk i) hj ((wrap_modEq k i).trans hmod.symm)

theorem wrap_of_holds (hk : 0 < k.bits) (hi : k.holds i = true) : k.wrap i = i :=
  (wrap_eq_iff hk).2 ⟨hi, rfl⟩

/-- Numbers may be wrapped before they are added. -/
theorem wrap_wrap_add_wrap (hk : 0 < k.bits) (i j : Int) :
    k.wrap (k.wrap i + k.wrap j) = k.wrap (i + j) :=
  (wrap_eq_iff hk).2 ⟨holds_wrap hk _,
    (wrap_modEq k (i + j)).trans ((wrap_modEq k i).add (wrap_modEq k j)).symm⟩

end IntKind

/-! ## §2 Sums and differences -/

namespace Value

variable {k : IntKind}

/-- The sum of two scalars of one kind is wrapped to the kind. -/
theorem add_scalar (k : IntKind) (i j : Int) :
    Value.add (.scalar (.int k i)) (.scalar (.int k j)) = .ok (.scalar (.int k (k.wrap (i + j)))) := by
  have hkind : ScalarKind.join (.int k) (.int k) = .int k := by
    simp [ScalarKind.join, ScalarKind.joinInts]
  simp [Value.add, Operation.apply, Operation.onScalars, Operation.sum, Scalar.kind, hkind,
    Scalar.toInt]

/-- A plain number that a kind has is taken into the kind, and the difference is wrapped. -/
theorem sub_scalar_int {j : Int} (hj : k.holds j = true) (i : Int) :
    Value.sub (.scalar (.int k i)) (.int j) = .ok (.scalar (.int k (k.wrap (i - j)))) := by
  have hkind : ScalarKind.join (.int k) (.int k) = .int k := by
    simp [ScalarKind.join, ScalarKind.joinInts]
  -- a plain number has no kind of its own, and takes that of the scalar
  have hmeet : Operation.difference.meeting (.int k) (.int j) = .int k := rfl
  have htaken : Number.toKind (.int k) (.int j) = .ok (.int k j) := by
    simp [Number.toKind, IntKind.take, hj]
  simp only [Value.sub, Operation.apply, Value.number?, Scalar.kind, hmeet, htaken, bind, Except.bind]
  simp [Operation.onScalars, Operation.difference, Scalar.kind, Scalar.toKind, hkind, Scalar.toInt]

end Value

end WasmGauge
