import WasmGauge.Proofs.Fibonacci.Agreement
import WasmGauge.Proofs.Number.Kinds

/-!
# The Fibonacci function on scalars

The host function works on integers without bounds and on integers of a fixed kind alike. Of a scalar
it makes a scalar of the same kind, whose value is the Fibonacci number wrapped to the kind: although
every sum on the way is wrapped, it comes to the same as wrapping once at the end. The differences are
never wrapped, because the function takes them from numbers that are at least two.

## Main statements

- `fibWithin_scalar`: what the host function gives for a scalar, and when it gives up.
- `fib_wraps`: plain integers and scalars together.
-/

namespace WasmGauge.Fibonacci

variable {k : IntKind} {n : Int}

/-! ## §1 One scalar -/

/-- The host function gives the Fibonacci number for a scalar, wrapped to its kind, if calls may be
nested as deep as the scalar says, but once at least. -/
theorem fibWithin_scalar (depth : Nat) (hk : 0 < k.bits) (hn : k.holds n = true) :
    fibWithin depth (.scalar (.int k n)) =
      if max 1 n ≤ depth then .ok (.scalar (.int k (k.wrap (exact n)))) else .error .depth := by
  -- on the depth, for all scalars at once: each of the two calls has one less
  induction depth generalizing n with
  | zero => rw [if_neg (by omega)]; rfl
  | succ depth ih =>
    by_cases hlow : n < 2
    · have hbelow : Value.isBelowTwo (.scalar (.int k n)) = .ok true := by
        simp [Value.isBelowTwo, hlow]
      rw [if_pos (by omega), exact_of_lt hlow, IntKind.wrap_of_holds hk hn]
      unfold fibWithin
      rw [hbelow]
      rfl
    · have htwo : 2 ≤ n := Int.not_lt.1 hlow
      have hbelow : Value.isBelowTwo (.scalar (.int k n)) = .ok false := by
        simp [Value.isBelowTwo, hlow]
      -- both differences stay in the kind, so that the calls are about the numbers themselves
      have hfirst : k.holds (n - 1) = true := IntKind.holds_of_le hn (by omega) (by omega)
      have hsecond : k.holds (n - 2) = true := IntKind.holds_of_le hn (by omega) (by omega)
      have hone : Value.sub (.scalar (.int k n)) (.int 1) = .ok (.scalar (.int k (n - 1))) := by
        rw [Value.sub_scalar_int (IntKind.holds_of_le hn (by decide) (by omega)),
          IntKind.wrap_of_holds hk hfirst]
      have htwo' : Value.sub (.scalar (.int k n)) (.int 2) = .ok (.scalar (.int k (n - 2))) := by
        rw [Value.sub_scalar_int (IntKind.holds_of_le hn (by decide) htwo),
          IntKind.wrap_of_holds hk hsecond]
      -- wrapping what the calls give before it is added makes no difference
      have hsum : Value.add (.scalar (.int k (k.wrap (exact (n - 1)))))
          (.scalar (.int k (k.wrap (exact (n - 2))))) = .ok (.scalar (.int k (k.wrap (exact n)))) := by
        rw [Value.add_scalar, IntKind.wrap_wrap_add_wrap hk, ← exact_add htwo]
      have hdepth : max 1 n ≤ ((depth + 1 : Nat) : Int) ↔ max 1 (n - 1) ≤ (depth : Int) := by omega
      unfold fibWithin
      simp only [hbelow, hone, htwo', bind, Except.bind, Bool.false_eq_true, if_false, ih hfirst,
        ih hsecond, hdepth]
      by_cases hdeep : max 1 (n - 1) ≤ (depth : Int)
      · have hdeep' : max 1 (n - 2) ≤ (depth : Int) := by omega
        simp only [if_pos hdeep, if_pos hdeep', hsum]
      · simp only [if_neg hdeep]

/-! ## §2 Plain integers and scalars -/

/-- Under any limit of nested calls, the host function gives the Fibonacci number for every integer that
stays within the limit. For a scalar of any kind it gives a scalar of the same kind: the only one that is
equal to the Fibonacci number modulo the size of the kind. Beyond the limit it gives up on both. -/
theorem fib_wraps (limit : Nat) :
    (∀ n : Int, fibWithin limit (.int n) =
      if max 1 n ≤ limit then .ok (.int (if n < 2 then n else Nat.fib n.toNat)) else .error .depth) ∧
    ∀ (k : IntKind) (n : Int), 0 < k.bits → k.holds n = true →
      (max 1 n ≤ limit → ∃ v, fibWithin limit (.scalar (.int k n)) = .ok (.scalar (.int k v)) ∧
        k.holds v = true ∧
        v ≡ (if n < 2 then n else Nat.fib n.toNat) [ZMOD 2 ^ k.bits]) ∧
      (limit < max 1 n → fibWithin limit (.scalar (.int k n)) = .error .depth) := by
  refine ⟨fibWithin_int limit, fun k n hk hn => ⟨fun hlimit => ?_, fun hlimit => ?_⟩⟩
  · have hsize : ((twoPow k.bits : Nat) : Int) = 2 ^ k.bits := Int.natCast_pow 2 k.bits
    refine ⟨k.wrap (exact n), ?_, IntKind.holds_wrap hk _, hsize ▸ IntKind.wrap_modEq k (exact n)⟩
    rw [fibWithin_scalar limit hk hn, if_pos hlimit]
  · rw [fibWithin_scalar limit hk hn, if_neg (Int.not_le.2 hlimit)]

/-- The 13th number, 233, is -23 as a scalar of eight bits with a sign. -/
theorem fib_wraps_int8 : 0 < IntKind.bits ⟨8, true⟩ ∧ IntKind.holds ⟨8, true⟩ 13 = true ∧
    max 1 13 ≤ (referenceDepth : Int) ∧
      fib (.scalar (.int ⟨8, true⟩ 13)) = .ok (.scalar (.int ⟨8, true⟩ (-23))) := by
  have hlimit : max 1 13 ≤ (referenceDepth : Int) := by decide
  obtain ⟨v, hv, hholds, hmod⟩ := ((fib_wraps referenceDepth).2 ⟨8, true⟩ 13 (by decide) (by decide)).1
    hlimit
  -- of the integers of the kind, only this one is equal to 233 modulo 256
  have heq : v = -23 := IntKind.eq_of_modEq (k := ⟨8, true⟩) (by decide) hholds (by decide)
    (hmod.trans (by decide))
  exact ⟨by decide, by decide, hlimit, heq ▸ hv⟩

end WasmGauge.Fibonacci
