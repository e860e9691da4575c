import Mathlib.Tactic.Ring
import WasmGauge.Value.Written

/-!
# How large integers may be

Two things can be done to an integer only if it is not too large: it is written if it has no more than
4300 digits, and it is made a double if the double nearest to it is finite. Between the largest double
and the next power of two the halfway point decides, and it is already too large, since ties go to the
even neighbour.

## Main statements

- `intText_eq_error_iff`: an integer is not written from `10 ^ 4300` on, and always below.
- `Float.ofInt?_eq_none_iff`: an integer is not made a double from `2 ^ 1024 - 2 ^ 970` on, and always
  below.
-/

namespace WasmGauge

theorem tenPow_eq (k : Nat) : tenPow k = 10 ^ k := rfl

theorem tenPow_le_tenPow {a b : Nat} (h : a ≤ b) : tenPow a ≤ tenPow b :=
  Nat.pow_le_pow_right (by decide) h

theorem length_repr_le_digitLimit_iff {n : Nat} :
    (Nat.repr n).length ≤ digitLimit ↔ n < tenPow digitLimit := by
  rw [tenPow_eq]
  exact Nat.length_repr_le_iff (by decide)

/-- An integer with no more than 4300 digits is written. -/
theorem intText_of_lt {n : Int} (h : n.natAbs < tenPow digitLimit) :
    intText n = .ok (toString n) := by
  have hshort : ¬ (Nat.repr n.natAbs).length > digitLimit :=
    not_lt.2 (length_repr_le_digitLimit_iff.2 h)
  unfold intText
  dsimp only
  rw [if_neg hshort]
  -- the sign is written apart from the digits
  cases n with
  | ofNat m => exact congrArg Except.ok (if_neg (by simp))
  | negSucc m => exact congrArg Except.ok (if_pos (Int.negSucc_lt_zero m))

theorem intText_eq_error_iff {n : Int} {fault : Fault} :
    intText n = .error fault ↔ fault = .digitLimit ∧ tenPow digitLimit ≤ n.natAbs := by
  by_cases hshort : n.natAbs < tenPow digitLimit
  · rw [intText_of_lt hshort]
    constructor
    · intro h
      cases h
    · rintro ⟨-, hlarge⟩
      exact absurd hshort (not_lt.2 hlarge)
  · have hlong : (Nat.repr n.natAbs).length > digitLimit :=
      not_le.1 (mt length_repr_le_digitLimit_iff.1 hshort)
    unfold intText
    dsimp only
    rw [if_pos hlong, Except.error.injEq]
    exact ⟨fun h => ⟨h.symm, not_lt.1 hshort⟩, fun h => h.1.symm⟩

/-! ## §1 Rounding -/

/-- Below the next multiple, an odd quotient is rounded up from the halfway point on. -/
theorem roundHalfEven_eq_succ_iff {num half q : Nat} (hhalf : 0 < half) (hodd : q % 2 = 1)
    (hlt : num < (q + 1) * (2 * half)) :
    roundHalfEven num (2 * half) = q + 1 ↔ q * (2 * half) + half ≤ num := by
  have hsplit : 2 * half * (num / (2 * half)) + num % (2 * half) = num := Nat.div_add_mod ..
  have hrest : num % (2 * half) < 2 * half := Nat.mod_lt _ (by omega)
  have hle : num / (2 * half) ≤ q := Nat.le_of_lt_succ (Nat.div_lt_of_lt_mul (by rwa [Nat.mul_comm]))
  unfold roundHalfEven
  dsimp only
  rcases Nat.lt_or_eq_of_le hle with hbelow | hequal
  · -- the quotient is too small for that, even if it is rounded up
    have hnum : num < q * (2 * half) := (Nat.div_lt_iff_lt_mul (by omega)).1 hbelow
    have hup : num / (2 * half) % 2 < 2 := Nat.mod_lt _ (by decide)
    constructor
    · intro h
      split at h
      · omega
      · split at h <;> omega
    · omega
  · rw [hequal] at hsplit ⊢
    rw [Nat.mul_comm] at hsplit
    split
    · omega
    · split <;> omega

theorem twoPow_add (a b : Nat) : twoPow (a + b) = twoPow a * twoPow b := Nat.pow_add 2 a b

theorem twoPow_succ (k : Nat) : twoPow (k + 1) = 2 * twoPow k := Nat.pow_succ'

theorem twoPow_pos (k : Nat) : 0 < twoPow k := Nat.two_pow_pos k

theorem twoPow_le_twoPow {a b : Nat} (h : a ≤ b) : twoPow a ≤ twoPow b :=
  Nat.pow_le_pow_right (by decide) h

namespace BinaryFormat

/-- The last place of a natural number lies as many places below the first one as the significand has
bits. -/
theorem placeFor_one (f : BinaryFormat) {num : Nat} (hnum : num ≠ 0)
    (hleast : f.leastExponent ≤ -f.precision) :
    f.placeFor num 1 = (num.log2 : Int) + 1 - f.precision := by
  have hone : (1 : Nat).log2 = 0 := by decide
  have hguess : max f.leastExponent ((num.log2 : Int) - ((1 : Nat).log2 : Int) - f.precision) =
      (num.log2 : Int) - f.precision := by
    rw [hone]
    omega
  have hpow : twoPow num.log2 ≤ num := Nat.log2_self_le hnum
  unfold placeFor
  simp only [hguess]
  -- the guess is one too small, since the quotient fills one place more than the significand
  rw [if_neg, sub_add_eq_add_sub]
  rw [not_lt]
  unfold scale
  -- a number with fewer places than the significand is scaled up, and another one down
  split
  · have hshift : (-((num.log2 : Int) - f.precision)).toNat = f.precision - num.log2 := by omega
    have hsum : num.log2 + (f.precision - num.log2) = f.precision := by omega
    rw [hshift]
    calc twoPow f.precision
        = twoPow num.log2 * twoPow (f.precision - num.log2) := by rw [← twoPow_add, hsum]
      _ ≤ num * twoPow (f.precision - num.log2) := Nat.mul_le_mul_right _ hpow
      _ = num * twoPow (f.precision - num.log2) / 1 := (Nat.div_one _).symm
  · have hshift : ((num.log2 : Int) - f.precision).toNat = num.log2 - f.precision := by omega
    have hsum : f.precision + (num.log2 - f.precision) = num.log2 := by omega
    rw [hshift, Nat.one_mul]
    refine (Nat.le_div_iff_mul_le (twoPow_pos _)).2 ?_
    calc twoPow f.precision * twoPow (num.log2 - f.precision)
        = twoPow num.log2 := by rw [← twoPow_add, hsum]
      _ ≤ num := hpow

/-- A quotient is too large for a format if its last place, after a carry, lies above the last place of
the largest numbers. -/
theorem exists_nearest_eq_infinite_iff {f : BinaryFormat} {negative : Bool} {num den : Nat}
    (hnum : num ≠ 0) :
    (∃ b, f.nearest negative num den = .infinite b) ↔
      f.greatestExponent < f.placeFor num den +
        if roundHalfEven (scale num den (f.placeFor num den)).1
          (scale num den (f.placeFor num den)).2 = twoPow f.precision then 1 else 0 := by
  have hbranch : ∀ (large : Prop) [Decidable large] (significand : Nat) (exponent : Int),
      (∃ b, (if large then Datum.infinite negative else .finite negative significand exponent) =
        .infinite b) ↔ large := by
    intro large _ significand exponent
    split <;> simp [*]
  unfold nearest
  rw [if_neg hnum]
  by_cases hcarry : roundHalfEven (scale num den (f.placeFor num den)).1
      (scale num den (f.placeFor num den)).2 = twoPow f.precision
  · simp only [hcarry, if_true]
    exact hbranch _ _ _
  · simp only [hcarry, if_false, add_zero]
    exact hbranch _ _ _

/-- A natural number is too large for a format from the halfway point on between the largest number of
the format and the next power of two. -/
theorem exists_nearest_one_eq_infinite_iff {f : BinaryFormat} {precision place num : Nat}
    {negative : Bool} (hprecision : f.precision = precision + 1) (hgreatest : f.greatestExponent = place + 1)
    (hleast : f.leastExponent ≤ -f.precision) :
    (∃ b, f.nearest negative num 1 = .infinite b) ↔
      twoPow (place + precision + 2) - twoPow place ≤ num := by
  have hplace : 0 < twoPow place := twoPow_pos place
  have hbound : twoPow (place + precision + 2) - twoPow place =
      (twoPow f.precision - 1) * (2 * twoPow place) + twoPow place := by
    have hfull : twoPow (place + precision + 2) = twoPow f.precision * (2 * twoPow place) := by
      rw [hprecision, ← twoPow_succ, ← twoPow_add]
      exact congrArg twoPow (by omega)
    have hle : 2 * twoPow place ≤ twoPow f.precision * (2 * twoPow place) :=
      Nat.le_mul_of_pos_left _ (twoPow_pos _)
    rw [hfull, Nat.sub_mul, Nat.one_mul]
    omega
  rcases Nat.eq_zero_or_pos num with rfl | hnum
  · have hzero : f.nearest negative 0 1 = .finite negative 0 f.leastExponent := rfl
    rw [hzero, hbound]
    constructor
    · rintro ⟨b, h⟩
      cases h
    · omega
  have hlow : twoPow num.log2 ≤ num := Nat.log2_self_le hnum.ne'
  have hhigh : num < twoPow (num.log2 + 1) := Nat.lt_log2_self
  rw [exists_nearest_eq_infinite_iff hnum.ne', f.placeFor_one hnum.ne' hleast, hgreatest, hprecision]
  rcases Nat.lt_trichotomy num.log2 (place + precision + 1) with hbelow | hequal | habove
  · -- even with a carry the exponent is not too large
    have hle : twoPow (num.log2 + 1) ≤ twoPow (place + precision + 1) := twoPow_le_twoPow hbelow
    have htwice : twoPow (place + precision + 2) = 2 * twoPow (place + precision + 1) := twoPow_succ _
    have hsmall : twoPow place ≤ twoPow (place + precision + 1) := twoPow_le_twoPow (by omega)
    constructor
    · intro h
      split at h <;> omega
    · omega
  · -- it is too large if and only if there is a carry
    have hexponent : (num.log2 : Int) + 1 - (precision + 1 : Nat) = ((place + 1 : Nat) : Int) := by
      omega
    have hscale : scale num 1 ((place + 1 : Nat) : Int) = (num, 2 * twoPow place) := by
      rw [scale, if_neg (by omega), Int.toNat_natCast, Nat.one_mul, twoPow_succ]
    have hfull : twoPow f.precision = 2 * twoPow precision := by rw [hprecision, twoPow_succ]
    have hsignificand : twoPow f.precision - 1 + 1 = twoPow f.precision :=
      Nat.sub_add_cancel (twoPow_pos _)
    have hlt : num < (twoPow f.precision - 1 + 1) * (2 * twoPow place) := by
      rw [hsignificand, hprecision, ← twoPow_succ, ← twoPow_add]
      exact lt_of_lt_of_le hhigh (twoPow_le_twoPow (by omega))
    have hcarry := roundHalfEven_eq_succ_iff hplace (by omega) hlt
    rw [hexponent, hscale, hbound, ← hcarry, hsignificand, ← hprecision]
    constructor
    · intro h
      split at h
      · assumption
      · omega
    · intro h
      rw [if_pos h]
      omega
  · -- it is too large even without one
    have hle : twoPow (place + precision + 2) ≤ twoPow num.log2 := twoPow_le_twoPow habove
    constructor
    · omega
    · intro _
      split <;> omega

end BinaryFormat

/-- An integer is made a double unless it has at least the magnitude halfway between the largest double
and the next power of two. -/
theorem Float.ofInt?_eq_none_iff {n : Int} :
    Float.ofInt? n = none ↔ twoPow 1024 - twoPow 970 ≤ n.natAbs := by
  -- 970 and 52 are the place of the last bit of the largest double, and its stored bits
  have hlarge : (∃ b, BinaryFormat.double.nearest (decide (n < 0)) n.natAbs 1 = .infinite b) ↔
      twoPow (970 + 52 + 2) - twoPow 970 ≤ n.natAbs :=
    BinaryFormat.exists_nearest_one_eq_infinite_iff rfl (by decide) (by decide)
  simp only [Nat.reduceAdd] at hlarge
  rw [← hlarge]
  unfold Float.ofInt? BinaryFormat.ofInt
  cases BinaryFormat.double.nearest (decide (n < 0)) n.natAbs 1 with
  | infinite b => exact ⟨fun _ => ⟨b, rfl⟩, fun _ => rfl⟩
  | nan | finite => simp

end WasmGauge
