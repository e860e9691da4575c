import Mathlib.Algebra.Order.Field.Basic
import Mathlib.Algebra.Ring.Int.Parity
import Mathlib.Data.Rat.Cast.Order
import Mathlib.Tactic.FieldSimp
import Mathlib.Tactic.Linarith
import Mathlib.Tactic.Ring
import WasmGauge.Number.Rounding

/-!
# The nearest integer

What it means that an integer is the nearest one to a rational number, a tie going to the even
neighbour, and that `roundHalfEven` gives it. The integer lies within one half of the number, and it is
even if it lies that far; everything else follows from these two facts.

## Main statements

- `IsNearest.le`, `IsNearest.even`: no integer is nearer, and one that is as near is a tie.
- `IsNearest.mono`: rounding keeps the order.
- `isNearest_roundHalfEven`: what `roundHalfEven` gives.
-/

namespace WasmGauge

/-- `r` is the integer nearest to `q`; of two equally near ones, the even one. -/
structure IsNearest (q : ℚ) (r : ℤ) : Prop where
  /-- It lies within one half. -/
  near : |q - r| ≤ 1 / 2
  /-- A tie goes to the even neighbour. -/
  even_of_half : |q - r| = 1 / 2 → Even r

namespace IsNearest

variable {q q' : ℚ} {r r' k : ℤ}

theorem neg (h : IsNearest q r) : IsNearest (-q) (-r) := by
  have hdistance : |-q - ((-r : ℤ) : ℚ)| = |q - r| := by
    rw [← abs_neg]
    congr 1
    push_cast
    ring
  constructor
  · rw [hdistance]
    exact h.near
  · rw [hdistance]
    exact fun hhalf => (h.even_of_half hhalf).neg

theorem half_le (h : IsNearest q r) (hk : k ≠ r) : 1 / 2 ≤ |q - k| := by
  -- two integers lie one apart at least, and one of them within one half
  have hapart : (1 : ℚ) ≤ |(r : ℚ) - k| := by
    exact_mod_cast Int.one_le_abs (sub_ne_zero.2 hk.symm)
  have htriangle : |(r : ℚ) - k| ≤ |q - r| + |q - k| := by
    rw [← abs_neg (q - r), neg_sub]
    calc |(r : ℚ) - k| = |((r : ℚ) - q) + (q - k)| := by ring_nf
      _ ≤ |(r : ℚ) - q| + |q - k| := abs_add_le _ _
  have hnear := h.near
  linarith

theorem le (h : IsNearest q r) (k : ℤ) : |q - r| ≤ |q - k| := by
  by_cases hk : k = r
  · rw [hk]
  · exact h.near.trans (h.half_le hk)

theorem even (h : IsNearest q r) (hk : k ≠ r) (htie : |q - r| = |q - k|) : Even r := by
  apply h.even_of_half
  apply le_antisymm h.near
  rw [htie]
  exact h.half_le hk

/-- Of two numbers the larger one has the larger nearest integer, unless it is the same. -/
theorem mono (h : IsNearest q r) (h' : IsNearest q' r') (hle : q ≤ q') : r ≤ r' := by
  by_contra hgt
  have hone : (r' : ℚ) + 1 ≤ r := by exact_mod_cast not_le.1 hgt
  have hlow := (abs_le.1 h.near).1
  have hhigh := (abs_le.1 h'.near).2
  -- the two numbers are then one, halfway between neighbours, and both of these would be even
  have hr : (r : ℚ) = r' + 1 := by linarith
  have hhalf : |q - r| = 1 / 2 := by
    rw [abs_eq (by norm_num)]
    right
    linarith
  have hhalf' : |q' - r'| = 1 / 2 := by
    rw [abs_eq (by norm_num)]
    left
    linarith
  have hsucc : r = r' + 1 := by exact_mod_cast hr
  have heven := h.even_of_half hhalf
  rw [hsucc, Int.even_add_one] at heven
  exact heven (h'.even_of_half hhalf')

end IsNearest

/-- For a quotient both conditions are about twice the rest that it leaves. -/
theorem isNearest_div {num r : ℤ} {den : Nat} (hden : 0 < den)
    (hnear : (2 * (num - r * den)).natAbs ≤ den)
    (heven : (2 * (num - r * den)).natAbs = den → Even r) : IsNearest ((num : ℚ) / den) r := by
  have hpos : (0 : ℚ) < den := by exact_mod_cast hden
  -- the distance to the integer, over twice the denominator
  have hrest : |(num : ℚ) / den - r| = ((2 * (num - r * den)).natAbs : ℚ) / (2 * den) := by
    have hquotient : (num : ℚ) / den - r = (2 * (num - r * den) : ℤ) / (2 * den) := by
      push_cast
      field_simp
    rw [hquotient, abs_div, abs_of_pos (mul_pos two_pos hpos), Nat.cast_natAbs, Int.cast_abs]
  constructor
  · rw [hrest, div_le_div_iff₀ (by positivity) two_pos]
    have hnear' : ((2 * (num - r * den)).natAbs : ℚ) ≤ den := by exact_mod_cast hnear
    linarith
  · rw [hrest, div_eq_div_iff (by positivity) two_ne_zero]
    intro hhalf
    apply heven
    have hhalf' : ((2 * (num - r * den)).natAbs : ℚ) = den := by linarith
    exact_mod_cast hhalf'

/-- Rounding a quotient gives the nearest integer. -/
theorem isNearest_roundHalfEven {num den : Nat} (hden : 0 < den) :
    IsNearest ((num : ℚ) / den) (roundHalfEven num den : Nat) := by
  have hless : num % den < den := Nat.mod_lt num hden
  -- what is left over if the quotient is rounded down, and if it is rounded up
  have hrest : ∀ up : Nat, 2 * ((num : ℤ) - (num / den + up : Nat) * (den : ℤ)) =
      2 * (num % den : Nat) - 2 * (up * den : Nat) := by
    intro up
    have hsplit : (num : ℤ) = den * (num / den : Nat) + (num % den : Nat) := by
      exact_mod_cast (Nat.div_add_mod num den).symm
    rw [hsplit]
    push_cast
    ring
  have hcast : (num : ℚ) = ((num : ℤ) : ℚ) := rfl
  rw [hcast]
  unfold roundHalfEven
  dsimp only
  -- by the rest: less than one half is left, more than one half, or just that
  split
  · have hdown := hrest 0
    rw [Nat.add_zero] at hdown
    exact isNearest_div hden (by omega) (by omega)
  split
  · have hup := hrest 1
    exact isNearest_div hden (by omega) (by omega)
  · -- a tie: rounding up happens from an odd quotient only
    have htie := hrest (num / den % 2)
    rcases Nat.mod_two_eq_zero_or_one (num / den) with hq | hq
    · rw [hq] at htie ⊢
      refine isNearest_div hden (by omega) fun _ => ?_
      exact_mod_cast Nat.even_iff.2 hq
    · rw [hq] at htie ⊢
      refine isNearest_div hden (by omega) fun _ => ?_
      exact_mod_cast Nat.even_iff.2 (by omega)

end WasmGauge
