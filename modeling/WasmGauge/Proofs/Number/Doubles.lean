import Mathlib.Algebra.Order.Field.Power
import Mathlib.Data.Rat.Cast.Order
import Mathlib.Tactic.Linarith
import Mathlib.Tactic.Ring
import WasmGauge.Proofs.Number.Range

/-!
# What doubles stand for

The rational number that a finite double stands for, taken from the logical model of doubles and not
from this library. A datum read from the bits of a double is that number with that sign, and comparing
two finite doubles compares their numbers.

## Main statements

- `Datum.ofFloat_eq`: the datum of a double is what the model unpacks.
- `exactValue_le_of_le`: the order of doubles is the order of their numbers.
-/

namespace WasmGauge

open Float.Model (UnpackedFloat Format)
open Float.Model.UnpackedFloat (Sign unpack unpackMantissa unpackExponent unpackSign)

/-- The number that an unpacked double stands for, if it is finite. -/
def unpackedValue : UnpackedFloat → ℚ
  | .finite sign significand exponent _ => sign.apply significand * 2 ^ exponent
  | _ => 0

/-- The number that a finite double stands for. -/
def exactValue (x : Float) : ℚ := unpackedValue x.toModel.unpack

def isMinus : Sign → Bool
  | .negative => true
  | .positive => false

/-- An unpacked double as a datum. -/
def Datum.ofUnpacked : UnpackedFloat → Datum
  | .notANumber => .nan
  | .infinity sign => .infinite (isMinus sign)
  | .zero sign => .finite (isMinus sign) 0 BinaryFormat.double.leastExponent
  | .finite sign significand exponent _ => .finite (isMinus sign) significand exponent

/-- The number that a datum stands for, if it is finite. -/
def Datum.value : Datum → ℚ
  | .finite true significand exponent => -(significand * 2 ^ exponent)
  | .finite false significand exponent => significand * 2 ^ exponent
  | _ => 0

/-! ## §1 Fields -/

section Fields

variable (b : BitVec Format.binary64.numBits)

theorem toNat_unpackMantissa : (unpackMantissa b).toNat = b.toNat % twoPow 52 := by
  simp [unpackMantissa, twoPow]

theorem toNat_unpackExponent : (unpackExponent b).toNat = b.toNat / twoPow 52 % twoPow 11 := by
  simp [unpackExponent, twoPow, Nat.shiftRight_eq_div_pow]

theorem toNat_unpackSign : (unpackSign b).toNat = b.toNat / twoPow 63 % 2 := by
  have hbit : unpackSign b = b.extractLsb' 63 1 := rfl
  simp [hbit, twoPow, Nat.shiftRight_eq_div_pow]

theorem isMinus_ofBitVec (v : BitVec 1) : isMinus (Sign.ofBitVec v) = (v.toNat == 1) := by
  unfold Sign.ofBitVec
  split
  · rename_i hv
    rw [hv]
    rfl
  · rename_i hv
    have hone : v.toNat = 1 := by
      have hzero : v.toNat ≠ 0 := fun h => hv (BitVec.eq_of_toNat_eq h)
      omega
    rw [hone]
    rfl

theorem toNat_one_append {w : Nat} (v : BitVec w) : (1#1 ++ v).toNat = twoPow w + v.toNat := by
  -- the bits of both do not overlap, and so joining them is adding
  rw [BitVec.toNat_append, ← Nat.shiftLeft_add_eq_or_of_lt v.isLt]
  simp [Nat.shiftLeft_eq, twoPow]

/-- Unpacking reads the same fields as `BinaryFormat.decode`. -/
theorem decode_eq_ofUnpacked :
    BinaryFormat.double.decode b.toNat = .ofUnpacked (unpack Format.binary64 b) := by
  -- the tests of both sides on the fields of the double are about the same numbers
  have hfraction := toNat_unpackMantissa b
  have hfield := toNat_unpackExponent b
  have hsign : isMinus (Sign.ofBitVec (unpackSign b)) = (b.toNat / twoPow 63 % 2 == 1) := by
    rw [isMinus_ofBitVec, toNat_unpackSign]
  have hspecial : unpackExponent b = -1#11 ↔
      b.toNat / twoPow 52 % twoPow 11 = BinaryFormat.double.specialField := by
    rw [← hfield, ← BitVec.toNat_inj]
    rfl
  have hsmall : unpackExponent b = 0#11 ↔ b.toNat / twoPow 52 % twoPow 11 = 0 := by
    rw [← hfield, ← BitVec.toNat_inj]
    rfl
  have hzero : unpackMantissa b = 0#52 ↔ b.toNat % twoPow 52 = 0 := by
    rw [← hfraction, ← BitVec.toNat_inj]
    rfl
  have hdouble : BinaryFormat.double.storedBits = 52 ∧ BinaryFormat.double.exponentBits = 11 :=
    ⟨rfl, rfl⟩
  have hleast : BinaryFormat.double.leastExponent = -1074 := rfl
  have hbias : (Format.binary64.exponentBias : Int) = 1023 := rfl
  unfold BinaryFormat.decode
  simp only [hdouble]
  unfold unpack
  dsimp only
  -- the field of the exponent decides: all ones, zero, and what lies between
  by_cases hinfinite : unpackExponent b = -1#11
  · rw [if_pos hinfinite, if_pos (hspecial.1 hinfinite)]
    by_cases hnone : unpackMantissa b = 0#52
    · rw [if_pos hnone, if_pos (hzero.1 hnone)]
      exact congrArg Datum.infinite hsign.symm
    · rw [if_neg hnone, if_neg (mt hzero.2 hnone)]
      rfl
  rw [if_neg hinfinite, if_neg (mt hspecial.2 hinfinite)]
  by_cases hsubnormal : unpackExponent b = 0#11
  · rw [if_pos hsubnormal, if_pos (hsmall.1 hsubnormal)]
    by_cases hnone : unpackMantissa b = 0#52
    · rw [dif_pos hnone, hzero.1 hnone]
      exact congrArg (Datum.finite · 0 BinaryFormat.double.leastExponent) hsign.symm
    · rw [dif_neg hnone]
      dsimp only [Datum.ofUnpacked]
      rw [hsign, hfraction, hsubnormal]
      rfl
  · rw [if_neg hsubnormal, if_neg (mt hsmall.2 hsubnormal)]
    -- a normal number has one more bit than is stored
    dsimp only [Datum.ofUnpacked]
    rw [hsign, toNat_one_append, hfraction, hfield, hbias, hleast]
    refine congrArg _ ?_
    push_cast
    ring

end Fields

/-- The datum of a double is what the model unpacks. -/
theorem Datum.ofFloat_eq (x : Float) : Datum.ofFloat x = .ofUnpacked x.toModel.unpack :=
  decode_eq_ofUnpacked x.toModel.toBits.toBitVec

theorem isNegative_decode {n significand : Nat} {exponent : Int} {negative : Bool} (hn : n < twoPow 64)
    (h : BinaryFormat.double.decode n = .finite negative significand exponent) :
    negative = decide (twoPow 63 ≤ n) := by
  have hbit : negative = (n / twoPow 63 % 2 == 1) := by
    unfold BinaryFormat.decode at h
    dsimp only at h
    split at h
    · split at h <;> cases h
    · split at h <;> exact (Datum.finite.inj h).1.symm
  have hpow : twoPow 64 = 2 * twoPow 63 := twoPow_succ 63
  rw [hbit, Bool.beq_eq_decide_eq, decide_eq_decide]
  -- the sign is the highest of the bits, so it is set from the middle of their range on
  rcases Nat.lt_or_ge n (twoPow 63) with hless | hge
  · rw [Nat.div_eq_of_lt hless]
    omega
  · have hone : n / twoPow 63 = 1 := Nat.div_eq_of_lt_le (by omega) (by omega)
    rw [hone]
    omega

theorem Datum.exists_ofFloat_eq {x : Float} (hx : x.isFinite = true) :
    ∃ significand exponent, Datum.ofFloat x = .finite x.toBits.toBitVec.msb significand exponent := by
  have hfinite : ∃ negative significand exponent,
      Datum.ofFloat x = .finite negative significand exponent := by
    have hunpacked : x.toModel.unpack.isFinite = true := hx
    rw [Datum.ofFloat_eq]
    cases hu : x.toModel.unpack with
    | infinity | notANumber =>
      rw [hu] at hunpacked
      cases hunpacked
    | zero | finite => exact ⟨_, _, _, rfl⟩
  obtain ⟨negative, significand, exponent, hdatum⟩ := hfinite
  have hsign : negative = x.toBits.toBitVec.msb := by
    rw [isNegative_decode x.toBits.toNat_lt hdatum, BitVec.msb_eq_decide]
    rfl
  exact ⟨significand, exponent, hsign ▸ hdatum⟩

theorem unpackedValue_positive {m : Nat} {e : Int} (hm : 0 < m) :
    unpackedValue (.finite .positive m e hm) = m * 2 ^ e := by
  show ((m : ℤ) : ℚ) * 2 ^ e = m * 2 ^ e
  rw [Int.cast_natCast]

theorem unpackedValue_negative {m : Nat} {e : Int} (hm : 0 < m) :
    unpackedValue (.finite .negative m e hm) = -(m * 2 ^ e) := by
  show ((-(m : ℤ) : ℤ) : ℚ) * 2 ^ e = -(m * 2 ^ e)
  rw [Int.cast_neg, Int.cast_natCast, neg_mul]

theorem Datum.value_zero (negative : Bool) (exponent : Int) :
    (Datum.finite negative 0 exponent).value = 0 := by
  cases negative <;> simp [Datum.value]

theorem Datum.value_ofFloat (x : Float) : (Datum.ofFloat x).value = exactValue x := by
  rw [Datum.ofFloat_eq]
  unfold exactValue
  cases x.toModel.unpack with
  | infinity | notANumber => rfl
  | zero sign => exact Datum.value_zero _ _
  | finite sign significand exponent hpos =>
    cases sign with
    | positive => exact (unpackedValue_positive hpos).symm
    | negative => exact (unpackedValue_negative hpos).symm

/-! ## §2 Order -/

/-- What unpacking gives: a significand fills its bits, unless the exponent is the least. -/
def IsCanonical : UnpackedFloat → Prop
  | .finite _ significand exponent _ =>
    significand < twoPow 53 ∧ -1074 ≤ exponent ∧ (exponent = -1074 ∨ twoPow 52 ≤ significand)
  | _ => True

theorem isCanonical_unpack (b : BitVec Format.binary64.numBits) :
    IsCanonical (unpack Format.binary64 b) := by
  have hbias : (Format.binary64.exponentBias : Int) = 1023 := rfl
  have hless : (unpackMantissa b).toNat < twoPow 52 := (unpackMantissa b).isLt
  have hpow : twoPow 53 = 2 * twoPow 52 := twoPow_succ 52
  unfold unpack
  dsimp only
  by_cases hinfinite : unpackExponent b = -1#11
  · rw [if_pos hinfinite]
    by_cases hnone : unpackMantissa b = 0#52
    · rw [if_pos hnone]
      trivial
    · rw [if_neg hnone]
      trivial
  rw [if_neg hinfinite]
  by_cases hsubnormal : unpackExponent b = 0#11
  · rw [if_pos hsubnormal]
    by_cases hnone : unpackMantissa b = 0#52
    · rw [dif_pos hnone]
      trivial
    · rw [dif_neg hnone, hsubnormal]
      exact ⟨by omega, by decide, .inl (by decide)⟩
  · rw [if_neg hsubnormal]
    have hpos : (unpackExponent b).toNat ≠ 0 := fun h => hsubnormal (BitVec.eq_of_toNat_eq h)
    -- the bit that is not stored fills the significand
    have hfull : (1#1 ++ unpackMantissa b).toNat = twoPow 52 + (unpackMantissa b).toNat :=
      toNat_one_append _
    exact ⟨by omega, by omega, .inr (by omega)⟩

/-- Of two magnitudes with different exponents the one with the larger exponent is larger: it fills its
bits. -/
theorem magnitude_le {m n : Nat} {d e : Int} (hm : m < twoPow 53) (hd : -1074 ≤ d)
    (hn : e = -1074 ∨ twoPow 52 ≤ n) (h : d < e ∨ d = e ∧ m ≤ n) :
    (m : ℚ) * 2 ^ d ≤ n * 2 ^ e := by
  rcases h with hlt | ⟨rfl, hle⟩
  · have hfull : twoPow 52 ≤ n := hn.resolve_left (by omega)
    have hm' : (m : ℚ) ≤ 2 * n := by
      have hpow : twoPow 53 = 2 * twoPow 52 := twoPow_succ 52
      exact_mod_cast (by omega : m ≤ 2 * n)
    have hstep : (2 : ℚ) ^ (d + 1) ≤ 2 ^ e := zpow_le_zpow_right₀ one_le_two hlt
    calc (m : ℚ) * 2 ^ d ≤ 2 * n * 2 ^ d := by gcongr
      _ = n * 2 ^ (d + 1) := by
        rw [zpow_add_one₀ two_ne_zero]
        ring
      _ ≤ n * 2 ^ e := by gcongr
  · gcongr

theorem isLE_then_iff {m n : Nat} {d e : Int} :
    ((compare d e).then (compare m n)).isLE = true ↔ d < e ∨ d = e ∧ m ≤ n := by
  rcases lt_trichotomy d e with hlt | rfl | hgt
  · rw [compare_lt_iff_lt.2 hlt]
    simp [hlt]
  · rw [compare_eq_iff_eq.2 rfl]
    simp [Nat.isLE_compare]
  · rw [compare_gt_iff_gt.2 hgt]
    simp [hgt.not_gt, hgt.ne']

theorem isLE_swap_then_iff {m n : Nat} {d e : Int} :
    ((compare d e).then (compare m n)).swap.isLE = true ↔ e < d ∨ e = d ∧ n ≤ m := by
  rw [Ordering.swap_then, ← Std.OrientedOrd.eq_swap, ← Std.OrientedOrd.eq_swap]
  exact isLE_then_iff

theorem unpackedValue_nonneg {m : Nat} {e : Int} (hm : 0 < m) :
    0 ≤ unpackedValue (.finite .positive m e hm) := by
  rw [unpackedValue_positive]
  positivity

/-- Unpacked doubles are compared by their sign first, then by their exponents, and last by their
significands. -/
theorem unpackedValue_le_of_le {u v : UnpackedFloat} (hu : IsCanonical u) (hv : IsCanonical v)
    (hfinite : u.isFinite = true) (hfinite' : v.isFinite = true) (h : u.le v = true) :
    unpackedValue u ≤ unpackedValue v := by
  cases u with
  | infinity | notANumber => cases hfinite
  | zero =>
    cases v with
    | infinity | notANumber => cases hfinite'
    | zero => exact le_refl _
    | finite t n e hn =>
      cases t with
      | positive => exact unpackedValue_nonneg hn
      | negative => cases h
  | finite s m d hm =>
    cases v with
    | infinity | notANumber => cases hfinite'
    | zero =>
      cases s with
      | positive => cases h
      | negative =>
        rw [unpackedValue_negative]
        exact neg_nonpos.2 (unpackedValue_nonneg hm)
    | finite t n e hn =>
      -- exponents and significands count only between two numbers of one sign
      obtain ⟨hmless, hdleast, hmfull⟩ := hu
      obtain ⟨hnless, heleast, hnfull⟩ := hv
      cases s with
      | positive =>
        cases t with
        | positive =>
          have hle : ((compare d e).then (compare m n)).isLE = true := h
          exact magnitude_le hmless hdleast hnfull (isLE_then_iff.1 hle)
        | negative => cases h
      | negative =>
        rw [unpackedValue_negative]
        cases t with
        | positive => exact (neg_nonpos.2 (unpackedValue_nonneg hm)).trans (unpackedValue_nonneg hn)
        | negative =>
          have hle : ((compare d e).then (compare m n)).swap.isLE = true := h
          rw [unpackedValue_negative]
          exact neg_le_neg (magnitude_le hnless heleast hmfull (isLE_swap_then_iff.1 hle))

/-- The order of finite doubles is the order of their numbers. -/
theorem exactValue_le_of_le {x y : Float} (hx : x.isFinite = true) (hy : y.isFinite = true)
    (h : x ≤ y) : exactValue x ≤ exactValue y := by
  apply unpackedValue_le_of_le (isCanonical_unpack _) (isCanonical_unpack _) hx hy
  exact of_decide_eq_true h

end WasmGauge
