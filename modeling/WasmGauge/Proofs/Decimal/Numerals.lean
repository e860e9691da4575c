import WasmGauge.Decimal.Fixed
import WasmGauge.Proofs.Number.Doubles
import WasmGauge.Proofs.Number.Nearest

/-!
# Numerals with fixed places

Numerals with a point are read back: `FixedNumeral.value` is the number that the digits stand for. The
numeral that `Decimal.fixed` writes for a finite double is proper, carries the sign of the double, and
stands for the multiple of the last place nearest to the double, a tie going to the even digit.

## Main statements

- `fixed_eq_text`: what is written is the text of `numeral`.
- `isProper_numeral`, `numeral_negative`, `rounds_numeral`: the digits, the sign and the number.
- `numeral_mono`: the numbers are in the order of the doubles.
-/

namespace WasmGauge.Decimal

/-! ## §1 Reading numerals -/

/-- A numeral with a point. -/
structure FixedNumeral where
  /-- Whether there is a minus sign. -/
  negative : Bool
  /-- The digits before the point. -/
  whole : List Char
  /-- The digits after the point. -/
  fraction : List Char

namespace FixedNumeral

def text (n : FixedNumeral) : String :=
  String.ofList ((if n.negative then ['-'] else []) ++ (n.whole ++ ['.'] ++ n.fraction))

/-- What the digits stand for if they are read without the point. -/
def digits (n : FixedNumeral) : Nat := Nat.ofDigitChars 10 (n.whole ++ n.fraction) 0

/-- The digits without the point, with the sign. -/
def units (n : FixedNumeral) : ℤ := if n.negative then -n.digits else n.digits

/-- The number that a numeral stands for. -/
def value (n : FixedNumeral) : ℚ := n.units / 10 ^ n.fraction.length

/-- A numeral has some digits before the point and as many as wanted after it. Zeros that could be left
out are left out. -/
structure IsProper (n : FixedNumeral) (places : Nat) : Prop where
  isDigit_whole : ∀ c ∈ n.whole, c.isDigit = true
  isDigit_fraction : ∀ c ∈ n.fraction, c.isDigit = true
  length_fraction : n.fraction.length = places
  whole_ne_nil : n.whole ≠ []
  whole_eq_of_zero : n.whole.head? = some '0' → n.whole = ['0']

/-- A numeral is the nearest of its length to a number; of two equally near ones, the one with an even
digit at its end. -/
structure Rounds (n : FixedNumeral) (q : ℚ) : Prop where
  nearest : ∀ k : ℤ, |q - n.value| ≤ |q - k / 10 ^ n.fraction.length|
  even_of_tie : ∀ k : ℤ, (k : ℚ) / 10 ^ n.fraction.length ≠ n.value →
    |q - n.value| = |q - k / 10 ^ n.fraction.length| → Even n.digits

/-- A numeral is nearest to a number if its digits are nearest to the scaled number. -/
theorem rounds_of_isNearest {n : FixedNumeral} {q : ℚ}
    (h : IsNearest (q * 10 ^ n.fraction.length) n.units) : n.Rounds q := by
  have hpos : (0 : ℚ) < 10 ^ n.fraction.length := by positivity
  -- all distances are scaled alike, so that they may be compared between integers
  have hscale : ∀ k : ℤ, |q - k / 10 ^ n.fraction.length| =
      |q * 10 ^ n.fraction.length - k| / 10 ^ n.fraction.length := by
    intro k
    have hquotient : q - k / 10 ^ n.fraction.length =
        (q * 10 ^ n.fraction.length - k) / 10 ^ n.fraction.length := by
      field_simp
    rw [hquotient, abs_div, abs_of_pos hpos]
  constructor
  · intro k
    unfold value
    rw [hscale, hscale]
    exact div_le_div_of_nonneg_right (h.le k) hpos.le
  · intro k hne htie
    unfold value at hne htie
    rw [hscale, hscale, div_left_inj' hpos.ne'] at htie
    have hk : k ≠ n.units := fun hk => hne (by rw [hk])
    have heven := h.even hk htie
    unfold units at heven
    split at heven
    · exact_mod_cast even_neg.1 heven
    · exact_mod_cast heven

end FixedNumeral

/-! ## §2 Digits -/

theorem digitsOf_eq (n : Nat) : digitsOf n = Nat.toDigits 10 n := Nat.toList_repr

theorem isDigit_of_mem_digitsOf {n : Nat} {c : Char} (hc : c ∈ digitsOf n) : c.isDigit = true := by
  rw [digitsOf_eq] at hc
  exact Nat.isDigit_of_mem_toDigits (by decide) (by decide) hc

theorem ofDigitChars_digitsOf (n : Nat) : Nat.ofDigitChars 10 (digitsOf n) 0 = n := by
  rw [digitsOf_eq, Nat.ofDigitChars_ten_toDigits]

/-- Only the number zero begins with a zero. -/
theorem digitsOf_eq_of_head? {n : Nat} (h : (digitsOf n).head? = some '0') : digitsOf n = ['0'] := by
  rw [digitsOf_eq] at h ⊢
  induction n using Nat.base_induction 10 (by decide) with
  | single m hm =>
    rw [Nat.toDigits_of_lt_base hm] at h ⊢
    simpa using h
  | digit m k hk hm ih =>
    -- the digits in front are those of a positive number, which would begin with a zero as well
    rw [← Nat.toDigits_append_toDigits (by decide) hm hk,
      List.head?_append_of_ne_nil _ Nat.toDigits_ne_nil] at h
    have hvalue : Nat.ofDigitChars 10 (Nat.toDigits 10 m) 0 = m := Nat.ofDigitChars_ten_toDigits
    rw [ih h] at hvalue
    exact absurd hvalue.symm hm.ne'

theorem length_digitsOf_le {n width : Nat} (hwidth : 0 < width) (hn : n < tenPow width) :
    (digitsOf n).length ≤ width := by
  rw [digitsOf_eq]
  exact (Nat.length_toDigits_le_iff (by decide) hwidth).2 hn

theorem length_padded {width : Nat} {cs : List Char} (h : cs.length ≤ width) :
    (padded width cs).length = width := by
  simp [padded, zeros, h]

theorem isDigit_of_mem_padded {width n : Nat} {c : Char} (hc : c ∈ padded width (digitsOf n)) :
    c.isDigit = true := by
  rcases List.mem_append.1 hc with hzero | hdigit
  · rw [List.eq_of_mem_replicate hzero]
    rfl
  · exact isDigit_of_mem_digitsOf hdigit

/-- Zeros in front of a number do not count. -/
theorem ofDigitChars_padded (width n : Nat) :
    Nat.ofDigitChars 10 (padded width (digitsOf n)) 0 = n := by
  unfold padded zeros
  rw [Nat.ofDigitChars_append, Nat.ofDigitChars_replicate_zero, Nat.mul_zero, ofDigitChars_digitsOf]

/-! ## §3 Writing numerals -/

namespace FixedNumeral

/-- The numeral with these digits, the last ones after the point. -/
def ofDigits (places : Nat) (negative : Bool) (digits : Nat) : FixedNumeral :=
  ⟨negative, digitsOf (digits / tenPow places), padded places (digitsOf (digits % tenPow places))⟩

variable {places : Nat} (hplaces : 0 < places) (negative : Bool) (digits : Nat)
include hplaces

theorem isProper_ofDigits : (ofDigits places negative digits).IsProper places where
  isDigit_whole _ hc := isDigit_of_mem_digitsOf hc
  isDigit_fraction _ hc := isDigit_of_mem_padded hc
  length_fraction :=
    length_padded (length_digitsOf_le hplaces (Nat.mod_lt _ (Nat.pow_pos (by decide))))
  whole_ne_nil := by
    rw [ofDigits, digitsOf_eq]
    exact Nat.toDigits_ne_nil
  whole_eq_of_zero := digitsOf_eq_of_head?

theorem digits_ofDigits : (ofDigits places negative digits).digits = digits := by
  have hlength := (isProper_ofDigits hplaces negative digits).length_fraction
  unfold FixedNumeral.digits
  -- the digits before the point count as many places more as there are digits after it
  rw [Nat.ofDigitChars_append, Nat.ofDigitChars_eq_ofDigitChars_zero, hlength]
  unfold ofDigits
  dsimp only
  rw [ofDigitChars_digitsOf, ofDigitChars_padded]
  exact Nat.div_add_mod digits (tenPow places)

end FixedNumeral

/-- The numeral of a double, with a count of digits after the point. -/
def numeral (places : Nat) (x : Float) : FixedNumeral :=
  match Datum.ofFloat x with
  | .finite negative significand exponent =>
    let (num, den) := Datum.magnitude significand exponent
    .ofDigits places negative (roundHalfEven (num * tenPow places) den)
  | d => .ofDigits places d.isNegative 0

theorem magnitude_spec (significand : Nat) (exponent : Int) :
    0 < (Datum.magnitude significand exponent).2 ∧
      ((Datum.magnitude significand exponent).1 : ℚ) / (Datum.magnitude significand exponent).2 =
        significand * 2 ^ exponent := by
  unfold Datum.magnitude BinaryFormat.scale
  -- the power of two stands above the line or below it
  split
  · obtain ⟨k, rfl⟩ : ∃ k : Nat, exponent = k := ⟨exponent.toNat, by omega⟩
    exact ⟨one_pos, by simp [twoPow]⟩
  · obtain ⟨k, rfl⟩ : ∃ k : Nat, exponent = -k := ⟨(-exponent).toNat, by omega⟩
    exact ⟨by simp [twoPow], by simp [twoPow, div_eq_mul_inv]⟩

/-! ## §4 The numeral of a double -/

section Numeral

variable {places : Nat} (hplaces : 0 < places) {x y : Float}
include hplaces

theorem fixed_eq_text (hx : x.isFinite = true) : fixed places x = (numeral places x).text := by
  obtain ⟨significand, exponent, hdatum⟩ := Datum.exists_ofFloat_eq hx
  unfold fixed numeral
  rw [hdatum]
  unfold fixedDatum fixedMagnitude
  dsimp only
  rw [if_neg hplaces.ne']
  rfl

theorem isProper_numeral (x : Float) : (numeral places x).IsProper places := by
  unfold numeral
  split <;> exact FixedNumeral.isProper_ofDigits hplaces _ _

omit hplaces in
theorem numeral_negative (hx : x.isFinite = true) :
    (numeral places x).negative = x.toBits.toBitVec.msb := by
  obtain ⟨significand, exponent, hdatum⟩ := Datum.exists_ofFloat_eq hx
  unfold numeral
  rw [hdatum]
  rfl

theorem isNearest_units (hx : x.isFinite = true) :
    IsNearest (exactValue x * 10 ^ places) (numeral places x).units := by
  obtain ⟨significand, exponent, hdatum⟩ := Datum.exists_ofFloat_eq hx
  obtain ⟨hden, hvalue⟩ := magnitude_spec significand exponent
  have hnearest : IsNearest (significand * 2 ^ exponent * 10 ^ places)
      (roundHalfEven ((Datum.magnitude significand exponent).1 * tenPow places)
        (Datum.magnitude significand exponent).2 : Nat) := by
    have hscaled : (((Datum.magnitude significand exponent).1 * tenPow places : Nat) : ℚ) /
        (Datum.magnitude significand exponent).2 = significand * 2 ^ exponent * 10 ^ places := by
      rw [Nat.cast_mul, mul_div_right_comm, hvalue, tenPow_eq, Nat.cast_pow]
      rfl
    rw [← hscaled]
    exact isNearest_roundHalfEven hden
  rw [← Datum.value_ofFloat]
  unfold numeral FixedNumeral.units
  rw [hdatum]
  dsimp only
  rw [FixedNumeral.digits_ofDigits hplaces]
  -- a minus sign changes nothing about the distance
  cases x.toBits.toBitVec.msb with
  | false => exact hnearest
  | true =>
    simp only [Datum.value, FixedNumeral.ofDigits, if_true, neg_mul]
    exact hnearest.neg

theorem rounds_numeral (hx : x.isFinite = true) : (numeral places x).Rounds (exactValue x) := by
  apply FixedNumeral.rounds_of_isNearest
  rw [(isProper_numeral hplaces x).length_fraction]
  exact isNearest_units hplaces hx

theorem numeral_mono (hx : x.isFinite = true) (hy : y.isFinite = true) (h : x ≤ y) :
    (numeral places x).value ≤ (numeral places y).value := by
  -- rounding is monotone on the scaled numbers, which have the order of the doubles
  have hscaled : exactValue x * 10 ^ places ≤ exactValue y * 10 ^ places := by
    have hvalue := exactValue_le_of_le hx hy h
    gcongr
  have hunits := (isNearest_units hplaces hx).mono (isNearest_units hplaces hy) hscaled
  unfold FixedNumeral.value
  rw [(isProper_numeral hplaces x).length_fraction, (isProper_numeral hplaces y).length_fraction]
  gcongr

end Numeral

end WasmGauge.Decimal

