import WasmGauge.Number.Binary

/-!
# Shortest decimal digits

The shortest decimal numeral that reads back as a given number of a binary format.

The grids of multiples of `10 ^ k` are searched from coarse to fine. On each grid only the two
neighbours of the number can read back, since everything between a neighbour and the number rounds
at least as close. The first grid with a hit gives the fewest digits, and of two hits the nearer
one is taken, a tie going to the even digit.
-/

namespace WasmGauge.Decimal

/-- The decimal number `digits · 10 ^ exponent`. -/
structure Numeral where
  /-- All digits, as one natural number. -/
  digits : Nat
  /-- The power of ten of the last digit. -/
  exponent : Int
  deriving DecidableEq, Repr

/-- A numeral as a quotient of natural numbers. -/
def Numeral.quotient (n : Numeral) : Nat × Nat :=
  if n.exponent < 0 then (n.digits, tenPow (-n.exponent).toNat)
  else (n.digits * tenPow n.exponent.toNat, 1)

/-- The number of a binary format that a numeral reads as. -/
def Numeral.read (f : BinaryFormat) (negative : Bool) (n : Numeral) : Datum :=
  let (num, den) := n.quotient
  f.nearest negative num den

/-- The neighbours of `num / den` on the grid of multiples of `10 ^ k`, the nearer one first. -/
def neighbours (num den : Nat) (k : Int) : List Numeral :=
  let (n, d) := if k < 0 then (num * tenPow (-k).toNat, den) else (num, den * tenPow k.toNat)
  let below : Numeral := ⟨n / d, k⟩
  let above : Numeral := ⟨n / d + 1, k⟩
  -- A number on the grid is its own only neighbour.
  if n % d = 0 then [below]
  else if (roundHalfEven n d) = n / d then [below, above]
  else [above, below]

/-- The first neighbour that reads back as `target`, on the grids from `10 ^ k` downward. The fuel
bounds the number of grids. -/
def search (f : BinaryFormat) (target : Datum) (num den : Nat) : Nat → Int → Numeral
  | 0, k => ⟨num / den, k⟩
  | fuel + 1, k =>
    -- Zero stands for no digits at all, so it is never a hit.
    match (neighbours num den k).find? (fun n => n.digits ≠ 0 && n.read f false == target) with
    | some n => n
    | none => search f target num den fuel (k - 1)

/-- A power of ten that is larger than `num / den`: three tenths of the binary exponent, rounded
up generously. -/
def coarsest (num den : Nat) : Int :=
  ((num.log2 : Int) - (den.log2 : Int) + 1) * 30103 / 100000 + 1

/-- The shortest numeral that reads back as the positive number `significand · 2 ^ exponent` of the
format. -/
def shortest (f : BinaryFormat) (significand : Nat) (exponent : Int) : Numeral :=
  let (num, den) := Datum.magnitude significand exponent
  search f (.finite false significand exponent) num den 24 (coarsest num den)

end WasmGauge.Decimal
