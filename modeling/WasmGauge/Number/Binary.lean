import WasmGauge.Number.Power
import WasmGauge.Number.Rounding

/-!
# Binary floating formats

Numbers of a binary floating format as exact dyadic rationals, and the correctly rounded way back
into the format.

`BinaryFormat.decode` reads a bit pattern as a `Datum`, `BinaryFormat.encode` writes it, and
`BinaryFormat.nearest` picks the number of the format nearest to a quotient of natural numbers, ties
going to the even significand and magnitudes past the largest finite number to infinity.
-/

namespace WasmGauge

/-- A binary interchange format: how many bits the significand has, the hidden one included, and how
many bits hold the exponent. -/
structure BinaryFormat where
  /-- Bits of the significand, the hidden one included. -/
  precision : Nat
  exponentBits : Nat
  deriving DecidableEq, Repr

/-- What a bit pattern stands for. A finite datum is `±significand · 2 ^ exponent`. -/
inductive Datum where
  | nan
  | infinite (negative : Bool)
  /-- A signed dyadic rational; zero keeps its sign. -/
  | finite (negative : Bool) (significand : Nat) (exponent : Int)
  deriving DecidableEq, Repr

namespace BinaryFormat

-- The formats with 16, 32 and 64 bits.
def half : BinaryFormat := ⟨11, 5⟩

def single : BinaryFormat := ⟨24, 8⟩

/-- The format with 64 bits. -/
def double : BinaryFormat := ⟨53, 11⟩

/-- Bits of the significand that are stored. -/
def storedBits (f : BinaryFormat) : Nat := f.precision - 1

/-- What is added to the exponent of a number in `[1, 2)` to get its exponent field. -/
def bias (f : BinaryFormat) : Nat := twoPow (f.exponentBits - 1) - 1

/-- The exponent of the last place of the smallest numbers. -/
def leastExponent (f : BinaryFormat) : Int := 1 - (f.bias : Int) - (f.storedBits : Int)

/-- The exponent of the last place of the largest numbers. -/
def greatestExponent (f : BinaryFormat) : Int := (f.bias : Int) - (f.storedBits : Int)

def specialField (f : BinaryFormat) : Nat := twoPow f.exponentBits - 1

/-- What a bit pattern stands for. -/
def decode (f : BinaryFormat) (bits : Nat) : Datum :=
  let fraction := bits % twoPow f.storedBits
  let field := bits / twoPow f.storedBits % twoPow f.exponentBits
  let negative := bits / twoPow (f.storedBits + f.exponentBits) % 2 == 1
  if field = f.specialField then
    if fraction = 0 then .infinite negative else .nan
  -- The field zero has no hidden bit, but the exponent of the field one.
  else if field = 0 then .finite negative fraction f.leastExponent
  else .finite negative (twoPow f.storedBits + fraction) (f.leastExponent + ((field : Int) - 1))

def signBits (f : BinaryFormat) (negative : Bool) : Nat :=
  if negative then twoPow (f.storedBits + f.exponentBits) else 0

/-- The bit pattern of a datum whose significand and exponent the format can hold. What is not a
number gets the quiet pattern without a sign. -/
def encode (f : BinaryFormat) : Datum → Nat
  | .nan => f.specialField * twoPow f.storedBits + twoPow (f.storedBits - 1)
  | .infinite negative => f.signBits negative + f.specialField * twoPow f.storedBits
  | .finite negative significand exponent =>
    if significand < twoPow f.storedBits then f.signBits negative + significand
    else
      f.signBits negative + (exponent - f.leastExponent + 1).toNat * twoPow f.storedBits
        + (significand - twoPow f.storedBits)

/-- The quotient `num / den` scaled by `2 ^ (-exponent)`, as a quotient again. -/
def scale (num den : Nat) (exponent : Int) : Nat × Nat :=
  if exponent < 0 then (num * twoPow (-exponent).toNat, den) else (num, den * twoPow exponent.toNat)

/-- The exponent of the last place with which `num / den` fills the significand of the format, or
the least exponent if the quotient is too small for that. -/
def placeFor (f : BinaryFormat) (num den : Nat) : Int :=
  -- The quotient lies in `[2 ^ (guess + precision - 1), 2 ^ (guess + precision + 1))`.
  let guess := max f.leastExponent ((num.log2 : Int) - (den.log2 : Int) - (f.precision : Int))
  let (n, d) := scale num den guess
  if n / d < twoPow f.precision then guess else guess + 1

/-- The number of the format nearest to `±num / den`, ties going to the even significand. -/
def nearest (f : BinaryFormat) (negative : Bool) (num den : Nat) : Datum :=
  if num = 0 then .finite negative 0 f.leastExponent
  else
    let exponent := f.placeFor num den
    let (n, d) := scale num den exponent
    let significand := roundHalfEven n d
    let (significand, exponent) :=
      -- Rounding up may have filled one bit more than there is.
      if significand = twoPow f.precision then (twoPow f.storedBits, exponent + 1)
      else (significand, exponent)
    if exponent > f.greatestExponent then .infinite negative
    else .finite negative significand exponent

/-- The number of the format nearest to an integer. -/
def ofInt (f : BinaryFormat) (i : Int) : Datum := f.nearest (i < 0) i.natAbs 1

/-- A datum of any format, rounded into this one. -/
def convert (f : BinaryFormat) : Datum → Datum
  | .nan => .nan
  | .infinite negative => .infinite negative
  | .finite negative significand exponent =>
    let (n, d) := scale significand 1 (-exponent)
    f.nearest negative n d

end BinaryFormat

namespace Datum

/-- What a double stands for. -/
def ofFloat (x : Float) : Datum := BinaryFormat.double.decode x.toBits.toNat

/-- The double that a datum of the double format stands for. -/
def toFloat (d : Datum) : Float := Float.ofBits (BinaryFormat.double.encode d).toUInt64

/-- Whether the datum carries a minus sign. -/
def isNegative : Datum → Bool
  | .nan => false
  | .infinite negative => negative
  | .finite negative _ _ => negative

/-- The magnitude of a finite datum as a quotient. -/
def magnitude (significand : Nat) (exponent : Int) : Nat × Nat :=
  BinaryFormat.scale significand 1 (-exponent)

/-- The integer part of a finite datum, toward zero. -/
def truncate? : Datum → Option Int
  | .finite negative significand exponent =>
    let (n, d) := magnitude significand exponent
    let q : Int := (n / d : Nat)
    some (if negative then -q else q)
  | _ => none

end Datum

/-- The double nearest to an integer, or nothing when the integer is too large. -/
def Float.ofInt? (i : Int) : Option Float :=
  match BinaryFormat.double.ofInt i with
  | .infinite _ => none
  | d => some d.toFloat

end WasmGauge
