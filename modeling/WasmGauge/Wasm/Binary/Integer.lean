import WasmGauge.Number.Power
import WasmGauge.Wasm.Types

/-!
# Integers of variable length

The LEB128 form of integers: seven bits a byte, the lowest first, and a set highest bit in every byte
but the last. A reader of `bits` bits refuses what needs more bits, be it in the number of bytes or
in the unused bits of the last one; zeros in front are allowed as long as they fit.
-/

namespace WasmGauge.Wasm.Binary

/-- Reads an unsigned integer of at most `bits` bits, and what follows it. -/
def readUnsigned (bits : Nat) : Bytes → Option (Nat × Bytes)
  | [] => none
  | b :: rest =>
    if b < 0x80 then
      if b.toNat < twoPow bits then some (b.toNat, rest) else none
    else if bits ≤ 7 then none
    else
      match readUnsigned (bits - 7) rest with
      | some (high, rest) => some (b.toNat - 0x80 + 128 * high, rest)
      | none => none

/-- Reads a signed integer of at most `bits` bits, and what follows it. -/
def readSigned (bits : Nat) : Bytes → Option (Int × Bytes)
  | [] => none
  | b :: rest =>
    if b < 0x80 then
      let value : Int := if b < 0x40 then b.toNat else (b.toNat : Int) - 128
      if -(twoPow (bits - 1) : Int) ≤ value ∧ value < (twoPow (bits - 1) : Int) then some (value, rest)
      else none
    else if bits ≤ 7 then none
    else
      match readSigned (bits - 7) rest with
      | some (high, rest) => some ((b.toNat : Int) - 0x80 + 128 * high, rest)
      | none => none

/-- The shortest form of an unsigned integer. -/
def writeUnsigned (n : Nat) : Bytes :=
  if n < 128 then [n.toUInt8]
  else (n % 128 + 128).toUInt8 :: writeUnsigned (n / 128)
termination_by n
decreasing_by omega

/-- The shortest form of a signed integer. -/
def writeSigned (i : Int) : Bytes :=
  if -64 ≤ i ∧ i < 64 then [(i % 128).toNat.toUInt8]
  else ((i % 128).toNat + 128).toUInt8 :: writeSigned (i / 128)
termination_by i.natAbs
decreasing_by omega

/-- `n` bytes with the lowest first. -/
def littleEndian : Nat → Nat → Bytes
  | 0, _ => []
  | n + 1, x => x.toUInt8 :: littleEndian n (x / 256)

/-- The number that bytes stand for, the lowest first. -/
def ofLittleEndian : Bytes → Nat
  | [] => 0
  | b :: rest => b.toNat + 256 * ofLittleEndian rest

end WasmGauge.Wasm.Binary
