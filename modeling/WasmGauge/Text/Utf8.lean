import WasmGauge.Number.Power
import WasmGauge.Text.Hex

/-!
# Decoding UTF-8

Bytes read as UTF-8 text, or the first fault in them. A fault names the bytes that cannot be read:
a byte that starts no character, a character cut short by the end of the bytes, or the longest
beginning of a character before a byte that cannot continue it.
-/

namespace WasmGauge.Text

/-- What is wrong with a sequence of bytes. -/
inductive Utf8Cause where
  | invalidStart
  /-- The byte after these cannot continue the character. -/
  | invalidContinuation
  | unexpectedEnd
  deriving DecidableEq, Repr

/-- The first fault in a sequence of bytes: the `count` bytes from `start` on cannot be read, of
which `lead` is the first. -/
structure Utf8Fault where
  /-- The index of the first byte at fault. -/
  start : Nat
  /-- How many bytes are at fault. -/
  count : Nat
  /-- The first byte at fault. -/
  lead : UInt8
  cause : Utf8Cause
  deriving DecidableEq, Repr

/-- How many bytes follow a leading byte, and the least and greatest value of the first of them.
Overlong forms, surrogates and code points past the last plane are ruled out by that range. -/
def continuationOf (b : UInt8) : Option (Nat × UInt8 × UInt8) :=
  if 0xC2 ≤ b ∧ b ≤ 0xDF then some (1, 0x80, 0xBF)
  else if b = 0xE0 then some (2, 0xA0, 0xBF)
  else if b = 0xED then some (2, 0x80, 0x9F)
  else if 0xE1 ≤ b ∧ b ≤ 0xEF then some (2, 0x80, 0xBF)
  else if b = 0xF0 then some (3, 0x90, 0xBF)
  else if 0xF1 ≤ b ∧ b ≤ 0xF3 then some (3, 0x80, 0xBF)
  else if b = 0xF4 then some (3, 0x80, 0x8F)
  else none

/-- The bytes that continue a character: `n` of them, the first between `lo` and `hi`. Returns the
code point on top of `acc` and what follows, or how many bytes fit before the cause of the
failure. -/
def continuation : Nat → UInt8 → UInt8 → Nat → Nat → List UInt8 →
    Except (Nat × Utf8Cause) (Nat × List UInt8)
  | 0, _, _, _, acc, rest => .ok (acc, rest)
  | _ + 1, _, _, seen, _, [] => .error (seen, .unexpectedEnd)
  | n + 1, lo, hi, seen, acc, b :: rest =>
    if lo ≤ b ∧ b ≤ hi then
      continuation n 0x80 0xBF (seen + 1) (acc * 64 + (b.toNat - 0x80)) rest
    else .error (seen, .invalidContinuation)

/-- The bits of a leading byte that belong to the code point, when `n` bytes follow it. -/
def leadBits (b : UInt8) (n : Nat) : Nat := b.toNat % twoPow (6 - n)

/-- The characters of a sequence of bytes, or the first fault; `at` is the index of the first byte
and the fuel bounds the number of characters. -/
def decodeUtf8From : Nat → Nat → List UInt8 → Except Utf8Fault (List Char)
  | 0, _, _ => .ok []
  | _ + 1, _, [] => .ok []
  | fuel + 1, start, b :: rest =>
    if b < 0x80 then (Char.ofNat b.toNat :: ·) <$> decodeUtf8From fuel (start + 1) rest
    else
      match continuationOf b with
      | none => .error ⟨start, 1, b, .invalidStart⟩
      | some (n, lo, hi) =>
        -- The count of bytes begins at one, for the leading byte.
        match continuation n lo hi 1 (leadBits b n) rest with
        | .error (seen, cause) => .error ⟨start, seen, b, cause⟩
        | .ok (code, rest) => (Char.ofNat code :: ·) <$> decodeUtf8From fuel (start + n + 1) rest

/-- The text that a sequence of bytes holds, or the first fault in it. -/
def decodeUtf8 (bytes : List UInt8) : Except Utf8Fault (List Char) :=
  decodeUtf8From bytes.length 0 bytes

/-- The words for a cause. -/
def Utf8Cause.message : Utf8Cause → String
  | .invalidStart => "invalid start byte"
  | .invalidContinuation => "invalid continuation byte"
  | .unexpectedEnd => "unexpected end of data"

/-- The words for a fault. One byte is named by its value, several by their positions. -/
def Utf8Fault.message (f : Utf8Fault) : String :=
  let which :=
    if f.count = 1 then "byte 0x" ++ hexBytes [f.lead] ++ s!" in position {f.start}"
    else s!"bytes in position {f.start}-{f.start + f.count - 1}"
  s!"'utf-8' codec can't decode {which}: {f.cause.message}"

end WasmGauge.Text
