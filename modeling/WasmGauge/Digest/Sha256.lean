import WasmGauge.Text.Hex

/-!
# The SHA-256 digest

The digest of FIPS 180-4 over a list of bytes, and its 64 hexadecimal digits, which name a cache
entry.

The message is padded to whole blocks of 64 bytes; each block is expanded to 64 words and mixed into
a state of eight words.
-/

namespace WasmGauge.Digest

/-- The state between two blocks: eight words. -/
structure State where
  a : UInt32
  b : UInt32
  c : UInt32
  d : UInt32
  e : UInt32
  f : UInt32
  g : UInt32
  h : UInt32
  deriving DecidableEq

def State.initial : State :=
  ⟨0x6a09e667, 0xbb67ae85, 0x3c6ef372, 0xa54ff53a, 0x510e527f, 0x9b05688c, 0x1f83d9ab, 0x5be0cd19⟩

def roundConstants : List UInt32 := [
  0x428a2f98, 0x71374491, 0xb5c0fbcf, 0xe9b5dba5, 0x3956c25b, 0x59f111f1, 0x923f82a4, 0xab1c5ed5,
  0xd807aa98, 0x12835b01, 0x243185be, 0x550c7dc3, 0x72be5d74, 0x80deb1fe, 0x9bdc06a7, 0xc19bf174,
  0xe49b69c1, 0xefbe4786, 0x0fc19dc6, 0x240ca1cc, 0x2de92c6f, 0x4a7484aa, 0x5cb0a9dc, 0x76f988da,
  0x983e5152, 0xa831c66d, 0xb00327c8, 0xbf597fc7, 0xc6e00bf3, 0xd5a79147, 0x06ca6351, 0x14292967,
  0x27b70a85, 0x2e1b2138, 0x4d2c6dfc, 0x53380d13, 0x650a7354, 0x766a0abb, 0x81c2c92e, 0x92722c85,
  0xa2bfe8a1, 0xa81a664b, 0xc24b8b70, 0xc76c51a3, 0xd192e819, 0xd6990624, 0xf40e3585, 0x106aa070,
  0x19a4c116, 0x1e376c08, 0x2748774c, 0x34b0bcb5, 0x391c0cb3, 0x4ed8aa4a, 0x5b9cca4f, 0x682e6ff3,
  0x748f82ee, 0x78a5636f, 0x84c87814, 0x8cc70208, 0x90befffa, 0xa4506ceb, 0xbef9a3f7, 0xc67178f2]

/-- A word turned right by `n` places. -/
def turn (x : UInt32) (n : UInt32) : UInt32 := (x >>> n) ||| (x <<< (32 - n))

/-- The small mixing function of the message schedule for words fifteen places back. -/
def spread0 (x : UInt32) : UInt32 := turn x 7 ^^^ turn x 18 ^^^ (x >>> 3)

/-- The small mixing function of the message schedule for words two places back. -/
def spread1 (x : UInt32) : UInt32 := turn x 17 ^^^ turn x 19 ^^^ (x >>> 10)

/-- The message schedule, newest word first, extended by `n` words. -/
def extend : Nat → List UInt32 → List UInt32
  | 0, ws => ws
  | n + 1, ws =>
    let w := spread1 (ws.getD 1 0) + ws.getD 6 0 + spread0 (ws.getD 14 0) + ws.getD 15 0
    extend n (w :: ws)

/-- One round with the round constant `k` and the schedule word `w`. -/
def State.round (s : State) (k w : UInt32) : State :=
  let t1 := s.h + (turn s.e 6 ^^^ turn s.e 11 ^^^ turn s.e 25)
    + ((s.e &&& s.f) ^^^ (~~~s.e &&& s.g)) + k + w
  let t2 := (turn s.a 2 ^^^ turn s.a 13 ^^^ turn s.a 22)
    + ((s.a &&& s.b) ^^^ (s.a &&& s.c) ^^^ (s.b &&& s.c))
  ⟨t1 + t2, s.a, s.b, s.c, s.d + t1, s.e, s.f, s.g⟩

/-- The word-wise sum of two states. -/
def State.add (s t : State) : State :=
  ⟨s.a + t.a, s.b + t.b, s.c + t.c, s.d + t.d, s.e + t.e, s.f + t.f, s.g + t.g, s.h + t.h⟩

/-- The words of a state in order. -/
def State.words (s : State) : List UInt32 := [s.a, s.b, s.c, s.d, s.e, s.f, s.g, s.h]

/-- Bytes read as big-endian words. -/
def wordsOf : List UInt8 → List UInt32
  | b0 :: b1 :: b2 :: b3 :: rest =>
    ((b0.toUInt32 <<< 24) ||| (b1.toUInt32 <<< 16) ||| (b2.toUInt32 <<< 8) ||| b3.toUInt32)
      :: wordsOf rest
  | _ => []

/-- A state after one block of sixteen words. -/
def State.absorb (s : State) (block : List UInt32) : State :=
  -- `extend` keeps the newest word in front.
  let schedule := (extend 48 block.reverse).reverse
  s.add ((roundConstants.zip schedule).foldl (fun t kw => t.round kw.1 kw.2) s)

/-- A state after `n` blocks of a list of words. -/
def State.absorbAll (s : State) : Nat → List UInt32 → State
  | 0, _ => s
  | n + 1, words => State.absorbAll (s.absorb (words.take 16)) n (words.drop 16)

/-- A natural number as `n` big-endian bytes. -/
def bigEndian : Nat → Nat → List UInt8
  | 0, _ => []
  | n + 1, x => bigEndian n (x / 256) ++ [x.toUInt8]

/-- The message with a one bit, zeros and its length in bits appended, so that it fills blocks. -/
def pad (message : List UInt8) : List UInt8 :=
  let n := message.length
  -- One byte for the bit and eight for the length leave 55 bytes of the last block.
  message ++ 0x80 :: List.replicate ((119 - n % 64) % 64) 0 ++ bigEndian 8 (8 * n)

/-- The digest of a message. -/
def sha256 (message : List UInt8) : State :=
  let words := wordsOf (pad message)
  State.initial.absorbAll (words.length / 16) words

/-- The digest of a message as 64 hexadecimal digits. -/
def hexDigest (message : List UInt8) : String :=
  String.ofList ((sha256 message).words.flatMap fun w => Text.hex 8 w.toNat)

end WasmGauge.Digest
