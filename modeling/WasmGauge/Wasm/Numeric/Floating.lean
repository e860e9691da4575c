import WasmGauge.Number.Binary
import WasmGauge.Wasm.Val

/-!
# Arithmetic on floating-point numbers

The operations on 64-bit floating-point numbers, given by their bits. An operation on 32-bit numbers
is the one on 64-bit numbers with its result rounded: 64-bit numbers have more than twice as many
digits, so nothing is lost by rounding twice.

What is not a number keeps its bits on its way through an operation, apart from being made quiet. Of
two such operands the first one goes through. An operation that makes something that is not a
number out of numbers gives one bit pattern, `defaultNaN`.
-/

namespace WasmGauge.Wasm.Numeric

/-! ## What is not a number -/

/-- The bits of a 64-bit number without its sign. -/
def magnitude64 (x : UInt64) : UInt64 := x &&& 0x7FFFFFFFFFFFFFFF

/-- Whether the bits are not those of a 64-bit number. -/
def isNaN64 (x : UInt64) : Bool := magnitude64 x > 0x7FF0000000000000

/-- Whether the bits are not those of a 32-bit number. -/
def isNaN32 (x : UInt32) : Bool := (x &&& 0x7FFFFFFF) > 0x7F800000

/-- The quiet form of what is not a number. -/
def quiet (x : UInt64) : UInt64 := x ||| 0x0008000000000000

/-- What comes out of an operation that has no result. -/
def defaultNaN : UInt64 := 0xFFF8000000000000

/-- The bits of a result that came out of numbers. -/
def resultBits (x : Float) : UInt64 := if x.isNaN then defaultNaN else x.toBits

/-- Applies an operation to a number, and makes quiet what is not one. -/
def onNumber (f : Float → Float) (x : UInt64) : UInt64 :=
  if isNaN64 x then quiet x else resultBits (f (Float.ofBits x))

/-- Applies an operation to numbers; what is not one goes through. -/
def onNumbers (f : UInt64 → UInt64 → UInt64) (x y : UInt64) : UInt64 :=
  if isNaN64 x then quiet x else if isNaN64 y then quiet y else f x y

/-- An operation on doubles as one on their bits. -/
def onBits (f : Float → Float → Float) (x y : UInt64) : UInt64 :=
  resultBits (f (Float.ofBits x) (Float.ofBits y))

/-! ## 64 bits -/

def signBit : UInt64 := 0x8000000000000000

/-- A number rounded to a whole one by a rule for quotients. Zeros and what is already whole keep
their sign and value. -/
def roundedWith (rule : Nat → Nat → Nat) (x : Float) : Float :=
  match Datum.ofFloat x with
  | .finite negative significand exponent =>
    if exponent < 0 then
      let (num, den) := Datum.magnitude significand exponent
      (BinaryFormat.double.nearest negative (rule num den) 1).toFloat
    else x
  | _ => x

/-- An operation on one 64-bit number. -/
def floatUnary64 : FloatUnary → UInt64 → UInt64
  | .abs, x => magnitude64 x
  | .neg, x => x ^^^ signBit
  | .ceil, x => onNumber Float.ceil x
  | .floor, x => onNumber Float.floor x
  | .trunc, x => onNumber (roundedWith (· / ·)) x
  | .nearest, x => onNumber (roundedWith roundHalfEven) x
  | .sqrt, x => onNumber Float.sqrt x

/-- The smaller of two numbers. Of two zeros the negative one is smaller. -/
def smaller (x y : UInt64) : UInt64 :=
  let a := Float.ofBits x
  let b := Float.ofBits y
  if a < b then x else if b < a then y else x ||| y

/-- The larger of two numbers. Of two zeros the positive one is larger. -/
def larger (x y : UInt64) : UInt64 :=
  let a := Float.ofBits x
  let b := Float.ofBits y
  if a < b then y else if b < a then x else x &&& y

/-- An operation on two 64-bit numbers. -/
def floatBinary64 : FloatBinary → UInt64 → UInt64 → UInt64
  | .add, x, y => onNumbers (onBits (· + ·)) x y
  | .sub, x, y => onNumbers (onBits (· - ·)) x y
  | .mul, x, y => onNumbers (onBits (· * ·)) x y
  | .div, x, y => onNumbers (onBits (· / ·)) x y
  | .min, x, y => onNumbers smaller x y
  | .max, x, y => onNumbers larger x y
  | .copysign, x, y => magnitude64 x ||| (y &&& signBit)

/-- A comparison of two 64-bit numbers. -/
def floatCompare64 (r : FloatCompare) (x y : UInt64) : Bool :=
  let a := Float.ofBits x
  let b := Float.ofBits y
  match r with
  | .eq => a == b
  | .ne => a != b
  | .lt => a < b
  | .gt => b < a
  | .le => a ≤ b
  | .ge => b ≤ a

/-! ## 32 bits -/

/-- A 32-bit number as a 64-bit one. The bits of what is not a number move to the front, and it is
made quiet if `hush` says so. -/
def widen (hush : Bool) (x : UInt32) : UInt64 :=
  if isNaN32 x then
    let sign := (x >>> 31).toUInt64 <<< 63
    let payload := (x &&& 0x007FFFFF).toUInt64 <<< 29
    let bits := sign ||| 0x7FF0000000000000 ||| payload
    if hush then quiet bits else bits
  else (Float32.ofBits x).toFloat.toBits

/-- The 32-bit number nearest to a 64-bit one. Of what is not a number the front bits are kept. -/
def narrow (x : UInt64) : UInt32 :=
  if isNaN64 x then
    let sign := (x >>> 63).toUInt32 <<< 31
    let payload := ((x >>> 29) &&& 0x007FFFFF).toUInt32
    sign ||| 0x7F800000 ||| payload
  else (Float.ofBits x).toFloat32.toBits

/-- An operation on one 32-bit number. -/
def floatUnary32 (o : FloatUnary) (x : UInt32) : UInt32 :=
  narrow (floatUnary64 o (widen false x))

/-- An operation on two 32-bit numbers. -/
def floatBinary32 (o : FloatBinary) (x y : UInt32) : UInt32 :=
  narrow (floatBinary64 o (widen false x) (widen false y))

/-- A comparison of two 32-bit numbers. -/
def floatCompare32 (r : FloatCompare) (x y : UInt32) : Bool :=
  floatCompare64 r (widen false x) (widen false y)

/-! ## Conversions -/

/-- The 64-bit number nearest to the 32-bit number with these bits. -/
def promote (x : UInt32) : UInt64 := widen true x

/-- The 32-bit number nearest to the 64-bit number with these bits. -/
def demote (x : UInt64) : UInt32 := if isNaN64 x then narrow (quiet x) else narrow x

/-- The range of integers of a size. -/
def intRange : IntSize → Bool → Int × Int
  | .w32, true => (-(twoPow 31 : Int), twoPow 31 - 1)
  | .w32, false => (0, twoPow 32 - 1)
  | .w64, true => (-(twoPow 63 : Int), twoPow 63 - 1)
  | .w64, false => (0, twoPow 64 - 1)

/-- The integer part of a number as an integer of a range. Outside the range there is a trap, or the
nearest end of the range if the conversion saturates. -/
def truncateTo (range : Int × Int) (saturating : Bool) : Datum → Except Trap Int
  | .nan => if saturating then .ok 0 else .error .invalidConversion
  | .infinite negative =>
    if saturating then .ok (if negative then range.1 else range.2) else .error .integerOverflow
  | .finite negative significand exponent =>
    match (Datum.finite negative significand exponent).truncate? with
    | none => .error .invalidConversion
    | some i =>
      if range.1 ≤ i ∧ i ≤ range.2 then .ok i
      else if saturating then .ok (if negative then range.1 else range.2)
      else .error .integerOverflow

end WasmGauge.Wasm.Numeric
