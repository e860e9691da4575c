import WasmGauge.Wasm.Val

/-!
# Arithmetic on integers

The operations on 32-bit and on 64-bit integers. All of them wrap around; only division can fail,
by zero or because the signed quotient does not fit.
-/

namespace WasmGauge.Wasm.Numeric

/-! ## 32 bits -/

/-- An operation on one 32-bit integer. -/
def unary32 : IntUnary → UInt32 → UInt32
  | .clz, x => if x = 0 then 32 else 31 - x.log2
  | .ctz, x => if x = 0 then 32 else (x &&& (0 - x)).log2
  | .popcnt, x => (List.range 32).foldl (fun n i => n + ((x >>> i.toUInt32) &&& 1)) 0
  | .extend bits, x =>
    let n : UInt32 := 32 - bits.toUInt32
    ((x <<< n).toInt32 >>> n.toInt32).toUInt32

/-- An operation on two 32-bit integers. -/
@[inline] def binary32 : IntBinary → UInt32 → UInt32 → Except Trap UInt32
  | .add, x, y => .ok (x + y)
  | .sub, x, y => .ok (x - y)
  | .mul, x, y => .ok (x * y)
  | .divS, x, y =>
    if y = 0 then .error .divideByZero
    else if x = 0x80000000 ∧ y = 0xFFFFFFFF then .error .integerOverflow
    else .ok (x.toInt32 / y.toInt32).toUInt32
  | .divU, x, y => if y = 0 then .error .divideByZero else .ok (x / y)
  | .remS, x, y =>
    if y = 0 then .error .divideByZero
    else if y = 0xFFFFFFFF then .ok 0
    else .ok (x.toInt32 % y.toInt32).toUInt32
  | .remU, x, y => if y = 0 then .error .divideByZero else .ok (x % y)
  | .and, x, y => .ok (x &&& y)
  | .or, x, y => .ok (x ||| y)
  | .xor, x, y => .ok (x ^^^ y)
  | .shl, x, y => .ok (x <<< y)
  | .shrS, x, y => .ok (x.toInt32 >>> y.toInt32).toUInt32
  | .shrU, x, y => .ok (x >>> y)
  | .rotl, x, y => .ok ((x <<< y) ||| (x >>> (0 - y)))
  | .rotr, x, y => .ok ((x >>> y) ||| (x <<< (0 - y)))

/-- A comparison of two 32-bit integers. -/
@[inline] def compare32 : IntCompare → UInt32 → UInt32 → Bool
  | .eq, x, y => x == y
  | .ne, x, y => x != y
  | .ltS, x, y => x.toInt32 < y.toInt32
  | .ltU, x, y => x < y
  | .gtS, x, y => y.toInt32 < x.toInt32
  | .gtU, x, y => y < x
  | .leS, x, y => x.toInt32 ≤ y.toInt32
  | .leU, x, y => x ≤ y
  | .geS, x, y => y.toInt32 ≤ x.toInt32
  | .geU, x, y => y ≤ x

/-! ## 64 bits -/

/-- An operation on one 64-bit integer. -/
def unary64 : IntUnary → UInt64 → UInt64
  | .clz, x => if x = 0 then 64 else 63 - x.log2
  | .ctz, x => if x = 0 then 64 else (x &&& (0 - x)).log2
  | .popcnt, x => (List.range 64).foldl (fun n i => n + ((x >>> i.toUInt64) &&& 1)) 0
  | .extend bits, x =>
    let n : UInt64 := 64 - bits.toUInt64
    ((x <<< n).toInt64 >>> n.toInt64).toUInt64

/-- An operation on two 64-bit integers. -/
@[inline] def binary64 : IntBinary → UInt64 → UInt64 → Except Trap UInt64
  | .add, x, y => .ok (x + y)
  | .sub, x, y => .ok (x - y)
  | .mul, x, y => .ok (x * y)
  | .divS, x, y =>
    if y = 0 then .error .divideByZero
    else if x = 0x8000000000000000 ∧ y = 0xFFFFFFFFFFFFFFFF then .error .integerOverflow
    else .ok (x.toInt64 / y.toInt64).toUInt64
  | .divU, x, y => if y = 0 then .error .divideByZero else .ok (x / y)
  | .remS, x, y =>
    if y = 0 then .error .divideByZero
    else if y = 0xFFFFFFFFFFFFFFFF then .ok 0
    else .ok (x.toInt64 % y.toInt64).toUInt64
  | .remU, x, y => if y = 0 then .error .divideByZero else .ok (x % y)
  | .and, x, y => .ok (x &&& y)
  | .or, x, y => .ok (x ||| y)
  | .xor, x, y => .ok (x ^^^ y)
  | .shl, x, y => .ok (x <<< y)
  | .shrS, x, y => .ok (x.toInt64 >>> y.toInt64).toUInt64
  | .shrU, x, y => .ok (x >>> y)
  | .rotl, x, y => .ok ((x <<< y) ||| (x >>> (0 - y)))
  | .rotr, x, y => .ok ((x >>> y) ||| (x <<< (0 - y)))

/-- A comparison of two 64-bit integers. -/
@[inline] def compare64 : IntCompare → UInt64 → UInt64 → Bool
  | .eq, x, y => x == y
  | .ne, x, y => x != y
  | .ltS, x, y => x.toInt64 < y.toInt64
  | .ltU, x, y => x < y
  | .gtS, x, y => y.toInt64 < x.toInt64
  | .gtU, x, y => y < x
  | .leS, x, y => x.toInt64 ≤ y.toInt64
  | .leU, x, y => x ≤ y
  | .geS, x, y => y.toInt64 ≤ x.toInt64
  | .geU, x, y => y ≤ x

end WasmGauge.Wasm.Numeric
