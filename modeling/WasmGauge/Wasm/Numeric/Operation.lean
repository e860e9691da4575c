import WasmGauge.Wasm.Numeric.Floating
import WasmGauge.Wasm.Numeric.Integer

/-!
# Applying operators

`Operator.apply` runs an operator on the operand stack: its operands are taken from the top, the last
one first, and its result is pushed.
-/

namespace WasmGauge.Wasm

open Numeric

/-- The value of an integer of a size. -/
def IntSize.val (i : Int) : IntSize → Val
  | .w32 => .i32 (UInt32.ofInt i)
  | .w64 => .i64 (UInt64.ofInt i)

/-- The value of a datum as a floating-point number of a size. -/
def FloatSize.val (f : BinaryFormat → Datum) : FloatSize → Val
  | .f32 => .f32 (BinaryFormat.single.encode (f .single)).toUInt32
  | .f64 => .f64 (BinaryFormat.double.encode (f .double)).toUInt64

/-- The integer that a value stands for, read with or without a sign. -/
def Val.toInt? (signed : Bool) : Val → Option Int
  | .i32 x => some (if signed then x.toInt32.toInt else x.toNat)
  | .i64 x => some (if signed then x.toInt64.toInt else x.toNat)
  | _ => none

/-- The number that a value stands for. -/
def Val.datum? : Val → Option Datum
  | .f32 x => some (BinaryFormat.single.decode x.toNat)
  | .f64 x => some (BinaryFormat.double.decode x.toNat)
  | _ => none

/-- A conversion of one value. -/
def Conversion.apply (c : Conversion) (v : Val) : Except Trap Val :=
  match c, v with
  | .wrap, .i64 x => .ok (.i32 x.toUInt32)
  | .extend true, .i32 x => .ok (.i64 x.toInt32.toInt64.toUInt64)
  | .extend false, .i32 x => .ok (.i64 x.toUInt64)
  | .truncate _ target signed saturating, v =>
    match v.datum? with
    | some d => (fun i => target.val i) <$> truncateTo (intRange target signed) saturating d
    | none => .error .illTyped
  | .convert _ target signed, v =>
    match v.toInt? signed with
    | some i => .ok (target.val fun f => f.ofInt i)
    | none => .error .illTyped
  | .demote, .f64 x => .ok (.f32 (Numeric.demote x))
  | .promote, .f32 x => .ok (.f64 (Numeric.promote x))
  | .toBits .f32, .f32 x => .ok (.i32 x)
  | .toBits .f64, .f64 x => .ok (.i64 x)
  | .ofBits .f32, .i32 x => .ok (.f32 x)
  | .ofBits .f64, .i64 x => .ok (.f64 x)
  | _, _ => .error .illTyped

/-- Pushes the result of an operation on two 32-bit integers. -/
@[inline] def push32 (rest : List Val) : Except Trap UInt32 → Except Trap (List Val)
  | .ok z => .ok (.i32 z :: rest)
  | .error t => .error t

/-- Pushes the result of an operation on two 64-bit integers. -/
@[inline] def push64 (rest : List Val) : Except Trap UInt64 → Except Trap (List Val)
  | .ok z => .ok (.i64 z :: rest)
  | .error t => .error t

/-- The operand stack after an operator. -/
@[inline] def Operator.apply : Operator → List Val → Except Trap (List Val)
  | .isZero .w32, .i32 x :: rest => .ok (Val.ofBool (x == 0) :: rest)
  | .isZero .w64, .i64 x :: rest => .ok (Val.ofBool (x == 0) :: rest)
  | .intCompare .w32 r, .i32 y :: .i32 x :: rest => .ok (Val.ofBool (compare32 r x y) :: rest)
  | .intCompare .w64 r, .i64 y :: .i64 x :: rest => .ok (Val.ofBool (compare64 r x y) :: rest)
  | .floatCompare .f32 r, .f32 y :: .f32 x :: rest =>
    .ok (Val.ofBool (floatCompare32 r x y) :: rest)
  | .floatCompare .f64 r, .f64 y :: .f64 x :: rest =>
    .ok (Val.ofBool (floatCompare64 r x y) :: rest)
  | .intUnary .w32 o, .i32 x :: rest => .ok (.i32 (unary32 o x) :: rest)
  | .intUnary .w64 o, .i64 x :: rest => .ok (.i64 (unary64 o x) :: rest)
  | .intBinary .w32 o, .i32 y :: .i32 x :: rest => push32 rest (binary32 o x y)
  | .intBinary .w64 o, .i64 y :: .i64 x :: rest => push64 rest (binary64 o x y)
  | .floatUnary .f32 o, .f32 x :: rest => .ok (.f32 (floatUnary32 o x) :: rest)
  | .floatUnary .f64 o, .f64 x :: rest => .ok (.f64 (floatUnary64 o x) :: rest)
  | .floatBinary .f32 o, .f32 y :: .f32 x :: rest => .ok (.f32 (floatBinary32 o x y) :: rest)
  | .floatBinary .f64 o, .f64 y :: .f64 x :: rest => .ok (.f64 (floatBinary64 o x y) :: rest)
  | .conversion c, v :: rest =>
    match c.apply v with
    | .ok z => .ok (z :: rest)
    | .error t => .error t
  | _, _ => .error .illTyped

end WasmGauge.Wasm
