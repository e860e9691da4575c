import WasmGauge.Wasm.Module

/-!
# Values and traps

The values that running code works on, and the reasons for which it stops. Floating-point numbers
are kept as their bits, so that the payload of what is not a number is never lost.
-/

namespace WasmGauge.Wasm

/-- A value on the operand stack, in a local or in a global variable. -/
inductive Val where
  | i32 (value : UInt32)
  | i64 (value : UInt64)
  /-- The 32-bit floating-point number with these bits. -/
  | f32 (bits : UInt32)
  /-- The 64-bit floating-point number with these bits. -/
  | f64 (bits : UInt64)
  /-- The null reference of a reference type. -/
  | null (type : ValueType)
  /-- A reference to a function of the instance. -/
  | func (index : Nat)
  deriving DecidableEq, Repr, Inhabited

/-- The value that a local variable of a type begins with. -/
def Val.zero : ValueType → Val
  | .i32 => .i32 0
  | .i64 => .i64 0
  | .f32 => .f32 0
  | .f64 => .f64 0
  | t => .null t

/-- The value of a truth value. -/
def Val.ofBool (b : Bool) : Val := .i32 (if b then 1 else 0)

/-- Why running code stops. -/
inductive Trap where
  /-- The code says that this point is never reached. -/
  | unreachable
  | divideByZero
  /-- A result does not fit the integers of its type. -/
  | integerOverflow
  /-- What is not a number is made an integer. -/
  | invalidConversion
  /-- An access lies outside of a memory. -/
  | memoryOutOfBounds
  /-- An access lies outside of a table. -/
  | tableOutOfBounds
  /-- An element of a table is null where a function is called. -/
  | uninitializedElement
  /-- The function in a table has another type than the call. -/
  | signatureMismatch
  | callStackExhausted
  /-- More instructions in a row than there is fuel for. -/
  | outOfFuel
  /-- The operands do not have the types that the code needs. Validated code never gets there. -/
  | illTyped
  deriving DecidableEq, Repr, Inhabited

/-- The words for a trap. -/
def Trap.message : Trap → String
  | .unreachable => "wasm \x60unreachable\x60 instruction executed"
  | .divideByZero => "integer divide by zero"
  | .integerOverflow => "integer overflow"
  | .invalidConversion => "invalid conversion to integer"
  | .memoryOutOfBounds => "out of bounds memory access"
  | .tableOutOfBounds => "undefined element: out of bounds table access"
  | .uninitializedElement => "uninitialized element"
  | .signatureMismatch => "indirect call type mismatch"
  | .callStackExhausted => "call stack exhausted"
  | .outOfFuel => "all fuel consumed by WebAssembly"
  | .illTyped => "operand of another type"

end WasmGauge.Wasm
