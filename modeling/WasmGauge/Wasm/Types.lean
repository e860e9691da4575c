/-!
# WebAssembly types

Value types, function types and the types of tables, memories and globals, with the words that
signatures show for value types.
-/

namespace WasmGauge.Wasm

/-- The bytes of a file or of a binary module. -/
abbrev Bytes := List UInt8

/-- The type of one value on the operand stack. -/
inductive ValueType where
  | i32
  | i64
  | f32
  | f64
  /-- A reference to a function, or null. -/
  | funcref
  /-- A reference to something of the host, or null. -/
  | externref
  deriving DecidableEq, Repr, Inhabited

/-- The word that stands for a value type in a signature. A reference to something of the host is
shown as a reference to anything. -/
def ValueType.word : ValueType → String
  | .i32 => "i32"
  | .i64 => "i64"
  | .f32 => "f32"
  | .f64 => "f64"
  | .funcref => "funcref"
  | .externref => "anyref"

def ValueType.isReference : ValueType → Bool
  | .funcref | .externref => true
  | _ => false

/-- Whether values of the type are numbers. -/
def ValueType.isNumeric (t : ValueType) : Bool := !t.isReference

/-- What a function takes from the stack and what it leaves there. -/
structure FuncType where
  /-- The types of the parameters, the first one deepest on the stack. -/
  params : List ValueType
  /-- The types of the results, the last one on top of the stack. -/
  results : List ValueType
  deriving DecidableEq, Repr, Inhabited

/-- The largest number of parameters and local variables of a function. -/
def localLimit : Nat := 50000

/-- The sizes a table or a memory may have. -/
structure Limits where
  min : Nat
  /-- The largest size, when one is given. -/
  max : Option Nat
  deriving DecidableEq, Repr, Inhabited

structure TableType where
  element : ValueType
  /-- The sizes of the table, in elements. -/
  limits : Limits
  deriving DecidableEq, Repr, Inhabited

/-- The type of a global variable. -/
structure GlobalType where
  value : ValueType
  isMutable : Bool
  deriving DecidableEq, Repr, Inhabited

/-- The type of a block: nothing or one value out, or a function type of the module. -/
inductive BlockType where
  /-- Takes nothing and leaves nothing. -/
  | empty
  /-- Takes nothing and leaves one value. -/
  | value (type : ValueType)
  /-- Takes and leaves what the function type with this index says. -/
  | index (type : Nat)
  deriving DecidableEq, Repr, Inhabited

/-- The function type a block type stands for, in a module with these types. -/
def BlockType.expand (types : Array FuncType) : BlockType → Option FuncType
  | .empty => some ⟨[], []⟩
  | .value t => some ⟨[], [t]⟩
  | .index i => types[i]?

end WasmGauge.Wasm
