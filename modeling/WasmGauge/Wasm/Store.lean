import Std.Data.HashMap
import WasmGauge.Wasm.Binary.Integer
import WasmGauge.Wasm.Val

/-!
# Memories and stores

What an instance may change while it runs: its memories, tables and global variables. A memory holds
only the bytes that have been written; all others are zero. A table, likewise, holds only the
references that have been put into it; all others are null.
-/

namespace WasmGauge.Wasm

/-- A memory of bytes. -/
structure Memory where
  pages : Nat
  limit : Nat
  /-- The bytes that have been written, by address. -/
  cells : Std.HashMap Nat UInt8

namespace Memory

/-- The number of bytes of a page. -/
def pageSize : Nat := 65536

/-- The number of bytes of a memory. -/
def size (m : Memory) : Nat := m.pages * pageSize

/-- A memory of zeros with these sizes. -/
def ofLimits (l : Limits) : Memory := ⟨l.min, l.max.getD 65536, ∅⟩

def byteAt (m : Memory) (address : Nat) : UInt8 := (m.cells[address]?).getD 0

/-- Whether so many bytes from an address on lie in the memory. -/
def holds (m : Memory) (address n : Nat) : Bool := address + n ≤ m.size

/-- The `n` bytes from an address on, if all of them lie in the memory. -/
def read? (m : Memory) (address n : Nat) : Option Bytes :=
  if m.holds address n then some ((List.range n).map fun i => m.byteAt (address + i)) else none

/-- The cells with bytes written from an address on. -/
def put (cells : Std.HashMap Nat UInt8) : Nat → Bytes → Std.HashMap Nat UInt8
  | _, [] => cells
  | address, b :: rest => put (cells.insert address b) (address + 1) rest

def write (m : Memory) (address : Nat) (bytes : Bytes) : Memory :=
  match m with
  | ⟨pages, limit, cells⟩ => ⟨pages, limit, put cells address bytes⟩

/-- Whether the largest size allows so many more pages. -/
def mayGrow (m : Memory) (delta : Nat) : Bool := m.pages + delta ≤ m.limit

/-- The memory with more pages. -/
def grow (m : Memory) (delta : Nat) : Memory := { m with pages := m.pages + delta }

end Memory

/-- A table of references. -/
structure Table where
  size : Nat
  element : ValueType
  /-- The references that have been put into the table, by index. -/
  cells : Std.HashMap Nat Val

namespace Table

/-- A table of null references with these sizes. -/
def ofType (t : TableType) : Table := ⟨t.limits.min, t.element, ∅⟩

/-- The reference at an index, if the table has it. -/
def get? (t : Table) (i : Nat) : Option Val :=
  if i < t.size then some ((t.cells[i]?).getD (.null t.element)) else none

/-- The table with references put from an index on, if there is room for all of them. -/
def put? (t : Table) (i : Nat) (vs : List Val) : Option Table :=
  if i + vs.length ≤ t.size then
    some { t with cells := (vs.zipIdx i).foldl (fun cells (v, j) => cells.insert j v) t.cells }
  else none

end Table

/-- What an instance may change while it runs. -/
structure Store where
  globals : Array Val
  tables : Array Table
  memories : Array Memory

/-- The store with bytes written to a memory from an address on, if all of them lie in it. -/
def Store.write? (s : Store) (memory address : Nat) (bytes : Bytes) : Option Store :=
  match s with
  | ⟨globals, tables, memories⟩ =>
    if (memories[memory]?).any (·.holds address bytes.length) then
      some ⟨globals, tables, memories.modify memory (·.write address bytes)⟩
    else none

/-! ## Values in memory -/

/-- The value of a type that bytes in memory stand for. A shorter integer is extended with its sign
or with zeros. -/
def LoadForm.decode (form : LoadForm) (bytes : Bytes) : Val :=
  let n := Binary.ofLittleEndian bytes
  let i : Int :=
    if form.signed ∧ twoPow (8 * form.bytes - 1) ≤ n then (n : Int) - twoPow (8 * form.bytes) else n
  match form.type with
  | .i32 => .i32 (UInt32.ofInt i)
  | .i64 => .i64 (UInt64.ofInt i)
  | .f32 => .f32 n.toUInt32
  | .f64 => .f64 n.toUInt64
  | t => .null t

/-- The bits of a number. -/
def Val.bits : Val → Nat
  | .i32 x | .f32 x => x.toNat
  | .i64 x | .f64 x => x.toNat
  | .null _ | .func _ => 0

/-- The bytes in memory for a value, its lower ones if there are fewer than the value has. -/
def StoreForm.encode (form : StoreForm) (v : Val) : Bytes :=
  Binary.littleEndian form.bytes v.bits

end WasmGauge.Wasm
