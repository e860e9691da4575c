import WasmGauge.Wasm.Binary.Integer
import WasmGauge.Wasm.Module

/-!
# Instructions in the binary format

Reading and writing one instruction. The codes of operators, loads and stores come from the
catalogues; the others stand here, once for reading and once for writing.
-/

namespace WasmGauge.Wasm.Binary

/-- Reads something off the front of a list of bytes, or fails. -/
abbrev Reader := StateT Bytes Option

/-- Fails. -/
def refuse {α : Type} : Reader α := fun _ => none

/-- The next byte. -/
def byte : Reader UInt8 := fun
  | [] => none
  | b :: rest => some (b, rest)

/-- The next `n` bytes. -/
def take (n : Nat) : Reader Bytes := fun bytes =>
  if n ≤ bytes.length then some (bytes.take n, bytes.drop n) else none

/-- An unsigned integer of 32 bits. -/
def u32 : Reader Nat := readUnsigned 32

/-- An unsigned integer of 64 bits. -/
def u64 : Reader Nat := readUnsigned 64

/-- `n` things in a row. -/
def times {α : Type} (item : Reader α) : Nat → Reader (List α)
  | 0 => pure []
  | n + 1 => do
    let first ← item
    let rest ← times item n
    pure (first :: rest)

/-- A count and that many things. -/
def vector {α : Type} (item : Reader α) : Reader (List α) := do
  let n ← u32
  times item n

/-- A count and that many things, written. -/
def writeVector {α : Type} (item : α → Bytes) (items : List α) : Bytes :=
  writeUnsigned items.length ++ items.flatMap item

/-- The value type with a code. -/
def valueTypeOf? : UInt8 → Option ValueType
  | 0x7F => some .i32
  | 0x7E => some .i64
  | 0x7D => some .f32
  | 0x7C => some .f64
  | 0x70 => some .funcref
  | 0x6F => some .externref
  | _ => none

def valueTypeCode : ValueType → UInt8
  | .i32 => 0x7F
  | .i64 => 0x7E
  | .f32 => 0x7D
  | .f64 => 0x7C
  | .funcref => 0x70
  | .externref => 0x6F

def valueType : Reader ValueType := do
  let b ← byte
  match valueTypeOf? b with
  | some t => pure t
  | none => refuse

def referenceType : Reader ValueType := do
  let t ← valueType
  if t.isReference then pure t else refuse

/-- A block type: the code for nothing, a value type, or the index of a function type as a signed
integer. -/
def blockType : Reader BlockType := fun bytes =>
  match bytes with
  | [] => none
  | b :: rest =>
    if b = 0x40 then some (.empty, rest)
    else
      match valueTypeOf? b with
      | some t => some (.value t, rest)
      | none =>
        match readSigned 33 bytes with
        | some (i, rest) => if i < 0 then none else some (.index i.toNat, rest)
        | none => none

def writeBlockType : BlockType → Bytes
  | .empty => [0x40]
  | .value t => [valueTypeCode t]
  | .index i => writeSigned i

/-- The argument of an access to memory. A set bit in the alignment announces the index of the
memory. -/
def memArg : Reader MemArg := do
  let flags ← u32
  let explicit := flags / 64 % 2 = 1
  let align := if explicit then flags - 64 else flags
  if align ≥ 64 then refuse
  else
    let memory ← if explicit then u32 else pure 0
    let offset ← u64
    pure ⟨align, offset, memory⟩

/-- The argument of an access to memory, written. -/
def writeMemArg (a : MemArg) : Bytes :=
  if a.memory = 0 then writeUnsigned a.align ++ writeUnsigned a.offset
  else writeUnsigned (a.align + 64) ++ writeUnsigned a.memory ++ writeUnsigned a.offset

/-- The rest of an instruction after its code. -/
def instructionAfter (code : UInt8) : Reader Flat := do
  match code with
  | 0x00 => pure (.basic .unreachable)
  | 0x01 => pure (.basic .nop)
  | 0x02 => Flat.block <$> blockType
  | 0x03 => Flat.loop <$> blockType
  | 0x04 => Flat.cond <$> blockType
  | 0x05 => pure .otherwise
  | 0x0B => pure .close
  | 0x0C => (fun l => .basic (.br l)) <$> u32
  | 0x0D => (fun l => .basic (.brIf l)) <$> u32
  | 0x0E => do
    let labels ← vector u32
    let default ← u32
    pure (.basic (.brTable labels default))
  | 0x0F => pure (.basic .ret)
  | 0x10 => (fun f => .basic (.call f)) <$> u32
  | 0x11 => do
    let type ← u32
    let table ← u32
    pure (.basic (.callIndirect type table))
  | 0x1A => pure (.basic .drop)
  | 0x1B => pure (.basic (.select none))
  | 0x1C => (fun ts => .basic (.select (some ts))) <$> vector valueType
  | 0x20 => (fun i => .basic (.localGet i)) <$> u32
  | 0x21 => (fun i => .basic (.localSet i)) <$> u32
  | 0x22 => (fun i => .basic (.localTee i)) <$> u32
  | 0x23 => (fun i => .basic (.globalGet i)) <$> u32
  | 0x24 => (fun i => .basic (.globalSet i)) <$> u32
  | 0x3F => (fun i => .basic (.memorySize i)) <$> u32
  | 0x40 => (fun i => .basic (.memoryGrow i)) <$> u32
  | 0x41 => (fun i => .basic (.i32Const (UInt32.ofInt i))) <$> (readSigned 32 : Reader Int)
  | 0x42 => (fun i => .basic (.i64Const (UInt64.ofInt i))) <$> (readSigned 64 : Reader Int)
  | 0x43 => (fun b => .basic (.f32Const (ofLittleEndian b).toUInt32)) <$> take 4
  | 0x44 => (fun b => .basic (.f64Const (ofLittleEndian b).toUInt64)) <$> take 8
  | 0xD0 => (fun t => .basic (.refNull t)) <$> referenceType
  | 0xD1 => pure (.basic .refIsNull)
  | 0xD2 => (fun f => .basic (.refFunc f)) <$> u32
  | 0xFC => do
    let second ← u32
    match Entry.ofCode? catalogue [0xFC, second.toUInt8] with
    | some e => if second < 256 then pure (.basic (.op e.meaning)) else refuse
    | none => refuse
  | _ =>
    match Entry.ofCode? catalogue [code] with
    | some e => pure (.basic (.op e.meaning))
    | none =>
      match Entry.ofCode? loadCatalogue [code] with
      | some e => (fun a => .basic (.load e.meaning a)) <$> memArg
      | none =>
        match Entry.ofCode? storeCatalogue [code] with
        | some e => (fun a => .basic (.store e.meaning a)) <$> memArg
        | none => refuse

def instruction : Reader Flat := do
  let code ← byte
  instructionAfter code

/-- An instruction that opens no block, written. -/
def writeBasic : Basic → Bytes
  | .unreachable => [0x00]
  | .nop => [0x01]
  | .br l => 0x0C :: writeUnsigned l
  | .brIf l => 0x0D :: writeUnsigned l
  | .brTable ls d => 0x0E :: writeVector writeUnsigned ls ++ writeUnsigned d
  | .ret => [0x0F]
  | .call f => 0x10 :: writeUnsigned f
  | .callIndirect type table => 0x11 :: writeUnsigned type ++ writeUnsigned table
  | .drop => [0x1A]
  | .select none => [0x1B]
  | .select (some ts) => 0x1C :: writeVector (fun t => [valueTypeCode t]) ts
  | .localGet i => 0x20 :: writeUnsigned i
  | .localSet i => 0x21 :: writeUnsigned i
  | .localTee i => 0x22 :: writeUnsigned i
  | .globalGet i => 0x23 :: writeUnsigned i
  | .globalSet i => 0x24 :: writeUnsigned i
  | .load form a => Entry.codeOf loadCatalogue form ++ writeMemArg a
  | .store form a => Entry.codeOf storeCatalogue form ++ writeMemArg a
  | .memorySize m => 0x3F :: writeUnsigned m
  | .memoryGrow m => 0x40 :: writeUnsigned m
  | .i32Const v => 0x41 :: writeSigned v.toInt32.toInt
  | .i64Const v => 0x42 :: writeSigned v.toInt64.toInt
  | .f32Const b => 0x43 :: littleEndian 4 b.toNat
  | .f64Const b => 0x44 :: littleEndian 8 b.toNat
  | .refNull t => [0xD0, valueTypeCode t]
  | .refNullForeign t => 0xD0 :: writeSigned t
  | .refIsNull => [0xD1]
  | .refFunc f => 0xD2 :: writeUnsigned f
  | .op o => Entry.codeOf catalogue o

def writeInstruction : Flat → Bytes
  | .basic b => writeBasic b
  | .block t => 0x02 :: writeBlockType t
  | .loop t => 0x03 :: writeBlockType t
  | .cond t => 0x04 :: writeBlockType t
  | .otherwise => [0x05]
  | .close => [0x0B]

/-- Instructions until the first closing one, which belongs to them. The fuel bounds their
number. -/
def untilClose : Nat → Reader (List Flat)
  | 0 => refuse
  | fuel + 1 => do
    let i ← instruction
    if i = .close then pure [i]
    else
      let rest ← untilClose fuel
      pure (i :: rest)

/-- Instructions until there are no bytes left. The fuel bounds their number. -/
def untilEnd : Nat → Reader (List Flat)
  | 0 => refuse
  | fuel + 1 => fun bytes =>
    if bytes.isEmpty then some ([], [])
    else
      match instruction bytes with
      | some (i, rest) =>
        match untilEnd fuel rest with
        | some (is, rest) => some (i :: is, rest)
        | none => none
      | none => none

end WasmGauge.Wasm.Binary
