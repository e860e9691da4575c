import WasmGauge.Wasm.Operator

/-!
# Modules

Instructions and modules, in two forms. A `Flat` instruction is one item of the sequence that both
file formats hold, where `end` closes what `block`, `loop` and `if` open. An `Instr` is the tree that
a well-nested sequence stands for. `nest` builds the trees from the sequence.
-/

namespace WasmGauge.Wasm

/-- Where an access to memory goes: the memory, an offset added to the address, and the promised
alignment as a power of two. -/
structure MemArg where
  /-- The power of two that the address is promised to be a multiple of. -/
  align : Nat
  offset : Nat
  memory : Nat
  deriving DecidableEq, Repr

/-- An instruction that opens no block. -/
inductive Basic where
  | unreachable
  | nop
  /-- Leaves the blocks up to the one at this depth, or starts it again if it is a loop. -/
  | br (label : Nat)
  /-- The same, if the operand is not zero. -/
  | brIf (label : Nat)
  /-- The same, with the depth that the operand selects from a table. -/
  | brTable (labels : List Nat) (default : Nat)
  | ret
  | call (function : Nat)
  /-- Calls the function that the operand selects from a table, if its type is this one. -/
  | callIndirect (type table : Nat)
  | drop
  /-- Takes one of two values, as the operand says; the type is given for references. -/
  | select (type : Option (List ValueType))
  | localGet (index : Nat)
  | localSet (index : Nat)
  /-- Assigns to a local variable and keeps the value. -/
  | localTee (index : Nat)
  | globalGet (index : Nat)
  | globalSet (index : Nat)
  | load (form : LoadForm) (arg : MemArg)
  | store (form : StoreForm) (arg : MemArg)
  /-- Pushes the size of a memory in pages. -/
  | memorySize (memory : Nat)
  /-- Adds pages to a memory and pushes the size before, or minus one. -/
  | memoryGrow (memory : Nat)
  | i32Const (value : UInt32)
  | i64Const (value : UInt64)
  /-- Pushes the 32-bit floating-point number with these bits. -/
  | f32Const (bits : UInt32)
  /-- Pushes the 64-bit floating-point number with these bits. -/
  | f64Const (bits : UInt64)
  /-- Pushes the null reference of a type. -/
  | refNull (type : ValueType)
  /-- Pushes the null reference of a type that no value here has. The type is given by its number in
  the binary format. No valid module does that. -/
  | refNullForeign (type : Int)
  | refIsNull
  | refFunc (function : Nat)
  | op (operator : Operator)
  deriving DecidableEq, Repr

/-- Whether an instruction neither jumps nor calls. -/
@[inline] def Basic.isPlain : Basic → Bool
  | .br _ | .brIf _ | .brTable _ _ | .ret | .call _ | .callIndirect _ _ => false
  | _ => true

/-- An item of a sequence of instructions. -/
inductive Flat where
  | basic (instruction : Basic)
  | block (type : BlockType)
  | loop (type : BlockType)
  /-- Opens the first branch of a conditional. -/
  | cond (type : BlockType)
  /-- Closes the first branch of a conditional and opens the second. -/
  | otherwise
  | close
  deriving DecidableEq, Repr

/-- An instruction with all that it encloses. -/
inductive Instr where
  | basic (instruction : Basic)
  | block (type : BlockType) (body : List Instr)
  | loop (type : BlockType) (body : List Instr)
  /-- A conditional. A missing second branch is empty. -/
  | cond (type : BlockType) (yes no : List Instr)
  deriving Repr

/-! ## Modules -/

/-- What is brought in or given out under a name. -/
inductive Kind where
  | func
  | table
  | memory
  | global
  deriving DecidableEq, Repr

/-- The type of something brought in. -/
inductive ImportType where
  /-- A function with the type of this index. -/
  | func (type : Nat)
  | table (type : TableType)
  | memory (limits : Limits)
  | global (type : GlobalType)
  deriving DecidableEq, Repr

/-- Something that an instance needs from outside. -/
structure Import where
  module : String
  name : String
  /-- What it must be. -/
  type : ImportType
  deriving DecidableEq, Repr

/-- Something that an instance gives out. -/
structure Export where
  name : String
  kind : Kind
  /-- The index of the thing in the index space of its kind. -/
  index : Nat
  deriving DecidableEq, Repr

/-- A function: the index of its type, the types of its own local variables, and its code. -/
structure Func (code : Type) where
  type : Nat
  /-- The types of the local variables after the parameters. -/
  locals : List ValueType
  body : code

/-- A table, with the code of its first elements if they are not null. -/
structure TableDef (code : Type) where
  type : TableType
  /-- The code of the first elements. No valid module has it. -/
  init : Option code

/-- A global variable with the code of its first value. -/
structure Global (code : Type) where
  type : GlobalType
  init : code

/-- When a segment is copied. -/
inductive SegmentMode (code : Type) where
  /-- When an instance is made, into the table or memory `target` at the offset that the code
  gives. -/
  | active (target : Nat) (offset : code)
  /-- Only on request. -/
  | passive
  /-- Never; it only declares which functions are referred to. -/
  | declared

/-- How a segment of references is written. What it means does not depend on that. -/
structure ElementForm where
  /-- Whether an active segment names its table, instead of meaning the first one. -/
  namesTable : Bool
  /-- Whether its references are written as indices of functions, instead of code. -/
  byIndex : Bool
  deriving DecidableEq, Repr

/-- References to copy into a table. -/
structure ElementSegment (code : Type) where
  form : ElementForm
  mode : SegmentMode code
  type : ValueType
  items : List code

/-- Bytes to copy into a memory. -/
structure DataSegment (code : Type) where
  mode : SegmentMode code
  bytes : Bytes

/-- A module whose code has the given form. -/
structure Module (code : Type) where
  types : List FuncType := []
  imports : List Import := []
  funcs : List (Func code) := []
  tables : List (TableDef code) := []
  memories : List Limits := []
  /-- The global variables after the imported ones. -/
  globals : List (Global code) := []
  exports : List Export := []
  /-- The functions to call when an instance is made. A valid module has at most one. -/
  starts : List Nat := []
  elements : List (ElementSegment code) := []
  datas : List (DataSegment code) := []

namespace Module

variable {code : Type}

/-- The types of all functions, the imported ones first, as indices of types. -/
def funcTypes (m : Module code) : List Nat :=
  (m.imports.filterMap fun i => match i.type with | .func t => some t | _ => none) ++
    m.funcs.map (·.type)

/-- The types of all tables, the imported ones first. -/
def tableTypes (m : Module code) : List TableType :=
  (m.imports.filterMap fun i => match i.type with | .table t => some t | _ => none) ++
    m.tables.map (·.type)

/-- The sizes of all memories, the imported ones first. -/
def memoryTypes (m : Module code) : List Limits :=
  (m.imports.filterMap fun i => match i.type with | .memory l => some l | _ => none) ++ m.memories

/-- The types of the imported global variables. -/
def importedGlobals (m : Module code) : List GlobalType :=
  m.imports.filterMap fun i => match i.type with | .global g => some g | _ => none

/-- The types of all global variables, the imported ones first. -/
def globalTypes (m : Module code) : List GlobalType :=
  m.importedGlobals ++ m.globals.map (·.type)

end Module

/-! ## Nesting -/

/-- What opened a block that is not closed yet. -/
inductive Opening where
  /-- The beginning of the sequence. -/
  | body
  | block (type : BlockType)
  | loop (type : BlockType)
  | yes (type : BlockType)
  /-- The second branch of a conditional, with the first one. -/
  | no (type : BlockType) (first : List Instr)

/-- The blocks that are open, the innermost first, each with its instructions so far in reverse. An
empty list means that the whole sequence has been closed, by `finished`. -/
structure Nesting where
  /-- The open blocks, the innermost first. -/
  opened : List (Opening × List Instr)
  /-- The instructions of the whole sequence once it is closed. -/
  finished : List Instr

/-- Adds an instruction to the innermost open block. -/
def Nesting.push (instruction : Instr) : List (Opening × List Instr) → Option Nesting
  | [] => none
  | (opening, done) :: outer => some ⟨(opening, instruction :: done) :: outer, []⟩

/-- The nesting after one more item. There is none if the item stands after the end of the sequence,
or if a second branch is opened outside of a conditional. -/
def Nesting.step (n : Nesting) : Flat → Option Nesting
  | .basic i => Nesting.push (.basic i) n.opened
  | .block t => if n.opened.isEmpty then none else some ⟨(.block t, []) :: n.opened, []⟩
  | .loop t => if n.opened.isEmpty then none else some ⟨(.loop t, []) :: n.opened, []⟩
  | .cond t => if n.opened.isEmpty then none else some ⟨(.yes t, []) :: n.opened, []⟩
  | .otherwise =>
    match n.opened with
    -- The first branch is kept with the opening of the second.
    | (.yes t, done) :: outer => some ⟨(.no t done.reverse, []) :: outer, []⟩
    | _ => none
  | .close =>
    match n.opened with
    | [] => none
    | (.body, done) :: _ => some ⟨[], done.reverse⟩
    | (.block t, done) :: outer => Nesting.push (.block t done.reverse) outer
    | (.loop t, done) :: outer => Nesting.push (.loop t done.reverse) outer
    | (.yes t, done) :: outer => Nesting.push (.cond t done.reverse []) outer
    | (.no t first, done) :: outer => Nesting.push (.cond t first done.reverse) outer

/-- The trees of a sequence that ends with its own closing item. -/
def nest (sequence : List Flat) : Option (List Instr) :=
  match sequence.foldlM Nesting.step ⟨[(.body, [])], []⟩ with
  -- Everything has to be closed, the sequence itself included.
  | some ⟨[], finished⟩ => some finished
  | _ => none

end WasmGauge.Wasm
