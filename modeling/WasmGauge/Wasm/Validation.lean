import WasmGauge.Number.Power
import WasmGauge.Wasm.Module

/-!
# Validation

Which modules may be run. Code is checked by running it on the types of the operands instead of on
the operands: every instruction takes the types it needs off the stack and pushes the types it
leaves. Each block is checked on a stack of its own that begins with the parameters of the block, so
that code cannot reach below them.

After an instruction that never goes on, such as a jump, the stack has every type that is asked of
it. Its operands are then unknown, written `none`.
-/

namespace WasmGauge.Wasm.Validation

/-! ## The stack of types -/

/-- The types of the operands in a block, the top first. -/
structure Operands where
  /-- The types of the operands, the top first; `none` is an unknown type. -/
  types : List (Option ValueType)
  /-- Whether unknown operands lie below these, because this point is never reached. -/
  bottomless : Bool
  deriving DecidableEq, Repr

namespace Operands

/-- The operands at the beginning of a block with these parameters. -/
def start (params : List ValueType) : Operands := ⟨(params.map some).reverse, false⟩

def never : Operands := ⟨[], true⟩

def push (s : Operands) (t : Option ValueType) : Operands := { s with types := t :: s.types }

/-- More operands, the last one on top. -/
def pushAll (s : Operands) (ts : List ValueType) : Operands :=
  { s with types := (ts.map some).reverse ++ s.types }

/-- Takes the top operand, whatever its type. -/
def popAny (s : Operands) : Option (Option ValueType × Operands) :=
  match s.types with
  | t :: rest => some (t, { s with types := rest })
  | [] => if s.bottomless then some (none, s) else none

/-- Takes an operand of this type. -/
def pop (s : Operands) (t : ValueType) : Option Operands := do
  let (found, s) ← s.popAny
  if found = none ∨ found = some t then some s else none

/-- Takes operands of these types, the last one first. -/
def popAll (s : Operands) (ts : List ValueType) : Option Operands :=
  ts.reverse.foldlM pop s

/-- Takes the parameters of a function type and pushes its results. -/
def apply (s : Operands) (f : FuncType) : Option Operands :=
  (s.popAll f.params).map (·.pushAll f.results)

/-- Whether exactly operands of these types are left. -/
def isEnd (s : Operands) (ts : List ValueType) : Bool :=
  match s.popAll ts with
  | some rest => rest.types.isEmpty
  | none => false

end Operands

/-! ## Code -/

/-- What code may refer to. -/
structure Context where
  types : Array FuncType
  funcs : Array FuncType
  tables : Array TableType
  memories : Nat
  globals : Array GlobalType
  /-- The functions that code may take references to. -/
  referable : List Nat
  /-- The types of the parameters and local variables. -/
  locals : Array ValueType
  /-- The types of the results of the function. -/
  results : List ValueType
  /-- What a jump to each open block takes along, the innermost block first. -/
  labels : List (List ValueType)

/-- The context inside a block to which a jump takes these types along. -/
def Context.within (c : Context) (label : List ValueType) : Context :=
  { c with labels := label :: c.labels }

/-- Whether an access to memory of so many bytes is allowed. -/
def Context.allows (c : Context) (bytes : Nat) (a : MemArg) : Bool :=
  a.memory < c.memories && twoPow a.align ≤ bytes && a.offset < twoPow 32

/-- Whether a type is that of a number or unknown. -/
def isNumeric : Option ValueType → Bool
  | none => true
  | some t => t.isNumeric

/-- The operands after a choice between two values whose type is not given. They must be numbers of
one type. -/
def afterSelect (s : Operands) : Option Operands := do
  let s ← s.pop .i32
  let (t, s) ← s.popAny
  let (u, s) ← s.popAny
  if isNumeric t && isNumeric u && (t == u || t == none || u == none) then
    some (s.push (if t = none then u else t))
  else none

/-- The operands after a jump that chooses between labels. All of them must take as many values
along as the last one, and the operands must fit each of them. -/
def afterBrTable (c : Context) (s : Operands) (labels : List Nat) (default : Nat) :
    Option Operands := do
  let s ← s.pop .i32
  let last ← c.labels[default]?
  let fits (l : Nat) : Bool :=
    match c.labels[l]? with
    | some ts => ts.length == last.length && (s.popAll ts).isSome
    | none => false
  if labels.all fits then
    -- The labels before may ask for other types than the last one if operands are unknown.
    let _ ← s.popAll last
    some .never
  else none

/-- The operands after an instruction that opens no block. -/
def afterBasic (c : Context) (s : Operands) : Basic → Option Operands
  | .unreachable => some .never
  | .nop => some s
  | .br l => do
    let _ ← s.popAll (← c.labels[l]?)
    some .never
  | .brIf l => do
    let ts ← c.labels[l]?
    let s ← s.pop .i32
    s.apply ⟨ts, ts⟩
  | .brTable ls d => afterBrTable c s ls d
  | .ret => do
    let _ ← s.popAll c.results
    some .never
  | .call f => do s.apply (← c.funcs[f]?)
  | .callIndirect t table => do
    let type ← c.types[t]?
    let found ← c.tables[table]?
    if found.element = .funcref then
      let s ← s.pop .i32
      s.apply type
    else none
  | .drop => s.popAny.map (·.2)
  | .select none => afterSelect s
  | .select (some [t]) => s.apply ⟨[t, t, .i32], [t]⟩
  | .select (some _) => none
  | .localGet i => do s.apply ⟨[], [← c.locals[i]?]⟩
  | .localSet i => do s.apply ⟨[← c.locals[i]?], []⟩
  | .localTee i => do
    let t ← c.locals[i]?
    s.apply ⟨[t], [t]⟩
  | .globalGet i => do s.apply ⟨[], [(← c.globals[i]?).value]⟩
  | .globalSet i => do
    let g ← c.globals[i]?
    if g.isMutable then s.apply ⟨[g.value], []⟩ else none
  | .load form a =>
    if c.allows form.bytes a then s.apply ⟨[.i32], [form.type]⟩ else none
  | .store form a =>
    if c.allows form.bytes a then s.apply ⟨[.i32, form.type], []⟩ else none
  | .memorySize m => if m < c.memories then s.apply ⟨[], [.i32]⟩ else none
  | .memoryGrow m => if m < c.memories then s.apply ⟨[.i32], [.i32]⟩ else none
  | .i32Const _ => s.apply ⟨[], [.i32]⟩
  | .i64Const _ => s.apply ⟨[], [.i64]⟩
  | .f32Const _ => s.apply ⟨[], [.f32]⟩
  | .f64Const _ => s.apply ⟨[], [.f64]⟩
  | .refNull t => s.apply ⟨[], [t]⟩
  | .refNullForeign _ => none
  | .refIsNull => do
    let (t, s) ← s.popAny
    if isNumeric t && t != none then none else some (s.push (some .i32))
  | .refFunc f =>
    if f < c.funcs.size && c.referable.contains f then s.apply ⟨[], [.funcref]⟩ else none
  | .op o => s.apply o.type

mutual

def after (c : Context) (s : Operands) : Instr → Option Operands
  | .basic i => afterBasic c s i
  | .block type body => do
    let f ← type.expand c.types
    let s ← s.popAll f.params
    let inner ← afterAll (c.within f.results) (.start f.params) body
    if inner.isEnd f.results then some (s.pushAll f.results) else none
  | .loop type body => do
    let f ← type.expand c.types
    let s ← s.popAll f.params
    -- A jump to a loop goes to its beginning, so it takes the parameters along.
    let inner ← afterAll (c.within f.params) (.start f.params) body
    if inner.isEnd f.results then some (s.pushAll f.results) else none
  | .cond type yes no => do
    let f ← type.expand c.types
    let s ← s.pop .i32
    let s ← s.popAll f.params
    let first ← afterAll (c.within f.results) (.start f.params) yes
    let second ← afterAll (c.within f.results) (.start f.params) no
    if first.isEnd f.results && second.isEnd f.results then some (s.pushAll f.results) else none

/-- The operands after a sequence of instructions. -/
def afterAll (c : Context) (s : Operands) : List Instr → Option Operands
  | [] => some s
  | i :: rest => do
    let s ← after c s i
    afterAll c s rest

end

/-- Whether a sequence takes nothing and leaves exactly these types. -/
def yields (c : Context) (code : List Instr) (types : List ValueType) : Bool :=
  match afterAll c (.start []) code with
  | some s => s.isEnd types
  | none => false

/-- Whether an instruction may stand in a constant expression. Of the global variables only those
that are never assigned to may be read. -/
def isConstant (c : Context) : Instr → Bool
  | .basic (.i32Const _) | .basic (.i64Const _) | .basic (.f32Const _) | .basic (.f64Const _)
  | .basic (.refNull _) | .basic (.refFunc _) => true
  | .basic (.globalGet i) => (c.globals[i]?).any fun g => !g.isMutable
  | .basic (.op (.intBinary _ o)) => o == .add || o == .sub || o == .mul
  | _ => false

/-- Whether code is a constant expression of this type. -/
def isConstantOf (c : Context) (code : List Instr) (type : ValueType) : Bool :=
  code.all (isConstant c) && yields c code [type]

/-! ## Modules -/

-- Pages of a memory, and elements of a table.
def pageLimit : Nat := 65536

def tableLimit : Nat := 4294967295

/-- The largest number of parameters, and of results, of a function type. -/
def arityLimit : Nat := 1000

/-- The largest number of tables, and of memories. -/
def resourceLimit : Nat := 100

/-- Whether sizes lie in order and below a limit. -/
def limitsOk (limit : Nat) (l : Limits) : Bool :=
  l.min ≤ limit && l.max.all fun max => l.min ≤ max && max ≤ limit

/-- Whether a function type has few enough parameters and results. -/
def funcTypeOk (f : FuncType) : Bool :=
  f.params.length ≤ arityLimit && f.results.length ≤ arityLimit

/-- The functions to which some code refers. -/
def references (code : List Instr) : List Nat :=
  code.filterMap fun
    | .basic (.refFunc f) => some f
    | _ => none

/-- The functions that code may take references to: those that are given out and those to which
something outside of functions refers. -/
def referable (m : Module (List Instr)) : List Nat :=
  (m.exports.filterMap fun e => if e.kind = .func then some e.index else none) ++
    m.globals.flatMap (fun g => references g.init) ++
    m.elements.flatMap fun e => e.items.flatMap references

/-- What code outside of functions may refer to. There is none if a function has no type. -/
def context? (m : Module (List Instr)) : Option Context := do
  let types := m.types.toArray
  let funcs ← m.funcTypes.mapM fun t => types[t]?
  some {
    types
    funcs := funcs.toArray
    tables := m.tableTypes.toArray
    memories := m.memoryTypes.length
    globals := m.globalTypes.toArray
    referable := referable m
    locals := #[]
    results := []
    labels := [] }

/-- Whether the code of a function does what its type says. -/
def funcOk (c : Context) (f : Func (List Instr)) : Bool :=
  match c.types[f.type]? with
  | some type =>
    type.params.length + f.locals.length ≤ localLimit && yields { c with
      locals := (type.params ++ f.locals).toArray
      results := type.results
      -- The body is a block of its own; a jump out of it is a return.
      labels := [type.results] } f.body type.results
  | none => false

/-- Whether each global variable begins with a constant of its type. The code of each may read the
ones before it; `n` of them come first. -/
def globalsOk (c : Context) : Nat → List (Global (List Instr)) → Bool
  | _, [] => true
  | n, g :: rest =>
    -- Of the global variables of the module itself none after this one can be read.
    isConstantOf { c with globals := c.globals.take n } g.init g.type.value &&
      globalsOk c (n + 1) rest

/-- Whether what is given out exists. -/
def exportOk (c : Context) (e : Export) : Bool :=
  match e.kind with
  | .func => e.index < c.funcs.size
  | .table => e.index < c.tables.size
  | .memory => e.index < c.memories
  | .global => e.index < c.globals.size

/-- Whether a list has no two equal elements. -/
def distinct : List String → Bool
  | [] => true
  | s :: rest => !rest.contains s && distinct rest

/-- Whether a segment of references fits its table. -/
def elementOk (c : Context) (e : ElementSegment (List Instr)) : Bool :=
  e.items.all (isConstantOf c · e.type) &&
    match e.mode with
    | .active table offset =>
      (c.tables[table]?).any (·.element == e.type) && isConstantOf c offset .i32
    | _ => true

/-- Whether a segment of bytes fits its memory. -/
def dataOk (c : Context) (d : DataSegment (List Instr)) : Bool :=
  match d.mode with
  | .active memory offset => memory < c.memories && isConstantOf c offset .i32
  | _ => true

/-- Whether at most one function is called when an instance is made, which takes and leaves
nothing. -/
def startOk (c : Context) : List Nat → Bool
  | [] => true
  | [f] => c.funcs[f]? == some ⟨[], []⟩
  | _ => false

/-- Whether a module may be run. -/
def isValid (m : Module (List Instr)) : Bool :=
  match context? m with
  | none => false
  | some c =>
    m.types.all funcTypeOk &&
      c.tables.all (fun t => limitsOk tableLimit t.limits) && c.tables.size ≤ resourceLimit &&
      m.tables.all (·.init.isNone) &&
      m.memoryTypes.all (limitsOk pageLimit) && c.memories ≤ resourceLimit &&
      globalsOk c m.importedGlobals.length m.globals &&
      m.exports.all (exportOk c) && distinct (m.exports.map (·.name)) &&
      startOk c m.starts &&
      m.elements.all (elementOk c) && m.datas.all (dataOk c) &&
      m.funcs.all (funcOk c)

end WasmGauge.Wasm.Validation

/-! ## Trees from sequences -/

namespace WasmGauge.Wasm

/-- A segment mode with its code changed. -/
def SegmentMode.mapCode {α β : Type} (f : α → Option β) : SegmentMode α → Option (SegmentMode β)
  | .active target offset => (f offset).map (.active target ·)
  | .passive => some .passive
  | .declared => some .declared

/-- A module with the code in it changed. -/
def Module.mapCode {α β : Type} (f : α → Option β) (m : Module α) : Option (Module β) := do
  let funcs ← m.funcs.mapM fun g => (f g.body).map fun body => { g with body }
  let globals ← m.globals.mapM fun g => (f g.init).map fun init => { g with init }
  let tables ← m.tables.mapM fun t =>
    match t.init with
    | none => some ⟨t.type, none⟩
    | some init => (f init).map fun init => ⟨t.type, some init⟩
  let elements ← m.elements.mapM fun e => do
    some ⟨e.form, ← e.mode.mapCode f, e.type, ← e.items.mapM f⟩
  let datas ← m.datas.mapM fun d => do some ⟨← d.mode.mapCode f, d.bytes⟩
  some { m with funcs, tables, globals, elements, datas }

/-- A module whose code has been nested and found valid. -/
structure ValidModule where
  module : Module (List Instr)
  /-- It has been found valid. -/
  valid : Validation.isValid module = true

/-- The valid module whose code has this flat form, if there is one. -/
def ValidModule.ofRaw? (raw : Module (List Flat)) : Option ValidModule :=
  match raw.mapCode nest with
  | none => none
  | some m => if h : Validation.isValid m = true then some ⟨m, h⟩ else none

end WasmGauge.Wasm
