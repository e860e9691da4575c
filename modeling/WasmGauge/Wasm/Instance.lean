import WasmGauge.Wasm.Exec
import WasmGauge.Wasm.Validation

/-!
# Instances

An instance is made from a valid module that needs nothing from outside: its global variables get
their first values, references are copied into its tables and bytes into its memories, and at last
its start function is called. Each of these may trap, and the start function may run on and on.

An instance is a store that only its own calls change. `Instance.call` runs a function that it
gives out.
-/

namespace WasmGauge.Wasm

/-- The bounds of a run: the fuel and the number of calls that may be nested. -/
structure Bounds where
  fuel : Nat
  /-- The number of nested calls. -/
  depth : Nat

/-- Calls may be nested a good thousand deep, and the fuel does not run out in practice. -/
def Bounds.standard : Bounds := ⟨twoPow 60, 1200⟩

/-- A module made ready to run, with what it may change. -/
structure Instance where
  program : Program
  exports : List Export
  store : Store

/-- The code of a module. -/
def ValidModule.program (v : ValidModule) : Program :=
  let types := v.module.types.toArray
  ⟨types, (v.module.funcs.map fun f => ⟨(types[f.type]?).getD ⟨[], []⟩, f.locals, f.body⟩).toArray⟩

/-- The configuration after an instruction of a constant expression. -/
def Config.stepConstant (c : Config) : Instr → Except Stop Config
  | .basic b => c.step b
  | _ => c.stop .illTyped

/-- The value of a constant expression, with these global variables. -/
def constant (globals : Array Val) (code : List Instr) : Except Trap Val :=
  match code.foldlM Config.stepConstant ⟨[], #[], ⟨globals, #[], #[]⟩⟩ with
  | .ok ⟨[v], _, _⟩ => .ok v
  | .ok _ => .error .illTyped
  | .error s => .error s.cause

/-- The first values of global variables; the code of each may read the ones before it. -/
def initialGlobals (globals : List (Global (List Instr))) : Except Trap (Array Val) :=
  globals.foldlM (fun vs g => vs.push <$> constant vs g.init) #[]

/-- Why a module is not made ready to run. -/
inductive Unready (ε : Type) where
  | refused (cause : ε)
  /-- Its start function is still running when the fuel is gone. -/
  | endless
  deriving DecidableEq, Repr

def Unready.map {ε ε' : Type} (f : ε → ε') : Unready ε → Unready ε'
  | .refused cause => .refused (f cause)
  | .endless => .endless

/-- The store before anything has been copied into it. -/
def ValidModule.emptyStore (v : ValidModule) : Except Trap Store := do
  let globals ← initialGlobals v.module.globals
  let tables := v.module.tables.map fun t => Table.ofType t.type
  .ok ⟨globals, tables.toArray, (v.module.memories.map Memory.ofLimits).toArray⟩

/-- The store after a segment of references has been copied. -/
def Store.copyElements (s : Store) (e : ElementSegment (List Instr)) : Except Trap Store :=
  match e.mode with
  | .active index offset => do
    -- The items are computed before anything is written, so nothing is left half copied.
    let items ← e.items.mapM (constant s.globals)
    match ← constant s.globals offset, s.tables[index]? with
    | .i32 start, some table =>
      match table.put? start.toNat items with
      | some table => .ok { s with tables := s.tables.setIfInBounds index table }
      | none => .error .tableOutOfBounds
    | _, _ => .error .illTyped
  | _ => .ok s

/-- The store after a segment of bytes has been copied. -/
def Store.copyData (s : Store) (d : DataSegment (List Instr)) : Except Trap Store :=
  match d.mode with
  | .active index offset => do
    match ← constant s.globals offset with
    | .i32 start =>
      match s.write? index start.toNat d.bytes with
      | some s => .ok s
      | none => .error .memoryOutOfBounds
    | _ => .error .illTyped
  | _ => .ok s

/-- The store before the start function is called. -/
def ValidModule.initialStore (v : ValidModule) : Except Trap Store := do
  let store ← v.emptyStore
  -- References before bytes.
  let store ← v.module.elements.foldlM Store.copyElements store
  v.module.datas.foldlM Store.copyData store

/-- The store after the start function, if there is one. -/
def Program.start (p : Program) (bounds : Bounds) (s : Store) :
    Option Nat → Except (Unready Trap) Store
  | none => .ok s
  | some f =>
    match Wasm.call p bounds.fuel bounds.depth f [] s with
    | .done _ s => .ok s
    -- The code does not trap here; it is only not run any further.
    | .trap .outOfFuel _ => .error .endless
    | .trap t _ => .error (.refused t)

/-- A fresh instance of a module that needs nothing from outside. -/
def ValidModule.instantiate (v : ValidModule) (bounds : Bounds) :
    Except (Unready Trap) Instance := do
  -- All first values are there before the start function, which may use them.
  let store ← v.initialStore.mapError .refused
  let store ← v.program.start bounds store v.module.starts.head?
  .ok ⟨v.program, v.module.exports, store⟩

/-- The function that an instance gives out under a name: its index and its type. -/
def Instance.function? (i : Instance) (name : String) : Option (Nat × FuncType) :=
  match i.exports.find? (·.name == name) with
  | some ⟨_, .func, index⟩ => (i.program.funcs[index]?).map fun f => (index, f.type)
  | _ => none

/-- The functions that an instance gives out, with their types, in order. -/
def Instance.functions (i : Instance) : List (String × FuncType) :=
  i.exports.filterMap fun e =>
    match e.kind with
    | .func => (i.program.funcs[e.index]?).map fun f => (e.name, f.type)
    | _ => none

/-- Calls the function with an index. Gives its results, the first one first, or a trap, and the
instance after the call. -/
def Instance.call (i : Instance) (bounds : Bounds) (index : Nat) (args : List Val) :
    Except Trap (List Val) × Instance :=
  match Wasm.call i.program bounds.fuel bounds.depth index args.reverse i.store with
  | .done results store => (.ok results.reverse, { i with store })
  | .trap t store => (.error t, { i with store })

end WasmGauge.Wasm
