import WasmGauge.Wasm.Numeric.Operation
import WasmGauge.Wasm.Store

/-!
# Running code

`exec` runs a sequence of instructions to its end, to a jump out of it, to a return, or to a trap.
Each block runs on an operand stack of its own that begins with its parameters; a jump carries its
whole stack along, and the block that it goes to takes as many values from it as it needs.

Two numbers bound a run. `depth` is how many calls may still be nested; a call beyond it traps.
`fuel` bounds how many instructions are run in a row, so that running always ends.
-/

namespace WasmGauge.Wasm

/-- A function as it is run. -/
structure Code where
  type : FuncType
  /-- The types of the local variables after the parameters. -/
  locals : List ValueType
  body : List Instr

/-- What an instance consists of that never changes. -/
structure Program where
  types : Array FuncType
  funcs : Array Code

/-- What running code works on. -/
structure Config where
  /-- The operands, the top first. -/
  stack : List Val
  locals : Array Val
  store : Store

/-- How running a sequence of instructions ends. -/
inductive Outcome where
  /-- Behind the last instruction. -/
  | next (config : Config)
  /-- With a jump to the block at this depth. -/
  | branch (label : Nat) (config : Config)
  /-- With a return from the function. -/
  | ret (config : Config)
  /-- With a trap; the store is as it was at that moment. -/
  | trap (cause : Trap) (store : Store)

/-- How a call ends. -/
inductive CallOutcome where
  /-- With a return. The results lie on the stack instead of the operands. -/
  | done (stack : List Val) (store : Store)
  /-- With a trap; the store is as it was at that moment. -/
  | trap (cause : Trap) (store : Store)

/-! ## Instructions without blocks and calls -/

/-- Why a step cannot be taken, with the store at that moment. -/
structure Stop where
  cause : Trap
  store : Store

/-- No step can be taken. -/
def Config.stop (c : Config) (cause : Trap) : Except Stop Config := .error ⟨cause, c.store⟩

/-- The configuration after an access to memory for reading. -/
def Config.load (form : LoadForm) (a : MemArg) : Config → Except Stop Config
  | ⟨.i32 base :: rest, locals, store⟩ =>
    match store.memories[a.memory]? with
    | some m =>
      match m.read? (base.toNat + a.offset) form.bytes with
      | some bytes => .ok ⟨form.decode bytes :: rest, locals, store⟩
      | none => .error ⟨.memoryOutOfBounds, store⟩
    | none => .error ⟨.illTyped, store⟩
  | c => c.stop .illTyped

/-- The configuration after an access to memory for writing. -/
def Config.save (form : StoreForm) (a : MemArg) : Config → Except Stop Config
  | ⟨v :: .i32 base :: rest, locals, store⟩ =>
    let address := base.toNat + a.offset
    if (store.memories[a.memory]?).any (·.holds address form.bytes) then
      -- The store is taken apart so that its arrays are owned once while they are changed.
      match store with
      | ⟨globals, tables, memories⟩ =>
        .ok ⟨rest, locals,
          ⟨globals, tables, memories.modify a.memory (·.write address (form.encode v))⟩⟩
    else .error ⟨.memoryOutOfBounds, store⟩
  | c => c.stop .illTyped

/-- The configuration after a memory has been asked to grow. Minus one stands for a refusal. -/
def Config.growMemory (index : Nat) : Config → Except Stop Config
  | ⟨.i32 delta :: rest, locals, store⟩ =>
    match store.memories[index]? with
    | some m =>
      let pages := m.pages
      if m.mayGrow delta.toNat then
        match store with
        | ⟨globals, tables, memories⟩ =>
          .ok ⟨.i32 pages.toUInt32 :: rest, locals,
            ⟨globals, tables, memories.modify index (·.grow delta.toNat)⟩⟩
      else .ok ⟨.i32 0xFFFFFFFF :: rest, locals, store⟩
    | none => .error ⟨.illTyped, store⟩
  | c => c.stop .illTyped

/-- The configuration after an operator. -/
@[inline] def Config.operate (o : Operator) : Config → Except Stop Config
  | ⟨stack, locals, store⟩ =>
    match o.apply stack with
    | .ok stack => .ok ⟨stack, locals, store⟩
    | .error t => .error ⟨t, store⟩

/-- The configuration with a value pushed. -/
@[inline] def Config.push (v : Val) : Config → Config
  | ⟨stack, locals, store⟩ => ⟨v :: stack, locals, store⟩

/-- The configuration after an instruction that neither jumps nor calls. -/
@[inline] def Config.step (c : Config) (b : Basic) : Except Stop Config :=
  match b with
  | .localGet i =>
    match c with
    | ⟨stack, locals, store⟩ =>
      match locals[i]? with
      | some v => .ok ⟨v :: stack, locals, store⟩
      | none => .error ⟨.illTyped, store⟩
  | .i32Const x => .ok (c.push (.i32 x))
  | .op o => c.operate o
  | .localSet i =>
    match c with
    | ⟨v :: rest, locals, store⟩ => .ok ⟨rest, locals.setIfInBounds i v, store⟩
    | c => c.stop .illTyped
  | .localTee i =>
    match c with
    | ⟨v :: rest, locals, store⟩ => .ok ⟨v :: rest, locals.setIfInBounds i v, store⟩
    | c => c.stop .illTyped
  | .i64Const x => .ok (c.push (.i64 x))
  | .f32Const x => .ok (c.push (.f32 x))
  | .f64Const x => .ok (c.push (.f64 x))
  | .nop => .ok c
  | .drop =>
    match c with
    | ⟨_ :: rest, locals, store⟩ => .ok ⟨rest, locals, store⟩
    | c => c.stop .illTyped
  | .select _ =>
    match c with
    | ⟨.i32 choice :: second :: first :: rest, locals, store⟩ =>
      .ok ⟨(if choice = 0 then second else first) :: rest, locals, store⟩
    | c => c.stop .illTyped
  | .globalGet i =>
    match c with
    | ⟨stack, locals, store⟩ =>
      match store.globals[i]? with
      | some v => .ok ⟨v :: stack, locals, store⟩
      | none => .error ⟨.illTyped, store⟩
  | .globalSet i =>
    match c with
    | ⟨v :: rest, locals, ⟨globals, tables, memories⟩⟩ =>
      .ok ⟨rest, locals, ⟨globals.setIfInBounds i v, tables, memories⟩⟩
    | c => c.stop .illTyped
  | .load form a => c.load form a
  | .store form a => c.save form a
  | .memorySize i =>
    match c.store.memories[i]? with
    | some m => .ok (c.push (.i32 m.pages.toUInt32))
    | none => c.stop .illTyped
  | .memoryGrow i => c.growMemory i
  | .refNull t => .ok (c.push (.null t))
  | .refNullForeign _ => c.stop .illTyped
  | .refIsNull =>
    match c with
    | ⟨.null _ :: rest, locals, store⟩ => .ok ⟨.i32 1 :: rest, locals, store⟩
    | ⟨_ :: rest, locals, store⟩ => .ok ⟨.i32 0 :: rest, locals, store⟩
    | c => c.stop .illTyped
  | .refFunc f => .ok (c.push (.func f))
  | .unreachable => c.stop .unreachable
  -- These are run by `execJump`, which has the fuel and the depth they need.
  | .br _ | .brIf _ | .brTable _ _ | .ret | .call _ | .callIndirect _ _ => c.stop .illTyped

/-! ## Blocks and calls -/

/-- The function that an element of a table refers to, if it has this type. -/
def Program.target (p : Program) (tables : Array Table) (type table : Nat) (element : UInt32) :
    Except Trap Nat :=
  match (tables[table]?).bind (·.get? element.toNat) with
  -- Outside of the table, null, and of another type are three causes.
  | none => .error .tableOutOfBounds
  | some (.func f) =>
    match p.funcs[f]?, p.types[type]? with
    | some code, some expected => if code.type = expected then .ok f else .error .signatureMismatch
    | _, _ => .error .illTyped
  | some _ => .error .uninitializedElement

/-- The numbers of values that a block takes and leaves. -/
def BlockType.arities (types : Array FuncType) : BlockType → Nat × Nat
  | .empty => (0, 0)
  | .value _ => (0, 1)
  | .index i =>
    match types[i]? with
    | some f => (f.params.length, f.results.length)
    | none => (0, 0)

/-- The first `n` values of a stack, on top of another one. -/
def onto : Nat → List Val → List Val → List Val
  | n + 1, v :: inner, outer => v :: onto n inner outer
  | _, _, outer => outer

/-- The first `n` values of a stack, the top one last, before other values. -/
def turned : Nat → List Val → List Val → List Val
  | n + 1, v :: stack, others => turned n stack (v :: others)
  | _, _, others => others

/-- The configuration after a block: `arity` values of the inner stack lie on the outer one. -/
def Config.leave (arity : Nat) (outer : List Val) : Config → Config
  | ⟨stack, locals, store⟩ => ⟨onto arity stack outer, locals, store⟩

/-- What comes after a block whose inside has ended. A jump to an outer block has one block less to
leave. -/
def Outcome.leave (arity : Nat) (outer : List Val) : Outcome → Outcome
  | .next c => .next (c.leave arity outer)
  | .branch 0 c => .next (c.leave arity outer)
  | .branch (l + 1) c => .branch l c
  | .ret c => .ret c
  | .trap t s => .trap t s

/-- How a call ends whose code has ended: `arity` values of the inner stack lie on the outer one. -/
def Outcome.toCall (arity : Nat) (outer : List Val) : Outcome → CallOutcome
  | .next c | .branch _ c | .ret c =>
    match c with
    | ⟨stack, _, store⟩ => .done (onto arity stack outer) store
  | .trap t s => .trap t s

/-- What comes after a call, with the local variables of the caller. -/
def CallOutcome.resume (locals : Array Val) : CallOutcome → Outcome
  | .done stack store => .next ⟨stack, locals, store⟩
  | .trap t store => .trap t store

/-- The configuration at the beginning of a function that is called with these operands. -/
def Code.enter (f : Code) (stack : List Val) (store : Store) : Config :=
  ⟨[], (turned f.type.params.length stack (f.locals.map Val.zero)).toArray, store⟩

mutual

/-- Calls a function. It takes its operands from the stack, the last one from the top, and puts its
results there. -/
def call (p : Program) : Nat → Nat → Nat → List Val → Store → CallOutcome
  | 0, _, _, _, store => .trap .outOfFuel store
  | _ + 1, 0, _, _, store => .trap .callStackExhausted store
  | fuel + 1, depth + 1, f, stack, store =>
    match p.funcs[f]? with
    | none => .trap .illTyped store
    | some code =>
      -- The callee cannot reach below its operands, which begin as its local variables.
      let outer := stack.drop code.type.params.length
      (exec p fuel depth code.body (code.enter stack store)).toCall code.type.results.length outer
termination_by structural fuel => fuel

/-- Runs an instruction that jumps or calls. -/
def execJump (p : Program) : Nat → Nat → @& Basic → Config → Outcome
  | 0, _, _, c => .trap .outOfFuel c.store
  | fuel + 1, depth, b, c =>
    match b with
    | .br l => .branch l c
    | .brIf l =>
      match c with
      | ⟨.i32 x :: rest, locals, store⟩ =>
        if x = 0 then .next ⟨rest, locals, store⟩ else .branch l ⟨rest, locals, store⟩
      | c => .trap .illTyped c.store
    | .brTable ls d =>
      match c with
      | ⟨.i32 x :: rest, locals, store⟩ => .branch ((ls[x.toNat]?).getD d) ⟨rest, locals, store⟩
      | c => .trap .illTyped c.store
    | .ret => .ret c
    | .call f =>
      match c with
      | ⟨stack, locals, store⟩ => (call p fuel depth f stack store).resume locals
    | .callIndirect type table =>
      match c with
      | ⟨.i32 x :: rest, locals, store⟩ =>
        match p.target store.tables type table x with
        | .ok f => (call p fuel depth f rest store).resume locals
        | .error t => .trap t store
      | c => .trap .illTyped c.store
    | _ => .trap .illTyped c.store
termination_by structural fuel => fuel

/-- Runs an instruction that opens a block. -/
def execBlock (p : Program) : Nat → Nat → @& Instr → Config → Outcome
  | 0, _, _, c => .trap .outOfFuel c.store
  | fuel + 1, depth, i, c =>
    match i with
    | .block type body =>
      let (m, n) := type.arities p.types
      let outer := c.stack.drop m
      (exec p fuel depth body (c.leave m [])).leave n outer
    | .loop type body =>
      let (m, n) := type.arities p.types
      let outer := c.stack.drop m
      execLoop p fuel depth m n body outer (c.leave m [])
    | .cond type yes no =>
      match c with
      | ⟨.i32 x :: rest, locals, store⟩ =>
        let (m, n) := type.arities p.types
        let outer := rest.drop m
        (exec p fuel depth (if x = 0 then no else yes) ⟨onto m rest [], locals, store⟩).leave n outer
      | c => .trap .illTyped c.store
    | .basic _ => .trap .illTyped c.store
termination_by structural fuel => fuel

/-- Runs the inside of a loop until it is left. A jump to the loop takes `m` values to its
beginning; its end leaves `n` values on the outer stack. -/
def execLoop (p : Program) :
    Nat → Nat → Nat → Nat → @& List Instr → List Val → Config → Outcome
  | 0, _, _, _, _, _, c => .trap .outOfFuel c.store
  | fuel + 1, depth, m, n, body, outer, c =>
    match exec p fuel depth body c with
    -- The next round begins on a stack with nothing but what the jump carries.
    | .branch 0 c => execLoop p fuel depth m n body outer (c.leave m [])
    | o => o.leave n outer
termination_by structural fuel => fuel

/-- Runs instructions in a row. -/
def exec (p : Program) : Nat → Nat → @& List Instr → Config → Outcome
  | 0, _, _, c => .trap .outOfFuel c.store
  | _ + 1, _, [], c => .next c
  | fuel + 1, depth, .basic b :: rest, c =>
    if b.isPlain then
      match c.step b with
      | .ok c => exec p fuel depth rest c
      | .error s => .trap s.cause s.store
    else
      match execJump p fuel depth b c with
      | .next c => exec p fuel depth rest c
      | o => o
  | fuel + 1, depth, i :: rest, c =>
    match execBlock p fuel depth i c with
    | .next c => exec p fuel depth rest c
    | o => o
termination_by structural fuel => fuel

end

end WasmGauge.Wasm
