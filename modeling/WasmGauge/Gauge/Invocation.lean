import WasmGauge.Gauge.Loading
import WasmGauge.Gauge.Reference
import WasmGauge.Wasm.Numeric.Floating

/-!
# Invocation

Calls of exported functions and of host functions, and how long they take. Looking up the function
and checking the arguments come before the clock is read; between the two readings there is the call
and nothing else. A call that fails reads the clock once.
-/

namespace WasmGauge

open Wasm (Val ValueType Trap)

/-! ## Measurements -/

/-- A call with its value and the milliseconds it took. -/
structure Measurement where
  name : String
  args : List Value
  value : Value
  elapsed : Value
  /-- What the call is called in a report, if it counts as something. -/
  label : Value

/-- The texts of values, with commas between them, for so many nested values. -/
def argumentsTextWithin (depth : Nat) (args : List Value) : Except Fault String := do
  .ok (", ".intercalate (← args.mapM (Value.textWithin depth)))

/-- The texts of values, with commas between them. -/
def argumentsText (args : List Value) : Except Fault String := argumentsTextWithin nestingLimit args

/-- The line of a report about a measurement, for so many nested values. -/
def Measurement.lineWithin (depth : Nat) (m : Measurement) : Except Fault String := do
  let args ← argumentsTextWithin depth m.args
  let value ← m.value.plainTextWithin depth
  let elapsed ← m.elapsed.fixed 2
  let line := m.name ++ "(" ++ args ++ ") = " ++ value ++ " | Time: " ++ elapsed ++ " ms"
  -- an empty label counts as none
  if m.label.isTruthy then .ok ((← m.label.plainTextWithin depth) ++ " " ++ line) else .ok line

/-- The line of a report about a measurement. -/
def Measurement.line (m : Measurement) : Except Fault String := m.lineWithin nestingLimit

/-- What is logged about a measurement. -/
def Measurement.note (m : Measurement) (place : String) : Except Fault String := do
  let args ← (Value.tuple m.args).quoted
  let value ← m.value.quoted
  let elapsed ← m.elapsed.fixed 3
  .ok (place ++ " " ++ m.name ++ args ++ " -> " ++ value ++ " in " ++ elapsed ++ " ms")

def Measurement.log (m : Measurement) (place : String) : Act Unit :=
  match m.note place with
  | .ok text => Act.debug "api" text
  | .error _ => pure ()

/-! ## Values at the boundary -/

/-- The value of a type that an argument is. Integers wrap; floating-point numbers are rounded; a
reference is null. -/
def Wasm.Val.ofValue? (type : ValueType) (v : Value) : Option Val :=
  match type, v with
  | .i32, .int i => some (.i32 (i % twoPow 32).toNat.toUInt32)
  | .i32, .bool b => some (.i32 (if b then 1 else 0))
  | .i64, .int i => some (.i64 (i % twoPow 64).toNat.toUInt64)
  | .i64, .bool b => some (.i64 (if b then 1 else 0))
  | .f32, .float x | .f32, .scalar (.float .double x) => some (.f32 (Wasm.Numeric.demote x.toBits))
  | .f64, .float x | .f64, .scalar (.float .double x) => some (.f64 x.toBits)
  | .funcref, .none => some (.null .funcref)
  | .externref, .none => some (.null .externref)
  -- texts, containers and other scalars have no place on the stack
  | _, _ => none

/-- The value that a result is. Integers have a sign; a reference counts as nothing. -/
def Wasm.Val.toValue : Val → Value
  | .i32 n => .int ((n.toNat : Int).bmod (twoPow 32))
  | .i64 n => .int ((n.toNat : Int).bmod (twoPow 64))
  | .f32 bits => .float (Float.ofBits (Wasm.Numeric.promote bits))
  | .f64 bits => .float (Float.ofBits bits)
  | .null _ | .func _ => .none

/-- The value of a call with these results: nothing, the only one, or a list. -/
def resultOf : List Val → Value
  | [] => .none
  | [v] => v.toValue
  | vs => .list (vs.map (·.toValue))

def convertAll : List ValueType → List Value → Except Failure (List Val)
  | type :: types, v :: vs =>
    match Val.ofValue? type v with
    | some first => do .ok (first :: (← convertAll types vs))
    | none =>
      match v.quoted with
      | .ok shown => .error (.call (.unconvertible shown type.word))
      | .error fault => .error (.value fault)
  | _, _ => .ok []

def convertArguments (params : List ValueType) (args : List Value) : Except Failure (List Val) :=
  if args.length ≠ params.length then .error (.call (.count args.length params.length))
  else convertAll params args

/-! ## Calls -/

namespace Handle

def run (h : Handle) (index : Nat) (args : List Val) : Act (Except Trap (List Val)) := do
  let w ← get
  let (outcome, i) := (h.current w).call w.bounds index args
  h.become i
  pure outcome

/-- Calls the function with a name, without checking the arguments first. The function may trap; a
call that does not get as far as the function fails. -/
def enter (h : Handle) (name : String) (args : List Value) : Act (Except Trap Value) := do
  match h.start.function? name with
  | none => Act.fail (.exportNotFound name h.names)
  | some (index, type) =>
    match convertArguments type.params args with
    | .error f => Act.fail f
    | .ok vals =>
      match ← h.run index vals with
      | .ok results => pure (.ok (resultOf results))
      | .error trap => pure (.error trap)

def call (h : Handle) (name : String) (args : List Value) : Act Value := do
  match ← h.enter name args with
  | .ok v => pure v
  | .error trap => Act.fail (.trap trap)

/-- The arguments as plain numbers for the function with a name. -/
def accept (h : Handle) (name : String) (args : List Value) : Except Failure (List Value) := do
  let s ← h.lookup name
  match s.check args with
  | .ok checked => .ok checked
  | .error fault => .error (.argument name s fault)

/-- Calls the function with a name, with arguments that have been accepted. -/
def callAccepted (h : Handle) (name : String) (args : List Value) : Act Value := do
  match ← h.enter name args with
  | .ok v => pure v
  | .error trap => Act.fail (.invocation name trap)

end Handle

/-- Reads the clock, takes a step, and reads the clock again. Gives the result and the milliseconds
in between. -/
def timed {α : Type} (act : Act α) : Act (α × Float) := do
  let start ← Act.readClock
  let a ← act
  let stop ← Act.readClock
  pure (a, Clock.milliseconds start stop)

/-- Calls the function with a name and times the call. -/
def Handle.invoke (h : Handle) (name : String) (args : List Value) (label : Value) :
    Act Measurement := do
  match h.accept name args with
  -- refused before the clock is read
  | .error f => Act.fail f
  | .ok args =>
    let (value, elapsed) ← timed (h.callAccepted name args)
    let m : Measurement := ⟨name, args, value, .float elapsed, label⟩
    m.log h.source.name
    pure m

/-- Calls a host function, which may be any step, and times the call. -/
def timeCall (name : String) (call : List Value → Act Value) (args : List Value) (label : Value) :
    Act Measurement := do
  let (value, elapsed) ← timed (call args)
  let m : Measurement := ⟨name, args, value, .float elapsed, label⟩
  m.log "host"
  pure m

/-- Times a call of a reference function. An empty name stands for the function's own. -/
def Reference.time (r : Reference) (args : List Value) (label : Value) (name : String) :
    Act Measurement :=
  timeCall (if name = "" then r.name else name) (fun args => MonadExcept.ofExcept (r.call args))
    args label

def Source.run (s : Source) (name : String) (args : List Value) (verbose : Bool) : Act Value := do
  let h ← s.load Engine.shared false verbose
  match h.accept name args with
  | .error f => Act.fail f
  | .ok args =>
    let value ← h.callAccepted name args
    if verbose then
      let shown ← Act.ofValue (argumentsText args)
      Act.say (name ++ "(" ++ shown ++ ") = " ++ (← Act.ofValue value.plainText))
    pure value

end WasmGauge
