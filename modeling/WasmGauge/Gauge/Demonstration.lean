import WasmGauge.Decimal.Fixed
import WasmGauge.Gauge.Comparison

/-!
# Demonstrations

Five short runs with the modules that come with the harness: one call, a comparison, the costs of
compiling, instantiating and calling, a check against the host function, and the cache.
-/

namespace WasmGauge.Demonstration

/-! ## Text in columns -/

def rule (c : Char) : String := String.ofList (List.replicate 70 c)

/-- Text filled up with blanks behind it. -/
def left (width : Nat) (text : String) : String :=
  text ++ String.ofList (List.replicate (width - text.length) ' ')

/-- Text filled up with blanks before it. -/
def right (width : Nat) (text : String) : String :=
  String.ofList (List.replicate (width - text.length) ' ') ++ text

/-- A title between two rules. -/
def sayTitle (title : String) : Act Unit := do
  Act.say (rule '=')
  Act.say ("  " ++ title)
  Act.say (rule '=')

/-- A module that comes with the harness. -/
def bundled (name : String) : Act Source := do pure ⟨(← get).bundled.child name⟩

/-! ## The runs -/

/-- Loads a module and calls it once. -/
def once : Act Unit := do
  sayTitle "wasmbench - Run a Module"
  Act.say ""
  let source ← bundled "fib.wasm"
  Act.say ("Module: " ++ source.text)
  Act.say (rule '-')
  let handle ← source.load Engine.shared false true
  handle.exports.forM fun e => Act.say ("  export " ++ e.1 ++ e.2.text)
  Act.say ""
  let result ← source.run "fib" [.int 30] false
  Act.say ("fib(30) = " ++ (← Act.ofValue result.text))
  Act.say ""
  Act.say "✓ Module ran successfully!"

def millisecondsOf (m : Measurement) : Float :=
  match m.elapsed with
  | .float x => x
  | _ => 0

/-- How many times the time of a measurement another one took. -/
def speedup (reference m : Measurement) : Float :=
  if millisecondsOf m > 0 then millisecondsOf reference / millisecondsOf m else 0

/-- Compares the builds that come with the harness with the host function. -/
def speedups : Act Unit := do
  let candidates := Candidate.standard (← get).bundled
  let report ← compare candidates "fib" [.int 30] .out false
  Act.say ""
  match report.getLast? with
  | none => pure ()
  | some reference =>
    let against ← Act.ofValue reference.label.text
    report.dropLast.forM fun m => do
      let label ← Act.ofValue m.label.text
      let factor := Decimal.fixed 2 (speedup reference m)
      Act.say (left 12 label ++ " " ++ right 8 factor ++ "x vs " ++ against)

/-- Times compiling, instantiating and calling a module one by one. -/
def costs : Act Unit := do
  sayTitle "Cold Start vs Warm Invocation"
  Act.say ""
  Act.say (left 15 "Module" ++ " " ++ left 15 "Compile (ms)" ++ " " ++
    left 18 "Instantiate (ms)" ++ " " ++ left 12 "Call (ms)")
  Act.say (rule '-')
  ["fib.wasm", "fib_opt.wasm"].forM fun name => do
    let source ← bundled name
    let (module, compiling) ← timed (source.compile Engine.shared false false)
    let (handle, instantiating) ← timed module.instantiate
    let m ← handle.invoke "fib" [.int 25] .none
    Act.say (left 15 name ++ " " ++ left 15 (Decimal.fixed 2 compiling) ++ " " ++
      left 18 (Decimal.fixed 2 instantiating) ++ " " ++
      left 12 (Decimal.fixed 2 (millisecondsOf m)))
  Act.say ""
  Act.say "INTERPRETATION:"
  Act.say "- Compile: parse, validate and generate machine code (cacheable)"
  Act.say "- Instantiate: bind the compiled module to a fresh store (cheap)"
  Act.say "- Call: the only part the benchmark report measures"

/-- Compares the value for a number with the exact one. Gives whether they differ. -/
def differs (handle : Handle) (n : Nat) : Act Bool := do
  let exact ← Act.ofValue (fib (.int n))
  let actual ← handle.call "fib" [.int n]
  match exact with
  | .int i =>
    if actual.equalsInt i then pure false
    else
      let got ← Act.ofValue actual.text
      Act.say s!"  ✗ fib({n}): got {got}, expected {i}"
      pure true
  | _ => pure false

/-- Checks the modules that come with the harness for small numbers. -/
def correctness : Act Unit := do
  sayTitle "Correctness Validation: WASM vs Python"
  Act.say ""
  ["fib.wasm", "fib_opt.wasm"].forM fun name => do
    Act.say s!"Testing {name}..."
    let handle ← (← bundled name).load Engine.shared false false
    match handle.lookup "fib" with
    | .error f => Act.fail f
    | .ok _ =>
      let found ← (List.range 25).mapM (differs handle)
      if !found.contains true then Act.say "  ✓ fib(0..24): PASS"
      Act.say ""
  sayTitle "All correctness checks completed!"

/-- Compiles a module through the cache and writes how long it took. -/
def compileTimed (title : String) (source : Source) (engine : Engine) : Act Executable := do
  Act.say title
  Act.say (rule '-')
  let (module, time) ← timed (source.compile engine true true)
  Act.say ("Time: " ++ Decimal.fixed 2 time ++ "ms")
  Act.say ""
  pure module

/-- Compiles a module three times through the cache. -/
def caching : Act Unit := do
  sayTitle "Module Caching Demo"
  Act.say ""
  let source ← bundled "fib_opt.wasm"
  let engine ← Act.newEngine
  (← Cache.shared).clear
  let _ ← compileTimed "Test 1: First compile (cache miss)" source engine
  let _ ← compileTimed "Test 2: Second compile (cache hit)" source engine
  let module ← compileTimed "Test 3: Fresh engine (disk hit)" source (← Act.newEngine)
  let m ← (← module.instantiate).invoke "fib" [.int 20] .none
  Act.say ("Cached module still works: " ++ (← Act.ofValue m.line))
  Act.say ""
  (← Cache.shared).info

/-- The demonstration with a number. -/
def numbered : Nat → Act Unit
  | 1 => once
  | 2 => speedups
  | 3 => costs
  | 4 => correctness
  | 5 => caching
  | _ => pure ()

end WasmGauge.Demonstration
