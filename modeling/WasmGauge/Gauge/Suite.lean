import WasmGauge.Gauge.Comparison

/-!
# The validation suite

Checks modules against the host function: the exported Fibonacci function of a module is called with
a few fixed numbers and with some drawn ones, and its values are compared with the exact ones. Traps
and other values count as failed; so do all cases of a module that cannot be loaded or that has no
such function.
-/

namespace WasmGauge.Suite

open Storage (Path)

/-! ## Text with colours -/

inductive Tint where
  | green
  | red
  | yellow
  | blue
  deriving DecidableEq, Repr

/-- The number that turns a colour on. -/
def Tint.code : Tint → Nat
  | green => 92
  | red => 91
  | yellow => 93
  | blue => 94

/-- Text in a colour. -/
def Tint.paint (t : Tint) (text : String) : String := s!"\x1b[{t.code}m" ++ text ++ "\x1b[0m"

def saySuccess (message : String) : Act Unit := Act.say (Tint.green.paint ("✅ " ++ message))

def sayError (message : String) : Act Unit := Act.say (Tint.red.paint ("❌ " ++ message))

/-- Says what goes on. -/
def sayInfo (message : String) : Act Unit := Act.say (Tint.blue.paint ("ℹ️  " ++ message))

/-- Says that something is not as expected. -/
def sayWarning (message : String) : Act Unit := Act.say (Tint.yellow.paint ("⚠️  " ++ message))

def sayNothing : Act Unit := Act.say ""

def sayHeading (title : String) : Act Unit := do
  let rule := Tint.blue.paint (String.ofList (List.replicate 60 '='))
  Act.say rule
  Act.say (Tint.blue.paint ("  " ++ title))
  Act.say rule
  sayNothing

/-! ## Cases -/

/-- The numbers that every check begins with. -/
def fixedCases : List Int := [0, 1, 2, 10]

/-- The numbers that are drawn, again and again in the same order. -/
def drawn : List Int := [9, 22, 17, 13, 10, 23, 9, 21, 25, 13, 13, 23, 6, 10, 5, 24]

/-- The number that is drawn as the one with an index. -/
def standardDraw (k : Nat) : Int := drawn.getD (k % drawn.length) 0

/-- The numbers of a check of so many cases. The fixed ones are never left out. -/
def cases (draw : Nat → Int) (count : Int) : List Int :=
  fixedCases ++ (List.range (count - fixedCases.length).toNat).map draw

structure Tally where
  passed : Nat
  failed : Nat
  deriving DecidableEq, Repr

def Tally.add (a b : Tally) : Tally := ⟨a.passed + b.passed, a.failed + b.failed⟩

def expected (n : Int) : Act Value := Act.ofValue (fib (.int n))

/-- Whether a value is the expected integer. -/
def agrees (value wanted : Value) : Bool :=
  match wanted with
  | .int i => value.equalsInt i
  | _ => false

/-- Writes whether a value is the expected one, and says so. -/
def judge (m : Measurement) (wanted : Value) : Act Bool := do
  if agrees m.value wanted then
    saySuccess ("PASS (" ++ (← Act.ofValue (m.elapsed.fixed 2)) ++ " ms)")
    pure true
  else
    sayError "FAIL"
    -- both texts are there before the line is begun
    let got ← Act.ofValue m.value.text
    let wanted ← Act.ofValue wanted.text
    Act.say s!"    Got {got}, expected {wanted}"
    pure false

/-- Runs the case with a number and an index of so many cases. -/
def runCase (h : Handle) (total index : Nat) (n : Int) : Act Bool := do
  let wanted ← expected n
  -- the line is begun before the call, and whatever happens is told behind it
  Act.write .out s!"  Test {index + 1}/{total}: fib({n}) "
  match ← (h.invoke standardExport [.int n] .none).attempt with
  | .ok m => judge m wanted
  | .error f =>
    if f.isHarness then
      sayError "FAIL"
      Act.say ("    Error: " ++ f.message)
      pure false
    -- arguments that do not go with the function end the whole check
    else Act.fail f

/-- Runs cases, the first of which has the index. -/
def runCases (h : Handle) (total : Nat) : Nat → List Int → Act Tally
  | _, [] => pure ⟨0, 0⟩
  | index, n :: rest => do
    let passed ← runCase h total index n
    let tally ← runCases h total (index + 1) rest
    pure (Tally.add (if passed then ⟨1, 0⟩ else ⟨0, 1⟩) tally)

/-- Checks a module with so many cases. -/
def check (draw : Nat → Int) (s : Source) (count : Int) : Act Tally := do
  let shown ← Act.ofValue (intText count)
  sayInfo s!"Checking {s.name} ({shown} cases)..."
  let numbers := cases draw count
  match ← (s.load Engine.shared false false).attempt with
  | .error f =>
    if f.isHarness then
      sayError ("Load failed: " ++ f.message)
      pure ⟨0, numbers.length⟩
    else Act.fail f
  | .ok h =>
    -- one handle for all cases: what a call leaves behind is there for the next one
    if h.contains standardExport then runCases h numbers.length 0 numbers
    else
      let names := ", ".intercalate h.names
      sayWarning s!"{s.name} has no fib export (exports: {names})"
      pure ⟨0, numbers.length⟩

/-! ## Whole runs -/

/-- How many cases there are for each module of a run. -/
def standardCount : Int := 10

def checkAll (draw : Nat → Int) : List Source → Act Tally
  | [] => pure ⟨0, 0⟩
  | s :: rest => do
    let first ← check draw s standardCount
    sayNothing
    let tally ← checkAll draw rest
    pure (first.add tally)

/-- Writes how many cases passed, and gives the exit status. -/
def summarize (tally : Tally) : Act Nat := do
  sayHeading "Summary"
  Act.say s!"  Total tests: {tally.passed + tally.failed}"
  Act.say ("  " ++ Tint.green.paint s!"Passed: {tally.passed}")
  Act.say ("  " ++ Tint.red.paint s!"Failed: {tally.failed}")
  sayNothing
  if tally.failed = 0 then
    saySuccess "ALL TESTS PASSED! 🎉"
    pure 0
  else
    sayError s!"{tally.failed} tests failed"
    pure 1

/-- Checks all modules in a directory, and gives the exit status. -/
def run (draw : Nat → Int) (directory : Path) : Act Nat := do
  sayHeading "wasmbench Validation Suite"
  sayInfo ("Modules directory: " ++ directory.text)
  sayNothing
  let names ← Cache.namesWith ".wasm" directory
  let sources := (names.mergeSort fun a b => a ≤ b).map fun n => Source.mk (directory.child n)
  -- nothing to check is no success
  if sources.isEmpty then
    sayError ("No modules found in " ++ directory.text)
    pure 1
  else
    saySuccess s!"Found {sources.length} module(s)"
    sayNothing
    summarize (← checkAll draw sources)

end WasmGauge.Suite
