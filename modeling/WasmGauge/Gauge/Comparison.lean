import WasmGauge.Gauge.Invocation

/-!
# Comparisons

A comparison measures one candidate after another, modules and host functions, and writes a line as
soon as a measurement is finished. The first failure ends it; the lines written before it stay. A
whole run configures the logger first and gives an exit status: failures of the harness are logged,
all others pass through.
-/

namespace WasmGauge

open Storage (Path)

/-! ## Candidates -/

/-- What a candidate measures. -/
inductive Subject where
  | source (source : Source)
  | reference (reference : Reference)

/-- A candidate with the label that it has in a report. -/
structure Candidate where
  label : Value
  subject : Subject

namespace Candidate

def make (label : Value) : Option Source → Option Reference → Except Failure Candidate
  | some s, none => .ok ⟨label, .source s⟩
  | none, some r => .ok ⟨label, .reference r⟩
  | _, _ =>
    match label.quoted with
    | .ok shown => .error (.candidate shown)
    | .error fault => .error (.value fault)

def isReference (c : Candidate) : Bool :=
  match c.subject with
  | .source _ => false
  | .reference _ => true

/-- Measures a candidate. A module is loaded before. -/
def measure (c : Candidate) (name : String) (args : List Value) (useCache : Bool) :
    Act Measurement := do
  match c.subject with
  | .reference r => r.time args c.label name
  | .source s => (← s.load Engine.shared useCache false).invoke name args c.label

/-- Both builds of the Fibonacci module that come with the harness, and the host function. -/
def standard (bundled : Path) : List Candidate :=
  [⟨.str "Unoptimized", .source ⟨bundled.child "fib.wasm"⟩⟩,
    ⟨.str "Optimized", .source ⟨bundled.child "fib_opt.wasm"⟩⟩,
    ⟨.str "Reference", .reference .fib⟩]

end Candidate

/-- The name of the function that is compared if no other is asked for. -/
def standardExport : String := "fib"

/-- The arguments of a comparison if no others are asked for. -/
def standardArguments : List Value := [.int 30]

/-! ## Reports -/

/-- Measurements in the order in which they were made. -/
abbrev Report := List Measurement

def Report.labels (r : Report) : List Value := r.map (·.label)

def Report.values (r : Report) : List Value := r.map (·.value)

def Report.lines (r : Report) : Except Fault (List String) := r.mapM Measurement.line

/-- Measures a candidate and writes its line. -/
def Candidate.report (c : Candidate) (name : String) (args : List Value) (sink : Sink)
    (useCache : Bool) : Act Measurement := do
  let m ← c.measure name args useCache
  let line ← Act.ofValue m.line
  -- the line is complete before anything of it is written
  Act.write sink (line ++ "\n")
  pure m

def compare (candidates : List Candidate) (name : String) (args : List Value) (sink : Sink)
    (useCache : Bool) : Act Report :=
  candidates.mapM fun c => c.report name args sink useCache

/-! ## Whole runs -/

/-- Configures the logger by the settings. -/
def configureLogger : Act Unit := do
  let w ← get
  let (outcome, logger) := w.logger.configured w.settings.logLevel .none
  -- what a refused level has changed stays changed
  set { w with logger := logger }
  match outcome with
  | .ok () => pure ()
  | .error fault => Act.fail (.level fault)

/-- Runs a comparison, the standard one if no candidates are given, and gives the exit status. -/
def runComparison (candidates : Option (List Candidate)) (name : String) (args : List Value)
    (sink : Sink) : Act Nat := do
  configureLogger
  let candidates := candidates.getD (Candidate.standard (← get).bundled)
  match ← (compare candidates name args sink false).attempt with
  | .ok _ => pure 0
  | .error f =>
    -- only failures of the harness become an exit status
    if f.isHarness then
      Act.log (.error "benchmark" f.message)
      pure 1
    else Act.fail f

def runStandard : Act Nat := runComparison none standardExport standardArguments .out

end WasmGauge
