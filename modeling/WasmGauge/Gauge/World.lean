import WasmGauge.Gauge.Clock
import WasmGauge.Gauge.Engine
import WasmGauge.Gauge.Settings
import WasmGauge.Storage.Disk

/-!
# The world of the harness

Everything that a step of the harness can see or change: the disk, the clock, the logger, what has
been written, and what caches and instances remember. A step is an `Act`: it gives a result or fails,
and the world is different after it in either case.
-/

namespace WasmGauge

open Storage (Path Disk DiskFault)

/-- A cache of compiled modules. Two caches may share a directory. -/
structure Cache where
  id : Nat
  directory : Path
  deriving DecidableEq, Repr

/-- A module that a cache remembers, with the engine it remembers it for. -/
structure Remembered where
  engine : Engine
  compiled : Compiled

/-- What becomes of an artifact that is written to the directory of a cache. -/
inductive Fate where
  /-- It is written, if the disk allows that. -/
  | kept
  /-- It is not written at all, for a reason in these words. -/
  | refused (words : String)
  /-- Writing it breaks off, for a reason in these words, and leaves these bytes in the file. -/
  | broken (words : String) (left : Wasm.Bytes)

/-- What a step of the harness can see or change. -/
structure World where
  disk : Disk
  /-- The directory of the modules that come with the harness. -/
  bundled : Path
  settings : Settings
  bounds : Wasm.Bounds
  clock : Clock
  logger : Logger
  /-- What has been written to standard output. -/
  out : String
  /-- What has been written to another stream. -/
  stream : String
  /-- How many engines, compiled modules, caches and handles have been made. -/
  made : Nat
  /-- The cache for all who bring none, if it has been opened. -/
  sharedCache : Option Cache
  /-- What caches remember, by the number of the cache and the digest of the data. -/
  memory : List ((Nat × String) × Remembered)
  /-- What instances have become, by the number of the handle. -/
  instances : List (Nat × Wasm.Instance)
  /-- What becomes of the next artifacts that are written. All others are kept. -/
  fates : List Fate

/-- A step of the harness. -/
abbrev Act := ExceptT Failure (StateM World)

/-- Where reports are written. -/
inductive Sink where
  | out
  | stream
  deriving DecidableEq, Repr

namespace Act

/-- The outcome of a step and the world after it. -/
def outcome {α : Type} (act : Act α) (w : World) : Except Failure α × World := act.run.run w

def fail {α : Type} (f : Failure) : Act α := throw f

/-- The result of an operation on values. -/
def ofValue {α : Type} : Except Fault α → Act α
  | .ok a => pure a
  | .error f => fail (.value f)

/-- What can be seen on the disk. -/
def see {α : Type} (f : Disk → Except DiskFault α) : Act α := do
  match f (← get).disk with
  | .ok a => pure a
  | .error fault => fail (.disk fault)

def change (f : Disk → Except DiskFault Disk) : Act Unit := do
  let d ← see f
  modify fun w => { w with disk := d }

def readClock : Act Float := do
  let w ← get
  set { w with clock := w.clock.read.2 }
  pure w.clock.read.1

def write (sink : Sink) (text : String) : Act Unit :=
  modify fun w =>
    match sink with
    | .out => { w with out := w.out ++ text }
    | .stream => { w with stream := w.stream ++ text }

def say (line : String) : Act Unit := write .out (line ++ "\n")

def log (r : LogRecord) : Act Unit := modify fun w => { w with logger := w.logger.emit r }

/-- Logs what helps to find faults. -/
def debug (part message : String) : Act Unit := log (.debug part message)

/-- A number that nothing made so far has. -/
def freshId : Act Nat := do
  let w ← get
  set { w with made := w.made + 1 }
  pure w.made

/-- What becomes of the artifact that is written now. -/
def nextFate : Act Fate := do
  let w ← get
  set { w with fates := w.fates.tail }
  -- no fate has been set for it: the disk alone decides
  pure (w.fates.head?.getD .kept)

def newEngine : Act Engine := do pure ⟨← freshId⟩

/-- Code as a module that an engine has compiled. -/
def compiledFor (engine : Engine) (a : Artifact) : Act Compiled := do
  pure ⟨← freshId, engine, a⟩

end Act

end WasmGauge
