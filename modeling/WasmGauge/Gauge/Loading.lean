import WasmGauge.Gauge.Cache

/-!
# Loading

From a source to a live instance: the bytes are read and, if they are text, assembled; they are
compiled, or the module is taken from the cache; and an instance is made of the module. A source that
cannot be read and bytes that are no module that can be run are failures of their own.
-/

namespace WasmGauge

open Storage (Path)
open Text (Symbol)
open Wasm (Bytes Unready ValidModule)

/-! ## Compiling -/

/-- A compiled module with the source and the engine it was compiled for. -/
structure Executable where
  source : Source
  engine : Engine
  compiled : Compiled

def quotedNames (names : List String) : String :=
  "[" ++ ", ".intercalate (names.map Text.quoted) ++ "]"

def Executable.quoted (e : Executable) : String :=
  s!"ExecutableModule({e.source.name}, exports={quotedNames e.compiled.exportNames})"

namespace Source

def readBytes (s : Source) : Act Bytes := do
  match (← get).disk.read s.text with
  | .ok bytes => pure bytes
  | .error (.os cause _) => Act.fail (.load s.path cause)
  -- a name that no file can have is no failure of the harness
  | .error fault => Act.fail (.disk fault)

/-- The binary module that the text of a source denotes. -/
def assemble (s : Source) (bytes : Bytes) : Except CompileCause Bytes :=
  if s.isText then
    match Text.decodeUtf8 bytes with
    | .error fault => .error (.notText fault)
    | .ok text =>
      match Wat.assemble? text with
      | some binary => .ok binary
      | none => .error .rejected
  else .ok bytes

/-- What an engine compiles for a source. -/
def readModule (s : Source) : Act Bytes := do
  let bytes ← s.readBytes
  match s.assemble bytes with
  | .ok data => pure data
  | .error cause => Act.fail (.compile s.path cause)

def compileData (s : Source) (data : Bytes) (engine : Engine) : Act Compiled := do
  match Artifact.ofData? data with
  | none => Act.fail (.compile s.path .rejected)
  | some a =>
    let m ← Act.compiledFor engine a
    Act.debug "core" s!"compiled {s.text} ({data.length} bytes)"
    pure m

def announce (s : Source) (data : Bytes) (verbose : Bool) : Act Unit :=
  if verbose then Act.say s!"Compiling {s.name} ({data.length} bytes)..." else pure ()

/-- Takes the module for data from the cache, or compiles the data and puts the module there. -/
def compileCached (s : Source) (data : Bytes) (engine : Engine) (verbose : Bool) : Act Compiled := do
  match ← (← Cache.shared).get data engine with
  | some m =>
    if verbose then Act.say s!"✓ Using cached compilation for {s.name}"
    Act.debug "core" s!"cache hit for {s.text}"
    pure m
  | none =>
    s.announce data verbose
    let m ← s.compileData data engine
    -- the cache is asked for again; it is open by now
    (← Cache.shared).put data m (some engine)
    pure m

/-- Compiles a source for an engine, through the cache if that is asked for. -/
def compile (s : Source) (engine : Engine) (useCache verbose : Bool) : Act Executable := do
  -- reading and assembling come first: where they fail, no cache is opened
  let data ← s.readModule
  if useCache then pure ⟨s, engine, ← s.compileCached data engine verbose⟩
  else
    s.announce data verbose
    pure ⟨s, engine, ← s.compileData data engine⟩

end Source

/-! ## Instances -/

/-- A live instance of an executable. -/
structure Handle where
  id : Nat
  executable : Executable
  /-- The instance as it was made. -/
  start : Wasm.Instance

namespace Handle

def source (h : Handle) : Source := h.executable.source

/-- The functions that a handle gives out, with their signatures, in the order of the module. -/
def exports (h : Handle) : List (String × Signature) :=
  h.start.functions.map fun f => (f.1, Signature.ofType f.2)

/-- The names of the functions that a handle gives out. -/
def names (h : Handle) : List String := h.exports.map (·.1)

def contains (h : Handle) (name : String) : Bool := h.names.contains name

/-- The signature of the function with a name. -/
def lookup (h : Handle) (name : String) : Except Failure Signature :=
  match h.exports.lookup name with
  | some s => .ok s
  | none => .error (.exportNotFound name h.names)

def quoted (h : Handle) : String :=
  s!"ExecutableHandle({h.source.name}, exports={quotedNames h.names})"

/-- Nothing can be assigned to the exports of a handle. -/
def setExport (_ : Handle) (_ : String) : Except Failure Unit := .error .readOnly

/-- What the instance of a handle has become. -/
def current (h : Handle) (w : World) : Wasm.Instance := (w.instances.lookup h.id).getD h.start

/-- Says what the instance of a handle has become. -/
def become (h : Handle) (i : Wasm.Instance) : Act Unit :=
  modify fun w => { w with instances := (h.id, i) :: w.instances.filter fun x => x.1 != h.id }

end Handle

/-- Why an executable is made no instance, or the instance. -/
def Executable.instance? (e : Executable) (bounds : Wasm.Bounds) :
    Except (Unready CompileCause) Wasm.Instance :=
  let imports := e.compiled.importNames
  -- nothing is linked, so what is needed from outside is missing whatever it is
  if !imports.isEmpty then .error (.refused (.unresolvedImports imports))
  else if e.compiled.engine ≠ e.engine then .error (.refused .foreignEngine)
  else (e.compiled.artifact.code.instantiate bounds).mapError (Unready.map .trapped)

/-- What becomes of a source whose module is made no instance. -/
def Wasm.Unready.failure (source : Path) : Unready CompileCause → Failure
  | .refused cause => .compile source cause
  | .endless => .endless source

/-- Makes a fresh instance of an executable. -/
def Executable.instantiate (e : Executable) : Act Handle := do
  match e.instance? (← get).bounds with
  | .error unready => Act.fail (unready.failure e.source.path)
  | .ok i =>
    let h : Handle := ⟨← Act.freshId, e, i⟩
    -- every instance has a number of its own, and so a store of its own
    h.become i
    let sorted := h.names.mergeSort fun a b => a ≤ b
    Act.debug "core" s!"instantiated {e.source.text} with exports {quotedNames sorted}"
    pure h

def Source.load (s : Source) (engine : Engine) (useCache verbose : Bool) : Act Handle := do
  (← s.compile engine useCache verbose).instantiate

/-- The source with the path that symbols denote, for reading it. A name goes to the disk as bytes, which
a surrogate that stands alone does not have. -/
def Source.located (symbols : List Symbol) : Act Source :=
  match Source.surrogateFault? symbols with
  | some fault => Act.fail (.encoding fault)
  | none => pure (Source.ofText (Symbol.plain symbols))

/-- Loads the source with the path that symbols denote. Reading comes first, so that nothing has happened
if its name cannot be encoded. -/
def Source.loadAt (symbols : List Symbol) (engine : Engine) (useCache verbose : Bool) :
    Act Handle := do
  (← Source.located symbols).load engine useCache verbose

/-- The outcome of a step as a result of its own. -/
def Act.attempt {α : Type} (act : Act α) : Act (Except Failure α) :=
  ExceptT.mk (do pure (.ok (← act.run)))

/-- Loads sources independently of one another. -/
def loadAll (sources : List Source) : Act (List (Except Failure Handle)) :=
  sources.mapM fun s => Act.attempt (s.load Engine.shared false false)

end WasmGauge
