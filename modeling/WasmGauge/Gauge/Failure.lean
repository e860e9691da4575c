import WasmGauge.Gauge.FailureClass
import WasmGauge.Gauge.Logger
import WasmGauge.Gauge.Signature
import WasmGauge.Gauge.Source
import WasmGauge.Storage.Fault
import WasmGauge.Text.Surrogate
import WasmGauge.Text.Utf8
import WasmGauge.Wasm.Val

/-!
# Failures

Why the harness fails: the causes, one constructor each, and the words for them. Some are failures of
the harness itself, which belong to the classes of `FailureClass`; the others are faults of values,
of the disk and of calls that pass through it.

One of them is no failure but stands for a step that never ends: `Failure.endless`.
-/

namespace WasmGauge

open Storage (Path Errno DiskFault)

/-- Why bytes are no module that can be run. -/
inductive CompileCause where
  | notText (fault : Text.Utf8Fault)
  /-- The engine does not accept the module. -/
  | rejected
  | unresolvedImports (names : List String)
  /-- The module traps before it is ready. -/
  | trapped (trap : Wasm.Trap)
  /-- The module was compiled for another engine. -/
  | foreignEngine
  deriving DecidableEq, Repr

/-- What stands for the words of an engine about bytes that it does not accept. -/
def engineWords : String := "<runtime>"

def CompileCause.message : CompileCause → String
  | .notText fault => fault.message
  | .rejected => engineWords
  | .unresolvedImports names => "unresolved imports: " ++ ", ".intercalate names
  | .trapped trap => "instantiation failed: " ++ trap.message
  | .foreignEngine => "instantiation failed: " ++ engineWords

/-- Why a directory is not safe to load code from. -/
inductive PrivacyFault where
  | owner (owner user : Nat)
  /-- Other users may write to the directory. -/
  | writable (mode : Nat)
  deriving DecidableEq, Repr

def octal (n : Nat) : String := String.ofList (Nat.toDigits 8 n)

def PrivacyFault.message : PrivacyFault → String
  | .owner holder user => s!"owned by uid {holder}, not {user}"
  | .writable mode => "writable by other users (mode " ++ octal mode ++ ")"

/-- Why a call does not get as far as the function. -/
inductive CallFault where
  | count (given expected : Nat)
  /-- An argument is no value of the type of its parameter. -/
  | unconvertible (shown : String) (type : String)
  deriving DecidableEq, Repr

def CallFault.message : CallFault → String
  | .count given expected =>
    let which := if given < expected then "few" else "many"
    s!"too {which} parameters provided: given {given}, expected {expected}"
  | .unconvertible shown type => s!"don't know how to convert {shown} to {type}"

/-- Why the harness fails. -/
inductive Failure where
  /-- The bytes of a source cannot be read. -/
  | load (source : Path) (cause : Errno)
  /-- The bytes of a source are no module that can be run. -/
  | compile (source : Path) (cause : CompileCause)
  /-- The start function of a source is still running when the fuel is gone. This stands for a step that
  does not end, so that nothing comes after it. -/
  | endless (source : Path)
  /-- The text of a locator cannot be written as the name of a file. -/
  | encoding (fault : Text.SurrogateFault)
  | exportNotFound (name : String) (available : List String)
  | invocation (name : String) (cause : Wasm.Trap)
  /-- A cache directory, shown like this, is not safe. -/
  | cache (directory : String) (cause : PrivacyFault)
  /-- A host function says that the harness fails, in these words. -/
  | reported (words : String)
  /-- A host function fails with a failure of its own kind, in these words. -/
  | host (kind words : String)
  | argument (function : String) (signature : Signature) (fault : ArgumentFault)
  | call (fault : CallFault)
  | trap (trap : Wasm.Trap)
  /-- An operation on values has no result. -/
  | value (fault : Fault)
  | disk (fault : DiskFault)
  | level (fault : LevelFault)
  /-- A candidate, whose label is shown like this, has not exactly one thing to measure. -/
  | candidate (shown : String)
  | readOnly
  /-- Nothing is kept under a name. -/
  | unknownName (name : String)
  /-- There is no home directory. -/
  | homeless
  deriving DecidableEq, Repr

namespace Failure

/-- The class of a failure of the harness. -/
def class? : Failure → Option FailureClass
  | load _ _ => some .load
  | compile _ _ => some .compile
  | exportNotFound _ _ => some .exportNotFound
  | invocation _ _ => some .invocation
  | cache _ _ => some .cache
  | reported _ => some .harness
  -- faults of values, of the disk and of direct calls have no class here, nor has a step without end
  | _ => none

/-- Whether a failure is one of the harness itself. -/
def isHarness (f : Failure) : Bool := f.class?.isSome

def message : Failure → String
  | load source cause => FailureClass.load.sentence source.text cause.words
  | compile source cause => FailureClass.compile.sentence source.text cause.message
  | endless _ => Wasm.Trap.outOfFuel.message
  | encoding fault => fault.message
  | exportNotFound name available =>
    FailureClass.exportNotFound.sentence name (namesOrNone available)
  | invocation name cause => FailureClass.invocation.sentence name cause.message
  | .cache directory cause => FailureClass.cache.sentence directory cause.message
  | reported words => FailureClass.harness.sentence "" words
  | host _ words => words
  | argument function signature fault => fault.message function signature
  | call fault => fault.message
  | trap t => t.message
  | value fault => fault.message
  | disk fault => fault.message
  | level fault => fault.message
  | candidate shown => s!"Candidate {shown} needs exactly one of source or reference"
  | readOnly => "'mappingproxy' object does not support item assignment"
  | unknownName name => Text.quoted name
  | homeless => "Could not determine home directory."

end Failure

end WasmGauge
