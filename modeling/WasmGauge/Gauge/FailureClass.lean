import WasmGauge.Value.Arity
import WasmGauge.Value.Written

/-!
# Classes of failures

Every failure of the harness belongs to one of six classes below one base. Most classes say what
failed and why; the class for a missing export lists the exports there are. A record is a failure of
a class as a value of its own, with what it was made from, its attributes and its texts.
-/

namespace WasmGauge

inductive FailureClass where
  | harness
  /-- The bytes of a module cannot be read. -/
  | load
  /-- Bytes are no module that can be run. -/
  | compile
  /-- A module has no function with the name asked for. -/
  | exportNotFound
  | invocation
  /-- A cache directory is not safe to load code from. -/
  | cache
  deriving DecidableEq, Repr

namespace FailureClass

def name : FailureClass → String
  | harness => "HarnessError"
  | load => "LoadError"
  | compile => "CompileError"
  | exportNotFound => "ExportNotFoundError"
  | invocation => "InvocationError"
  | cache => "CacheError"

/-- The classes above every class of failures. -/
def roots : List String := ["Exception", "BaseException", "object"]

/-- The class and all classes above it, the nearest first. -/
def lineage (c : FailureClass) : List String :=
  match c with
  | harness => c.name :: roots
  | exportNotFound => c.name :: harness.name :: "KeyError" :: "LookupError" :: roots
  | _ => c.name :: harness.name :: roots

/-- The names of the attributes that a failure of a class gets from its arguments. -/
def attributes : FailureClass → List String
  | harness => []
  | load | compile => ["source", "reason"]
  | exportNotFound => ["export_name", "available"]
  | invocation => ["export_name", "reason"]
  | cache => ["cache_dir", "reason"]

/-- The sentence of a class, from what failed and why. -/
def sentence (c : FailureClass) (subject reason : String) : String :=
  match c with
  | harness => reason
  | load => s!"Cannot read module from {subject}: {reason}"
  | compile => s!"Cannot compile module {subject}: {reason}"
  | exportNotFound => s!"Export '{subject}' not found (available: {reason})"
  | invocation => s!"Invocation of '{subject}' failed: {reason}"
  | cache => s!"Refusing module cache at {subject}: {reason}"

/-- The arguments from which failures of a class are made. The base takes any; the exports there
are may be left out. -/
def parameters (c : FailureClass) : Parameters where
  function := s!"{c.name}.__init__"
  bound := 1
  required := if c = exportNotFound then c.attributes.take 1 else c.attributes
  optional := if c = exportNotFound then 1 else 0

end FailureClass

def namesOrNone (names : List String) : String :=
  if names.isEmpty then "none" else ", ".intercalate names

/-! ## Records -/

structure FailureRecord where
  kind : FailureClass
  carried : List Value
  attributes : List (String × Value)

def Value.items : Value → Except Fault (List Value)
  | .str s => .ok (s.toList.map fun c => .str (String.singleton c))
  | .list items | .tuple items => .ok items
  | v => .error (.notIterable v.typeName)

/-- Items as texts, for joining. The index is the one of the first item. -/
def joinable : Nat → List Value → Except Fault (List String)
  | _, [] => .ok []
  | index, .str s :: rest => do .ok (s :: (← joinable (index + 1) rest))
  | index, v :: _ => .error (.joinedItem index v.typeName)

namespace FailureRecord

/-- The failure of a class that is made from arguments. -/
def make (c : FailureClass) (args : List Value) : Except Fault FailureRecord := do
  match c, args with
  | .harness, args => .ok ⟨c, args, []⟩
  -- the exports there are may be left out
  | .exportNotFound, [name] => .ok ⟨c, [name], c.attributes.zip [name, .tuple []]⟩
  | .exportNotFound, [name, available] =>
    let items ← available.items
    .ok ⟨c, [name], c.attributes.zip [name, .tuple items]⟩
  | _, [subject, reason] =>
    -- the sentence is all that is carried; subject and reason become attributes
    let sentence := c.sentence (← subject.plainText) (← reason.plainText)
    .ok ⟨c, [.str sentence], c.attributes.zip [subject, reason]⟩
  | _, args =>
    c.parameters.check args.length
    .ok ⟨c, args, []⟩

/-- The exports that a failure says there are. -/
def available (r : FailureRecord) : List Value :=
  match r.attributes.lookup "available" with
  | some (.tuple items) => items
  | _ => []

def text (r : FailureRecord) : Except Fault String := do
  match r.kind, r.carried with
  | .exportNotFound, [name] =>
    let known ← joinable 0 r.available
    .ok (r.kind.sentence (← name.plainText) (namesOrNone known))
  | _, [] => .ok ""
  | _, [v] => v.text
  | _, vs => (Value.tuple vs).quoted

def quoted (r : FailureRecord) : Except Fault String := do
  match r.carried with
  | [v] => .ok (r.kind.name ++ "(" ++ (← v.quoted) ++ ")")
  | vs => .ok (r.kind.name ++ (← (Value.tuple vs).quoted))

end FailureRecord

end WasmGauge
