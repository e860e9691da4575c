import WasmGauge.Value.Written
import WasmGauge.Wasm.Types

/-!
# Signatures

The types that an exported function takes and gives, and the check of arguments against them. The
check gives plain numbers back: integers for integer parameters, which have to fit, and
floating-point numbers for the others. It stops at the first argument that does not go with its
parameter.
-/

namespace WasmGauge

/-- The names of the types of the parameters and of the results of a function. -/
structure Signature where
  params : List String
  results : List String
  deriving DecidableEq, Repr

namespace Signature

def ofType (t : Wasm.FuncType) : Signature :=
  ⟨t.params.map Wasm.ValueType.word, t.results.map Wasm.ValueType.word⟩

def text (s : Signature) : String :=
  let results := ", ".intercalate s.results
  "(" ++ ", ".intercalate s.params ++ ") -> " ++ if results = "" then "()" else results

/-- Names with quotation marks in parentheses. A name that stands alone is followed by a comma. -/
def tuple : List String → String
  | [s] => "(" ++ Text.quoted s ++ ",)"
  | names => "(" ++ ", ".intercalate (names.map Text.quoted) ++ ")"

def quoted (s : Signature) : String :=
  "ExportSignature(params=" ++ tuple s.params ++ ", results=" ++ tuple s.results ++ ")"

end Signature

/-! ## Arguments -/

/-- What a parameter takes. -/
inductive ParameterKind where
  | integer (kind : IntKind)
  | number
  deriving DecidableEq, Repr

/-- What a parameter of the type with this name takes. -/
def ParameterKind.ofName? : String → Option ParameterKind
  | "i32" => some (.integer ⟨32, true⟩)
  | "i64" => some (.integer ⟨64, true⟩)
  | "f32" | "f64" => some .number
  | _ => none

/-- Why arguments do not go with a signature. -/
inductive ArgumentFault where
  /-- There are too few or too many of them. -/
  | count (expected given : Nat)
  | unsupported (type : String)
  | notInteger (index : Nat) (type : String)
  | outOfRange (index : Nat) (shown : String) (type : String)
  | notNumber (index : Nat) (type : String)
  /-- The argument cannot be converted or shown. -/
  | value (fault : Fault)
  deriving DecidableEq, Repr

def ArgumentFault.message (function : String) (s : Signature) : ArgumentFault → String
  | .count expected given =>
    s!"{function}{s.text} takes {expected} argument(s), got {given}"
  | .unsupported type => s!"{function}: unsupported parameter type {type}"
  | .notInteger index type => s!"{function}: argument {index} must be an integer for {type}"
  | .outOfRange index shown type =>
    s!"{function}: argument {index}={shown} out of range for {type}"
  | .notNumber index type => s!"{function}: argument {index} must be a number for {type}"
  | .value fault => fault.message

/-- The integer that a value is. Truth values are none. -/
def Value.integer? : Value → Option Int
  | .int i => some i
  | .scalar (.int _ i) => some i
  | _ => .none

/-- The floating-point number that a value is or is made, if it is a number. Truth values and plain
complex numbers are none; of a complex scalar the real part counts. -/
def Value.floating? : Value → Option (Except Fault Float)
  | .int i =>
    some (match Float.ofInt? i with
      | some x => .ok x
      | .none => .error .floatRange)
  | .float x => some (.ok x)
  | .scalar (.int _ i) =>
    some (match Float.ofInt? i with
      | some x => .ok x
      | .none => .error .floatRange)
  | .scalar (.float _ x) => some (.ok x)
  -- the imaginary part is dropped here, where a plain complex number is refused
  | .scalar (.complex _ re _) => some (.ok re)
  | _ => .none

/-- The argument for the parameter with an index and a type. -/
def checkArgument (index : Nat) (type : String) (v : Value) : Except ArgumentFault Value :=
  match ParameterKind.ofName? type with
  | none => .error (.unsupported type)
  | some (.integer kind) =>
    match v.integer? with
    | none => .error (.notInteger index type)
    | some i =>
      if kind.holds i then .ok (.int i)
      else
        -- the fault shows the integer, and an integer with too many digits cannot be shown
        match v.plainText with
        | .ok text => .error (.outOfRange index text type)
        | .error fault => .error (.value fault)
  | some .number =>
    match v.floating? with
    | none => .error (.notNumber index type)
    | some (.ok x) => .ok (.float x)
    | some (.error fault) => .error (.value fault)

/-- The arguments for parameters of these types, the first of which has the index. -/
def checkArguments : Nat → List String → List Value → Except ArgumentFault (List Value)
  | index, type :: types, v :: vs => do
    -- the first argument at fault is the one that is reported
    let first ← checkArgument index type v
    let rest ← checkArguments (index + 1) types vs
    .ok (first :: rest)
  | _, _, _ => .ok []

/-- The arguments as plain numbers, if they go with the signature. -/
def Signature.check (s : Signature) (args : List Value) : Except ArgumentFault (List Value) :=
  -- no argument is looked at before the count is right
  if args.length != s.params.length then .error (.count s.params.length args.length)
  else checkArguments 0 s.params args

end WasmGauge
