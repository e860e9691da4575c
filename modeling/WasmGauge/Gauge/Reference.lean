import WasmGauge.Gauge.Failure
import WasmGauge.Value.Arity
import WasmGauge.Value.Arithmetic

/-!
# Reference functions

Functions of the host that modules are measured against. The main one is the naive recursive
Fibonacci function, which works on any numbers: it uses a comparison, differences and sums only. Its
calls may be nested only so deep.
-/

namespace WasmGauge

/-- The Fibonacci function, for so many nested calls. A value below two is returned as it is. -/
def fibWithin : Nat → Value → Except Fault Value
  | 0, _ => .error .depth
  | depth + 1, n => do
    if ← n.isBelowTwo then .ok n
    else
      -- the larger call comes first, so it is the one that runs out of depth
      let first ← fibWithin depth (← n.sub (.int 1))
      let second ← fibWithin depth (← n.sub (.int 2))
      first.add second

/-- How many calls of a reference function may be nested. -/
def referenceDepth : Nat := 1000

/-- The Fibonacci function. -/
def fib (n : Value) : Except Fault Value := fibWithin referenceDepth n

/-- A function of the host. What it gives depends on its arguments alone. -/
structure Reference where
  name : String
  /-- The value of the function for some arguments, or why it has none. -/
  call : List Value → Except Failure Value

namespace Reference

/-- The name of functions that have none of their own. -/
def anonymous : String := "<lambda>"

/-- The outcome of a call with a wrong number of arguments. -/
def mismatch (name : String) (required : List String) (args : List Value) :
    Except Failure Value :=
  match (Parameters.mk name 0 required 0).check args.length with
  | .error fault => .error (.value fault)
  | .ok () => .ok .none

/-- The Fibonacci function. -/
def fib : Reference where
  name := "fib"
  call
    | [n] => (WasmGauge.fib n).mapError .value
    | args => mismatch "fib" ["n"] args

/-- The sum of all arguments. -/
def sum : Reference where
  name := anonymous
  call args := (args.foldlM Value.add (.int 0)).mapError .value

def nothing : Reference where
  name := anonymous
  call _ := .ok .none

def gather : Reference where
  name := anonymous
  call args := .ok (.list args)

def quotient : Reference where
  name := anonymous
  call
    | [a, b] => (a.div b).mapError .value
    | args => mismatch anonymous ["a", "b"] args

def failing : Reference where
  name := anonymous
  call _ := .error (.reported "from reference")

end Reference

end WasmGauge
