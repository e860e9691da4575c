import WasmGauge.Value.Basic

/-!
# Faults of operations on values

Why an operation on values has no result, and the words for it.
-/

namespace WasmGauge

/-- Why an operation on values has no result. -/
inductive Fault where
  /-- An integer has too many digits to be written. -/
  | digitLimit
  /-- An integer is too large for a floating-point number. -/
  | floatRange
  /-- A quotient of integers is too large for a floating-point number. -/
  | quotientRange
  /-- An integer does not fit the kind of the scalar it meets. -/
  | kindRange (value : Int) (kind : String)
  /-- A text cannot be written with decimal places. -/
  | formatCode (typeName : String)
  /-- A value of this type cannot be written with decimal places. -/
  | formatString (typeName : String)
  /-- An integer does not even fit a machine word. -/
  | wordRange
  | unordered (left right : String)
  /-- Two values do not go together in an operation. -/
  | operands (symbol left right : String)
  /-- An operation on a scalar and a text, which has no version for such kinds. -/
  | kinds (operation left right : String)
  /-- A division by zero, with the words for it. -/
  | division (words : String)
  | depth
  /-- A function is called with too few or too many arguments, with the words for it. -/
  | arity (words : String)
  /-- A value of this type has no items. -/
  | notIterable (typeName : String)
  /-- A value of this type is no path. -/
  | notPath (typeName : String)
  /-- An item of a sequence that is joined is no text. -/
  | joinedItem (index : Nat) (typeName : String)
  deriving DecidableEq, Repr

/-- The words for a fault. -/
def Fault.message : Fault → String
  | .digitLimit =>
    "Exceeds the limit (4300 digits) for integer string conversion; " ++
      "use sys.set_int_max_str_digits() to increase the limit"
  | .floatRange => "int too large to convert to float"
  | .quotientRange => "integer division result too large for a float"
  | .kindRange i kind => s!"Python integer {i} out of bounds for {kind}"
  | .wordRange => "Python int too large to convert to C long"
  | .formatCode type => s!"Unknown format code 'f' for object of type '{type}'"
  | .formatString type => s!"unsupported format string passed to {type}.__format__"
  | .unordered left right =>
    s!"'<' not supported between instances of '{left}' and '{right}'"
  | .operands symbol left right =>
    s!"unsupported operand type(s) for {symbol}: '{left}' and '{right}'"
  | .kinds operation left right =>
    s!"ufunc '{operation}' did not contain a loop with signature matching types " ++
      s!"(dtype('{left}'), dtype('{right}')) -> None"
  | .division words => words
  | .depth => "maximum recursion depth exceeded"
  | .arity words => words
  | .notIterable type => s!"'{type}' object is not iterable"
  | .notPath type => s!"expected str, bytes or os.PathLike object, not {type}"
  | .joinedItem index type => s!"sequence item {index}: expected str instance, {type} found"

end WasmGauge
