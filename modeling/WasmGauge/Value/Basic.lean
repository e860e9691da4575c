import WasmGauge.Number.Binary

/-!
# Values

The values that pass between a caller and the functions that are measured: truth values, integers of
any size, floating-point and complex numbers, texts, and sequences of these. Beside the plain numbers
there are scalars of a fixed kind, whose arithmetic stays within the kind.
-/

namespace WasmGauge

/-! ## Scalars of a fixed kind -/

/-- The kind of an integer with a fixed number of bits. -/
structure IntKind where
  bits : Nat
  signed : Bool
  deriving DecidableEq, Repr

/-- The smallest integer of a kind. -/
def IntKind.least (k : IntKind) : Int := if k.signed then -(twoPow (k.bits - 1) : Int) else 0

/-- The largest integer of a kind. -/
def IntKind.greatest (k : IntKind) : Int :=
  if k.signed then twoPow (k.bits - 1) - 1 else twoPow k.bits - 1

/-- Whether an integer is one of a kind. -/
def IntKind.holds (k : IntKind) (i : Int) : Bool := k.least ≤ i && i ≤ k.greatest

/-- The integer of a kind that is equal to `i` modulo the size of the kind. -/
def IntKind.wrap (k : IntKind) (i : Int) : Int :=
  if k.signed then i.bmod (twoPow k.bits) else i % twoPow k.bits

/-- The kind of a floating-point number. -/
inductive FloatKind where
  /-- 16 bits. -/
  | half
  /-- 32 bits. -/
  | single
  /-- 64 bits. -/
  | double
  deriving DecidableEq, Repr

def FloatKind.format : FloatKind → BinaryFormat
  | .half => .half
  | .single => .single
  | .double => .double

/-- The number of bits of a kind. -/
def FloatKind.bits : FloatKind → Nat
  | .half => 16
  | .single => 32
  | .double => 64

/-- The number of a kind nearest to a double, as a double. -/
def FloatKind.round (k : FloatKind) (x : Float) : Float :=
  match k with
  | .double => x
  | _ => (BinaryFormat.double.convert (k.format.convert (Datum.ofFloat x))).toFloat

/-- The kind of a complex number. -/
inductive ComplexKind where
  /-- Two numbers with 32 bits. -/
  | single
  /-- Two numbers with 64 bits. -/
  | double
  deriving DecidableEq, Repr

/-- The kind of the parts of a complex number. -/
def ComplexKind.part : ComplexKind → FloatKind
  | .single => .single
  | .double => .double

/-- The smallest kind of complex numbers whose parts take in a kind. -/
def ComplexKind.ofFloat : FloatKind → ComplexKind
  | .half => .single
  | .single => .single
  | .double => .double

/-- A scalar of a fixed kind. A floating-point number of any kind is held as the double that is
equal to it. -/
inductive Scalar where
  | bool (value : Bool)
  | int (kind : IntKind) (value : Int)
  | float (kind : FloatKind) (value : Float)
  | complex (kind : ComplexKind) (re im : Float)

/-- The word for the kind of a scalar. -/
def Scalar.kindName : Scalar → String
  | .bool _ => "bool"
  | .int k _ => (if k.signed then "int" else "uint") ++ toString k.bits
  | .float k _ => "float" ++ toString k.bits
  | .complex k _ _ => "complex" ++ toString (2 * k.part.bits)

/-- The word for the type of the plain value that a scalar stands for. -/
def Scalar.plainTypeName : Scalar → String
  | .bool _ => "bool"
  | .int _ _ => "int"
  | .float _ _ => "float"
  | .complex _ _ _ => "complex"

/-! ## Values -/

inductive Value where
  | none
  | bool (value : Bool)
  | int (value : Int)
  | float (value : Float)
  | complex (re im : Float)
  | str (text : String)
  | list (items : List Value)
  | tuple (items : List Value)
  | scalar (value : Scalar)
  deriving Inhabited

namespace Value

/-- The word for the type of a value. -/
def typeName : Value → String
  | none => "NoneType"
  | bool _ => "bool"
  | int _ => "int"
  | float _ => "float"
  | complex _ _ => "complex"
  | str _ => "str"
  | list _ => "list"
  | tuple _ => "tuple"
  | scalar s => "numpy." ++ s.kindName

/-- Whether a value counts as something: it is not zero, not empty and not missing. -/
def isTruthy : Value → Bool
  | none => false
  | bool b => b
  | int i => i != 0
  | float x => x != 0
  | complex re im => re != 0 || im != 0
  | str s => !s.isEmpty
  | list items => !items.isEmpty
  | tuple items => !items.isEmpty
  | scalar (.bool b) => b
  | scalar (.int _ i) => i != 0
  | scalar (.float _ x) => x != 0
  | scalar (.complex _ re im) => re != 0 || im != 0

/-- Whether a value is a number equal to this integer. -/
def equalsInt (v : Value) (i : Int) : Bool :=
  let same (x : Float) : Bool :=
    match Datum.ofFloat x with
    | .finite negative significand exponent =>
      let (num, den) := Datum.magnitude significand exponent
      (if negative then -(num : Int) else num) == i * den
    | _ => false
  match v with
  | bool b => (if b then 1 else 0) == i
  | int j => j == i
  | float x => same x
  | complex re im => im == 0 && same re
  | scalar (.bool b) => (if b then 1 else 0) == i
  | scalar (.int _ j) => j == i
  | scalar (.float _ x) => same x
  | scalar (.complex _ re im) => im == 0 && same re
  | none | str _ | list _ | tuple _ => false

end Value

end WasmGauge
