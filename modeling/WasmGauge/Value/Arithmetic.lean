import WasmGauge.Value.Fault

/-!
# Arithmetic on values

Sums, differences, quotients and one comparison. Plain numbers widen from integers to floating-point
to complex numbers. A scalar keeps its kind when it meets a plain number that its kind can take in;
two scalars meet in the smallest kind that holds both.
-/

namespace WasmGauge

/-! ## Complex numbers -/

/-- A quotient of complex numbers, unless the divisor is zero. The larger part of the divisor
scales the other one. -/
def complexQuotient (a b : Float × Float) : Option (Float × Float) :=
  if b.2.abs ≤ b.1.abs then
    if b.1.abs == 0 then none
    else
      let ratio := b.2 / b.1
      let den := b.1 + b.2 * ratio
      some ((a.1 + a.2 * ratio) / den, (a.2 - a.1 * ratio) / den)
  else if b.1.abs ≤ b.2.abs then
    let ratio := b.1 / b.2
    let den := b.1 * ratio + b.2
    some ((a.1 * ratio + a.2) / den, (a.2 * ratio - a.1) / den)
  -- Neither part is the larger one only if one of them is not a number.
  else some (0.0 / 0.0, 0.0 / 0.0)

/-! ## Plain numbers -/

/-- A plain number. -/
inductive Number where
  | int (value : Int)
  | float (value : Float)
  | complex (re im : Float)

/-- The plain number that a value is. A truth value is the integer zero or one. -/
def Value.number? : Value → Option Number
  | .bool b => some (.int (if b then 1 else 0))
  | .int i => some (.int i)
  | .float x => some (.float x)
  | .complex re im => some (.complex re im)
  | _ => .none

/-- The floating-point number nearest to an integer. -/
def widenInt (i : Int) : Except Fault Float :=
  match Float.ofInt? i with
  | some x => .ok x
  | none => .error .floatRange

/-- A plain number as a complex one. -/
def Number.parts : Number → Except Fault (Float × Float)
  | .int i => do .ok (← widenInt i, 0)
  | .float x => .ok (x, 0)
  | .complex re im => .ok (re, im)

/-- An operation on two numbers in versions for integers, floating-point and complex numbers, and
again for scalars, where it always has a result. -/
structure Operation where
  symbol : String
  /-- The name of the operation on scalars. -/
  title : String
  onInts : Int → Int → Except Fault Value
  onFloats : Float → Float → Except Fault Float
  onComplex : Float × Float → Float × Float → Except Fault (Float × Float)
  /-- The operation on integers of one kind before it is wrapped; without one, integers are made
  doubles. -/
  intScalars? : Option (Int → Int → Int)
  /-- The operation on floating-point scalars of one kind before it is rounded. -/
  floatScalars : Float → Float → Float
  /-- The operation on complex scalars whose parts are of this kind. -/
  complexScalars : FloatKind → Float × Float → Float × Float → Float × Float

/-- The result of an operation on two plain numbers. -/
def Operation.onNumbers (o : Operation) (a b : Number) : Except Fault Value :=
  match a, b with
  | .int i, .int j => o.onInts i j
  | .int i, .float y => do .ok (.float (← o.onFloats (← widenInt i) y))
  | .float x, .int j => do .ok (.float (← o.onFloats x (← widenInt j)))
  | .float x, .float y => do .ok (.float (← o.onFloats x y))
  -- One of them is complex.
  | a, b => do
    let (re, im) ← o.onComplex (← a.parts) (← b.parts)
    .ok (.complex re im)

/-- The quotient of two integers, rounded once. -/
def intQuotient (i j : Int) : Except Fault Value :=
  if j = 0 then .error (.division "division by zero")
  else
    match BinaryFormat.double.nearest ((i < 0) != (j < 0)) i.natAbs j.natAbs with
    | .infinite _ => .error .quotientRange
    | d => .ok (.float d.toFloat)

/-- A quotient of complex scalars, every step of which is rounded to a kind. The reciprocal of the
scaled divisor is formed once. A quotient by zero is infinite or not a number. -/
def complexScalarQuotient (k : FloatKind) (a b : Float × Float) : Float × Float :=
  let add (x y : Float) : Float := k.round (x + y)
  let sub (x y : Float) : Float := k.round (x - y)
  let mul (x y : Float) : Float := k.round (x * y)
  let div (x y : Float) : Float := k.round (x / y)
  if b.2.abs ≤ b.1.abs then
    if b.1.abs == 0 then (div a.1 b.1.abs, div a.2 b.1.abs)
    else
      let ratio := div b.2 b.1
      let scale := div 1 (add b.1 (mul b.2 ratio))
      (mul (add a.1 (mul a.2 ratio)) scale, mul (sub a.2 (mul a.1 ratio)) scale)
  else
    let ratio := div b.1 b.2
    let scale := div 1 (add b.2 (mul b.1 ratio))
    (mul (add (mul a.1 ratio) a.2) scale, mul (sub (mul a.2 ratio) a.1) scale)

def Operation.sum : Operation where
  symbol := "+"
  title := "add"
  onInts i j := .ok (.int (i + j))
  onFloats x y := .ok (x + y)
  onComplex a b := .ok (a.1 + b.1, a.2 + b.2)
  intScalars? := some fun i j => i + j
  floatScalars x y := x + y
  complexScalars k a b := (k.round (a.1 + b.1), k.round (a.2 + b.2))

def Operation.difference : Operation where
  symbol := "-"
  title := "subtract"
  onInts i j := .ok (.int (i - j))
  onFloats x y := .ok (x - y)
  onComplex a b := .ok (a.1 - b.1, a.2 - b.2)
  intScalars? := some fun i j => i - j
  floatScalars x y := x - y
  complexScalars k a b := (k.round (a.1 - b.1), k.round (a.2 - b.2))

/-- Quotients, which are never integers. -/
def Operation.quotient : Operation where
  symbol := "/"
  title := "divide"
  onInts := intQuotient
  onFloats x y := if y == 0 then .error (.division "float division by zero") else .ok (x / y)
  onComplex a b :=
    match complexQuotient a b with
    | some q => .ok q
    | none => .error (.division "complex division by zero")
  intScalars? := none
  floatScalars x y := x / y
  complexScalars := complexScalarQuotient

/-! ## Scalars -/

inductive ScalarKind where
  | bool
  | int (kind : IntKind)
  | float (kind : FloatKind)
  | complex (kind : ComplexKind)
  deriving DecidableEq, Repr

def Scalar.kind : Scalar → ScalarKind
  | .bool _ => .bool
  | .int k _ => .int k
  | .float k _ => .float k
  | .complex k _ _ => .complex k

namespace ScalarKind

/-- The larger of two kinds of floating-point numbers. -/
def maxFloat (a b : FloatKind) : FloatKind := if a.bits ≤ b.bits then b else a

/-- The larger of two kinds of complex numbers. -/
def maxComplex (a b : ComplexKind) : ComplexKind := .ofFloat (maxFloat a.part b.part)

/-- The smallest kind of floating-point numbers that takes in the integers of a kind. -/
def floatFor (k : IntKind) : FloatKind :=
  if k.bits ≤ 8 then .half else if k.bits ≤ 16 then .single else .double

/-- The smallest kind that takes in the integers of two kinds. -/
def joinInts (a b : IntKind) : ScalarKind :=
  if a.signed = b.signed then .int (if a.bits ≤ b.bits then b else a)
  else
    let (s, u) := if a.signed then (a, b) else (b, a)
    if u.bits < s.bits then .int s
    -- The next larger kind with a sign holds both; beside 64 bits there is none.
    else if u.bits < 64 then .int ⟨2 * u.bits, true⟩
    else .float .double

/-- The smallest kind that takes in two kinds. -/
def join : ScalarKind → ScalarKind → ScalarKind
  | .bool, k => k
  | k, .bool => k
  | .complex a, .complex b => .complex (maxComplex a b)
  | .complex a, .int b => .complex (maxComplex a (.ofFloat (floatFor b)))
  | .int a, .complex b => .complex (maxComplex (.ofFloat (floatFor a)) b)
  | .complex a, .float b => .complex (maxComplex a (.ofFloat b))
  | .float a, .complex b => .complex (maxComplex (.ofFloat a) b)
  | .int a, .int b => joinInts a b
  | .int a, .float b => .float (maxFloat (floatFor a) b)
  | .float a, .int b => .float (maxFloat a (floatFor b))
  | .float a, .float b => .float (maxFloat a b)

/-- The kind in which a scalar of this kind meets a plain number. A plain number brings no width of
its own: it only asks for a kind of scalars with a point, or with two parts. -/
def meet : ScalarKind → Number → ScalarKind
  | .bool, .int _ => .int ⟨64, true⟩
  | .bool, .float _ => .float .double
  | .int _, .float _ => .float .double
  | .float k, .complex _ _ => .complex (.ofFloat k)
  | .complex k, .complex _ _ => .complex k
  | _, .complex _ _ => .complex .double
  | k, _ => k

end ScalarKind

/-- The nearest double to an integer, which may be infinite. -/
def nearestFloat (i : Int) : Float := (BinaryFormat.double.ofInt i).toFloat

/-- A scalar as a floating-point number. -/
def Scalar.toFloat : Scalar → Float
  | .bool b => if b then 1 else 0
  | .int _ i => nearestFloat i
  | .float _ x => x
  | .complex _ re _ => re

/-- A scalar as an integer. -/
def Scalar.toInt : Scalar → Int
  | .bool b => if b then 1 else 0
  | .int _ i => i
  | _ => 0

/-- A scalar as a complex number. -/
def Scalar.parts : Scalar → Float × Float
  | .complex _ re im => (re, im)
  | s => (s.toFloat, 0)

/-- A scalar as one of a kind that takes in its own. -/
def Scalar.toKind (k : ScalarKind) (s : Scalar) : Scalar :=
  match k with
  | .bool => s
  | .int kind => .int kind s.toInt
  | .float kind => .float kind (kind.round s.toFloat)
  | .complex kind => .complex kind (kind.part.round s.parts.1) (kind.part.round s.parts.2)

/-- An integer as one of a kind. One that does not even fit a machine word, with or without a sign as
the kind has it, is refused with other words. -/
def IntKind.take (kind : IntKind) (i : Int) : Except Fault Scalar :=
  let word : IntKind := ⟨64, true⟩
  if kind.holds i then .ok (.int kind i)
  else if word.holds i then .error (.kindRange i (Scalar.int kind 0).kindName)
  else .error .wordRange

/-- A plain number as a scalar of a kind. -/
def Number.toKind (k : ScalarKind) (n : Number) : Except Fault Scalar :=
  match k, n with
  | .int kind, .int i => kind.take i
  | .float kind, .int i => do .ok (.float kind (kind.round (← widenInt i)))
  | .float kind, .float x => .ok (.float kind (kind.round x))
  | .complex kind, n => do
    let (re, im) ← n.parts
    .ok (.complex kind (kind.part.round re) (kind.part.round im))
  | _, n => do
    let (re, im) ← n.parts
    .ok (.complex .double re im)

/-- The result of an operation on two scalars, in the kind that takes in both. A sum of truth values
is true if one of them is. -/
def Operation.onScalars (o : Operation) (a b : Scalar) : Scalar :=
  match a.kind.join b.kind, o.intScalars? with
  | .bool, some _ => .bool (a.toInt + b.toInt != 0)
  | .int k, some f => .int k (k.wrap (f a.toInt b.toInt))
  -- Without a version for integers, as for quotients, they are doubles.
  | .bool, none | .int _, none => .float .double (o.floatScalars a.toFloat b.toFloat)
  | .float k, _ => .float k (k.round (o.floatScalars (k.round a.toFloat) (k.round b.toFloat)))
  | .complex k, _ =>
    let (re, im) := o.complexScalars k.part a.parts b.parts
    .complex k re im

/-- The kind in which an operation brings a scalar together with a plain number. An operation that
has no integers as results brings integers together as doubles. -/
def Operation.meeting (o : Operation) (k : ScalarKind) (n : Number) : ScalarKind :=
  match o.intScalars?, k.meet n with
  | none, .int _ => .float .double
  | _, k => k

/-- The word for the kind of the scalar that a text would be. -/
def textKindName (s : String) : String := s!"<U{max 1 s.length}"

/-! ## Values -/

/-- The operands of an operation that has no version for them. Beside a scalar, a value that is no
number is an object like any other, and the scalar is named like a plain value. -/
def Operation.refuse (o : Operation) (a b : Value) : Fault :=
  match a, b with
  | .scalar s, .str t => .kinds o.title s.kindName (textKindName t)
  | .str t, .scalar s => .kinds o.title (textKindName t) s.kindName
  | .scalar s, b => .operands o.symbol s.plainTypeName b.typeName
  | a, .scalar s => .operands o.symbol a.typeName s.plainTypeName
  | a, b => .operands o.symbol a.typeName b.typeName

/-- The result of an operation on two values. -/
def Operation.apply (o : Operation) (a b : Value) : Except Fault Value :=
  match a, b with
  | .scalar s, .scalar t => .ok (.scalar (o.onScalars s t))
  | .scalar s, .bool c => .ok (.scalar (o.onScalars s (.bool c)))
  | .bool c, .scalar t => .ok (.scalar (o.onScalars (.bool c) t))
  | .scalar s, b =>
    match b.number? with
    | some n => do
      let k := o.meeting s.kind n
      .ok (.scalar (o.onScalars (s.toKind k) (← n.toKind k)))
    | none => .error (o.refuse a b)
  | a, .scalar t =>
    match a.number? with
    | some n => do
      let k := o.meeting t.kind n
      .ok (.scalar (o.onScalars (← n.toKind k) (t.toKind k)))
    | none => .error (o.refuse a b)
  | a, b =>
    match a.number?, b.number? with
    | some m, some n => o.onNumbers m n
    | _, _ => .error (o.refuse a b)

namespace Value

def add (a b : Value) : Except Fault Value := Operation.sum.apply a b

def sub (a b : Value) : Except Fault Value := Operation.difference.apply a b

def div (a b : Value) : Except Fault Value := Operation.quotient.apply a b

def isBelowTwo (v : Value) : Except Fault Bool :=
  match v with
  | .bool _ => .ok true
  | .int i => .ok (i < 2)
  | .float x => .ok (x < 2)
  | .scalar (.bool _) => .ok true
  | .scalar (.int _ i) => .ok (i < 2)
  | .scalar (.float _ x) => .ok (x < 2)
  | .scalar (.complex _ re im) => .ok (re < 2 || (re == 2 && im < 0))
  | .none | .complex _ _ | .str _ | .list _ | .tuple _ =>
    .error (.unordered v.typeName "int")

end Value

end WasmGauge
