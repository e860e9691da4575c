import WasmGauge.Decimal.Fixed
import WasmGauge.Text.Quoted
import WasmGauge.Value.Fault

/-!
# Values as text

Ways to write a value: `text` as it is shown alone, `plainText` as it is shown in a sentence, `quoted`
as it stands inside of a sequence, where texts have quotation marks and scalars name their kind, and
`fixed` as a number with a given count of decimal places.

Integers with very many digits are not written, nor are sequences that are nested very deep. How deep,
depends on who asks, so that the first three ways are defined for every number of nested values.
-/

namespace WasmGauge

/-- The largest number of digits of an integer that is written. -/
def digitLimit : Nat := 4300

/-- How many values may be nested inside of one another if they are written. -/
def nestingLimit : Nat := 1000

/-- The digits of an integer, unless there are too many. -/
def intText (i : Int) : Except Fault String :=
  let digits := Nat.repr i.natAbs
  if digits.length > digitLimit then .error .digitLimit
  else .ok (if i < 0 then "-" ++ digits else digits)

/-- The word for a truth value. -/
def boolText (b : Bool) : String := if b then "True" else "False"

/-- The power of ten from which on numbers of a kind are written with an exponent. -/
def FloatKind.firstExponential : FloatKind → Int
  | .half => 3
  | .single => 6
  | .double => 16

/-- The shortest text of a number of a kind that reads back, after a layout for doubles. -/
def FloatKind.write (k : FloatKind) (l : Decimal.Layout) (x : Float) : String :=
  { l with firstExponential := k.firstExponential }.datum k.format
    (k.format.convert (Datum.ofFloat x))

/-- A part of a complex number. -/
def componentText (k : ComplexKind) (x : Float) : String :=
  k.part.write Decimal.Layout.component x

/-- The imaginary part of a complex number, with its sign. -/
def imaginaryText (k : ComplexKind) (x : Float) : String :=
  let t := componentText k x
  (if t.startsWith "-" then t else "+" ++ t) ++ "j"

/-- A complex number. A real part of positive zero is left out. -/
def complexText (k : ComplexKind) (re im : Float) : String :=
  if re.toBits = 0 then componentText k im ++ "j"
  else "(" ++ componentText k re ++ imaginaryText k im ++ ")"

/-- A scalar as it is shown to a reader. -/
def Scalar.text : Scalar → String
  | .bool b => boolText b
  | .int _ i => toString i
  | .float k x => k.write Decimal.Layout.number x
  | .complex k re im => complexText k re im

def Scalar.quoted (s : Scalar) : String :=
  match s with
  | .bool b => "np." ++ boolText b ++ "_"
  | .complex k re im =>
    let t := complexText k re im
    "np." ++ s.kindName ++ if t.startsWith "(" then t else "(" ++ t ++ ")"
  | _ => "np." ++ s.kindName ++ "(" ++ s.text ++ ")"

namespace Value

/-- What stands between the items of a sequence. -/
def separator : String := ", "

/-- A value as it stands inside of a sequence, for so many nested values. -/
def quotedWithin : Nat → Value → Except Fault String
  | 0, _ => .error .depth
  | depth + 1, v =>
    match v with
    | .none => .ok "None"
    | .bool b => .ok (boolText b)
    | .int i => intText i
    | .float x => .ok (Decimal.ofFloat x)
    | .complex re im => .ok (complexText .double re im)
    | .str s => .ok (Text.quoted s)
    | .list items => do
      let ts ← items.mapM (quotedWithin depth)
      .ok ("[" ++ separator.intercalate ts ++ "]")
    | .tuple items => do
      let ts ← items.mapM (quotedWithin depth)
      .ok ("(" ++ separator.intercalate ts ++ (if ts.length = 1 then ",)" else ")"))
    | .scalar s => .ok s.quoted

/-- A value as it stands inside of a sequence. -/
def quoted (v : Value) : Except Fault String := v.quotedWithin nestingLimit

/-- A value as it is shown alone, for so many nested values. -/
def textWithin (depth : Nat) : Value → Except Fault String
  | .str s => .ok s
  | .scalar s => .ok s.text
  | v => v.quotedWithin depth

/-- A value as it is shown alone. -/
def text (v : Value) : Except Fault String := v.textWithin nestingLimit

/-- A value as it is shown in a sentence, for so many nested values. A scalar is shown as the plain
number that is equal to it, which for floating-point numbers of a small kind may take more digits. -/
def plainTextWithin (depth : Nat) : Value → Except Fault String
  | .scalar (.float _ x) => .ok (Decimal.ofFloat x)
  | .scalar (.complex _ re im) => .ok (complexText .double re im)
  | v => v.textWithin depth

/-- A value as it is shown in a sentence. -/
def plainText (v : Value) : Except Fault String := v.plainTextWithin nestingLimit

/-- A complex number with a count of decimal places in both parts. -/
def fixedComplex (places : Nat) (re im : Float) : String :=
  let t := Decimal.fixed places im
  Decimal.fixed places re ++ (if t.startsWith "-" then t else "+" ++ t) ++ "j"

/-- An integer with a count of decimal places. It is made a floating-point number first. -/
def fixedInt (places : Nat) (i : Int) : Except Fault String :=
  match Float.ofInt? i with
  | some x => .ok (Decimal.fixed places x)
  | .none => .error .floatRange

/-- A value as a number with a count of decimal places. -/
def fixed (places : Nat) (v : Value) : Except Fault String :=
  match v with
  | .bool b => fixedInt places (if b then 1 else 0)
  | .int i => fixedInt places i
  | .float x => .ok (Decimal.fixed places x)
  | .complex re im => .ok (fixedComplex places re im)
  | .scalar (.bool b) => fixedInt places (if b then 1 else 0)
  | .scalar (.int _ i) => fixedInt places i
  | .scalar (.float _ x) => .ok (Decimal.fixed places x)
  | .scalar (.complex _ re im) => .ok (fixedComplex places re im)
  | .str _ => .error (.formatCode v.typeName)
  | .none | .list _ | .tuple _ => .error (.formatString v.typeName)

end Value

end WasmGauge
