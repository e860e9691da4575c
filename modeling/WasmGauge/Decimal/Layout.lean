import WasmGauge.Decimal.Shortest

/-!
# Laying out a decimal numeral

How the digits of a shortest numeral are written: with a point among them, or with one digit before
the point and an exponent after the mark `e`.
-/

namespace WasmGauge.Decimal

/-- The choices in writing a number: which magnitudes are written without the mark `e`, how many
digits an exponent has at least, and whether a whole number ends in `.0`. -/
structure Layout where
  /-- The power of ten from which on a magnitude is written with a point only. -/
  leastPositional : Int
  /-- The power of ten from which on a magnitude is written with `e` again. -/
  firstExponential : Int
  /-- The least number of digits of an exponent. -/
  exponentDigits : Nat
  /-- Whether a whole number written without `e` ends in `.0`. -/
  markWhole : Bool

/-- Numbers are written with a point from `0.0001` up to below `10 ^ 16`, whole ones end in `.0`,
and exponents have two digits. -/
def Layout.number : Layout := ⟨-4, 16, 2, true⟩

/-- The parts of a complex number are laid out like numbers, but whole ones stay bare. -/
def Layout.component : Layout := ⟨-4, 16, 2, false⟩

/-- The decimal digits of a natural number, most significant first. -/
def digitsOf (n : Nat) : List Char := (Nat.repr n).toList

def zeros (n : Nat) : List Char := List.replicate n '0'

/-- A list of digits filled up with zeros on the left to a width. -/
def padded (width : Nat) (digits : List Char) : List Char :=
  zeros (width - digits.length) ++ digits

/-- Digits without the zeros at their end. -/
def trimmed (digits : List Char) : List Char :=
  (digits.reverse.dropWhile (· == '0')).reverse

/-- Whether `num / den` is at least ten to the power `k`. -/
def reaches (num den : Nat) (k : Int) : Bool :=
  if k < 0 then den ≤ num * tenPow (-k).toNat else den * tenPow k.toNat ≤ num

/-- Whether the positive number `num / den` is written with a point only. The number itself
decides, not the digits that stand for it. -/
def Layout.isPositional (l : Layout) (num den : Nat) : Bool :=
  reaches num den l.leastPositional && !reaches num den l.firstExponential

/-- The text of a positive numeral, with a point only or with an exponent. -/
def Layout.write (l : Layout) (positional : Bool) (n : Numeral) : List Char :=
  let all := digitsOf n.digits
  let digits := trimmed all
  -- The exponent of the leading digit.
  let lead : Int := n.exponent + all.length - 1
  if positional then
    if lead < 0 then
      ['0', '.'] ++ zeros ((-lead).toNat - 1) ++ digits
    else
      let whole := lead.toNat + 1
      if digits.length ≤ whole then
        digits ++ zeros (whole - digits.length) ++ (if l.markWhole then ['.', '0'] else [])
      else digits.take whole ++ ['.'] ++ digits.drop whole
  else
    let mark := if lead < 0 then ['e', '-'] else ['e', '+']
    let exponent := padded l.exponentDigits (digitsOf lead.natAbs)
    digits.take 1 ++ (if digits.length ≤ 1 then [] else '.' :: digits.drop 1) ++ mark ++ exponent

/-- The text of any datum of a format after a layout. -/
def Layout.datum (l : Layout) (f : BinaryFormat) : Datum → String
  | .nan => "nan"
  | .infinite negative => if negative then "-inf" else "inf"
  | .finite negative significand exponent =>
    let sign := if negative then ['-'] else []
    let body :=
      if significand = 0 then (if l.markWhole then ['0', '.', '0'] else ['0'])
      else
        let (num, den) := Datum.magnitude significand exponent
        l.write (l.isPositional num den) (shortest f significand exponent)
    String.ofList (sign ++ body)

/-- The shortest text of a double that reads back. -/
def ofFloat (x : Float) : String := Layout.number.datum .double (Datum.ofFloat x)

end WasmGauge.Decimal
