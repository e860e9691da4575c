import WasmGauge.Decimal.Shortest
import WasmGauge.Text.Numeral

/-!
# Reading decimal numerals

A numeral with an optional point and an optional exponent, read exactly and then rounded once into
a binary format. Underscores may stand between two digits.
-/

namespace WasmGauge.Decimal

/-- The value of a digit of the given base. -/
def digit? (base : Nat) (c : Char) : Option Nat :=
  let v :=
    if '0' ≤ c ∧ c ≤ '9' then some (c.toNat - '0'.toNat)
    else if 'a' ≤ c ∧ c ≤ 'f' then some (c.toNat - 'a'.toNat + 10)
    else if 'A' ≤ c ∧ c ≤ 'F' then some (c.toNat - 'A'.toNat + 10)
    else none
  v.filter (· < base)

/-- The digits at the front of a text: how many there are, their value on top of `acc`, and what
follows. An underscore is skipped where a digit stands on either side of it. -/
def digitRun (base : Nat) : Nat → Nat → Bool → List Char → Nat × Nat × List Char
  | count, acc, _, [] => (count, acc, [])
  | count, acc, afterDigit, c :: rest =>
    match digit? base c with
    | some d => digitRun base (count + 1) (acc * base + d) true rest
    | none =>
      if c = '_' ∧ afterDigit ∧ (rest.head?.bind (digit? base)).isSome then
        -- `false`, so that a second underscore in a row ends the run.
        digitRun base count acc false rest
      else (count, acc, c :: rest)

def sign : List Char → Bool × List Char
  | '-' :: rest => (true, rest)
  | '+' :: rest => (false, rest)
  | rest => (false, rest)

/-- An exponent after its mark, with an optional sign; it needs a digit. -/
def exponent? (cs : List Char) : Option (Int × List Char) :=
  let (negative, cs) := sign cs
  match digitRun 10 0 0 false cs with
  | (0, _, _) => none
  | (_, value, rest) => some (if negative then -(value : Int) else value, rest)

/-- A numeral of the given base without a sign: its digits as one number, how many of them stand
after the point, its exponent after the mark, and what follows. It needs a digit. -/
def numeral? (base : Nat) (isMark : Char → Bool) (cs : List Char) :
    Option (Nat × Nat × Int × List Char) :=
  let (whole, acc, cs) := digitRun base 0 0 false cs
  let (places, acc, cs) :=
    match cs with
    | '.' :: rest => digitRun base 0 acc false rest
    | _ => (0, acc, cs)
  if whole + places = 0 then none
  else
    match cs with
    | c :: rest =>
      if isMark c then
        match exponent? rest with
        | some (e, rest) => some (acc, places, e, rest)
        | none => none
      else some (acc, places, 0, cs)
    | [] => some (acc, places, 0, [])

/-- The datum of `acc · 10 ^ e`. Exponents far outside every format are cut short, so that the
powers stay small. -/
def scaledDecimal (f : BinaryFormat) (negative : Bool) (acc : Nat) (e : Int) : Datum :=
  let size : Int := (digitCount acc : Int) + e
  if acc = 0 then f.nearest negative 0 1
  -- Doubles reach from below `10 ^ -323` to above `10 ^ 308`.
  else if size > 400 then .infinite negative
  else if size < -400 then f.nearest negative 0 1
  else if e < 0 then f.nearest negative acc (tenPow (-e).toNat)
  else f.nearest negative (acc * tenPow e.toNat) 1
where
  /-- How many decimal digits a number has. -/
  digitCount (n : Nat) : Nat := (Nat.repr n).length

/-- A whole text as a decimal numeral of a binary format, with an optional sign, with digits of any
script, and with blanks around it. The words for infinity and for what is not a number count too, in
either case of letters. -/
def datum? (f : BinaryFormat) (text : String) : Option Datum :=
  let (negative, cs) := sign (Text.plainNumeral text)
  let word := String.ofList (cs.map Char.toLower)
  if word = "inf" ∨ word = "infinity" then some (.infinite negative)
  else if word = "nan" then some .nan
  else
    match numeral? 10 (fun c => c = 'e' || c = 'E') cs with
    | some (acc, places, e, []) => some (scaledDecimal f negative acc (e - places))
    | _ => none

def float? (text : String) : Option Float := (datum? .double text).map Datum.toFloat

end WasmGauge.Decimal
