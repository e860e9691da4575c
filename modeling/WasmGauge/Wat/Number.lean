import WasmGauge.Decimal.Reader

/-!
# Number literals of the text format

Integers and floating-point numbers, in decimal or, after `0x`, in hexadecimal digits, with
underscores between digits, and the words for infinity and for what is not a number. A literal is
read exactly; the instruction that it belongs to rounds it or checks its range.
-/

namespace WasmGauge.Wat

/-- A number literal. -/
inductive Literal where
  /-- An integer: its sign, if there is one, and its magnitude. -/
  | integer (sign : Option Bool) (magnitude : Nat)
  /-- The number `±digits · base ^ -places · scale ^ exponent`, where a hexadecimal literal has the
  base 16 and the scale 2, and a decimal one has 10 for both. -/
  | fraction (negative hexadecimal : Bool) (digits places : Nat) (exponent : Int)
  | infinity (negative : Bool)
  /-- What is not a number, with the payload, if one is given. -/
  | notANumber (negative : Bool) (payload : Option Nat)
  deriving DecidableEq, Repr

namespace Literal

/-- A sign in front of a literal: whether it is a minus, and what follows. -/
def signOf : List Char → Option Bool × List Char
  | '-' :: rest => (some true, rest)
  | '+' :: rest => (some false, rest)
  | rest => (none, rest)

/-- An exponent after its mark. -/
def exponentOf? (cs : List Char) : Option Int :=
  let (sign, cs) := signOf cs
  match Decimal.digitRun 10 0 0 false cs with
  | (0, _, _) => none
  | (_, n, []) => some (if sign = some true then -(n : Int) else n)
  | _ => none

/-- The digits of a literal and what follows them, after the sign and the mark of the base. -/
def unsigned? (sign : Option Bool) (hexadecimal : Bool) (cs : List Char) : Option Literal :=
  let base := if hexadecimal then 16 else 10
  let negative := sign = some true
  let isMark (c : Char) : Bool :=
    if hexadecimal then c = 'p' || c = 'P' else c = 'e' || c = 'E'
  let (count, whole, rest) := Decimal.digitRun base 0 0 false cs
  if count = 0 then none
  else
    match rest with
    | [] => some (.integer sign whole)
    | '.' :: rest =>
      match Decimal.digitRun base 0 whole false rest with
      | (places, digits, []) => some (.fraction negative hexadecimal digits places 0)
      | (places, digits, c :: rest) =>
        if isMark c then (exponentOf? rest).map (.fraction negative hexadecimal digits places ·)
        else none
    | c :: rest =>
      if isMark c then (exponentOf? rest).map (.fraction negative hexadecimal whole 0 ·) else none

/-- The natural number below `2 ^ 64` that a word is, where underscores may stand anywhere among the
digits. -/
def looseNat? (word : List Char) : Option Nat :=
  let (base, cs) := match word with
    | '0' :: 'x' :: rest => (16, rest)
    | _ => (10, word)
  let cs := match cs.filter (· != '_') with
    | '+' :: rest => rest
    | cs => cs
  match Decimal.digitRun base 0 0 false cs with
  | (0, _, _) => none
  | (_, n, []) => if n < twoPow 64 then some n else none
  | _ => none

def ofWord? (word : List Char) : Option Literal :=
  let (sign, cs) := signOf word
  let negative := sign = some true
  match cs with
  | ['i', 'n', 'f'] => some (.infinity negative)
  | ['n', 'a', 'n'] => some (.notANumber negative none)
  | 'n' :: 'a' :: 'n' :: ':' :: '0' :: 'x' :: rest =>
    match Decimal.digitRun 16 0 0 false rest with
    | (0, _, _) => none
    | (_, n, []) => if n < twoPow 64 then some (.notANumber negative (some n)) else none
    | _ => none
  | '0' :: 'x' :: rest => unsigned? sign true rest
  | cs => unsigned? sign false cs

/-- The natural number below `2 ^ bits` that a literal is. A plus sign is allowed. -/
def toNat? (bits : Nat) : Literal → Option Nat
  | .integer sign n => if sign ≠ some true ∧ n < twoPow bits then some n else none
  | _ => none

/-- The integer of so many bits that a literal is, be it in the range with a sign or without. -/
def toInt? (bits : Nat) : Literal → Option Int
  | .integer sign n =>
    if sign = some true then (if n ≤ twoPow (bits - 1) then some (-(n : Int)) else none)
    else if n < twoPow bits then some n else none
  | _ => none

/-- The number `±digits · 2 ^ e` rounded into a format. Exponents far outside every format are cut
short. -/
def scaledBinary (f : BinaryFormat) (negative : Bool) (digits : Nat) (e : Int) : Datum :=
  let size : Int := (digits.log2 : Int) + e
  -- Doubles reach from below `2 ^ -1074` to above `2 ^ 1023`.
  if digits = 0 ∨ size < -1200 then f.nearest negative 0 1
  else if size > 1200 then .infinite negative
  else if e < 0 then f.nearest negative digits (twoPow (-e).toNat)
  else f.nearest negative (digits * twoPow e.toNat) 1

def finiteBits? (f : BinaryFormat) : Datum → Option Nat
  | .infinite _ => none
  | d => some (f.encode d)

/-- Whether an exponent is one that can be computed with. -/
def exponentFits (e : Int) : Bool := -(twoPow 31 : Int) ≤ e && e < (twoPow 31 : Int)

/-- Whether the exponents of a hexadecimal literal can be computed with: the one that is written, and
the one of the leading bit. The exponent of zero does not matter. -/
def exponentsFit (digits places : Nat) (e : Int) : Bool :=
  digits == 0 || (exponentFits e && exponentFits ((digits.log2 : Int) - 4 * places + e))

/-- The bits of a literal as a number of a format. A number too large for the format has none. Of a
payload the format takes as many bits as it has room for, which must not all be zero. -/
def toBits? (f : BinaryFormat) : Literal → Option Nat
  | .integer sign n => finiteBits? f (scaledBinary f (sign = some true) n 0)
  | .fraction negative true digits places e =>
    if exponentsFit digits places e then
      finiteBits? f (scaledBinary f negative digits (e - 4 * places))
    else none
  | .fraction negative false digits places e =>
    finiteBits? f (Decimal.scaledDecimal f negative digits (e - places))
  | .infinity negative => some (f.encode (.infinite negative))
  -- Without a payload it is the quiet one, whose leading bit is set.
  | .notANumber negative payload =>
    let p := payload.getD (twoPow (f.storedBits - 1)) % twoPow f.storedBits
    if p = 0 then none else some (f.signBits negative + f.specialField * twoPow f.storedBits + p)

end Literal

end WasmGauge.Wat
