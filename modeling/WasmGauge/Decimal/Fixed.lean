import WasmGauge.Decimal.Layout

/-!
# Fixed decimal places

A number written with a fixed count of digits after the point. The digits are those of the multiple
of `10 ^ (-places)` nearest to the exact value, a tie going to the even last digit. The sign of the
number is kept, also where all digits come out zero.
-/

namespace WasmGauge.Decimal

/-- The magnitude `num / den` with `places` digits after the point. -/
def fixedMagnitude (places num den : Nat) : List Char :=
  let scaled := roundHalfEven (num * tenPow places) den
  let whole := digitsOf (scaled / tenPow places)
  if places = 0 then whole
  else whole ++ ['.'] ++ padded places (digitsOf (scaled % tenPow places))

/-- A datum with `places` digits after the point. -/
def fixedDatum (places : Nat) : Datum → String
  | .nan => "nan"
  | .infinite negative => if negative then "-inf" else "inf"
  | .finite negative significand exponent =>
    let (num, den) := Datum.magnitude significand exponent
    String.ofList ((if negative then ['-'] else []) ++ fixedMagnitude places num den)

/-- A double with `places` digits after the point. -/
def fixed (places : Nat) (x : Float) : String := fixedDatum places (Datum.ofFloat x)

end WasmGauge.Decimal
