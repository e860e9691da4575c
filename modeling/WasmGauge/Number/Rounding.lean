/-!
# Rounding quotients

A quotient of natural numbers rounded to the nearest natural number, a tie going to the even
neighbour. Every conversion of this library that loses digits goes through this one function.
-/

namespace WasmGauge

/-- The natural number nearest to `num / den`; of two equally near ones, the even one. -/
def roundHalfEven (num den : Nat) : Nat :=
  let q := num / den
  let r := num % den
  if 2 * r < den then q
  else if den < 2 * r then q + 1
  else q + q % 2

end WasmGauge
