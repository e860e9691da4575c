/-!
# Powers

The powers of two and of ten, from which sizes, ranges and decimal places are made.
-/

namespace WasmGauge

/-- Two to the power `k`. -/
def twoPow (k : Nat) : Nat := Nat.pow 2 k

/-- Ten to the power `k`. -/
def tenPow (k : Nat) : Nat := Nat.pow 10 k

end WasmGauge
