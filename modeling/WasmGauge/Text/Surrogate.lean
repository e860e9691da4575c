import WasmGauge.Text.Hex

/-!
# Surrogates

A text as a program may be given it: a sequence of symbols, most of which are characters. A surrogate
that stands alone is a symbol, but no character, and there are no bytes that encode it. Surrogates that
stand for single bytes, which are encoded as these bytes, are no symbols here.
-/

namespace WasmGauge.Text

/-- A surrogate that stands alone. -/
structure Surrogate where
  code : Nat
  isSurrogate : 0xD800 ≤ code ∧ code ≤ 0xDFFF
  notByte : ¬ (0xDC80 ≤ code ∧ code ≤ 0xDCFF)
  deriving DecidableEq, Repr

/-- A part of a text. -/
inductive Symbol where
  | char (c : Char)
  | lone (surrogate : Surrogate)
  deriving DecidableEq, Repr

namespace Symbol

def char? : Symbol → Option Char
  | char c => some c
  | lone _ => none

def isChar (s : Symbol) : Bool := s.char?.isSome

/-- The characters among symbols. -/
def plain (symbols : List Symbol) : String := String.ofList (symbols.filterMap char?)

end Symbol

/-- Surrogates because of which a text cannot be encoded. -/
structure SurrogateFault where
  /-- The index of the first one. -/
  start : Nat
  /-- How many there are in a row. -/
  count : Nat
  first : Surrogate
  deriving DecidableEq, Repr

/-- The words for a fault. One surrogate is named by its value, several by their positions. -/
def SurrogateFault.message (f : SurrogateFault) : String :=
  let which :=
    if f.count = 1 then
      "character '\\u" ++ String.ofList (hex 4 f.first.code) ++ s!"' in position {f.start}"
    else s!"characters in position {f.start}-{f.start + f.count - 1}"
  s!"'utf-8' codec can't encode {which}: surrogates not allowed"

end WasmGauge.Text
