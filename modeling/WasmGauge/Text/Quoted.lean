import WasmGauge.Text.Hex
import WasmGauge.Text.Printable

/-!
# Quoted text

A text between quotation marks, from which it can be read off unambiguously. Apostrophes are the
marks, unless the text holds an apostrophe and no double quote. The mark, the backslash, line feed,
carriage return and tab are escaped by a backslash, and every other unprintable character by its
code point in hexadecimal.
-/

namespace WasmGauge.Text

/-- The quotation mark for a text. -/
def markFor (cs : List Char) : Char :=
  if cs.contains '\'' && !cs.contains '"' then '"' else '\''

/-- One character as it stands between the marks. -/
def escape (mark c : Char) : List Char :=
  if c = mark ∨ c = '\\' then ['\\', c]
  else if c = '\n' then ['\\', 'n']
  else if c = '\r' then ['\\', 'r']
  else if c = '\t' then ['\\', 't']
  else if isPrintable c then [c]
  else if c.toNat < 0x100 then '\\' :: 'x' :: hex 2 c.toNat
  else if c.toNat < 0x10000 then '\\' :: 'u' :: hex 4 c.toNat
  else '\\' :: 'U' :: hex 8 c.toNat

/-- A text with its marks. -/
def quotedChars (cs : List Char) : List Char :=
  let mark := markFor cs
  mark :: cs.flatMap (escape mark) ++ [mark]

/-- A text with its marks. -/
def quoted (s : String) : String := String.ofList (quotedChars s.toList)

end WasmGauge.Text
