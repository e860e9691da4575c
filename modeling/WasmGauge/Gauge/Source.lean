import WasmGauge.Storage.Path
import WasmGauge.Text.Surrogate
import WasmGauge.Value.Arithmetic
import WasmGauge.Value.Written

/-!
# Sources

A source says where the bytes of a module are. It is a path; two sources with the same path are the
same, and the text of a source gives the source back. A source can be given by a locator relative to
a base.

The text of a path may also have surrogates in it that stand alone. Such a path is no name that the disk
knows; all that there is to know about it is where the surrogates are.
-/

namespace WasmGauge

open Storage (Path)
open Text (Symbol SurrogateFault)

/-- Where the bytes of a module are. -/
structure Source where
  path : Path
  deriving DecidableEq, Repr

namespace Source

/-- The source with the path that a text denotes. -/
def ofText (s : String) : Source := ⟨Path.ofText s⟩

def text (s : Source) : String := s.path.text

def name (s : Source) : String := s.path.name

/-- Whether the file holds the text of a module instead of its bytes. -/
def isText (s : Source) : Bool := s.path.hasSuffix ".wat"

def quoted (s : Source) : String :=
  "BinarySource(path=PosixPath(" ++ Text.quoted s.text ++ "))"

/-- The surrogates that come first in the text of the path that symbols denote. -/
def surrogateFault? (symbols : List Symbol) : Option SurrogateFault :=
  match symbols.dropWhile Symbol.isChar with
  | .lone s :: rest =>
    -- Reading a text as a path may drop what is in front of the surrogate, but never a letter at its
    -- place, and that is then the last one of the text.
    let before := Path.ofText (Symbol.plain (symbols.takeWhile Symbol.isChar) ++ "x")
    some ⟨before.text.length - 1, 1 + (rest.takeWhile (!·.isChar)).length, s⟩
  | _ => none

end Source

/-! ## Locators -/

/-- A part of a locator. -/
inductive Locator where
  | path (path : Path)
  /-- Any value. Only texts are of use. -/
  | value (value : Value)

namespace Locator

/-- The word for the type of a part of a locator. A scalar counts as a plain value. -/
def typeName : Locator → String
  | path _ => "PosixPath"
  | value (.scalar s) => s.plainTypeName
  | value v => v.typeName

def toPath : Locator → Except Fault Path
  | path p => .ok p
  | value (.str s) => .ok (Path.ofText s)
  | value v => .error (.notPath v.typeName)

/-- The base to resolve against. A part that counts as nothing stands for the directory of the
modules that come with the harness. -/
def orElse (bundled : Path) : Option Locator → Locator
  | none => path bundled
  | some (path p) => path p
  | some (value v) => if v.isTruthy then value v else path bundled

/-- One part of a locator after another. A text counts as a path only beside a path; two numbers
are divided. -/
def append : Locator → Locator → Except Fault Locator
  | path p, path q => .ok (path (p.join q))
  | path p, value (.str s) => .ok (path (p.child s))
  | value (.str s), path q => .ok (path ((Path.ofText s).join q))
  | value v, value w => value <$> v.div w
  | l, r => .error (.operands "/" l.typeName r.typeName)

end Locator

/-- The source that a locator denotes relative to a base. -/
def Source.resolve (bundled : Path) (base : Option Locator) (name : Locator) :
    Except Fault Source := do
  let whole ← (Locator.orElse bundled base).append name
  .ok ⟨← whole.toPath⟩

end WasmGauge
