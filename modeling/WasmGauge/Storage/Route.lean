import WasmGauge.Storage.Path

/-!
# Routes

A name as the operating system follows it, one step after another. Other than in a `Path`, nothing is
simplified: `.` and `..` are steps, and so is a slash at the end, which only a directory lets pass.
-/

namespace WasmGauge.Storage

/-- The steps of a name. -/
structure Route where
  /-- Whether the steps begin at the root. -/
  absolute : Bool
  steps : List String
  deriving DecidableEq, Repr

namespace Route

def here : String := "."

def above : String := ".."

/-- The step that a slash at the end of a name stands for. -/
def closing : String := ""

/-- The route of a name. -/
def ofText (s : String) : Route :=
  let all := (pieces s.toList).map String.ofList
  let named := all.filter (· != "")
  { absolute := s.toList.head? == some '/'
    steps := named ++ if !named.isEmpty && all.getLast? == some "" then [closing] else [] }

/-- The last step of a route that has a name, apart from the steps to it. -/
structure Ending where
  /-- The steps to the last one. -/
  way : List String
  name : String
  /-- Whether a slash follows. -/
  closed : Bool
  deriving DecidableEq, Repr

/-- The ending of a route. The route of the root has none. -/
def ending? (r : Route) : Option Ending :=
  match r.steps.reverse with
  | [] => none
  | [name] => some ⟨[], name, false⟩
  | last :: name :: way =>
    -- A slash at the end is a step of its own, behind the one that has the name.
    some (if last = closing then ⟨way.reverse, name, true⟩
      else ⟨(name :: way).reverse, last, false⟩)

end Route

end WasmGauge.Storage
