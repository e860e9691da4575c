import WasmGauge.Value.Fault

/-!
# Counts of arguments

Which counts of arguments a function takes, and what is said about a call with another count.
-/

namespace WasmGauge

/-- The parameters of a function. -/
structure Parameters where
  /-- The name of the function, as it is shown. -/
  function : String
  /-- How many arguments every call is given without asking for them. They are counted. -/
  bound : Nat
  /-- The names of the parameters that need an argument. -/
  required : List String
  /-- How many more arguments a call may give. -/
  optional : Nat

/-- Names with quotation marks, as they are listed in a sentence. -/
def listed : List String → String
  | [] => ""
  | [a] => s!"'{a}'"
  | [a, b] => s!"'{a}' and '{b}'"
  | names =>
    let quoted := names.map fun n => s!"'{n}'"
    ", ".intercalate quoted.dropLast ++ ", and " ++ quoted.getLastD ""

/-- The ending of a noun that stands for so many things. -/
def plural (n : Nat) : String := if n = 1 then "" else "s"

/-- What is said when arguments are missing for these parameters. -/
def Parameters.missing (p : Parameters) (names : List String) : String :=
  s!"{p.function}() missing {names.length} required positional " ++
    s!"argument{plural names.length}: {listed names}"

/-- What is said when there are too many arguments. -/
def Parameters.excess (p : Parameters) (given : Nat) : String :=
  let least := p.bound + p.required.length
  let takes :=
    if p.optional = 0 then s!"{least} positional argument{plural least}"
    else s!"from {least} to {least + p.optional} positional arguments"
  let total := p.bound + given
  let verb := if total = 1 then "was" else "were"
  s!"{p.function}() takes {takes} but {total} {verb} given"

/-- Accepts the counts of arguments that the parameters allow. -/
def Parameters.check (p : Parameters) (given : Nat) : Except Fault Unit :=
  if given < p.required.length then .error (.arity (p.missing (p.required.drop given)))
  else if p.required.length + p.optional < given then .error (.arity (p.excess given))
  else .ok ()

end WasmGauge
