import WasmGauge.Gauge.Failure

/-!
# Settings

What the environment says about the level of the logger and about the directory of the module cache.
The directory that is named for this purpose wins over the one for all caches, and that one over the
home directory, which has to be known in any case.
-/

namespace WasmGauge

open Storage (Path)

structure Settings where
  /-- The name of the level of the logger. -/
  logLevel : String
  cacheDirectory : Path
  deriving DecidableEq, Repr

/-- The variables of an environment by name. -/
abbrev Environment := List (String × String)

def withoutSlashes (s : String) : String :=
  String.ofList (s.toList.reverse.dropWhile (· == '/')).reverse

/-- The home directory of a user: the one that the environment names or else the one of the account of
the user, if there is an account. A text that begins with a tilde, which only stands for a home directory,
is none. -/
def Environment.home (e : Environment) (account : Option String) : Except Failure Path :=
  match (e.lookup "HOME").or account with
  | none => .error .homeless
  | some text =>
    let home := withoutSlashes text
    if home.startsWith "~" then .error .homeless
    else .ok (Path.ofText (if home = "" then "/" else home))

/-- The settings that an environment makes for a user with an account. -/
def Settings.forAccount (account : Option String) (e : Environment) : Except Failure Settings := do
  -- the home directory is settled first, even if nothing below needs it
  let home ← e.home account
  let caches :=
    match e.lookup "XDG_CACHE_HOME" with
    | some text => Path.ofText text
    | none => home.child ".cache"
  let directory :=
    match e.lookup "WASMBENCH_CACHE_DIR" with
    | some text => Path.ofText text
    | none => Path.ofText (caches.child "wasmbench").text
  .ok ⟨(e.lookup "WASMBENCH_LOG_LEVEL").getD "WARNING", directory⟩

def Settings.ofEnvironment (e : Environment) : Except Failure Settings := Settings.forAccount none e

end WasmGauge
