import WasmGauge.Text.Quoted
import WasmGauge.Text.Uppercase
import WasmGauge.Value.Written

/-!
# Logging

A logger records what happens, as far as its level lets it through. Configuring it gives it a level
and its one handler, which writes a line with a time, the name of the level, the name of the logger
and the message for each record. Before that, only warnings and what is more severe are written, as
bare messages. Records for loggers that do not belong to this one are none of its business: of them,
too, warnings and what is more severe are written bare.

A record names its level, so that none is made for a number that cannot be written. What is logged with
such a number fails if it would be let through.
-/

namespace WasmGauge

/-! ## Levels -/

/-- A level as it was given. A truth value stands for zero or one. -/
inductive Level where
  | number (rank : Int)
  | truth (value : Bool)
  deriving DecidableEq, Repr

namespace Level

def rank : Level → Int
  | number n => n
  | truth b => if b then 1 else 0

def warning : Int := 30

def error : Int := 40

/-- The number of what helps to find faults. -/
def debug : Int := 10

/-- The names of levels. Where two names have the same number, the first one is shown. -/
def names : List (String × Int) :=
  [("CRITICAL", 50), ("FATAL", 50), ("ERROR", error), ("WARNING", warning), ("WARN", warning),
    ("INFO", 20), ("DEBUG", debug), ("NOTSET", 0)]

def ofName? (name : String) : Option Int := names.lookup name

/-- The name that is shown for a number. One that no name belongs to is written itself, unless it has
too many digits. -/
def nameOf (rank : Int) : Except Fault String :=
  match names.find? (·.2 == rank) with
  | some (name, _) => .ok name
  | none => do .ok ("Level " ++ (← intText rank))

end Level

/-- Why a level cannot be set. -/
inductive LevelFault where
  | unknown (name : String)
  /-- A value is neither a number nor a name. It is shown like this. -/
  | notLevel (shown : String)
  /-- A value is neither a number nor a name, and it cannot be shown. -/
  | value (fault : Fault)
  deriving DecidableEq, Repr

def LevelFault.message : LevelFault → String
  | .unknown name => s!"Invalid log level: {name}"
  | .notLevel shown => s!"Level not an integer or a valid string: {shown}"
  | .value fault => fault.message

/-! ## Records -/

/-- The name of the logger that is configured. -/
def Logger.rootName : String := "wasmbench"

structure LogRecord where
  rank : Int
  /-- The name of its level. -/
  level : String
  logger : String
  message : String
  named : Level.nameOf rank = .ok level
  deriving DecidableEq, Repr

namespace LogRecord

/-- The record of what is logged under a name. -/
def make (rank : Int) (logger message : String) : Except Fault LogRecord :=
  match h : Level.nameOf rank with
  | .ok level => .ok ⟨rank, level, logger, message, h⟩
  | .error fault => .error fault

/-- The record of what helps to find faults in a part of the harness. -/
def debug (part message : String) : LogRecord :=
  ⟨Level.debug, "DEBUG", Logger.rootName ++ "." ++ part, message, rfl⟩

/-- The record of a failure in a part of the harness. -/
def error (part message : String) : LogRecord :=
  ⟨Level.error, "ERROR", Logger.rootName ++ "." ++ part, message, rfl⟩

/-- A record as it is shown without the time. -/
def text (r : LogRecord) : String := r.level ++ " " ++ r.logger ++ ": " ++ r.message

/-- The line that a handler writes for a record. The time is left open. -/
def line (r : LogRecord) : String :=
  "<time> [" ++ r.level ++ "] " ++ r.logger ++ ": " ++ r.message ++ "\n"

end LogRecord

/-! ## Loggers -/

/-- A logger with what it has recorded and written. -/
structure Logger where
  level : Level
  handlers : Nat
  /-- What it has let through, in order. -/
  records : List LogRecord
  written : String
  deriving Repr

namespace Logger

/-- Whether a name is the one of the logger that is configured or of one below it. -/
def owns (name : String) : Bool :=
  name == rootName || (rootName ++ ".").toList.isPrefixOf name.toList

def fresh : Logger := ⟨.number 0, 0, [], ""⟩

/-- The least number that passes. A level of zero stands for the level of warnings. -/
def threshold (l : Logger) : Int := if l.level.rank = 0 then Level.warning else l.level.rank

/-- Whether records with this number pass. -/
def passes (l : Logger) (rank : Int) : Bool := 0 < rank && l.threshold ≤ rank

def bare (r : LogRecord) : String :=
  if Level.warning ≤ r.rank then r.message ++ "\n" else ""

def output (l : Logger) (r : LogRecord) : String :=
  if l.handlers = 0 then bare r else String.join (List.replicate l.handlers r.line)

/-- The logger after a record is handed to it. -/
def emit (l : Logger) (r : LogRecord) : Logger :=
  -- another logger has no handler, and its level is that of warnings
  if !owns r.logger then { l with written := l.written ++ bare r }
  else if l.passes r.rank then
    { l with records := l.records ++ [r], written := l.written ++ l.output r }
  else l

/-- Whether anything becomes of what is logged under a name with a number. -/
def heeds (l : Logger) (name : String) (rank : Int) : Bool :=
  if owns name then l.passes rank else Level.warning ≤ rank

/-- The logger after a message is logged under a name. No record is made of what is not heeded, so that
its number does not matter. -/
def log (l : Logger) (rank : Int) (name message : String) : Except Fault Logger :=
  if l.heeds name rank then l.emit <$> LogRecord.make rank name message else .ok l

/-! ## Configuring -/

/-- A step of configuring a logger. It changes the logger, and it may be refused; what has been changed
before it is refused stays changed. -/
abbrev Configuring := ExceptT LevelFault (StateM Logger)

/-- What stands for the level: what is asked for, or what the environment says if nothing is. A name
stands for its number. One that no level has is refused; if it comes from the environment, warnings
stand for it, and the name is handed on. -/
def requested (environment : String) : Value → Configuring (Value × Option String)
  | .none =>
    let name := Text.upper environment
    match Level.ofName? name with
    | some rank => pure (.int rank, none)
    -- refusing it would keep a run from starting
    | none => pure (.int Level.warning, some name)
  | .str s =>
    let name := Text.upper s
    match Level.ofName? name with
    | some rank => pure (.int rank, none)
    | none => throw (.unknown name)
  | v => pure (v, none)

/-- Gives the logger a level. What is no number and no truth value is refused. -/
def setLevel : Value → Configuring Unit
  | .int n => modify fun l => { l with level := .number n }
  | .bool b => modify fun l => { l with level := .truth b }
  | v =>
    match v.quoted with
    | .ok shown => throw (.notLevel shown)
    | .error fault => throw (.value fault)

/-- Gives the logger a handler if it has none. -/
def addHandler : Configuring Unit :=
  modify fun l => if l.handlers = 0 then { l with handlers := l.handlers + 1 } else l

/-- The warning about a name that no level has. -/
def nameWarning (name : String) : LogRecord where
  rank := Level.warning
  level := "WARNING"
  logger := rootName
  message := "Invalid WASMBENCH_LOG_LEVEL " ++ Text.quoted name ++ ", using WARNING"
  named := rfl

/-- Configures the logger by a level that is asked for, or by the environment if none is. The warning
about a name in the environment comes last, so that the handler takes it. -/
def configure (environment : String) (asked : Value) : Configuring Unit := do
  let (level, unknown?) ← requested environment asked
  -- a level of the wrong kind is refused here, before anything has been changed
  setLevel level
  addHandler
  match unknown? with
  | some name => modify (·.emit (nameWarning name))
  | none => pure ()

/-- The outcome of configuring a logger, and the logger after it. -/
def configured (l : Logger) (environment : String) (asked : Value) : Except LevelFault Unit × Logger :=
  (configure environment asked).run.run l

end Logger

end WasmGauge
