import WasmGauge.Gauge.Bundle
import WasmGauge.Gauge.Comparison

/-!
# The command line

Runs the standard comparison with the settings of the environment, writes its report, and ends with
its exit status. Every candidate is measured in a trial first; the times at which the trials begin and
end are what the clock of the run shows.
-/

namespace WasmGauge

/-- The variables that settings are made from. -/
def settingVariables : List String :=
  ["HOME", "XDG_CACHE_HOME", "WASMBENCH_CACHE_DIR", "WASMBENCH_LOG_LEVEL"]

/-- The report of a run, what it logs, and the exit status. A failure that passes through is written
after the log and gives the status one. -/
def commandLine (settings : Settings) (readings : List Float) : String × String × UInt32 :=
  match runStandard.outcome { World.start readings with settings := settings } with
  | (.ok status, w) => (w.out, w.logger.written, status.toUInt32)
  | (.error f, w) => (w.out, w.logger.written ++ f.message ++ "\n", 1)

/-- A trial of a candidate. Whether it succeeds is all that it tells. -/
def trial (c : Candidate) : Bool :=
  (c.measure standardExport standardArguments false).outcome (World.start []) |>.1.isOk

def now : IO Float := do pure (Float.ofNat (← IO.monoNanosNow) / 1000000000)

/-- The times at which the trials of candidates begin and end. A trial that fails has no end, because
a call that fails does not read the clock again. -/
def trialTimes : List Candidate → IO (List Float)
  | [] => pure []
  | c :: cs => do
    let start ← now
    -- Lazily, so that the trial runs between the two readings.
    let succeeded ← IO.lazyPure fun _ => trial c
    let stop ← now
    let times ← trialTimes cs
    pure (if succeeded then start :: stop :: times else start :: times)

/-- The variables of the environment that matter here. -/
def readEnvironment : IO Environment :=
  settingVariables.filterMapM fun name => do pure ((← IO.getEnv name).map fun text => (name, text))

end WasmGauge

/-- Runs the standard comparison. -/
def main : IO UInt32 := do
  match WasmGauge.Settings.ofEnvironment (← WasmGauge.readEnvironment) with
  | .error f =>
    IO.eprint (f.message ++ "\n")
    pure 1
  | .ok settings =>
    let readings ← WasmGauge.trialTimes (WasmGauge.Candidate.standard WasmGauge.Bundle.directory)
    let (report, log, status) := WasmGauge.commandLine settings readings
    IO.print report
    IO.eprint log
    pure status
