import WasmGauge.Proofs.Comparison.Independence
import WasmGauge.Proofs.Logging.Configuration
import WasmGauge.Proofs.Logging.Unheeding

/-!
# The exit status of a run

A run configures the logger and then is its comparison: the comparison does not heed the logger, so
what the environment asks for as a level makes no difference to what is measured and written. The exit
status says whether the comparison was finished or the harness failed, and every other failure passes
through.

## Main statements

- `outcome_runComparison`: the outcome of a run in terms of its comparison.
- `runComparison_concludes`: what the exit status, the text that is written and the errors that are
  recorded say about the comparison.
-/

namespace WasmGauge

open Act (Unheeding)

variable {w : World} {text : String}

/-! ## §1 Comparisons -/

theorem unheeding_compare (cs : List Candidate) (name : String) (args : List Value) (sink : Sink) :
    (compare cs name args sink false).Unheeding := by
  -- on the candidates, each of which does not heed the logger
  induction cs with
  | nil => exact .pure []
  | cons c cs ih =>
    rw [compare_cons]
    refine .bind (c.unheeding_report name args sink) fun m => ?_
    exact .bind ih fun ms => .pure (m :: ms)

/-! ## §2 Configuring and concluding -/

namespace Logger

/-- The number of the level that the environment asks for. A name that no level has stands for
warnings. -/
def environmentRank (text : String) : Int := (Level.ofName? (Text.upper text)).getD Level.warning

/-- The logger of a run, right after it has been configured. -/
def begun (l : Logger) (text : String) : Logger := l.after ⟨text, .none⟩

/-- The level of a run is a number, and all that has been recorded is the warning about its name. -/
theorem begun_eq (l : Logger) (text : String) :
    (l.begun text).level = .number (environmentRank text) ∧
      (l.begun text).records = l.records ++ (LevelRequest.warning? ⟨text, .none⟩).toList := ⟨rfl, rfl⟩

def failureRecord (f : Failure) : LogRecord := .error "benchmark" f.message

/-- The records of errors in a run: the failure of the harness, if errors are let through. -/
def errorsOf (text : String) : Except Failure Report → List LogRecord
  | .ok _ => []
  | .error f =>
    if f.isHarness ∧ environmentRank text ≤ Level.error then [failureRecord f] else []

/-- A level of zero stands for the level of warnings, which lets errors through as zero would. -/
theorem passes_error {l : Logger} {rank : Int} (hlevel : l.level = .number rank) :
    l.passes Level.error = true ↔ rank ≤ Level.error := by
  unfold passes threshold
  rw [hlevel]
  -- zero stands for the level of warnings
  by_cases hzero : rank = 0
  · subst hzero
    decide
  · have hthreshold : (if Level.rank (.number rank) = 0 then Level.warning
        else Level.rank (.number rank)) = rank := if_neg hzero
    rw [hthreshold, Bool.and_eq_true, decide_eq_true_eq, decide_eq_true_eq]
    exact and_iff_right (by decide)

theorem owns_failureRecord (f : Failure) : owns (failureRecord f).logger = true := by
  have hname : (failureRecord f).logger.toList = (rootName ++ ".").toList ++ "benchmark".toList :=
    String.toList_append
  have hbegins : (rootName ++ ".").toList.isPrefixOf (failureRecord f).logger.toList = true := by
    rw [hname, List.isPrefixOf_iff_prefix]
    exact List.prefix_append _ _
  unfold owns
  rw [hbegins, Bool.or_true]

theorem records_emit_failureRecord (l : Logger) (f : Failure) :
    (l.emit (failureRecord f)).records =
      l.records ++ if l.passes Level.error = true then [failureRecord f] else [] := by
  unfold emit
  rw [owns_failureRecord]
  -- errors are let through or not; only then the record is kept
  cases hpasses : l.passes Level.error with
  | true =>
    have hpass : l.passes (failureRecord f).rank = true := hpasses
    rw [hpass]
    rfl
  | false =>
    have hstop : l.passes (failureRecord f).rank = false := hpasses
    rw [hstop]
    exact (List.append_nil _).symm

/-- The logger at the end of a run: a failure of the harness has been logged. -/
def concluding (l : Logger) : Except Failure Report → Logger
  | .ok _ => l
  | .error f => if f.isHarness then l.emit (failureRecord f) else l

theorem records_concluding {l : Logger} (hlevel : l.level = .number (environmentRank text))
    (result : Except Failure Report) :
    (l.concluding result).records = l.records ++ errorsOf text result := by
  cases result with
  | ok r => exact (List.append_nil _).symm
  | error f =>
    simp only [concluding, errorsOf]
    -- every other failure passes through without a word
    by_cases hharness : f.isHarness = true
    · rw [if_pos hharness, records_emit_failureRecord]
      simp only [passes_error hlevel, hharness, true_and]
    · rw [if_neg hharness, if_neg fun h => hharness h.1]
      exact (List.append_nil _).symm

end Logger

/-- What the environment asks for as a level never is a reason to fail. -/
theorem outcome_configureLogger (w : World) (text : String) :
    configureLogger.outcome (w.heard w.logger text) =
      (.ok ⟨⟩, w.heard (w.logger.begun text) text) := by
  have hconfigured : (w.heard w.logger text).logger.configured
      (w.heard w.logger text).settings.logLevel .none = (.ok (), w.logger.begun text) :=
    Logger.configured_eq w.logger ⟨text, .none⟩
  unfold configureLogger
  rw [Act.outcome_bind_of_ok (Act.outcome_get _)]
  simp only [hconfigured]
  rfl

/-! ## §3 Runs -/

def exitStatus : Except Failure Report → Except Failure Nat
  | .ok _ => .ok 0
  | .error f => if f.isHarness then .ok 1 else .error f

def World.candidatesOf (w : World) (candidates : Option (List Candidate)) : List Candidate :=
  candidates.getD (Candidate.standard w.bundled)

/-- A run is its comparison, between configuring the logger and logging its failure. -/
theorem outcome_runComparison (candidates : Option (List Candidate)) (name : String)
    (args : List Value) (sink : Sink) (w : World) (text : String) :
    ∃ l, (w.logger.begun text).OnlyDebugged l ∧
      (runComparison candidates name args sink).outcome (w.heard w.logger text) =
        match (compare (w.candidatesOf candidates) name args sink false).outcome w with
        | (result, v) => (exitStatus result, v.heard (l.concluding result) text) := by
  obtain ⟨l, honly, hcompare⟩ := unheeding_compare (w.candidatesOf candidates) name args sink w
    (w.logger.begun text) text
  refine ⟨l, honly, ?_⟩
  have hcandidates : candidates.getD (Candidate.standard (w.heard (w.logger.begun text) text).bundled) =
      w.candidatesOf candidates := rfl
  unfold runComparison
  rw [Act.outcome_bind_of_ok (outcome_configureLogger w text),
    Act.outcome_bind_of_ok (Act.outcome_get _)]
  simp only [hcandidates]
  rw [Act.outcome_bind, Act.outcome_attempt, hcompare]
  rcases (compare (w.candidatesOf candidates) name args sink false).outcome w with ⟨result, v⟩
  cases result with
  | ok r => rfl
  | error f =>
    unfold exitStatus Logger.concluding
    -- only a failure of the harness is logged
    by_cases hharness : f.isHarness = true
    · simp only [hharness, if_true]
      rfl
    · simp only [hharness]
      rfl

/-- What a run says about its comparison, which begins in the same world. The outcomes of both are
given. -/
structure Concludes (w : World) (text : String) (compared : Except Failure Report × World)
    (ran : Except Failure Nat × World) : Prop where
  /-- The status is zero if the comparison was finished. -/
  finished : ran.1 = .ok 0 ↔ ∃ r, compared.1 = .ok r
  /-- The status is one if the harness failed. -/
  failed : ran.1 = .ok 1 ↔ ∃ f, compared.1 = .error f ∧ f.isHarness = true
  /-- Every other failure passes through. -/
  passed (f : Failure) : ran.1 = .error f ↔ compared.1 = .error f ∧ f.isHarness = false
  /-- There is no other status. -/
  status (n : Nat) : ran.1 = .ok n → n = 0 ∨ n = 1
  /-- What has been written is what the comparison has written, wherever the report goes. -/
  out : ran.2.out = compared.2.out
  stream : ran.2.stream = compared.2.stream
  /-- One error at most has been recorded, after everything else. -/
  errors : ∃ rest, (∀ r ∈ rest, r.rank ≠ Level.error) ∧
    ran.2.logger.records = w.logger.records ++ rest ++ Logger.errorsOf text compared.1

theorem Concludes.of_exitStatus {result : Except Failure Report} {v : World} {l : Logger}
    (honly : (w.logger.begun text).OnlyDebugged l) :
    Concludes w text (result, v) (exitStatus result, v.heard (l.concluding result) text) := by
  constructor
  case finished | failed | status =>
    cases result with
    | ok r => simp [exitStatus]
    | error f => cases h : f.isHarness <;> simp [exitStatus, h]
  case passed =>
    intro f
    cases result with
    | ok r => simp [exitStatus]
    | error g => cases h : g.isHarness <;> simp [exitStatus, h] <;> rintro rfl <;> exact h
  case out | stream => rfl
  case errors =>
    obtain ⟨hlevel, hrecords⟩ := w.logger.begun_eq text
    obtain ⟨debugged, hdebugged, hdebug⟩ := honly.records
    refine ⟨(LevelRequest.warning? ⟨text, .none⟩).toList ++ debugged, fun r hr => ?_, ?_⟩
    · rcases List.mem_append.1 hr with hwarning | hr
      · rw [LevelRequest.rank_of_warning (Option.mem_toList.1 hwarning)]
        decide
      · rw [hdebug r hr]
        decide
    · have hconcluded := Logger.records_concluding (honly.level.trans hlevel) result
      show (l.concluding result).records = _
      rw [hconcluded, hdebugged, hrecords, List.append_assoc w.logger.records]

/-- The lines of the candidates before the first one that fails, or of all of them if none does. -/
def LinesBefore (cs : List Candidate) (name : String) (args : List Value) (sink : Sink) (w : World)
    (lines : List String) : Prop :=
  ∃ n done v, (compare (cs.take n) name args sink false).outcome w = (.ok done, v) ∧
    done.lines = .ok lines ∧
    (n = cs.length ∨ ∃ f v', (compare (cs.take (n + 1)) name args sink false).outcome w = (.error f, v'))

theorem writtenTo_compare (cs : List Candidate) (name : String) (args : List Value) (sink : Sink)
    (w : World) : ∃ lines, LinesBefore cs name args sink w lines ∧
      ((compare cs name args sink false).outcome w).2.writtenTo sink =
        w.writtenTo sink ++ String.join (lines.map (· ++ "\n")) := by
  have hinvariant := compare_invariant (k := CacheScope.bundled) cs name args sink false w
    fun h => nomatch h
  rcases hout : (compare cs name args sink false).outcome w with ⟨result, v⟩
  rw [hout] at hinvariant
  cases result with
  | ok r =>
    obtain ⟨lines, hlines, hwritten⟩ := hinvariant.1.written
    exact ⟨lines, ⟨cs.length, r, v, by rw [List.take_length, hout], hlines, .inl rfl⟩, hwritten⟩
  | error f =>
    obtain ⟨n, hstopped⟩ := hinvariant
    obtain ⟨r, v₁, hbefore, hcompleted, hsame⟩ := hstopped.before
    obtain ⟨lines, hlines, hwritten⟩ := hcompleted.written
    exact ⟨lines, ⟨n, r, v₁, hbefore, hlines, .inr ⟨f, v, hstopped.untouched⟩⟩,
      hsame.trans hwritten⟩

/-- For any candidates and whatever the environment asks for as a level: the status of a run is zero
exactly if the comparison is finished, and one exactly if the harness fails; any other failure passes
through. The failure of the harness is the only error that is recorded, if the level lets errors
through. What is written to the report are the lines of the comparison, and nothing else. -/
theorem runComparison_concludes (candidates : Option (List Candidate)) (name : String)
    (args : List Value) (sink : Sink) (w : World) (text : String) :
    Concludes w text ((compare (w.candidatesOf candidates) name args sink false).outcome w)
        ((runComparison candidates name args sink).outcome (w.heard w.logger text)) ∧
      ∃ lines, LinesBefore (w.candidatesOf candidates) name args sink w lines ∧
        ((runComparison candidates name args sink).outcome (w.heard w.logger text)).2.writtenTo sink =
          w.writtenTo sink ++ String.join (lines.map (· ++ "\n")) := by
  obtain ⟨l, honly, hrun⟩ := outcome_runComparison candidates name args sink w text
  obtain ⟨lines, hlines, hwritten⟩ := writtenTo_compare (w.candidatesOf candidates) name args sink w
  rw [hrun]
  rcases hcompare : (compare (w.candidatesOf candidates) name args sink false).outcome w with
    ⟨result, v⟩
  rw [hcompare] at hwritten
  refine ⟨Concludes.of_exitStatus honly, lines, hlines, ?_⟩
  rw [← hwritten]
  cases sink <;> rfl

end WasmGauge
