import WasmGauge.Proofs.Comparison.Reports

/-!
# Steps that do not heed the logger

Nothing that a comparison does depends on the logger or on the level that the environment asks for. A
step does not heed them if it gives the same result and the same world with any other logger and any
other level, and logs only what helps to find faults.

The property is passed on by composed steps, so that it is shown part by part, from the steps that
touch one field of the world up to the report of a candidate.

## Main statements

- `Act.Unheeding.bind`: steps one after another heed the logger no more than each of them does.
- `Candidate.unheeding_report`: without a cache, the report of a candidate does not heed the logger.
-/

namespace WasmGauge

open Wasm (Bytes)

/-! ## §1 Loggers and worlds -/

/-- A logger after a while in which only what helps to find faults has been logged. -/
structure Logger.OnlyDebugged (l l' : Logger) : Prop where
  /-- Nothing has been configured. -/
  level : l'.level = l.level
  handlers : l'.handlers = l.handlers
  /-- What has been let through since then. -/
  records : ∃ rs : List LogRecord, l'.records = l.records ++ rs ∧ ∀ r ∈ rs, r.rank = Level.debug

namespace Logger.OnlyDebugged

variable {l l' l'' : Logger}

theorem refl (l : Logger) : l.OnlyDebugged l :=
  ⟨rfl, rfl, [], (List.append_nil _).symm, fun _ h => nomatch h⟩

theorem trans (h : l.OnlyDebugged l') (h' : l'.OnlyDebugged l'') : l.OnlyDebugged l'' := by
  obtain ⟨rs, hrecords, hdebug⟩ := h.records
  obtain ⟨rs', hrecords', hdebug'⟩ := h'.records
  refine ⟨h'.level.trans h.level, h'.handlers.trans h.handlers, rs ++ rs', ?_, fun r hr => ?_⟩
  · rw [hrecords', hrecords, List.append_assoc]
  · rcases List.mem_append.1 hr with hr | hr
    · exact hdebug r hr
    · exact hdebug' r hr

theorem emit (l : Logger) {r : LogRecord} (hr : r.rank = Level.debug) : l.OnlyDebugged (l.emit r) := by
  unfold Logger.emit
  -- only a record of its own that is let through is kept
  split
  · exact ⟨rfl, rfl, [], (List.append_nil _).symm, fun _ h => nomatch h⟩
  · split
    · exact ⟨rfl, rfl, [r], rfl, fun _ h => List.mem_singleton.1 h ▸ hr⟩
    · exact refl l

end Logger.OnlyDebugged

/-- A world with another logger, and another level in the environment. -/
def World.heard (w : World) (l : Logger) (level : String) : World :=
  { w with logger := l, settings := { w.settings with logLevel := level } }

/-! ## §2 Steps -/

namespace Act

variable {α β : Type}

/-- A step does not heed the logger: with any other one, and any other level in the environment, it
comes to the same, and logs nothing but what helps to find faults. -/
def Unheeding (act : Act α) : Prop :=
  ∀ (w : World) (l : Logger) (level : String), ∃ l', l.OnlyDebugged l' ∧
    act.outcome (w.heard l level) = ((act.outcome w).1, (act.outcome w).2.heard l' level)

namespace Unheeding

theorem bind {act : Act α} {next : α → Act β} (first : act.Unheeding)
    (second : ∀ a, (next a).Unheeding) : (act >>= next).Unheeding := by
  intro w l level
  obtain ⟨l₁, hfirst, hact⟩ := first w l level
  rw [outcome_bind, outcome_bind, hact]
  rcases act.outcome w with ⟨result, w₁⟩
  -- what has been logged so far is the same kind of record, so the rest may follow it
  cases result with
  | error f => exact ⟨l₁, hfirst, rfl⟩
  | ok a =>
    obtain ⟨l₂, hsecond, hnext⟩ := second a w₁ l₁ level
    exact ⟨l₂, hfirst.trans hsecond, hnext⟩

/-- A step that does not log, and whose outcome goes with the logger as it is. -/
theorem of_silent {act : Act α}
    (h : ∀ w l level, act.outcome (World.heard w l level) =
      ((act.outcome w).1, (act.outcome w).2.heard l level)) : act.Unheeding :=
  fun w l level => ⟨l, .refl l, h w l level⟩

theorem pure (a : α) : (Pure.pure a : Act α).Unheeding := of_silent fun _ _ _ => rfl

theorem fail (f : Failure) : (Act.fail f : Act α).Unheeding := of_silent fun _ _ _ => rfl

theorem get_bind {next : World → Act α} (each : ∀ w, (next w).Unheeding)
    (same : ∀ w l level, next (World.heard w l level) = next w) : (get >>= next).Unheeding := by
  intro w l level
  rw [outcome_bind_of_ok (outcome_get _), outcome_bind_of_ok (outcome_get w), same]
  exact each w w l level

theorem debug (part message : String) : (Act.debug part message).Unheeding :=
  fun _ l _ => ⟨_, .emit l rfl, rfl⟩

theorem readClock : Act.readClock.Unheeding := of_silent fun _ _ _ => rfl

theorem freshId : Act.freshId.Unheeding := of_silent fun _ _ _ => rfl

theorem compiledFor (engine : Engine) (a : Artifact) : (Act.compiledFor engine a).Unheeding :=
  freshId.bind fun _ => pure _

theorem write (sink : Sink) (text : String) : (Act.write sink text).Unheeding :=
  of_silent fun _ _ _ => by cases sink <;> rfl

theorem ofExcept (x : Except Failure α) : (MonadExcept.ofExcept x : Act α).Unheeding :=
  of_silent fun _ _ _ => by rw [outcome_ofExcept, outcome_ofExcept]

theorem ofValue (x : Except Fault α) : (Act.ofValue x).Unheeding :=
  of_silent fun _ _ _ => by rw [outcome_ofValue, outcome_ofValue]

theorem timed {act : Act α} (h : act.Unheeding) : (WasmGauge.timed act).Unheeding :=
  readClock.bind fun _ => h.bind fun _ => readClock.bind fun _ => pure _

end Unheeding

end Act

open Act (Unheeding)

/-! ## §3 Loading -/

namespace Source

variable {data : Bytes}

theorem unheeding_readModule (s : Source) : s.readModule.Unheeding :=
  Unheeding.of_silent fun w l level => by
    rw [s.outcome_readModule, s.outcome_readModule]
    rfl

theorem unheeding_compileData (s : Source) (data : Bytes) (engine : Engine) :
    (s.compileData data engine).Unheeding := by
  unfold compileData
  cases Artifact.ofData? data with
  | none => exact .fail _
  | some a =>
    refine .bind (.compiledFor engine a) fun m => ?_
    exact .bind (.debug _ _) fun _ => .pure m

/-- A cache is left out here: it logs what it does not find fit for use. -/
theorem unheeding_load (s : Source) (engine : Engine) : (s.load engine false false).Unheeding := by
  unfold load compile
  apply Unheeding.bind
  · refine .bind s.unheeding_readModule fun data => ?_
    refine .bind (.pure _) fun _ => ?_
    exact .bind (s.unheeding_compileData data engine) fun _ => .pure _
  · intro x
    unfold Executable.instantiate
    refine .get_bind (fun w => ?_) fun _ _ _ => rfl
    cases x.instance? w.bounds with
    | error cause => exact .fail _
    | ok i =>
      refine .bind .freshId fun id => ?_
      -- the instance is put down in a field of its own
      refine .bind (.of_silent fun _ _ _ => rfl) fun _ => ?_
      exact .bind (.debug _ _) fun _ => .pure _

end Source

/-! ## §4 Calls -/

theorem Handle.unheeding_run (h : Handle) (index : Nat) (vals : List Wasm.Val) :
    (h.run index vals).Unheeding := by
  unfold run
  refine .get_bind (fun w => ?_) fun _ _ _ => rfl
  exact .bind (.of_silent fun _ _ _ => rfl) fun _ => .pure _

theorem Handle.unheeding_callAccepted (h : Handle) (name : String) (args : List Value) :
    (h.callAccepted name args).Unheeding := by
  unfold callAccepted enter
  apply Unheeding.bind
  · cases h.start.function? name with
    | none => exact .fail _
    | some found =>
      simp only
      cases convertArguments found.2.params args with
      | error f => exact .fail f
      | ok vals =>
        refine .bind (h.unheeding_run found.1 vals) fun result => ?_
        cases result <;> exact .pure _
  · intro result
    cases result with
    | ok v => exact .pure v
    | error trap => exact .fail _

theorem unheeding_measured {act : Act Value} (h : act.Unheeding)
    (shape : Value → Value → Measurement) (place : String) : (measured act shape place).Unheeding := by
  unfold measured Measurement.log
  refine .bind h.timed fun timing => .bind ?_ fun _ => .pure _
  cases (shape timing.1 (.float timing.2)).note place with
  | ok text => exact .debug "api" text
  | error fault => exact .pure _

theorem Handle.unheeding_invoke (h : Handle) (name : String) (args : List Value) (label : Value) :
    (h.invoke name args label).Unheeding := by
  cases haccept : h.accept name args with
  | error f =>
    rw [Handle.invoke_of_refused haccept]
    exact .fail f
  | ok checked =>
    rw [Handle.invoke_of_accepted haccept]
    exact unheeding_measured (h.unheeding_callAccepted name checked) _ _

/-! ## §5 Reports -/

/-- Without a cache, the report of a candidate does not heed the logger. -/
theorem Candidate.unheeding_report (c : Candidate) (name : String) (args : List Value) (sink : Sink) :
    (c.report name args sink false).Unheeding := by
  unfold Candidate.report
  apply Unheeding.bind
  · cases hsubject : c.subject with
    | reference r =>
      rw [c.measure_of_reference hsubject]
      exact unheeding_measured (.ofExcept _) _ _
    | source s =>
      unfold Candidate.measure
      simp only [hsubject]
      exact .bind (s.unheeding_load Engine.shared) fun h => h.unheeding_invoke name args c.label
  · intro m
    refine .bind (.ofValue m.line) fun line => ?_
    exact .bind (.write sink _) fun _ => .pure m

end WasmGauge
