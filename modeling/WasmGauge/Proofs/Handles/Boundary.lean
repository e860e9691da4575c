import WasmGauge.Proofs.Comparison.Reports
import WasmGauge.Proofs.Handles.Arguments
import WasmGauge.Proofs.Handles.Isolation

/-!
# The boundary of a timed call

A timed call either is refused before anything happens, or runs the function once, with nothing but
that between two readings of the clock. A function that traps has read the clock once, and the handle
goes on from what the trap has left. Calls of host functions have the same boundary.

## Main statements

- `Handle.Takes.invoke`: a call whose arguments are taken over is one run between two readings.
- `Handle.timing_boundary`: every timed call is refused without a trace or timed exactly.
-/

namespace WasmGauge

open Wasm (Val)

/-! ## §1 Refused calls -/

/-- A timed call is refused: it comes to nothing but the failure, and whatever a handle is asked before
and after it, the answers and the world at the end are the same without it. -/
structure Handle.Refuses (h : Handle) (name : String) (args : List Value) (label : Value)
    (f : Failure) : Prop where
  /-- The failure comes at once, before the clock is read and the function is entered. -/
  atOnce : h.invoke name args label = Act.fail f
  /-- The world stays as it is. -/
  untouched (w : World) : (h.invoke name args label).outcome w = (.error f, w)
  /-- The other requests are answered as if this one had not been made. -/
  forgotten (before after : List Request) (w : World) : ∃ answers w',
    h.replay (before ++ after) w = ((h.replay before w).1 ++ answers, w') ∧
      h.replay (before ++ .invoke name args label :: after) w =
        ((h.replay before w).1 ++ .error f :: answers, w')

theorem Handle.Refuses.of_accept {h : Handle} {name : String} {args : List Value} {f : Failure}
    (haccept : h.accept name args = .error f) (label : Value) : h.Refuses name args label f where
  atOnce := Handle.invoke_of_refused haccept label
  untouched w := by rw [Handle.invoke_of_refused haccept label]; rfl
  forgotten before after w := by
    have hanswer : ((Request.invoke name args label).perform h).outcome (h.replay before w).2 =
        (.error f, (h.replay before w).2) := by
      show ((h.invoke name args label) >>= fun m => pure m.value).outcome _ = _
      rw [Handle.invoke_of_refused haccept label]
      rfl
    refine ⟨_, _, h.replay_append before after w, ?_⟩
    rw [h.replay_append before (.invoke name args label :: after) w]
    -- the refused request hands the world on as it found it
    simp only [Handle.replay, hanswer]

/-! ## §2 Timed runs -/

def Handle.timedRun (h : Handle) (index : Nat) (vals : List Val) (name : String)
    (checked : List Value) (label : Value) : Act Measurement := do
  let start ← Act.readClock
  match ← h.run index vals with
  | .error trap => Act.fail (.invocation name trap)
  | .ok results =>
    let stop ← Act.readClock
    let m : Measurement :=
      ⟨name, checked, resultOf results, .float (Clock.milliseconds start stop), label⟩
    m.log h.source.name
    pure m

/-- A timed call runs the function with an index once, on these values. -/
structure Handle.Times (h : Handle) (name : String) (args : List Value) (label : Value)
    (checked : List Value) (index : Nat) (vals : List Val) : Prop where
  /-- The call is one run between two readings of the clock. -/
  once : h.invoke name args label = h.timedRun index vals name checked label
  /-- If the function traps, the clock has been read once, and the handle has become what the trap has
  left. -/
  trapped (w : World) (trap : Wasm.Trap) (i : Wasm.Instance) :
    (h.current w).call w.bounds index vals = (.error trap, i) → ∃ w',
      (h.invoke name args label).outcome w = (.error (.invocation name trap), w') ∧
        w' = (w.later 1).became h i ∧ w'.clock.reads = w.clock.reads + 1 ∧ h.current w' = i
  /-- If it returns, the clock has been read twice, and the measurement has the time in between. -/
  returned (w : World) (results : List Val) (i : Wasm.Instance) :
    (h.current w).call w.bounds index vals = (.ok results, i) → ∃ w' logger,
      (h.invoke name args label).outcome w =
          (.ok ⟨name, checked, resultOf results,
            .float ((w.clock.reading (w.clock.reads + 1) - w.clock.reading w.clock.reads) * 1000),
            label⟩, w') ∧
        w' = { (w.later 2).became h i with logger := logger } ∧
        w'.clock.reads = w.clock.reads + 2 ∧ h.current w' = i

section Times

variable {h : Handle} {name : String} {args checked : List Value} {index : Nat}
  {type : Wasm.FuncType} {vals : List Val}

theorem Handle.Takes.invoke (ht : h.Takes name args checked index type vals) (label : Value) :
    h.invoke name args label = h.timedRun index vals name checked label := by
  rw [Handle.invoke_of_accepted ht.accept label]
  unfold measured timed Handle.callAccepted Handle.timedRun
  rw [ht.enter]
  simp only [bind_assoc, bind_map_left, pure_bind]
  refine bind_congr fun start => bind_congr fun result => ?_
  -- a trap is passed on by its name, and results are made one value
  cases result with
  | error trap => rfl
  | ok results => rfl

theorem Handle.Takes.times (ht : h.Takes name args checked index type vals) (label : Value) :
    h.Times name args label checked index vals where
  once := ht.invoke label
  trapped w trap i hcall := by
    have haccepted := ht.outcome_callAccepted (w.later 1)
    -- reading the clock changes neither the instance nor the bounds
    rw [show (h.current (w.later 1)).call (w.later 1).bounds index vals =
      (h.current w).call w.bounds index vals from rfl, hcall] at haccepted
    refine ⟨_, ?_, rfl, rfl, World.current_became _ h i⟩
    rw [Handle.invoke_of_accepted ht.accept label]
    exact outcome_measured_of_error _ _ haccepted
  returned w results i hcall := by
    have haccepted := ht.outcome_callAccepted (w.later 1)
    rw [show (h.current (w.later 1)).call (w.later 1).bounds index vals =
      (h.current w).call w.bounds index vals from rfl, hcall] at haccepted
    obtain ⟨logger, hmeasured⟩ := outcome_measured_of_ok (⟨name, checked, ·, ·, label⟩)
      h.source.name haccepted rfl
    refine ⟨_, logger, ?_, rfl, rfl, World.current_became _ h i⟩
    rw [Handle.invoke_of_accepted ht.accept label]
    exact hmeasured

end Times

/-! ## §3 Host functions -/

/-- A timed call of a host function, which may be any step, calls it once. -/
structure TimesHost (name : String) (call : List Value → Act Value) (args : List Value)
    (label : Value) : Prop where
  /-- Between the two readings of the clock, there is the call. -/
  once : timeCall name call args label = (do
    let start ← Act.readClock
    let value ← call args
    let stop ← Act.readClock
    let m : Measurement := ⟨name, args, value, .float (Clock.milliseconds start stop), label⟩
    m.log "host"
    pure m)
  /-- A failure passes through as it is, after one reading. -/
  raised (w w' : World) (f : Failure) : (call args).outcome (w.later 1) = (.error f, w') →
    (timeCall name call args label).outcome w = (.error f, w')
  /-- A value is measured, with one more reading. -/
  returned (w w' : World) (value : Value) : (call args).outcome (w.later 1) = (.ok value, w') →
    ∃ logger, (timeCall name call args label).outcome w =
      (.ok ⟨name, args, value,
          .float ((w'.clock.reading w'.clock.reads - w.clock.reading w.clock.reads) * 1000), label⟩,
        { w'.later 1 with logger := logger })

theorem timesHost (name : String) (call : List Value → Act Value) (args : List Value)
    (label : Value) : TimesHost name call args label where
  once := by
    unfold timeCall timed
    simp only [bind_assoc, pure_bind]
  raised w w' f hcall := outcome_measured_of_error (⟨name, args, ·, ·, label⟩) "host" hcall
  returned w w' value hcall := by
    have htimed : (timed (call args)).outcome w =
        (.ok (value, Clock.milliseconds (w.clock.reading w.clock.reads)
          (w'.clock.reading w'.clock.reads)), w'.later 1) := by
      rw [Act.outcome_timed, show { w with clock := w.clock.read.2 } = w.later 1 from rfl, hcall]
      rfl
    obtain ⟨logger, hlog⟩ := Measurement.outcome_log ⟨name, args, value, .float
      (Clock.milliseconds (w.clock.reading w.clock.reads) (w'.clock.reading w'.clock.reads)),
      label⟩ "host" (w'.later 1)
    refine ⟨logger, ?_⟩
    unfold timeCall
    rw [Act.outcome_bind_of_ok htimed]
    exact Act.outcome_bind_of_ok hlog

/-! ## §4 The boundary -/

/-- Every timed call of an exported function is refused without a trace, because there is no such
function or because its arguments do not go with it, or it is timed. A call of a host function is
always timed. -/
theorem Handle.timing_boundary {x : Executable} {w₀ w₁ : World} {h : Handle}
    (hmade : x.instantiate.outcome w₀ = (.ok h, w₁)) :
    (∀ (name : String) (args : List Value) (label : Value),
      (h.exports.lookup name = none →
        h.Refuses name args label (.exportNotFound name h.names)) ∧
      (∀ s fault, h.exports.lookup name = some s → s.check args = .error fault →
        h.Refuses name args label (.argument name s fault)) ∧
      (∀ s checked, h.exports.lookup name = some s → s.check args = .ok checked →
        ∃ index type vals, h.start.function? name = some (index, type) ∧
          s = Signature.ofType type ∧ convertArguments type.params checked = .ok vals ∧
          h.Times name args label checked index vals)) ∧
    (∀ name call args label, TimesHost name call args label) := by
  have hnamed := Handle.named_of_instantiate hmade
  refine ⟨fun name args label => ⟨?_, ?_, ?_⟩, timesHost⟩
  · intro hnone
    apply Refuses.of_accept
    unfold accept lookup
    rw [hnone]
    rfl
  · intro s fault hlookup hcheck
    apply Refuses.of_accept
    rw [h.accept_of_lookup hlookup, hcheck]
    rfl
  · intro s checked hlookup hcheck
    have haccept : h.accept name args = .ok checked := by
      rw [h.accept_of_lookup hlookup, hcheck]
      rfl
    obtain ⟨index, type, vals, ht⟩ := takes_of_accept hnamed haccept
    have hs : s = Signature.ofType type := Option.some.inj (hlookup.symm.trans ht.lookup)
    exact ⟨index, type, vals, ht.function, hs, ht.taken.convertArguments, ht.times label⟩

theorem Bundle.exports_fib : ∃ h w,
    (Bundle.fib.load Engine.shared false false).outcome (World.start []) = (.ok h, w) ∧
      h.exports = [("fib", ⟨["i32"], ["i32"]⟩)] := by
  have hexports : ((Bundle.fib.load Engine.shared false false).outcome
      (World.start [])).1.toOption.map Handle.exports = some [("fib", ⟨["i32"], ["i32"]⟩)] := by
    decide +kernel
  rcases hload : (Bundle.fib.load Engine.shared false false).outcome (World.start []) with
    ⟨result, w⟩
  rw [hload] at hexports
  cases result with
  | error f => cases hexports
  | ok h => exact ⟨h, w, rfl, Option.some.inj hexports⟩

/-- A handle of a bundled module: a name that it does not give out and too few arguments are refused,
and the right ones are timed. -/
theorem Handle.timing_boundary_fib : ∃ h w,
    (Bundle.fib.load Engine.shared false false).outcome (World.start []) = (.ok h, w) ∧
      h.Refuses "fob" [.int 1] .none (.exportNotFound "fob" ["fib"]) ∧
      h.Refuses "fib" [] .none (.argument "fib" ⟨["i32"], ["i32"]⟩ (.count 1 0)) ∧
      ∃ index vals, h.Times "fib" [.int 2] .none [.int 2] index vals := by
  obtain ⟨h, w, hload, hexports⟩ := Bundle.exports_fib
  have hnames : h.names = ["fib"] := congrArg (List.map Prod.fst) hexports
  have hfib : h.exports.lookup "fib" = some ⟨["i32"], ["i32"]⟩ := by rw [hexports]; rfl
  have hfob : h.exports.lookup "fob" = none := by rw [hexports]; rfl
  obtain ⟨x, w₁, -, hmade⟩ := Act.outcome_bind_eq_ok hload
  obtain ⟨hcalls, -⟩ := timing_boundary hmade
  obtain ⟨index, type, vals, -, -, -, htimes⟩ :=
    (hcalls "fib" [.int 2] .none).2.2 _ [.int 2] hfib rfl
  refine ⟨h, w, hload, ?_, ?_, index, vals, htimes⟩
  · exact hnames ▸ (hcalls "fob" [.int 1] .none).1 hfob
  · exact (hcalls "fib" [] .none).2.1 _ _ hfib rfl

end WasmGauge
