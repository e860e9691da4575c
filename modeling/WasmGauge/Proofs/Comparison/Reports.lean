import WasmGauge.Proofs.Comparison.Steps
import WasmGauge.Proofs.Footprint
import WasmGauge.Proofs.Handles.Instantiation

/-!
# Reports of candidates

What the report of one candidate does to the clock and to what has been written. The clock is read
once right before the call and once right after it, so that a candidate that fails has read it not at
all, once or twice, according to how far it got. A line is written at the very end or not at all.

## Main statements

- `Candidate.report_of_ok`: a report that succeeds writes its line and has read the clock twice.
- `Candidate.report_of_error`: a report that fails writes nothing, and how often it has read the clock
  says how far it got.
-/

namespace WasmGauge

def World.later (w : World) (n : Nat) : World :=
  { w with clock := { w.clock with reads := w.clock.reads + n } }

theorem World.later_later (w : World) (n n' : Nat) : (w.later n).later n' = w.later (n + n') := by
  unfold World.later
  rw [Nat.add_assoc]

def World.writtenTo (w : World) : Sink → String
  | .out => w.out
  | .stream => w.stream

def World.wrote (w : World) (sink : Sink) (text : String) : World :=
  match sink with
  | .out => { w with out := w.out ++ text }
  | .stream => { w with stream := w.stream ++ text }

theorem World.outcome_write (sink : Sink) (text : String) (w : World) :
    (Act.write sink text).outcome w = (.ok ⟨⟩, w.wrote sink text) := by
  cases sink <;> rfl

@[simp] theorem World.writtenTo_wrote (w : World) (sink : Sink) (text : String) :
    (w.wrote sink text).writtenTo sink = w.writtenTo sink ++ text := by
  cases sink <;> rfl

@[simp] theorem World.clock_wrote (w : World) (sink : Sink) (text : String) :
    (w.wrote sink text).clock = w.clock := by
  cases sink <;> rfl

@[simp] theorem World.bounds_wrote (w : World) (sink : Sink) (text : String) :
    (w.wrote sink text).bounds = w.bounds := by
  cases sink <;> rfl

/-- Two worlds that look the same to the report of a candidate: the clock, the bounds of calls, and
what has been written. -/
structure World.LooksLike (w w' : World) : Prop where
  clock : w'.clock = w.clock
  bounds : w'.bounds = w.bounds
  out : w'.out = w.out
  stream : w'.stream = w.stream

namespace World.LooksLike

variable {u v w : World}

theorem refl (w : World) : w.LooksLike w := ⟨rfl, rfl, rfl, rfl⟩

theorem trans (h : u.LooksLike v) (h' : v.LooksLike w) : u.LooksLike w :=
  ⟨h'.clock.trans h.clock, h'.bounds.trans h.bounds, h'.out.trans h.out, h'.stream.trans h.stream⟩

theorem of_footprint (h : w.Footprint false v) : w.LooksLike v := by
  have hrest := h.rest
  exact ⟨by rw [hrest], by rw [hrest], h.out rfl, by rw [hrest]⟩

theorem of_entered {id : Nat} (h : w.Entered id v) : w.LooksLike v := by
  have hrest := h.rest
  exact ⟨by rw [hrest], by rw [hrest], by rw [hrest], by rw [hrest]⟩

theorem writtenTo (h : w.LooksLike v) (sink : Sink) : v.writtenTo sink = w.writtenTo sink := by
  cases sink
  · exact h.out
  · exact h.stream

end World.LooksLike

/-! ## §1 Loading -/

theorem Executable.looksLike_instantiate (x : Executable) :
    x.instantiate.Moves World.LooksLike := by
  intro w
  cases hi : x.instance? w.bounds with
  | error cause =>
      rw [outcome_instantiate_of_error hi]
      exact World.LooksLike.refl w
  | ok i =>
      obtain ⟨logger, hout⟩ := outcome_instantiate_of_ok hi
      rw [hout]
      exact ⟨rfl, rfl, rfl, rfl⟩

/-- Loading a source silently cannot be seen by a report. -/
theorem Source.looksLike_load (s : Source) (engine : Engine) (useCache : Bool) :
    (s.load engine useCache false).Moves World.LooksLike :=
  Act.Moves.bind (R := World.LooksLike) World.LooksLike.trans
    (fun w => World.LooksLike.of_footprint (s.footprint_compile engine useCache w))
    Executable.looksLike_instantiate

/-! ## §2 Timed calls -/

/-- What timed calls of exported functions and of host functions have in common: a step is timed, and
its measurement is logged. -/
def measured (act : Act Value) (shape : Value → Value → Measurement) (place : String) :
    Act Measurement := do
  let (value, elapsed) ← timed act
  let m := shape value (.float elapsed)
  m.log place
  pure m

theorem Handle.invoke_of_refused {h : Handle} {name : String} {args : List Value} {f : Failure}
    (haccept : h.accept name args = .error f) (label : Value) :
    h.invoke name args label = Act.fail f := by
  unfold invoke
  rw [haccept]

theorem Handle.invoke_of_accepted {h : Handle} {name : String} {args checked : List Value}
    (haccept : h.accept name args = .ok checked) (label : Value) :
    h.invoke name args label =
      measured (h.callAccepted name checked) (⟨name, checked, ·, ·, label⟩) h.source.name := by
  unfold invoke
  rw [haccept]
  rfl

theorem Reference.time_eq_measured (r : Reference) (args : List Value) (label : Value)
    (name : String) :
    r.time args label name =
      measured (MonadExcept.ofExcept (r.call args))
        (⟨if name = "" then r.name else name, args, ·, ·, label⟩) "host" := rfl

theorem Measurement.outcome_log (m : Measurement) (place : String) (w : World) :
    ∃ logger, (m.log place).outcome w = (.ok ⟨⟩, { w with logger := logger }) := by
  unfold Measurement.log
  cases m.note place with
  | ok text => exact ⟨_, Act.outcome_debug _ _ w⟩
  | error fault => exact ⟨w.logger, rfl⟩

section Measured

variable {act : Act Value} {shape : Value → Value → Measurement} {place : String} {w w' : World}

/-- A call that fails has read the clock once. -/
theorem outcome_measured_of_error (shape : Value → Value → Measurement) (place : String)
    {f : Failure} (hact : act.outcome (w.later 1) = (.error f, w')) :
    (measured act shape place).outcome w = (.error f, w') := by
  have htimed : (timed act).outcome w = (.error f, w') := by
    rw [Act.outcome_timed, show { w with clock := w.clock.read.2 } = w.later 1 from rfl, hact]
  exact Act.outcome_bind_of_error htimed

/-- A call that succeeds has read the clock twice, and took the time in between. -/
theorem outcome_measured_of_ok (shape : Value → Value → Measurement) (place : String)
    {value : Value} (hact : act.outcome (w.later 1) = (.ok value, w')) (hclock : w'.clock = (w.later 1).clock) :
    ∃ logger, (measured act shape place).outcome w =
      (.ok (shape value (.float (Clock.milliseconds (w.clock.reading w.clock.reads)
          (w.clock.reading (w.clock.reads + 1))))),
        { w' with clock := (w.later 2).clock, logger := logger }) := by
  have htimed : (timed act).outcome w =
      (.ok (value, Clock.milliseconds (w.clock.reading w.clock.reads)
        (w.clock.reading (w.clock.reads + 1))), { w' with clock := (w.later 2).clock }) := by
    rw [Act.outcome_timed, show { w with clock := w.clock.read.2 } = w.later 1 from rfl, hact]
    simp only [hclock]
    rfl
  obtain ⟨logger, hlog⟩ := Measurement.outcome_log
    (shape value (.float (Clock.milliseconds (w.clock.reading w.clock.reads)
      (w.clock.reading (w.clock.reads + 1))))) place { w' with clock := (w.later 2).clock }
  refine ⟨logger, ?_⟩
  unfold measured
  rw [Act.outcome_bind_of_ok htimed]
  simp only
  rw [Act.outcome_bind_of_ok hlog]
  rfl

/-- What is measured of a host function depends on the clock alone. -/
theorem measured_ofExcept (x : Except Failure Value) (shape : Value → Value → Measurement)
    (place : String) (w : World) :
    ((measured (MonadExcept.ofExcept x) shape place).outcome w).1 =
      x.map fun value => shape value (.float (Clock.milliseconds
        (w.clock.reading w.clock.reads) (w.clock.reading (w.clock.reads + 1)))) := by
  have hcall := Act.outcome_ofExcept x (w.later 1)
  cases x with
  | error f => rw [outcome_measured_of_error shape place hcall]; rfl
  | ok value =>
      obtain ⟨logger, hout⟩ := outcome_measured_of_ok shape place hcall rfl
      rw [hout]
      rfl

end Measured

/-! ## §3 Candidates -/

namespace Candidate

variable {c : Candidate} {name : String} {args : List Value} {useCache : Bool} {sink : Sink}
  {w w' : World} {f : Failure} {m : Measurement}

/-- What comes before the clock is read: a module is loaded, the function is looked up, and the
arguments are checked. A host function needs none of this. -/
def prepare (c : Candidate) (name : String) (args : List Value) (useCache : Bool) : Act Unit :=
  match c.subject with
  | .reference _ => pure ()
  | .source s => do
    match (← s.load Engine.shared useCache false).accept name args with
    | .error f => Act.fail f
    | .ok _ => pure ()

/-- How often the clock is read for a candidate: not at all if it cannot be prepared, once if the call
fails, and twice if there is a measurement. -/
def readings (c : Candidate) (name : String) (args : List Value) (useCache : Bool) (w : World) :
    Nat :=
  match ((c.prepare name args useCache).outcome w).1,
    ((c.measure name args useCache).outcome w).1 with
  | .error _, _ => 0
  | .ok _, .error _ => 1
  | .ok _, .ok _ => 2

/-- A candidate that cannot be prepared fails for this reason, and cannot be seen to have been
tried. -/
theorem measure_of_unprepared (h : (c.prepare name args useCache).outcome w = (.error f, w')) :
    (c.measure name args useCache).outcome w = (.error f, w') ∧ w.LooksLike w' := by
  unfold prepare measure at *
  -- a host function is always prepared, so it is a module that cannot be
  cases hsubject : c.subject with
  | reference r =>
      rw [hsubject] at h
      cases h
  | source s =>
      simp only [hsubject] at h ⊢
      have hlooks := s.looksLike_load Engine.shared useCache w
      rcases hload : (s.load Engine.shared useCache false).outcome w with ⟨result, w₁⟩
      rw [hload] at hlooks
      cases result with
      | error g =>
          rw [Act.outcome_bind_of_error hload] at h ⊢
          cases h
          exact ⟨rfl, hlooks⟩
      | ok g =>
          rw [Act.outcome_bind_of_ok hload] at h ⊢
          cases haccept : g.accept name args with
          | ok checked =>
              rw [haccept] at h
              cases h
          | error f' =>
              rw [haccept] at h
              rw [Handle.invoke_of_refused haccept]
              cases h
              exact ⟨rfl, hlooks⟩

/-- What can be seen after a candidate that was prepared has been tried: the clock has been read once
if the call failed, and twice if there is a measurement. -/
def SeenAfter (label : Value) (w : World) : Except Failure Measurement × World → Prop
  | (.error _, w') => (w.later 1).LooksLike w'
  | (.ok m, w') => (w.later 2).LooksLike w' ∧ m.label = label

/-- Timing a step that leaves the clock, the bounds and what has been written alone. -/
theorem seenAfter_measured {act : Act Value} (hact : act.Moves World.LooksLike)
    {shape : Value → Value → Measurement} {label : Value}
    (hlabel : ∀ value elapsed, (shape value elapsed).label = label) (place : String) (w : World) :
    SeenAfter label w ((measured act shape place).outcome w) := by
  have hlooks := hact (w.later 1)
  rcases hout : act.outcome (w.later 1) with ⟨result, w₁⟩
  rw [hout] at hlooks
  -- the second reading comes after the step, so only a step that succeeds gets to it
  cases result with
  | error f =>
      rw [outcome_measured_of_error shape place hout]
      exact hlooks
  | ok value =>
      obtain ⟨logger, hmeasured⟩ := outcome_measured_of_ok shape place hout hlooks.clock
      rw [hmeasured]
      exact ⟨⟨rfl, hlooks.bounds, hlooks.out, hlooks.stream⟩, hlabel _ _⟩

theorem SeenAfter.of_looksLike {label : Value} {w₁ : World} (h : w.LooksLike w₁)
    {outcome : Except Failure Measurement × World} (hseen : SeenAfter label w₁ outcome) :
    SeenAfter label w outcome := by
  have hlater : ∀ n, (w.later n).LooksLike (w₁.later n) := fun n =>
    ⟨by simp only [World.later, h.clock], h.bounds, h.out, h.stream⟩
  -- both worlds show the same clock, so the same readings come next
  rcases outcome with ⟨_ | m, w'⟩
  · exact (hlater 1).trans hseen
  · exact ⟨(hlater 2).trans hseen.1, hseen.2⟩

theorem measure_of_reference (c : Candidate) {r : Reference} (hsubject : c.subject = .reference r) :
    c.measure name args useCache =
      measured (MonadExcept.ofExcept (r.call args))
        (⟨if name = "" then r.name else name, args, ·, ·, c.label⟩) "host" := by
  unfold measure
  rw [hsubject]
  exact r.time_eq_measured args c.label name

theorem seenAfter_measure (h : (c.prepare name args useCache).outcome w = (.ok ⟨⟩, w')) :
    SeenAfter c.label w ((c.measure name args useCache).outcome w) := by
  cases hsubject : c.subject with
  | reference r =>
      have hcall : (MonadExcept.ofExcept (r.call args) : Act Value).Moves World.LooksLike :=
        Act.Moves.of_same World.LooksLike.refl fun w => by rw [Act.outcome_ofExcept]
      rw [c.measure_of_reference hsubject]
      refine seenAfter_measured hcall ?_ "host" w
      exact fun _ _ => rfl
  | source s =>
      unfold prepare measure at *
      simp only [hsubject] at h ⊢
      have hlooks := s.looksLike_load Engine.shared useCache w
      rcases hload : (s.load Engine.shared useCache false).outcome w with ⟨result, w₁⟩
      rw [hload] at hlooks
      cases result with
      | error g =>
          rw [Act.outcome_bind_of_error hload] at h
          cases h
      | ok g =>
          rw [Act.outcome_bind_of_ok hload] at h ⊢
          cases haccept : g.accept name args with
          | error f' =>
              rw [haccept] at h
              cases h
          | ok checked =>
              rw [Handle.invoke_of_accepted haccept]
              have hcall : (g.callAccepted name checked).Moves World.LooksLike :=
                fun w => World.LooksLike.of_entered (g.entered_callAccepted name checked w)
              refine SeenAfter.of_looksLike hlooks (seenAfter_measured hcall ?_ g.source.name w₁)
              exact fun _ _ => rfl

/-! ## §4 Reports -/

theorem outcome_report (c : Candidate) (name : String) (args : List Value) (sink : Sink)
    (useCache : Bool) (w : World) :
    (c.report name args sink useCache).outcome w =
      match (c.measure name args useCache).outcome w with
      | (.error f, w') => (.error f, w')
      | (.ok m, w') =>
        match m.line with
        | .error fault => (.error (.value fault), w')
        | .ok line => (.ok m, w'.wrote sink (line ++ "\n")) := by
  unfold report
  rw [Act.outcome_bind]
  rcases (c.measure name args useCache).outcome w with ⟨result, w'⟩
  cases result with
  | error f => rfl
  | ok m =>
      simp only
      rw [Act.outcome_bind, Act.outcome_ofValue]
      cases m.line with
      | error fault => rfl
      | ok line => exact Act.outcome_bind_of_ok (World.outcome_write sink (line ++ "\n") w')

/-- What can be seen after a measurement, however far it got. -/
theorem measure_seen (c : Candidate) (name : String) (args : List Value) (useCache : Bool)
    (w : World) :
    match (c.measure name args useCache).outcome w with
    | (.error _, w') => (w.later (c.readings name args useCache w)).LooksLike w'
    | (.ok m, w') =>
        (w.later 2).LooksLike w' ∧ m.label = c.label ∧ c.readings name args useCache w = 2 := by
  unfold readings
  rcases hprepare : (c.prepare name args useCache).outcome w with ⟨prepared, w₀⟩
  cases prepared with
  | error f =>
      obtain ⟨hfail, hlooks⟩ := measure_of_unprepared hprepare
      rw [hfail]
      exact hlooks
  | ok _ =>
      have hseen := seenAfter_measure hprepare
      rcases hmeasure : (c.measure name args useCache).outcome w with ⟨result, w'⟩
      rw [hmeasure] at hseen
      cases result with
      | error f => exact hseen
      | ok m => exact ⟨hseen.1, hseen.2, rfl⟩

/-- A report that succeeds has read the clock twice, and written the line of its measurement. -/
theorem report_of_ok (h : (c.report name args sink useCache).outcome w = (.ok m, w')) :
    m.label = c.label ∧ w'.bounds = w.bounds ∧ w'.clock = (w.later 2).clock ∧
      ∃ line, m.line = .ok line ∧ w'.writtenTo sink = w.writtenTo sink ++ (line ++ "\n") := by
  have hseen := measure_seen c name args useCache w
  rw [outcome_report] at h
  rcases hmeasure : (c.measure name args useCache).outcome w with ⟨result, w₁⟩
  rw [hmeasure] at h hseen
  cases result with
  | error f => cases h
  | ok m₁ =>
      obtain ⟨hlooks, hlabel, -⟩ := hseen
      simp only at h
      -- only a line that has been written ends a report
      cases hline : m₁.line with
      | error fault =>
          rw [hline] at h
          cases h
      | ok line =>
          rw [hline] at h
          cases h
          refine ⟨hlabel, ?_, ?_, line, hline, ?_⟩
          · rw [World.bounds_wrote, hlooks.bounds]
            rfl
          · rw [World.clock_wrote, hlooks.clock]
          · rw [World.writtenTo_wrote, hlooks.writtenTo]
            rfl

/-- A report that fails has written nothing, and how often it has read the clock says how far it
got. -/
theorem report_of_error (h : (c.report name args sink useCache).outcome w = (.error f, w')) :
    w'.clock = (w.later (c.readings name args useCache w)).clock ∧
      w'.writtenTo sink = w.writtenTo sink := by
  have hseen := measure_seen c name args useCache w
  rw [outcome_report] at h
  rcases hmeasure : (c.measure name args useCache).outcome w with ⟨result, w₁⟩
  rw [hmeasure] at h hseen
  cases result with
  | error g =>
      cases h
      exact ⟨hseen.clock, hseen.writtenTo sink⟩
  | ok m₁ =>
      -- the call has succeeded, so it is the line that cannot be written
      obtain ⟨hlooks, -, hreadings⟩ := hseen
      simp only at h
      cases hline : m₁.line with
      | ok line =>
          rw [hline] at h
          cases h
      | error fault =>
          rw [hline] at h
          cases h
          rw [hreadings]
          exact ⟨hlooks.clock, hlooks.writtenTo sink⟩

end Candidate

end WasmGauge
