import WasmGauge.Gauge.Comparison
import WasmGauge.Proofs.Lookup
import WasmGauge.Proofs.Outcome

/-!
# Requests to handles

A handle is asked for the value of a function, with its arguments checked first or directly. What it
answers depends on how its instance began and on what the instance has become, and a request changes
nothing but this instance, the clock and the log.

## Main statements

- `Request.framed`: a request leaves everything but the instance, the clock and the log as it was.
- `Request.together`: the same request is answered alike by handles that are alike, and leaves them
  alike.
-/

namespace WasmGauge

open Wasm (Trap Val)

/-- Something that a handle can be asked for. -/
inductive Request where
  /-- A function is called, with its arguments checked first. -/
  | invoke (name : String) (args : List Value) (label : Value)
  /-- A function is called directly. -/
  | call (name : String) (args : List Value)

/-- Asks a handle. The answer is the value of the function. -/
def Request.perform (r : Request) (h : Handle) : Act Value :=
  match r with
  | .invoke name args label => do pure (← h.invoke name args label).value
  | .call name args => h.call name args

/-! ## §1 What a request leaves alone -/

/-- Two worlds that differ in one instance at most. -/
structure World.Entered (id : Nat) (w w' : World) : Prop where
  /-- All parts of the world but the instances are the same. -/
  rest : w' = { w with instances := w'.instances }
  /-- All instances but one are the same. -/
  others : ∀ other, other ≠ id → w'.instances.lookup other = w.instances.lookup other

/-- Two worlds that differ in the clock, the log and one instance at most. -/
structure World.CalledOn (id : Nat) (w w' : World) : Prop where
  /-- All parts of the world but three are the same. -/
  rest : w' = { w with clock := w'.clock, logger := w'.logger, instances := w'.instances }
  /-- All instances but one are the same. -/
  others : ∀ other, other ≠ id → w'.instances.lookup other = w.instances.lookup other

namespace World

variable {id : Nat} {u v w : World}

theorem Entered.refl (id : Nat) (w : World) : w.Entered id w := ⟨rfl, fun _ _ => rfl⟩

theorem Entered.trans (h : u.Entered id v) (h' : v.Entered id w) : u.Entered id w where
  rest := by
    have hrest := h'.rest
    rw [h.rest] at hrest
    exact hrest
  others := by
    intro other hother
    rw [h'.others other hother, h.others other hother]

theorem CalledOn.refl (id : Nat) (w : World) : w.CalledOn id w := ⟨rfl, fun _ _ => rfl⟩

theorem CalledOn.trans (h : u.CalledOn id v) (h' : v.CalledOn id w) : u.CalledOn id w where
  rest := by
    have hrest := h'.rest
    rw [h.rest] at hrest
    exact hrest
  others := by
    intro other hother
    rw [h'.others other hother, h.others other hother]

theorem Entered.calledOn (h : u.Entered id v) : u.CalledOn id v where
  rest := by rw [h.rest]
  others := h.others

end World

namespace Handle

variable {h : Handle}

theorem entered_of_same {α : Type} {act : Act α} (hsame : ∀ w, (act.outcome w).2 = w) :
    act.Moves (World.Entered h.id) :=
  Act.Moves.of_same (World.Entered.refl h.id) hsame

theorem entered_bind {α β : Type} {act : Act α} {next : α → Act β}
    (first : act.Moves (World.Entered h.id)) (second : ∀ a, (next a).Moves (World.Entered h.id)) :
    (act >>= next).Moves (World.Entered h.id) :=
  Act.Moves.bind (R := World.Entered h.id) World.Entered.trans first second

theorem entered_become (i : Wasm.Instance) : (h.become i).Moves (World.Entered h.id) := by
  intro w
  refine ⟨rfl, ?_⟩
  intro other hother
  show ((h.id, i) :: w.instances.filter fun x => x.1 != h.id).lookup other = _
  rw [lookup_cons_filter_ne, if_neg hother]

theorem entered_run (index : Nat) (args : List Val) :
    (h.run index args).Moves (World.Entered h.id) := by
  refine entered_bind (entered_of_same Act.outcome_get_snd) fun w => ?_
  exact entered_bind (entered_become _) fun _ => entered_of_same fun _ => rfl

/-! What running a function does to the world, a call does as well, since it does nothing else to it. -/

section Moving

variable {R : World → World → Prop} (refl : ∀ w, R w w) (trans : ∀ {u v w}, R u v → R v w → R u w)
  (run : ∀ index args, (h.run index args).Moves R)

include refl trans run

theorem moves_enter (name : String) (args : List Value) : (h.enter name args).Moves R := by
  unfold enter
  cases h.start.function? name with
  | none => exact Act.Moves.of_same refl fun _ => rfl
  | some found =>
      obtain ⟨index, type⟩ := found
      -- arguments that are not taken over fail before the function is run
      cases hargs : convertArguments type.params args with
      | error f =>
          simp only [hargs]
          exact Act.Moves.of_same refl fun _ => rfl
      | ok vals =>
          simp only [hargs]
          refine Act.Moves.bind (R := R) trans (run index vals) fun result => ?_
          cases result with
          | ok results => exact Act.Moves.of_same refl fun _ => rfl
          | error trap => exact Act.Moves.of_same refl fun _ => rfl

theorem moves_call (name : String) (args : List Value) : (h.call name args).Moves R := by
  refine Act.Moves.bind (R := R) trans (moves_enter refl trans run name args) fun result => ?_
  cases result with
  | ok v => exact Act.Moves.of_same refl fun _ => rfl
  | error trap => exact Act.Moves.of_same refl fun _ => rfl

theorem moves_callAccepted (name : String) (args : List Value) :
    (h.callAccepted name args).Moves R := by
  refine Act.Moves.bind (R := R) trans (moves_enter refl trans run name args) fun result => ?_
  cases result with
  | ok v => exact Act.Moves.of_same refl fun _ => rfl
  | error trap => exact Act.Moves.of_same refl fun _ => rfl

/-- A timed call also reads the clock and writes to the log. -/
theorem moves_invoke (clock : Act.readClock.Moves R)
    (log : ∀ (m : Measurement) (place : String), (m.log place).Moves R) (name : String)
    (args : List Value) (label : Value) : (h.invoke name args label).Moves R := by
  unfold invoke
  cases h.accept name args with
  | error f => exact Act.Moves.of_same refl fun _ => rfl
  | ok checked =>
      refine Act.Moves.bind (R := R) trans ?_ fun result => ?_
      · refine Act.Moves.bind (R := R) trans clock fun start => Act.Moves.bind (R := R) trans ?_ fun value => ?_
        · exact moves_callAccepted refl trans run name checked
        · exact Act.Moves.bind (R := R) trans clock fun stop => Act.Moves.of_same refl fun _ => rfl
      · exact Act.Moves.bind (R := R) trans (log _ _) fun _ => Act.Moves.of_same refl fun _ => rfl

end Moving

/-- A call leaves everything but the instance as it was. -/
theorem entered_callAccepted (name : String) (args : List Value) :
    (h.callAccepted name args).Moves (World.Entered h.id) :=
  moves_callAccepted (World.Entered.refl h.id) World.Entered.trans entered_run name args

theorem framed_log (m : Measurement) (place : String) :
    (m.log place).Moves (World.CalledOn h.id) := by
  intro w
  unfold Measurement.log
  cases m.note place with
  | ok text => exact ⟨rfl, fun _ _ => rfl⟩
  | error fault => exact World.CalledOn.refl h.id w

/-- A timed call leaves everything but the instance, the clock and the log as it was. -/
theorem framed_invoke (name : String) (args : List Value) (label : Value) :
    (h.invoke name args label).Moves (World.CalledOn h.id) :=
  moves_invoke (World.CalledOn.refl h.id) World.CalledOn.trans
    (fun index vals w => (entered_run index vals w).calledOn) (fun _ => ⟨rfl, fun _ _ => rfl⟩)
    framed_log name args label

end Handle

/-- What running a function, reading the clock and writing to the log do to the world, a request does
as well, since it does nothing else to it. -/
theorem Request.moves {R : World → World → Prop} {h : Handle} (refl : ∀ w, R w w)
    (trans : ∀ {u v w}, R u v → R v w → R u w) (run : ∀ index args, (h.run index args).Moves R)
    (clock : Act.readClock.Moves R)
    (log : ∀ (m : Measurement) (place : String), (m.log place).Moves R) (r : Request) :
    (r.perform h).Moves R := by
  cases r with
  | invoke name args label =>
      refine Act.Moves.bind (R := R) trans (Handle.moves_invoke refl trans run clock log name args label) ?_
      exact fun m => Act.Moves.of_same refl fun _ => rfl
  | call name args => exact Handle.moves_call refl trans run name args

theorem Request.framed (r : Request) (h : Handle) :
    (r.perform h).Moves (World.CalledOn h.id) :=
  Request.moves (World.CalledOn.refl h.id) World.CalledOn.trans
    (fun index vals w => (Handle.entered_run index vals w).calledOn) (fun _ => ⟨rfl, fun _ _ => rfl⟩)
    Handle.framed_log r

/-! ## §2 What an answer depends on -/

/-- Two handles, each in a world of its own, that began alike and have become alike. The clocks may
be left out of the comparison. -/
structure Handle.Alike (clocked : Prop) (h : Handle) (w : World) (h' : Handle) (w' : World) :
    Prop where
  /-- They began alike. -/
  start : h.start = h'.start
  /-- Calls are bounded alike. -/
  bounds : w.bounds = w'.bounds
  /-- They have become alike. -/
  current : h.current w = h'.current w'
  /-- The clocks show the same. -/
  clock : clocked → w.clock = w'.clock

namespace Handle

variable {clocked : Prop} {h h' : Handle} {α β γ δ : Type}

theorem current_become (h : Handle) (i : Wasm.Instance) (w : World) :
    h.current ((h.become i).outcome w).2 = i := by
  unfold current
  show (((h.id, i) :: w.instances.filter fun x => x.1 != h.id).lookup h.id).getD h.start = i
  rw [lookup_cons_filter_ne, if_pos rfl]
  rfl

/-- Two steps, each on a handle and in a world of its own, that give results that belong together
and leave the handles alike. -/
def Together (clocked : Prop) (h h' : Handle) (rel : α → β → Prop) (act : Act α) (act' : Act β) :
    Prop :=
  ∀ w w', h.Alike clocked w h' w' →
    h.Alike clocked (act.outcome w).2 h' (act'.outcome w').2 ∧
      Act.Agree rel (act.outcome w).1 (act'.outcome w').1

theorem together_pure {rel : α → β → Prop} {a : α} {b : β} (hab : rel a b) :
    Together clocked h h' rel (pure a) (pure b) :=
  fun _ _ halike => ⟨halike, hab⟩

theorem together_fail {rel : α → β → Prop} (f : Failure) :
    Together clocked h h' rel (Act.fail f) (Act.fail f) :=
  fun _ _ halike => ⟨halike, rfl⟩

theorem together_get :
    Together clocked h h' (fun w w' => h.Alike clocked w h' w') get get :=
  fun _ _ halike => ⟨halike, halike⟩

theorem together_bind {rel : α → β → Prop} {rel' : γ → δ → Prop} {act : Act α} {act' : Act β}
    {next : α → Act γ} {next' : β → Act δ} (first : Together clocked h h' rel act act')
    (second : ∀ a b, rel a b → Together clocked h h' rel' (next a) (next' b)) :
    Together clocked h h' rel' (act >>= next) (act' >>= next') := by
  intro w w' halike
  obtain ⟨halike₁, hmatch⟩ := first w w' halike
  rw [Act.outcome_bind, Act.outcome_bind]
  rcases hout : act.outcome w with ⟨result, w₁⟩
  rcases hout' : act'.outcome w' with ⟨result', w₁'⟩
  -- results that belong together are both values or both failures
  rw [hout, hout'] at halike₁ hmatch
  cases result with
  | ok a =>
      cases result' with
      | ok b => exact second a b hmatch w₁ w₁' halike₁
      | error g => exact hmatch.elim
  | error f =>
      cases result' with
      | ok b => exact hmatch.elim
      | error g => exact ⟨halike₁, hmatch⟩

theorem together_become (i : Wasm.Instance) :
    Together clocked h h' (fun _ _ => True) (h.become i) (h'.become i) := by
  intro w w' halike
  refine ⟨⟨halike.start, halike.bounds, ?_, halike.clock⟩, trivial⟩
  rw [current_become, current_become]

theorem together_run (index : Nat) (args : List Val) :
    Together clocked h h' Eq (h.run index args) (h'.run index args) := by
  -- the instances are the same and so are the bounds, hence also what comes of the call
  refine together_bind together_get fun w w' halike => ?_
  rw [halike.current, halike.bounds]
  exact together_bind (together_become _) fun _ _ _ => together_pure rfl

theorem together_enter (hstart : h.start = h'.start) (name : String) (args : List Value) :
    Together clocked h h' Eq (h.enter name args) (h'.enter name args) := by
  have hnames : h.names = h'.names := by
    unfold names exports
    rw [hstart]
  unfold enter
  rw [hstart, hnames]
  cases h'.start.function? name with
  | none => exact together_fail _
  | some found =>
      obtain ⟨index, type⟩ := found
      -- the function and its type come from the beginning, so both are asked for the same
      cases hargs : convertArguments type.params args with
      | error f =>
          simp only [hargs]
          exact together_fail f
      | ok vals =>
          simp only [hargs]
          refine together_bind (together_run index vals) ?_
          rintro result _ rfl
          cases result with
          | ok results => exact together_pure rfl
          | error trap => exact together_pure rfl

theorem together_call (hstart : h.start = h'.start) (name : String) (args : List Value) :
    Together clocked h h' Eq (h.call name args) (h'.call name args) := by
  refine together_bind (together_enter hstart name args) ?_
  rintro result _ rfl
  cases result with
  | ok v => exact together_pure rfl
  | error trap => exact together_fail _

theorem together_callAccepted (hstart : h.start = h'.start) (name : String) (args : List Value) :
    Together clocked h h' Eq (h.callAccepted name args) (h'.callAccepted name args) := by
  refine together_bind (together_enter hstart name args) ?_
  rintro result _ rfl
  cases result with
  | ok v => exact together_pure rfl
  | error trap => exact together_fail _

/-- Both clocks are read once, and show the same if they are compared. -/
theorem together_readClock :
    Together clocked h h' (fun t t' => clocked → t = t') Act.readClock Act.readClock := by
  intro w w' halike
  refine ⟨⟨halike.start, halike.bounds, halike.current, fun hc => ?_⟩, fun hc => ?_⟩
  · show w.clock.read.2 = w'.clock.read.2
    rw [halike.clock hc]
  · show w.clock.read.1 = w'.clock.read.1
    rw [halike.clock hc]

theorem together_timed {act act' : Act α} (hact : Together clocked h h' Eq act act') :
    Together clocked h h' (fun x y => x.1 = y.1 ∧ (clocked → x.2 = y.2)) (timed act)
      (timed act') := by
  refine together_bind together_readClock fun start start' hstart => ?_
  refine together_bind hact ?_
  rintro a _ rfl
  refine together_bind together_readClock fun stop stop' hstop => ?_
  exact together_pure ⟨rfl, fun hc => by rw [hstart hc, hstop hc]⟩

theorem together_log (m m' : Measurement) (place place' : String) :
    Together clocked h h' (fun _ _ => True) (m.log place) (m'.log place') := by
  intro w w' halike
  unfold Measurement.log
  -- what is logged may differ, and does not count
  cases m.note place <;> cases m'.note place' <;>
    exact ⟨⟨halike.start, halike.bounds, halike.current, halike.clock⟩, trivial⟩

/-- Two measurements of the same call, which took the same time if clocks are compared. -/
structure SameCall (clocked : Prop) (m m' : Measurement) : Prop where
  name : m.name = m'.name
  args : m.args = m'.args
  value : m.value = m'.value
  label : m.label = m'.label
  elapsed : clocked → m.elapsed = m'.elapsed

theorem accept_eq (hstart : h.start = h'.start) (name : String) (args : List Value) :
    h.accept name args = h'.accept name args := by
  unfold accept lookup names exports
  rw [hstart]

theorem together_invoke (hstart : h.start = h'.start) (name : String) (args : List Value)
    (label : Value) :
    Together clocked h h' (SameCall clocked) (h.invoke name args label)
      (h'.invoke name args label) := by
  unfold invoke
  rw [accept_eq hstart]
  cases h'.accept name args with
  | error f => exact together_fail f
  | ok checked =>
      refine together_bind (together_timed (together_callAccepted hstart name checked)) ?_
      rintro ⟨value, elapsed⟩ ⟨_, elapsed'⟩ ⟨rfl, helapsed⟩
      refine together_bind (together_log _ _ _ _) fun _ _ _ => together_pure ?_
      exact ⟨rfl, rfl, rfl, rfl, fun hc => congrArg Value.float (helapsed hc)⟩

end Handle

theorem Request.together {clocked : Prop} (r : Request) {h h' : Handle}
    (hstart : h.start = h'.start) :
    Handle.Together clocked h h' Eq (r.perform h) (r.perform h') := by
  cases r with
  | invoke name args label =>
      exact Handle.together_bind (Handle.together_invoke hstart name args label)
        fun m m' hm => Handle.together_pure hm.value
  | call name args => exact Handle.together_call hstart name args

end WasmGauge
