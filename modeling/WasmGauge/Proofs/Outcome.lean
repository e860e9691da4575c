import WasmGauge.Gauge.Invocation

/-!
# Outcomes of steps

A step is read through its outcome: what it gives, and the world after it. This module says how the
outcome of a composed step follows from the outcomes of its parts, what the primitive steps of the
harness give, and how a relation between worlds is carried through a composed step.

## Main statements

- `Act.outcome_bind`: the second part of a step runs in the world that the first one leaves, unless
  that failed.
- `Act.Moves.bind`: if both parts of a step move the world along a transitive relation, so does the
  whole step.
-/

namespace WasmGauge

open Storage (Path Disk DiskFault)

namespace Act

variable {α β : Type}

/-! ## §1 Composed steps -/

theorem outcome_bind (act : Act α) (next : α → Act β) (w : World) :
    (act >>= next).outcome w =
      match act.outcome w with
      | (.ok a, w') => (next a).outcome w'
      | (.error f, w') => (.error f, w') := by
  unfold outcome ExceptT.run StateT.run
  simp only [bind, ExceptT.bind, ExceptT.mk, StateT.bind, ExceptT.bindCont]
  rcases act w with ⟨result, w'⟩
  cases result <;> rfl

/-- A first part that succeeds hands over to the second one. -/
theorem outcome_bind_of_ok {act : Act α} {next : α → Act β} {w w' : World} {a : α}
    (h : act.outcome w = (.ok a, w')) : (act >>= next).outcome w = (next a).outcome w' := by
  rw [outcome_bind, h]

theorem outcome_bind_of_error {act : Act α} {next : α → Act β} {w w' : World} {f : Failure}
    (h : act.outcome w = (.error f, w')) : (act >>= next).outcome w = (.error f, w') := by
  rw [outcome_bind, h]

theorem outcome_bind_eq_ok {act : Act α} {next : α → Act β} {w w'' : World} {b : β}
    (h : (act >>= next).outcome w = (.ok b, w'')) :
    ∃ a w', act.outcome w = (.ok a, w') ∧ (next a).outcome w' = (.ok b, w'') := by
  rw [outcome_bind] at h
  rcases hact : act.outcome w with ⟨result, w'⟩
  rw [hact] at h
  -- a first part that fails would have been the end
  cases result with
  | ok a => exact ⟨a, w', rfl, h⟩
  | error f => cases h

@[simp] theorem outcome_pure (a : α) (w : World) : (pure a : Act α).outcome w = (.ok a, w) := rfl

@[simp] theorem outcome_fail (f : Failure) (w : World) :
    (fail f : Act α).outcome w = (.error f, w) := rfl

/-- A step whose value is only put into another form. -/
theorem outcome_bind_pure (act : Act α) (g : α → β) (w : World) :
    (act >>= fun a => pure (g a)).outcome w = ((act.outcome w).1.map g, (act.outcome w).2) := by
  rw [outcome_bind]
  rcases act.outcome w with ⟨result, w'⟩
  cases result <;> rfl

/-! ## §2 Primitive steps -/

@[simp] theorem outcome_get (w : World) : (get : Act World).outcome w = (.ok w, w) := rfl

theorem outcome_get_snd (w : World) : ((get : Act World).outcome w).2 = w := rfl

@[simp] theorem outcome_modify (g : World → World) (w : World) :
    (modify g : Act PUnit).outcome w = (.ok ⟨⟩, g w) := rfl

@[simp] theorem outcome_ofExcept (x : Except Failure α) (w : World) :
    (MonadExcept.ofExcept x : Act α).outcome w = (x, w) := by
  cases x <;> rfl

@[simp] theorem outcome_ofValue (x : Except Fault α) (w : World) :
    (ofValue x).outcome w = (x.mapError .value, w) := by
  cases x <;> rfl

@[simp] theorem outcome_see (g : Disk → Except DiskFault α) (w : World) :
    (see g).outcome w = ((g w.disk).mapError .disk, w) := by
  unfold see
  rw [outcome_bind_of_ok (outcome_get w)]
  cases g w.disk <;> rfl

theorem outcome_change (g : Disk → Except DiskFault Disk) (w : World) :
    (change g).outcome w =
      match g w.disk with
      | .ok d => (.ok ⟨⟩, { w with disk := d })
      | .error fault => (.error (.disk fault), w) := by
  unfold change
  rw [outcome_bind, outcome_see]
  cases g w.disk <;> rfl

@[simp] theorem outcome_readClock (w : World) :
    readClock.outcome w = (.ok w.clock.read.1, { w with clock := w.clock.read.2 }) := rfl

@[simp] theorem outcome_nextFate (w : World) :
    nextFate.outcome w = (.ok (w.fates.head?.getD .kept), { w with fates := w.fates.tail }) := rfl

@[simp] theorem outcome_debug (part message : String) (w : World) :
    (debug part message).outcome w =
      (.ok ⟨⟩, { w with logger := w.logger.emit (.debug part message) }) := rfl

@[simp] theorem outcome_attempt (act : Act α) (w : World) :
    act.attempt.outcome w = (.ok (act.outcome w).1, (act.outcome w).2) := rfl

/-- The clock is read right before a step and, if that succeeds, right after it. -/
theorem outcome_timed (act : Act α) (w : World) :
    (timed act).outcome w =
      match act.outcome { w with clock := w.clock.read.2 } with
      | (.ok a, w') =>
        (.ok (a, Clock.milliseconds w.clock.read.1 w'.clock.read.1),
          { w' with clock := w'.clock.read.2 })
      | (.error f, w') => (.error f, w') := by
  unfold timed
  rw [outcome_bind_of_ok (outcome_readClock w), outcome_bind]
  rcases act.outcome { w with clock := w.clock.read.2 } with ⟨result, w'⟩
  cases result <;> rfl

/-! ## §3 Results that belong together -/

/-- Two results that belong together: both are values that do, or both are the same failure. -/
def Agree (rel : α → β → Prop) : Except Failure α → Except Failure β → Prop
  | .ok a, .ok b => rel a b
  | .error f, .error g => f = g
  | _, _ => False

theorem Agree.cases {rel : α → β → Prop} {x : Except Failure α} {y : Except Failure β}
    (h : Agree rel x y) :
    (∃ f, x = .error f ∧ y = .error f) ∨ ∃ a b, x = .ok a ∧ y = .ok b ∧ rel a b := by
  cases x with
  | error f =>
    cases y with
    | error g =>
      obtain rfl : f = g := h
      exact .inl ⟨f, rfl, rfl⟩
    | ok b => exact h.elim
  | ok a =>
    cases y with
    | error g => exact h.elim
    | ok b => exact .inr ⟨a, b, rfl, rfl, h⟩

theorem Agree.eq {x y : Except Failure α} (h : Agree Eq x y) : x = y := by
  rcases h.cases with ⟨f, rfl, rfl⟩ | ⟨a, b, rfl, rfl, rfl⟩ <;> rfl

theorem Agree.mono {rel rel' : α → β → Prop} (hrel : ∀ a b, rel a b → rel' a b)
    {x : Except Failure α} {y : Except Failure β} (h : Agree rel x y) : Agree rel' x y := by
  rcases h.cases with ⟨f, rfl, rfl⟩ | ⟨a, b, rfl, rfl, hab⟩
  · rfl
  · exact hrel a b hab

/-- Values that belong together still do in another form. -/
theorem Agree.map {γ δ : Type} {rel : α → β → Prop} {rel' : γ → δ → Prop} {g : α → γ} {g' : β → δ}
    {x : Except Failure α} {y : Except Failure β} (h : Agree rel x y)
    (hrel : ∀ a b, rel a b → rel' (g a) (g' b)) : Agree rel' (x.map g) (y.map g') := by
  rcases h.cases with ⟨f, rfl, rfl⟩ | ⟨a, b, rfl, rfl, hab⟩
  · rfl
  · exact hrel a b hab

/-! ## §4 Moving the world along a relation -/

/-- A step moves every world along a relation, whether it succeeds or fails. -/
def Moves (R : World → World → Prop) (act : Act α) : Prop := ∀ w, R w (act.outcome w).2

namespace Moves

variable {R : World → World → Prop}

/-- Two steps that move the world along a transitive relation do so together. -/
theorem bind (trans : ∀ {u v w}, R u v → R v w → R u w) {act : Act α} {next : α → Act β}
    (first : act.Moves R) (second : ∀ a, (next a).Moves R) : (act >>= next).Moves R := by
  intro w
  have hfirst := first w
  rw [outcome_bind]
  rcases h : act.outcome w with ⟨result, w'⟩
  rw [h] at hfirst
  cases result with
  | ok a => exact trans hfirst (second a w')
  | error f => exact hfirst

/-- A step that gives the world back moves it along any reflexive relation. -/
theorem of_same {act : Act α} (refl : ∀ w, R w w) (h : ∀ w, (act.outcome w).2 = w) :
    act.Moves R := by
  intro w
  rw [h]
  exact refl w

/-- A step for every element of a list moves the world along what each of them does. -/
theorem forM (refl : ∀ w, R w w) (trans : ∀ {u v w}, R u v → R v w → R u w) {act : β → Act PUnit}
    (each : ∀ b, (act b).Moves R) (bs : List β) : (bs.forM act).Moves R := by
  induction bs with
  | nil => exact of_same refl fun w => rfl
  | cons b bs ih =>
      show Moves R (act b >>= fun _ => bs.forM act)
      exact bind (R := R) trans (each b) fun _ => ih

end Moves

/-- A step that keeps up a property of worlds, whether it succeeds or fails. -/
def Preserves (P : World → Prop) (act : Act α) : Prop := act.Moves fun w w' => P w → P w'

namespace Preserves

variable {P : World → Prop}

/-- What holds after a first step holds after the second one that keeps it up. -/
theorem after {act : Act α} {next : α → Act β} {w : World} (first : P (act.outcome w).2)
    (second : ∀ a, (next a).Preserves P) : P ((act >>= next).outcome w).2 := by
  rw [outcome_bind]
  rcases h : act.outcome w with ⟨result, w'⟩
  rw [h] at first
  -- if the first step fails, its world is the one at the end
  cases result with
  | ok a => exact second a w' first
  | error f => exact first

theorem bind {act : Act α} {next : α → Act β} (first : act.Preserves P)
    (second : ∀ a, (next a).Preserves P) : (act >>= next).Preserves P :=
  fun w hw => after (first w hw) second

theorem of_same {act : Act α} (h : ∀ w, (act.outcome w).2 = w) : act.Preserves P :=
  Moves.of_same (fun _ hw => hw) h

/-- A step for every element of a list keeps up what each of them does. -/
theorem forM_of_mem {act : β → Act PUnit} {bs : List β} (each : ∀ b ∈ bs, (act b).Preserves P) :
    (bs.forM act).Preserves P := by
  induction bs with
  | nil => exact of_same fun w => rfl
  | cons b bs ih =>
      show Preserves P (act b >>= fun _ => bs.forM act)
      exact (each b (by simp)).bind fun _ => ih fun b' hb' => each b' (by simp [hb'])

theorem forM {act : β → Act PUnit} (each : ∀ b, (act b).Preserves P) (bs : List β) :
    (bs.forM act).Preserves P :=
  forM_of_mem fun b _ => each b

theorem see (g : Disk → Except DiskFault α) : (see g).Preserves P :=
  of_same fun w => by rw [outcome_see]

/-- Changing the disk keeps up what every change that succeeds keeps up. -/
theorem change {g : Disk → Except DiskFault Disk}
    (h : ∀ w d, g w.disk = .ok d → P w → P { w with disk := d }) : (change g).Preserves P := by
  intro w hw
  rw [outcome_change]
  cases hg : g w.disk with
  | error fault => exact hw
  | ok d => exact h w d hg hw

end Preserves

end Act

end WasmGauge
