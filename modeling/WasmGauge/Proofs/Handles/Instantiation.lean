import WasmGauge.Proofs.Handles.Requests

/-!
# Instantiation

Making an instance of an executable either fails, and leaves the world as it is, or gives a handle
with a number of its own and a fresh instance. Nothing of the executable is used up: what it is made
into depends on its code, on the two engines and on the bounds of calls alone.

## Main statements

- `Executable.outcome_instantiate_of_ok`, `Executable.outcome_instantiate_of_error`: the outcome of
  making an instance.
- `Executable.Matches.outcome_later`: executables that match behave the same under every script of
  further instances and requests.
-/

namespace WasmGauge

open Wasm (Unready)

namespace Executable

/-! ## §1 Outcomes -/

variable {x y : Executable} {w : World}

/-- A fresh instance gets the next number and is remembered as it was made. -/
theorem outcome_instantiate_of_ok {i : Wasm.Instance} (h : x.instance? w.bounds = .ok i) :
    ∃ logger, x.instantiate.outcome w =
      (.ok ⟨w.made, x, i⟩,
        { w with
          made := w.made + 1
          instances := (w.made, i) :: w.instances.filter fun e => e.1 != w.made
          logger := logger }) := by
  unfold instantiate
  rw [Act.outcome_bind_of_ok (Act.outcome_get w), h]
  exact ⟨_, rfl⟩

/-- An executable that cannot be made an instance leaves the world as it is. -/
theorem outcome_instantiate_of_error {unready : Unready CompileCause}
    (h : x.instance? w.bounds = .error unready) :
    x.instantiate.outcome w = (.error (unready.failure x.source.path), w) := by
  unfold instantiate
  rw [Act.outcome_bind_of_ok (Act.outcome_get w), h]
  rfl

end Executable

/-- A world in which all instances that are alive have been left alone. -/
structure World.Spares (w w' : World) : Prop where
  /-- Calls are bounded as before. -/
  bounds : w'.bounds = w.bounds
  /-- Numbers are never given twice. -/
  made : w.made ≤ w'.made
  /-- What has been made is what it was. -/
  alive : ∀ id, id < w.made → w'.instances.lookup id = w.instances.lookup id

/-- A handle has been made of an executable, in a world that it did not belong to. -/
structure Handle.Birth (h : Handle) (x : Executable) (w w' : World) : Prop where
  id : h.id = w.made
  executable : h.executable = x
  start : x.instance? w.bounds = .ok h.start
  current : h.current w' = h.start
  made : h.id < w'.made
  spares : w.Spares w'

namespace Executable

variable {x y : Executable} {w w' : World}

theorem eq_of_instantiate_error {f : Failure} (hout : x.instantiate.outcome w = (.error f, w')) :
    w' = w := by
  cases hi : x.instance? w.bounds with
  | error cause =>
      rw [outcome_instantiate_of_error hi, Prod.mk.injEq] at hout
      exact hout.2.symm
  | ok i =>
      obtain ⟨logger, hmade⟩ := outcome_instantiate_of_ok hi
      rw [hmade] at hout
      cases hout

/-- Making an instance is a birth, and leaves caches and the disk alone. -/
theorem birth_of_instantiate {h : Handle} (hout : x.instantiate.outcome w = (.ok h, w')) :
    h.Birth x w w' ∧ w'.memory = w.memory ∧ w'.disk = w.disk ∧ w'.fates = w.fates := by
  -- only a new number, a new instance and a line in the log come of it
  cases hi : x.instance? w.bounds with
  | error cause =>
      rw [outcome_instantiate_of_error hi] at hout
      cases hout
  | ok i =>
      obtain ⟨logger, hmade⟩ := outcome_instantiate_of_ok hi
      rw [hmade, Prod.mk.injEq, Except.ok.injEq] at hout
      obtain ⟨rfl, rfl⟩ := hout
      have hlookup := fun id => lookup_cons_filter_ne w.instances w.made id i
      refine ⟨⟨rfl, rfl, hi, ?_, Nat.lt_succ_self _, rfl, Nat.le_succ _, ?_⟩, rfl, rfl, rfl⟩
      · exact congrArg (·.getD i) ((hlookup w.made).trans (if_pos rfl))
      · exact fun id hid => (hlookup id).trans (if_neg (Nat.ne_of_lt hid))

theorem exists_birth {i : Wasm.Instance} (h : x.instance? w.bounds = .ok i) :
    ∃ g w', x.instantiate.outcome w = (.ok g, w') ∧ g.Birth x w w' ∧ g.start = i := by
  obtain ⟨logger, hmade⟩ := outcome_instantiate_of_ok h
  exact ⟨_, _, hmade, (birth_of_instantiate hmade).1, rfl⟩

/-! ## §2 Executables that match -/

/-- Two executables of the same source for the same engine, with the same code. They may have been
compiled apart. -/
structure Matches (x y : Executable) : Prop where
  source : x.source = y.source
  engine : x.engine = y.engine
  artifact : x.compiled.artifact = y.compiled.artifact
  compiledFor : x.compiled.engine = y.compiled.engine

theorem Matches.exportNames (h : x.Matches y) : x.compiled.exportNames = y.compiled.exportNames := by
  unfold Compiled.exportNames
  rw [h.artifact]

theorem Matches.instance? (h : x.Matches y) (bounds : Wasm.Bounds) :
    x.instance? bounds = y.instance? bounds := by
  unfold Executable.instance? Compiled.importNames
  rw [h.artifact, h.engine, h.compiledFor]

end Executable

/-! ## §3 Scripts -/

def Handle.withExecutable (h : Handle) (x : Executable) : Handle := { h with executable := x }

/-- Requests cannot tell executables of the same source apart. -/
theorem Request.perform_withExecutable (r : Request) {h : Handle} {x : Executable}
    (hsource : x.source = h.source) : r.perform (h.withExecutable x) = r.perform h := by
  obtain ⟨id, ⟨source, engine, compiled⟩, start⟩ := h
  obtain ⟨source', engine', compiled'⟩ := x
  have hsource' : source' = source := hsource
  subst hsource'
  cases r <;> rfl

/-- What may be done with an executable later. -/
inductive Later where
  /-- One more instance is made. -/
  | instantiate
  /-- The handle with a number, in the order in which handles have been made, is asked. -/
  | request (handle : Nat) (request : Request)

/-- Does one thing after another with an executable, whose handles so far are given. A failure is an
answer and no end. -/
def Executable.later (x : Executable) : List Handle → List Later → Act (List (Except Failure Value))
  | _, [] => pure []
  | handles, .instantiate :: rest => do
    match ← x.instantiate.attempt with
    | .ok h => x.later (handles ++ [h]) rest
    | .error f => do pure (.error f :: (← x.later handles rest))
  | handles, .request n r :: rest => do
    match handles[n]? with
    | none => x.later handles rest
    | some h => do
      let answer ← (r.perform h).attempt
      pure (answer :: (← x.later handles rest))

namespace Executable

variable {x y : Executable}

/-- Executables that match are made the same instances. -/
theorem Matches.outcome_instantiate (h : x.Matches y) (w : World) :
    y.instantiate.outcome w =
      ((x.instantiate.outcome w).1.map (·.withExecutable y), (x.instantiate.outcome w).2) := by
  unfold instantiate
  rw [Act.outcome_bind_of_ok (Act.outcome_get w), Act.outcome_bind_of_ok (Act.outcome_get w),
    h.instance?, ← h.source]
  cases y.instance? w.bounds with
  | error cause => rfl
  | ok i => rfl

/-- Executables that match cannot be told apart by anything that is done with them later, however
many instances are made and however requests to them alternate. -/
theorem Matches.outcome_later (h : x.Matches y) (script : List Later) :
    ∀ handles : List Handle, (∀ g ∈ handles, g.source = x.source) → ∀ w,
      (x.later handles script).outcome w =
        (y.later (handles.map (·.withExecutable y)) script).outcome w := by
  -- on the script: after each of its steps, the handles of both still belong together
  induction script with
  | nil =>
      intro handles _ w
      rfl
  | cons step rest ih =>
      intro handles hsource w
      -- a new handle belongs to the same source; an old one answers as it stands
      cases step with
      | instantiate =>
          unfold later
          have hboth := h.outcome_instantiate w
          rcases hout : x.instantiate.outcome w with ⟨result, w'⟩
          rw [hout] at hboth
          rw [Act.outcome_bind, Act.outcome_bind, Act.outcome_attempt, Act.outcome_attempt, hout,
            hboth]
          cases result with
          | error f =>
              simp only [Except.map]
              rw [Act.outcome_bind, Act.outcome_bind, ih handles hsource]
          | ok g =>
              have hg : g.source = x.source := by
                rw [Handle.source, (birth_of_instantiate hout).1.executable]
              have hall : ∀ g' ∈ handles ++ [g], g'.source = x.source := by
                intro g' hg'
                rcases List.mem_append.1 hg' with hold | hnew
                · exact hsource g' hold
                · rw [List.mem_singleton.1 hnew, hg]
              have hrest := ih (handles ++ [g]) hall w'
              rw [List.map_append] at hrest
              exact hrest
      | request n r =>
          unfold later
          rw [List.getElem?_map]
          cases hn : handles[n]? with
          | none => exact ih handles hsource w
          | some g =>
              have hg : y.source = g.source := by
                rw [← h.source, hsource g (List.mem_of_getElem? hn)]
              simp only [Option.map_some, r.perform_withExecutable hg]
              rw [Act.outcome_bind, Act.outcome_bind, Act.outcome_attempt]
              simp only
              rw [Act.outcome_bind, Act.outcome_bind, ih handles hsource]

end Executable

end WasmGauge
