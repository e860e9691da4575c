import Mathlib.Logic.Relation
import WasmGauge.Proofs.Cache.Beginning
import WasmGauge.Proofs.Handles.Instantiation
import WasmGauge.Proofs.Handles.Stages

/-!
# Isolation of handles

In a session, sources are loaded, also several at once and with whatever order of their stages;
instances are made of the modules, any number of each; and the handles are asked, in any order. What
one handle answers does not depend on the others: it answers as a handle does that has been loaded
alone and gets the same requests in the same order.

The proof keeps one invariant of sessions. Its heart is that every handle has become what its own
requests alone would have made of it, in any world with the same bounds of calls.

## Main statements

- `Session.Step.coherent`, `Session.coherent_of_run`: every step and every run of a session keeps the
  invariant.
- `Session.isolated`: each handle answers as if it were alone.
-/

namespace WasmGauge

open Storage (Path)
open Wasm (Bytes Instance)

/-! ## §1 A handle alone -/

/-- The answers of a handle to one request after another, and the world after them. -/
def Handle.replay (h : Handle) : List Request → World → List (Except Failure Value) × World
  | [], w => ([], w)
  | r :: rs, w =>
    let (answer, w') := (r.perform h).outcome w
    let (answers, w'') := h.replay rs w'
    (answer :: answers, w'')

namespace Handle

variable {h h' : Handle} {w w' : World}

theorem replay_append (h : Handle) (rs rs' : List Request) (w : World) :
    h.replay (rs ++ rs') w =
      ((h.replay rs w).1 ++ (h.replay rs' (h.replay rs w).2).1,
        (h.replay rs' (h.replay rs w).2).2) := by
  -- on the first requests, after which the others begin
  induction rs generalizing w with
  | nil => rfl
  | cons r rs ih =>
      simp only [List.cons_append, replay, ih]

/-- Handles that are alike answer alike, one request after another. -/
theorem replay_congr (halike : h.Alike False w h' w') (rs : List Request) :
    (h.replay rs w).1 = (h'.replay rs w').1 := by
  -- on the requests: each answer is the same and leaves the handles alike
  induction rs generalizing w w' with
  | nil => rfl
  | cons r rs ih =>
      obtain ⟨hnext, hanswer⟩ := r.together halike.start w w' halike
      simp only [replay]
      rw [hanswer.eq, ih hnext]

end Handle

/-! ## §2 Sessions -/

/-- A request to a handle, with the answer. -/
structure Event where
  handle : Nat
  /-- The request. -/
  request : Request
  answer : Except Failure Value

/-- What is going on at one time. -/
structure Session where
  world : World
  /-- The loads, each with its stage. A load that has come by its module stays, because any number of
  instances can be made of it. -/
  loads : List (Load × Stage)
  /-- The handles, each with the data that its module has been compiled from. -/
  handles : List (Handle × Bytes)
  /-- The requests so far, in the order in which they were made. -/
  events : List Event

namespace World.Spares

variable {w w' : World}

theorem refl (w : World) : w.Spares w := ⟨rfl, Nat.le_refl _, fun _ _ => rfl⟩

theorem of_footprint {verbose : Bool} (h : w.Footprint verbose w') : w.Spares w' := by
  have hrest := h.rest
  exact ⟨by rw [hrest], h.made, fun id _ => by rw [hrest]⟩

theorem current (hspares : w.Spares w') {h : Handle} (hmade : h.id < w.made) :
    h.current w' = h.current w := by
  unfold Handle.current
  rw [hspares.alive h.id hmade]

end World.Spares

namespace Session

/-- The requests to a handle so far. -/
def requestsTo (σ : Session) (id : Nat) : List Request :=
  (σ.events.filter fun e => e.handle == id).map (·.request)

/-- The answers of a handle so far. -/
def answersOf (σ : Session) (id : Nat) : List (Except Failure Value) :=
  (σ.events.filter fun e => e.handle == id).map (·.answer)

/-- A session in which nothing has happened. -/
def begin (w : World) : Session := ⟨w, [], [], []⟩

/-- One step of a session. -/
inductive Step (k : CacheScope) : Session → Session → Prop where
  | ask {σ : Session} (l : Load) : Step k σ { σ with loads := σ.loads ++ [(l, .asked)] }
  /-- A load goes on. -/
  | advance {σ : Session} {n : Nat} {l : Load} {stage stage' : Stage} {w' : World}
      (hload : σ.loads[n]? = some (l, stage)) (hready : l.Ready k σ.world stage)
      (hout : (l.advance stage).outcome σ.world = (.ok stage', w')) :
      Step k σ { σ with world := w', loads := σ.loads.set n (l, stage') }
  | fail {σ : Session} {n : Nat} {l : Load} {stage : Stage} {f : Failure} {w' : World}
      (hload : σ.loads[n]? = some (l, stage)) (hready : l.Ready k σ.world stage)
      (hout : (l.advance stage).outcome σ.world = (.error f, w')) :
      Step k σ { σ with world := w', loads := σ.loads.eraseIdx n }
  /-- An instance is made of a module. -/
  | instantiate {σ : Session} {l : Load} {data : Bytes} {m : Compiled} {h : Handle} {w' : World}
      (hload : (l, .ready data m) ∈ σ.loads)
      (hout : (l.executable m).instantiate.outcome σ.world = (.ok h, w')) :
      Step k σ { σ with world := w', handles := σ.handles ++ [(h, data)] }
  /-- A module cannot be made an instance. -/
  | refuse {σ : Session} {l : Load} {data : Bytes} {m : Compiled} {f : Failure} {w' : World}
      (hload : (l, .ready data m) ∈ σ.loads)
      (hout : (l.executable m).instantiate.outcome σ.world = (.error f, w')) :
      Step k σ { σ with world := w' }
  /-- A handle is asked. -/
  | request {σ : Session} {h : Handle} {data : Bytes} (hmem : (h, data) ∈ σ.handles) (r : Request) :
      Step k σ
        { σ with
          world := ((r.perform h).outcome σ.world).2
          events := σ.events ++ [⟨h.id, r, ((r.perform h).outcome σ.world).1⟩] }
  /-- A cache is opened. -/
  | opening {σ : Session} (directory : Path) :
      Step k σ { σ with world := ((Cache.openAt directory).outcome σ.world).2 }
  /-- A cache is cleared. -/
  | clear {σ : Session} (c : Cache) : Step k σ { σ with world := (c.clear.outcome σ.world).2 }
  | outside {σ : Session} {w' : World} (hw : k.Disturbed σ.world w') (hspares : σ.world.Spares w') :
      Step k σ { σ with world := w' }

def Run (k : CacheScope) : Session → Session → Prop := Relation.ReflTransGen (Step k)

/-! ## §3 The invariant -/

/-- A handle has answered, and has become, what its own requests alone give, on any handle that
began alike, in any world with the same bounds of calls. -/
def Faithful (σ : Session) (h : Handle) : Prop :=
  ∀ h' w', h'.start = h.start → w'.bounds = σ.world.bounds → h'.current w' = h.start →
    (h'.replay (σ.requestsTo h.id) w').1 = σ.answersOf h.id ∧
      h.Alike False σ.world h' (h'.replay (σ.requestsTo h.id) w').2

/-- The invariant of sessions. -/
structure Coherent (k : CacheScope) (bounds : Wasm.Bounds) (σ : Session) : Prop where
  /-- Caches are sound. -/
  sound : k.Sound σ.world
  /-- Calls are bounded as at the beginning. -/
  bounds_eq : σ.world.bounds = bounds
  /-- The modules of loads are right. -/
  loads : ∀ l stage, (l, stage) ∈ σ.loads → l.Right stage
  /-- The numbers of handles have been given. -/
  made : ∀ h data, (h, data) ∈ σ.handles → h.id < σ.world.made
  /-- Only numbers that have been given have been asked. -/
  asked : ∀ e ∈ σ.events, e.handle < σ.world.made
  /-- No two handles have the same number. -/
  unique : ∀ h data h' data', (h, data) ∈ σ.handles → (h', data') ∈ σ.handles → h.id = h'.id →
    h = h'
  /-- Handles are instances of what their data compiles to. -/
  right : ∀ h data, (h, data) ∈ σ.handles →
    Artifact.ofData? data = some h.executable.compiled.artifact ∧
      h.executable.compiled.engine = h.executable.engine ∧
      h.executable.instance? bounds = .ok h.start
  /-- Handles have answered what they would have answered alone. -/
  faithful : ∀ h data, (h, data) ∈ σ.handles → σ.Faithful h

end Session

namespace Session

variable {k : CacheScope} {bounds : Wasm.Bounds} {σ σ' : Session}

/-- A handle stays faithful as long as it is not asked and its instance is left alone. -/
theorem Faithful.transfer {h : Handle} (hfaithful : σ.Faithful h)
    (hbounds : σ'.world.bounds = σ.world.bounds)
    (hcurrent : h.current σ'.world = h.current σ.world)
    (hrequests : σ'.requestsTo h.id = σ.requestsTo h.id)
    (hanswers : σ'.answersOf h.id = σ.answersOf h.id) : σ'.Faithful h := by
  intro h' w' hstart hb hfresh
  obtain ⟨hsame, halike⟩ := hfaithful h' w' hstart (hb.trans hbounds) hfresh
  rw [hrequests, hanswers]
  refine ⟨hsame, halike.start, ?_, ?_, False.elim⟩
  · rw [hbounds, halike.bounds]
  · rw [hcurrent, halike.current]

namespace Coherent

/-- A step that spares what is alive, asks nobody and keeps caches sound keeps the invariant. -/
theorem of_spares (hσ : σ.Coherent k bounds) (hspares : σ.world.Spares σ'.world)
    (hsound : k.Sound σ'.world) (hloads : ∀ l stage, (l, stage) ∈ σ'.loads → l.Right stage)
    (hhandles : σ'.handles = σ.handles) (hevents : σ'.events = σ.events) :
    σ'.Coherent k bounds where
  sound := hsound
  bounds_eq := hspares.bounds.trans hσ.bounds_eq
  loads := hloads
  made := by
    rw [hhandles]
    exact fun h data hmem => Nat.lt_of_lt_of_le (hσ.made h data hmem) hspares.made
  asked := by
    rw [hevents]
    exact fun e he => Nat.lt_of_lt_of_le (hσ.asked e he) hspares.made
  unique := by
    rw [hhandles]
    exact hσ.unique
  right := by
    rw [hhandles]
    exact hσ.right
  faithful := by
    rw [hhandles]
    intro h data hmem
    refine (hσ.faithful h data hmem).transfer hspares.bounds
      (hspares.current (hσ.made h data hmem)) ?_ ?_
    · unfold requestsTo
      rw [hevents]
    · unfold answersOf
      rw [hevents]

/-- A new handle joins the others: its number is new, and it has not been asked yet. -/
theorem instantiate (hσ : σ.Coherent k bounds) {l : Load} {data : Bytes} {m : Compiled}
    {h : Handle} {w' : World} (hload : (l, .ready data m) ∈ σ.loads)
    (hout : (l.executable m).instantiate.outcome σ.world = (.ok h, w')) :
    Coherent k bounds { σ with world := w', handles := σ.handles ++ [(h, data)] } := by
  obtain ⟨hbirth, hmemory, hdisk, hfates⟩ := Executable.birth_of_instantiate hout
  have hmid : Coherent k bounds { σ with world := w' } :=
    hσ.of_spares hbirth.spares (hσ.sound.of_eq hmemory hdisk hfates) hσ.loads rfl rfl
  -- part by part of the invariant, a handle is an old one or the new one, whose number is new
  have hnew : ∀ g data', (g, data') ∈ σ.handles → g.id ≠ h.id := by
    intro g data' hg
    rw [hbirth.id]
    exact Nat.ne_of_lt (hσ.made g data' hg)
  constructor
  · exact hmid.sound
  · exact hmid.bounds_eq
  · exact hmid.loads
  · intro g data' hg
    rcases List.mem_append.1 hg with hold | hlast
    · exact hmid.made g data' hold
    · obtain ⟨rfl, rfl⟩ := Prod.mk.injEq .. ▸ List.mem_singleton.1 hlast
      exact hbirth.made
  · exact hmid.asked
  · intro g data' g' data'' hg hg' hid
    rcases List.mem_append.1 hg with hold | hlast <;>
      rcases List.mem_append.1 hg' with hold' | hlast'
    · exact hσ.unique g data' g' data'' hold hold' hid
    · obtain ⟨rfl, rfl⟩ := Prod.mk.injEq .. ▸ List.mem_singleton.1 hlast'
      exact absurd hid (hnew g data' hold)
    · obtain ⟨rfl, rfl⟩ := Prod.mk.injEq .. ▸ List.mem_singleton.1 hlast
      exact absurd hid.symm (hnew g' data'' hold')
    · obtain ⟨rfl, rfl⟩ := Prod.mk.injEq .. ▸ List.mem_singleton.1 hlast
      exact (Prod.mk.injEq .. ▸ List.mem_singleton.1 hlast').1.symm
  · intro g data' hg
    rcases List.mem_append.1 hg with hold | hlast
    · exact hσ.right g data' hold
    · obtain ⟨hartifact, hengine⟩ := hσ.loads l (.ready data m) hload
      obtain ⟨rfl, rfl⟩ := Prod.mk.injEq .. ▸ List.mem_singleton.1 hlast
      rw [hbirth.executable]
      exact ⟨hartifact, hengine, hσ.bounds_eq ▸ hbirth.start⟩
  · intro g data' hg
    rcases List.mem_append.1 hg with hold | hlast
    · exact (hmid.faithful g data' hold).transfer rfl rfl rfl rfl
    · obtain ⟨rfl, rfl⟩ := Prod.mk.injEq .. ▸ List.mem_singleton.1 hlast
      -- the new handle has answered nothing, and neither has the one alone
      have hnone : σ.events.filter (fun e => e.handle == g.id) = [] := by
        refine List.filter_eq_nil_iff.2 fun e he => ?_
        rw [hbirth.id]
        simpa using Nat.ne_of_lt (hσ.asked e he)
      intro h' w'' hstart hbounds hfresh
      simp only [requestsTo, answersOf, hnone, List.map_nil, Handle.replay]
      refine ⟨trivial, hstart.symm, hbounds.symm, ?_, False.elim⟩
      rw [hfresh]
      exact hbirth.current

/-- A request moves the handle that is asked as it would have moved it alone, and no other. -/
theorem request (hσ : σ.Coherent k bounds) {h : Handle} {data : Bytes}
    (hmem : (h, data) ∈ σ.handles) (r : Request) :
    Coherent k bounds
      { σ with
        world := ((r.perform h).outcome σ.world).2
        events := σ.events ++ [⟨h.id, r, ((r.perform h).outcome σ.world).1⟩] } := by
  have hframe := r.framed h σ.world
  have hrest := hframe.rest
  have hbounds : ((r.perform h).outcome σ.world).2.bounds = σ.world.bounds := by rw [hrest]
  have hmade : ((r.perform h).outcome σ.world).2.made = σ.world.made := by rw [hrest]
  constructor
  · exact hσ.sound.of_eq (by rw [hrest]) (by rw [hrest]) (by rw [hrest])
  · exact hbounds.trans hσ.bounds_eq
  · exact hσ.loads
  · intro g data' hg
    simp only [hmade]
    exact hσ.made g data' hg
  · intro e he
    simp only [hmade]
    rcases List.mem_append.1 he with hold | hlast
    · exact hσ.asked e hold
    · rw [List.mem_singleton.1 hlast]
      exact hσ.made h data hmem
  · exact hσ.unique
  · exact hσ.right
  · intro g data' hg
    by_cases hid : g.id = h.id
    · -- the handle that is asked: one more answer, given alike by a handle alone
      have hsame : g = h := hσ.unique g data' h data hg hmem hid
      subst hsame
      intro h' w' hstart hb hfresh
      obtain ⟨hanswers, halike⟩ := hσ.faithful g data' hg h' w' hstart (hb.trans hbounds) hfresh
      obtain ⟨hnext, hanswer⟩ := r.together halike.start _ _ halike
      have hrequests : requestsTo
          { σ with
            world := ((r.perform g).outcome σ.world).2
            events := σ.events ++ [⟨g.id, r, ((r.perform g).outcome σ.world).1⟩] } g.id =
          σ.requestsTo g.id ++ [r] := by
        simp [requestsTo]
      rw [hrequests, Handle.replay_append]
      refine ⟨?_, hnext⟩
      rw [hanswers]
      simp [answersOf, Handle.replay, hanswer.eq]
    · -- another handle
      have hother : (h.id == g.id) = false := by simpa using fun e : h.id = g.id => hid e.symm
      refine (hσ.faithful g data' hg).transfer hbounds ?_ ?_ ?_
      · unfold Handle.current
        rw [hframe.others g.id hid]
      · simp [requestsTo, hother]
      · simp [answersOf, hother]

end Coherent

theorem coherent_begin {w : World} (hbare : k.Bare w) : (begin w).Coherent k w.bounds where
  sound := hbare.sound
  bounds_eq := rfl
  loads := by simp [begin]
  made := by simp [begin]
  asked := by simp [begin]
  unique := by simp [begin]
  right := by simp [begin]
  faithful := by simp [begin]

theorem Step.coherent (h : Step k σ σ') (hσ : σ.Coherent k bounds) : σ'.Coherent k bounds := by
  -- most steps touch the caches or the loads alone; a handle is made or asked in two of them
  cases h with
  | ask l =>
      refine hσ.of_spares (World.Spares.refl _) hσ.sound ?_ rfl rfl
      intro l' stage hmem
      rcases List.mem_append.1 hmem with hold | hlast
      · exact hσ.loads l' stage hold
      · obtain ⟨rfl, rfl⟩ := Prod.mk.injEq .. ▸ List.mem_singleton.1 hlast
        trivial
  | @advance n l stage stage' w' hload hready hout =>
      have hspares := World.Spares.of_footprint (l.footprint_advance stage σ.world)
      have hright := hσ.loads l stage (List.mem_of_getElem? hload)
      obtain ⟨hsound, hnext⟩ := l.advance_right hσ.sound hright hready
      rw [hout] at hspares hsound hnext
      refine hσ.of_spares hspares hsound ?_ rfl rfl
      intro l' stage'' hmem
      rcases List.mem_or_eq_of_mem_set hmem with hold | hnew
      · exact hσ.loads l' stage'' hold
      · obtain ⟨rfl, rfl⟩ := Prod.mk.injEq .. ▸ hnew
        exact hnext stage'' rfl
  | @fail n l stage f w' hload hready hout =>
      have hspares := World.Spares.of_footprint (l.footprint_advance stage σ.world)
      have hright := hσ.loads l stage (List.mem_of_getElem? hload)
      have hsound := (l.advance_right hσ.sound hright hready).1
      rw [hout] at hspares hsound
      exact hσ.of_spares hspares hsound
        (fun l' stage' hmem => hσ.loads l' stage' (List.mem_of_mem_eraseIdx hmem)) rfl rfl
  | instantiate hload hout => exact hσ.instantiate hload hout
  | @refuse l data m f w' hload hout =>
      have hsame := Executable.eq_of_instantiate_error hout
      rw [hsame]
      exact hσ.of_spares (World.Spares.refl _) hσ.sound hσ.loads rfl rfl
  | request hmem r => exact hσ.request hmem r
  | opening directory =>
      refine hσ.of_spares ?_ (CacheScope.Sound.openAt directory _ hσ.sound) hσ.loads rfl rfl
      exact World.Spares.of_footprint
        (show World.Footprint true _ _ from Cache.footprint_openAt directory σ.world)
  | clear c =>
      refine hσ.of_spares ?_ (CacheScope.Sound.clear c _ hσ.sound) hσ.loads rfl rfl
      exact World.Spares.of_footprint
        (show World.Footprint true _ _ from c.footprint_clear σ.world)
  | outside hdisturbed hspares =>
      exact hσ.of_spares hspares (hσ.sound.disturbed hdisturbed) hσ.loads rfl rfl

theorem coherent_of_run {w : World} (hbare : k.Bare w) (hrun : Run k (begin w) σ) :
    σ.Coherent k w.bounds := by
  -- on the run, with all parts of the invariant at once
  induction hrun with
  | refl => exact coherent_begin hbare
  | tail _ hstep ih => exact hstep.coherent ih

theorem step_advance_last {w w' : World} {loads : List (Load × Stage)}
    {handles : List (Handle × Bytes)} {events : List Event} {l : Load} {stage stage' : Stage}
    (hready : l.Ready k w stage) (hout : (l.advance stage).outcome w = (.ok stage', w')) :
    Step k ⟨w, loads ++ [(l, stage)], handles, events⟩
      ⟨w', loads ++ [(l, stage')], handles, events⟩ := by
  have hlast : (loads ++ [(l, stage)])[loads.length]? = some (l, stage) := by simp
  have hstep : Step k ⟨w, loads ++ [(l, stage)], handles, events⟩ _ := .advance hlast hready hout
  simpa using hstep

/-- Loading a source without a cache, with nothing in between, is a run. -/
theorem run_load {s : Source} {engine : Engine} {verbose : Bool} {h : Handle} {w' : World}
    (hout : (s.load engine false verbose).outcome σ.world = (.ok h, w')) :
    ∃ data m, s.dataOn σ.world.disk = .ok data ∧ h.source = s ∧ Run k σ
      ⟨w', σ.loads ++ [(⟨s, engine, false, verbose⟩, .ready data m)], σ.handles ++ [(h, data)],
        σ.events⟩ := by
  obtain ⟨x, w₁, hcompile, hmade⟩ := Act.outcome_bind_eq_ok hout
  obtain ⟨data, w₀, hread, hdata⟩ := Act.outcome_bind_eq_ok hcompile
  simp only [Bool.false_eq_true, if_false] at hdata
  obtain ⟨⟨⟩, w₂, hannounce, hbuild⟩ := Act.outcome_bind_eq_ok hdata
  obtain ⟨m, w₃, hcompiled, hpure⟩ := Act.outcome_bind_eq_ok hbuild
  cases hpure
  have hread' := hread
  rw [s.outcome_readModule] at hread'
  obtain ⟨hsame, rfl⟩ := Prod.mk.inj hread'
  have hsource : h.source = s :=
    congrArg Executable.source (Executable.birth_of_instantiate hmade).1.executable
  refine ⟨data, m, hsame, hsource, ?_⟩
  -- one step for each stage; without a cache, none is asked and none is told
  let l : Load := ⟨s, engine, false, verbose⟩
  have hask : Step k σ ⟨σ.world, σ.loads ++ [(l, .asked)], σ.handles, σ.events⟩ := .ask l
  have hreading : Step k ⟨σ.world, σ.loads ++ [(l, .asked)], σ.handles, σ.events⟩
      ⟨σ.world, σ.loads ++ [(l, .read data)], σ.handles, σ.events⟩ :=
    step_advance_last trivial (Act.outcome_bind_of_ok hread)
  have hasking : Step k ⟨σ.world, σ.loads ++ [(l, .read data)], σ.handles, σ.events⟩
      ⟨σ.world, σ.loads ++ [(l, .missed data)], σ.handles, σ.events⟩ :=
    step_advance_last (by simp [Load.Ready, l]) rfl
  have hbuilding : Step k ⟨σ.world, σ.loads ++ [(l, .missed data)], σ.handles, σ.events⟩
      ⟨w₁, σ.loads ++ [(l, .ready data m)], σ.handles, σ.events⟩ :=
    step_advance_last trivial
      ((Act.outcome_bind_of_ok hannounce).trans (Act.outcome_bind_of_ok hcompiled))
  have hmaking : Step k ⟨w₁, σ.loads ++ [(l, .ready data m)], σ.handles, σ.events⟩
      ⟨w', σ.loads ++ [(l, .ready data m)], σ.handles ++ [(h, data)], σ.events⟩ :=
    .instantiate (List.mem_append_right _ (.head _)) hmade
  exact .tail (.tail (.tail (.tail (.single hask) hreading) hasking) hbuilding) hmaking

/-! ## §4 Isolation -/

/-- Executables with the same code, each compiled for its own engine, are made the same instance. -/
theorem instance?_eq {x y : Executable} (hartifact : x.compiled.artifact = y.compiled.artifact)
    (hx : x.compiled.engine = x.engine) (hy : y.compiled.engine = y.engine) (b : Wasm.Bounds) :
    x.instance? b = y.instance? b := by
  unfold Executable.instance? Compiled.importNames
  rw [hartifact, hx, hy]
  simp

/-- Each handle of a session answers as if it were alone. Whoever loads the same source in another
world, with or without a cache, gets a handle with the same exports and signatures, and it gives the
same answers to the requests that the handle of the session got. Any two handles of the session whose
sources held the same data have the same exports and signatures, and would give the same answers to the
same requests. -/
theorem isolated {w : World} (hbare : k.Bare w) (hrun : Run k (begin w) σ) {h : Handle}
    {data : Bytes} (hmem : (h, data) ∈ σ.handles) :
    (∀ (engine : Engine) (useCache verbose : Bool) (u : World), u.bounds = w.bounds →
      h.source.dataOn u.disk = .ok data →
      (useCache = true →
        k.Sound u ∧ k.ReadyFor u data ∧ ∃ c u₁, Cache.shared.outcome u = (.ok c, u₁)) →
      ∃ h' u', (h.source.load engine useCache verbose).outcome u = (.ok h', u') ∧
        h'.exports = h.exports ∧
        (h'.replay (σ.requestsTo h.id) u').1 = σ.answersOf h.id) ∧
    (∀ h', (h', data) ∈ σ.handles → h'.exports = h.exports ∧
      ∀ (rs : List Request) (u u' : World), u.bounds = u'.bounds → h.current u = h.start →
        h'.current u' = h'.start → (h.replay rs u).1 = (h'.replay rs u').1) := by
  have hσ := coherent_of_run hbare hrun
  obtain ⟨hartifact, hengine, hstart⟩ := hσ.right h data hmem
  refine ⟨?_, ?_⟩
  · intro engine useCache verbose u hbounds hdata hcache
    obtain ⟨result, hcompiles, hcompile⟩ :=
      CacheScope.compiles_compile (k := k) useCache hdata hcache engine verbose
    have hfoot : World.Footprint verbose u _ := h.source.footprint_compile engine useCache u
    unfold Source.Compiles at hcompiles
    rw [hartifact] at hcompiles
    obtain ⟨m, rfl, hm, hsame⟩ := hcompiles
    rcases hout : (h.source.compile engine useCache verbose).outcome u with ⟨compiled, u₁⟩
    rw [hout] at hcompile hfoot
    -- the same code under the same bounds begins as the handle of the session did
    have hbounds₁ : u₁.bounds = w.bounds := (World.Spares.of_footprint hfoot).bounds.trans hbounds
    have hinstance : (Executable.mk h.source engine m).instance? u₁.bounds = .ok h.start := by
      rw [hbounds₁, ← hstart]
      exact instance?_eq hsame hm hengine w.bounds
    obtain ⟨h', u', hmade, hbirth, hfresh⟩ := Executable.exists_birth hinstance
    have hok : (h.source.compile engine useCache verbose).outcome u =
        (.ok ⟨h.source, engine, m⟩, u₁) := by
      rw [hout]
      exact Prod.ext hcompile rfl
    have hbounds' : u'.bounds = σ.world.bounds :=
      (hbirth.spares.bounds.trans hbounds₁).trans hσ.bounds_eq.symm
    refine ⟨h', u', (Act.outcome_bind_of_ok hok).trans hmade, ?_, ?_⟩
    · unfold Handle.exports
      rw [hfresh]
    · exact (hσ.faithful h data hmem h' u' hfresh hbounds' (hbirth.current.trans hfresh)).1
  · intro h' hmem'
    obtain ⟨hartifact', hengine', hstart'⟩ := hσ.right h' data hmem'
    have hsame : h.start = h'.start := by
      have hcode : h.executable.compiled.artifact = h'.executable.compiled.artifact :=
        Option.some.inj (hartifact.symm.trans hartifact')
      have hboth := instance?_eq hcode hengine hengine' w.bounds
      rw [hstart, hstart'] at hboth
      exact Except.ok.inj hboth
    refine ⟨by unfold Handle.exports; rw [hsame], ?_⟩
    intro rs u u' hbounds hfresh hfresh'
    exact Handle.replay_congr ⟨hsame, hbounds, by rw [hfresh, hfresh', hsame], False.elim⟩ rs

/-- Two handles of a bundled module, one of which is asked before and after the other. -/
theorem isolated_fib : ∃ σ h h' data g u,
    Run CacheScope.bundled (begin (World.start [])) σ ∧
      (h, data) ∈ σ.handles ∧ (h', data) ∈ σ.handles ∧ h'.exports = h.exports ∧
      σ.requestsTo h.id ≠ [] ∧ σ.requestsTo h'.id ≠ [] ∧
      (h.source.load Engine.shared false false).outcome (World.start []) = (.ok g, u) ∧
      (g.replay (σ.requestsTo h.id) u).1 = σ.answersOf h.id := by
  have hloads : ((Bundle.fib.load Engine.shared false false).outcome (World.start [])).1.isOk = true ∧
      ((Bundle.fib.load Engine.shared false false).outcome
        ((Bundle.fib.load Engine.shared false false).outcome (World.start [])).2).1.isOk = true ∧
      Bundle.fib.dataOn ((Bundle.fib.load Engine.shared false false).outcome (World.start [])).2.disk =
        .ok Bundle.fibBinary := by
    decide +kernel
  have hbare := CacheScope.bare_start []
  have hdata : Bundle.fib.dataOn (World.start []).disk = .ok Bundle.fibBinary := Bundle.dataOn_fib
  generalize World.start [] = w at *
  rcases hfirst : (Bundle.fib.load Engine.shared false false).outcome w with ⟨result, w₁⟩
  rw [hfirst] at hloads
  rcases hsecond : (Bundle.fib.load Engine.shared false false).outcome w₁ with ⟨result', w₂⟩
  rw [hsecond] at hloads
  obtain ⟨hok, hok', hdata₁⟩ := hloads
  cases result with
  | error f => cases hok
  | ok h =>
      cases result' with
      | error f => cases hok'
      | ok h' =>
          obtain ⟨data, m, hread, hsource, hrun⟩ :=
            @run_load CacheScope.bundled (begin w) _ _ _ _ _ hfirst
          obtain ⟨data', m', hread', -, hrun'⟩ :=
            @run_load CacheScope.bundled ⟨w₁, _, _, _⟩ _ _ _ _ _ hsecond
          obtain rfl : Bundle.fibBinary = data := Except.ok.inj (hdata.symm.trans hread)
          obtain rfl : Bundle.fibBinary = data' := Except.ok.inj (hdata₁.symm.trans hread')
          have hmem : (h, Bundle.fibBinary) ∈
              (begin w).handles ++ [(h, Bundle.fibBinary)] ++ [(h', Bundle.fibBinary)] := by simp
          have hmem' : (h', Bundle.fibBinary) ∈
              (begin w).handles ++ [(h, Bundle.fibBinary)] ++ [(h', Bundle.fibBinary)] := by simp
          -- the first handle is asked, then the second one, then the first one again
          have hasked := (((hrun.trans hrun').tail (.request hmem (.call "fib" [.int 1]))).tail
            (.request hmem' (.invoke "fib" [] .none))).tail
            (.request hmem (.invoke "fib" [.int 2] .none))
          obtain ⟨halone, hothers⟩ := isolated hbare hasked hmem
          obtain ⟨g, u, hload, -, hanswers⟩ := halone Engine.shared false false w rfl
            (hsource ▸ hdata) (by simp)
          refine ⟨_, h, h', _, g, u, hasked, hmem, hmem', (hothers h' hmem').1, ?_, ?_, hload,
            hanswers⟩
          · simp [requestsTo]
          · simp [requestsTo]

end Session

end WasmGauge
