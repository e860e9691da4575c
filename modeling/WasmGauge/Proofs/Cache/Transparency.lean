import Mathlib.Logic.Relation
import WasmGauge.Proofs.Cache.Beginning
import WasmGauge.Proofs.Comparison.Steps
import WasmGauge.Proofs.Handles.Instantiation

/-!
# Transparency of the cache

Whoever compiles a source through a cache gets what compiling it without one would give. This holds
at the end of every run of the harness that began with an empty directory: runs in which sources are
rewritten, artifacts are removed or spoiled from outside, writing them fails, caches come and go, and
engines alternate.

A run is a sequence of steps; what is sound before a step is sound after it. The transparency of one
compilation follows from soundness alone.

## Main statements

- `CacheScope.Step.sound`, `CacheScope.sound_of_run`: every step and every run keeps caches sound.
- `CacheScope.compile_agree`: compiling through a cache and without one agree.
-/

namespace WasmGauge

open Storage (Path Disk DiskFault Location)
open Wasm (Bytes)

namespace CacheScope

variable {k : CacheScope} {w w' : World} {c : Cache}

/-! ## §1 Steps and runs -/

namespace Sound

theorem of_calledOn {id : Nat} (hw : k.Sound w) (h : w.CalledOn id w') : k.Sound w' := by
  have hrest := h.rest
  exact hw.of_eq (by rw [hrest]) (by rw [hrest]) (by rw [hrest])

theorem announce (s : Source) (data : Bytes) (verbose : Bool) :
    (s.announce data verbose).Preserves k.Sound := by
  intro w hw
  obtain ⟨out, hout⟩ := Source.outcome_announce s data verbose w
  rw [hout]
  exact hw.of_eq rfl rfl rfl

theorem compileData (s : Source) (data : Bytes) (engine : Engine) :
    (s.compileData data engine).Preserves k.Sound := by
  intro w hw
  cases ha : Artifact.ofData? data with
  | none =>
      rw [Source.outcome_compileData_of_none s engine w ha]
      exact hw
  | some a =>
      obtain ⟨logger, hout⟩ := Source.outcome_compileData_of_some s engine w ha
      rw [hout]
      exact hw.of_eq rfl rfl rfl

/-- Compiling a source is no harm, whether it succeeds or not. -/
theorem compile (hw : k.Sound w) {s : Source} {useCache : Bool}
    (hready : useCache = true → k.Ready w s) (engine : Engine) (verbose : Bool) :
    k.Sound ((s.compile engine useCache verbose).outcome w).2 := by
  rw [s.outcome_compile]
  cases hdata : s.dataOn w.disk with
  | error f => exact hw
  | ok data =>
      cases useCache with
      | false =>
          exact Act.Preserves.bind (announce s data verbose) (fun _ => compileData s data engine) w hw
      | true =>
          obtain ⟨hknown, htends⟩ := hready rfl data hdata
          rcases hopen : Cache.shared.outcome w with ⟨opened, w₁⟩
          cases opened with
          | ok c => exact (hw.compileCached hknown hopen (htends c w₁ hopen) s engine verbose).2
          | error f =>
              have hfail : (s.compileCached data engine verbose).outcome w = (.error f, w₁) :=
                Act.outcome_bind_of_error hopen
              have h := Sound.shared w hw
              rw [hopen] at h
              exact congrArg (fun out => k.Sound out.2) hfail ▸ h

theorem instantiate (x : Executable) : x.instantiate.Preserves k.Sound := by
  intro w hw
  cases hi : x.instance? w.bounds with
  | error cause =>
      rw [Executable.outcome_instantiate_of_error hi]
      exact hw
  | ok i =>
      obtain ⟨logger, hout⟩ := Executable.outcome_instantiate_of_ok hi
      rw [hout]
      exact hw.of_eq rfl rfl rfl

theorem load (hw : k.Sound w) {s : Source} {useCache : Bool}
    (hready : useCache = true → k.Ready w s) (engine : Engine) (verbose : Bool) :
    k.Sound ((s.load engine useCache verbose).outcome w).2 := by
  exact Act.Preserves.after (hw.compile hready engine verbose) fun x => instantiate x

theorem timed {α : Type} {act : Act α} (hact : act.Preserves k.Sound) :
    (timed act).Preserves k.Sound := by
  have hclock : Act.readClock.Preserves k.Sound := fun w hw => hw.of_eq rfl rfl rfl
  refine Act.Preserves.bind hclock fun start => Act.Preserves.bind hact fun a => ?_
  exact Act.Preserves.bind hclock fun stop => Act.Preserves.of_same fun w => rfl

theorem time (r : Reference) (args : List Value) (label : Value) (name : String) :
    (r.time args label name).Preserves k.Sound := by
  have hcall : (MonadExcept.ofExcept (r.call args) : Act Value).Preserves k.Sound :=
    Act.Preserves.of_same fun w => by rw [Act.outcome_ofExcept]
  refine Act.Preserves.bind (timed hcall) fun result => ?_
  refine Act.Preserves.bind ?_ fun _ => Act.Preserves.of_same fun w => rfl
  intro w hw
  unfold Measurement.log
  split
  · exact hw.of_eq rfl rfl rfl
  · exact hw

/-- Reporting a candidate is no harm. -/
theorem report (hw : k.Sound w) {c : Candidate} {useCache : Bool}
    (hready : useCache = true → ∀ s, c.subject = .source s → k.Ready w s) (name : String)
    (args : List Value) (sink : Sink) :
    k.Sound ((c.report name args sink useCache).outcome w).2 := by
  have hmeasure : k.Sound ((c.measure name args useCache).outcome w).2 := by
    unfold Candidate.measure
    cases hsubject : c.subject with
    | reference r => exact time r args c.label name w hw
    | source s =>
        refine Act.Preserves.after
          (hw.load (fun hcache => hready hcache s hsubject) Engine.shared false) fun h => ?_
        exact fun w hw => hw.of_calledOn (h.framed_invoke name args c.label w)
  refine Act.Preserves.after hmeasure fun m => ?_
  refine Act.Preserves.bind (Act.Preserves.of_same fun w => by rw [Act.outcome_ofValue]) ?_
  intro line
  refine Act.Preserves.bind (fun w hw => ?_) fun _ => Act.Preserves.of_same fun w => rfl
  cases sink <;> exact hw.of_eq rfl rfl rfl

end Sound

/-- All candidates of a comparison may be compiled through the cache, each when it is its turn. -/
def ReadyAll (k : CacheScope) (name : String) (args : List Value) (sink : Sink) :
    List Candidate → World → Prop
  | [], _ => True
  | c :: cs, w =>
    (∀ s, c.subject = .source s → k.Ready w s) ∧
      k.ReadyAll name args sink cs ((c.report name args sink true).outcome w).2

theorem Sound.compare {cs : List Candidate} {name : String} {args : List Value} {sink : Sink}
    {useCache : Bool} (hw : k.Sound w)
    (hready : useCache = true → k.ReadyAll name args sink cs w) :
    k.Sound ((compare cs name args sink useCache).outcome w).2 := by
  -- on the candidates: each one is reported in the world that the others before it leave
  induction cs generalizing w with
  | nil => exact hw
  | cons c cs ih =>
      have hfirst := hw.report (fun hcache => (hready hcache).1) name args sink
      rw [compare_cons, Act.outcome_bind]
      rcases hout : (c.report name args sink useCache).outcome w with ⟨result, w'⟩
      rw [hout] at hfirst
      cases result with
      | error f => exact hfirst
      | ok m =>
          refine Act.Preserves.after (ih hfirst fun hcache => ?_) fun ms =>
            Act.Preserves.of_same fun w => rfl
          subst hcache
          have hrest := (hready rfl).2
          rwa [hout] at hrest

/-- One step of a run. -/
inductive Step (k : CacheScope) : World → World → Prop where
  /-- A source is compiled for an engine. -/
  | compile {w : World} (s : Source) (engine : Engine) (useCache verbose : Bool)
      (hready : useCache = true → k.Ready w s) :
      Step k w ((s.compile engine useCache verbose).outcome w).2
  | load {w : World} (s : Source) (engine : Engine) (useCache verbose : Bool)
      (hready : useCache = true → k.Ready w s) :
      Step k w ((s.load engine useCache verbose).outcome w).2
  | compare {w : World} (cs : List Candidate) (name : String) (args : List Value) (sink : Sink)
      (useCache : Bool) (hready : useCache = true → k.ReadyAll name args sink cs w) :
      Step k w ((compare cs name args sink useCache).outcome w).2
  | opening {w : World} (directory : Path) : Step k w ((Cache.openAt directory).outcome w).2
  | clear {w : World} (c : Cache) : Step k w (c.clear.outcome w).2
  /-- Something happens from outside. Sources may be rewritten, artifacts removed or spoiled, and
  another cache may become the one for all. -/
  | outside {w w' : World} (hw : k.Disturbed w w') : Step k w w'

def Run (k : CacheScope) : World → World → Prop := Relation.ReflTransGen k.Step

theorem Step.sound (h : k.Step w w') (hw : k.Sound w) : k.Sound w' := by
  cases h with
  | compile s engine useCache verbose hready => exact hw.compile hready engine verbose
  | load s engine useCache verbose hready => exact hw.load hready engine verbose
  | compare cs name args sink useCache hready => exact hw.compare hready
  | opening directory => exact Sound.openAt directory w hw
  | clear c => exact Sound.clear c w hw
  | outside hdisturbed => exact hw.disturbed hdisturbed

/-- Every run that began with nothing kept ends with sound caches. -/
theorem sound_of_run {w₀ : World} (hbare : k.Bare w₀) (hrun : k.Run w₀ w) : k.Sound w := by
  -- on the run; what has kept nothing is sound, and every step keeps up soundness
  induction hrun with
  | refl => exact hbare.sound
  | tail _ hstep ih => exact hstep.sound ih

/-! ## §2 Compiling with and without a cache -/

/-- Two executables for an engine that cannot be told apart: they have the same source and the same
exports, and behave the same under every script of further instances and requests. -/
structure Interchangeable (engine : Engine) (x y : Executable) : Prop where
  source : x.source = y.source
  engines : x.engine = engine ∧ y.engine = engine
  belongs : x.compiled.engine = engine ∧ y.compiled.engine = engine
  exports : x.compiled.exportNames = y.compiled.exportNames
  behaviour : ∀ script w, (x.later [] script).outcome w = (y.later [] script).outcome w

/-- Modules that data compiles to for the same engine are interchangeable. -/
theorem interchangeable_of_compiles {s : Source} {data : Bytes} {engine : Engine}
    {r r' : Except Failure Compiled} (h : Source.Compiles s data engine r)
    (h' : Source.Compiles s data engine r') :
    Act.Agree (Interchangeable engine) (r.map fun m => ⟨s, engine, m⟩)
      (r'.map fun m => ⟨s, engine, m⟩) := by
  have hsame := Source.Gives.agree h h'
  -- the data settles which of the two it is, so they fail together
  rcases hsame.cases with ⟨f, rfl, rfl⟩ | ⟨m, m', rfl, rfl, hengines, hartifacts⟩
  · rfl
  · have hmatches : Executable.Matches ⟨s, engine, m⟩ ⟨s, engine, m'⟩ :=
      ⟨rfl, rfl, hartifacts, hengines⟩
    exact ⟨rfl, ⟨rfl, rfl⟩, ⟨h.engine_eq, h'.engine_eq⟩, hmatches.exportNames,
      fun script w => hmatches.outcome_later script [] (by simp) w⟩

/-- Compiling a source through the cache and without it agree, on the same disk, after every run that
began with nothing kept: both fail alike, or both give modules that cannot be told apart and belong
to the engine. -/
theorem compile_agree {w₀ : World} (hbare : k.Bare w₀) (hrun : k.Run w₀ w) {s : Source}
    (hready : k.Ready w s) {w₁ : World} (hopen : Cache.shared.outcome w = (.ok c, w₁))
    (engine : Engine) (verbose verbose' : Bool) {u : World} (hdisk : u.disk = w.disk) :
    Act.Agree (Interchangeable engine) ((s.compile engine true verbose).outcome w).1
      ((s.compile engine false verbose').outcome u).1 := by
  have hsound := sound_of_run hbare hrun
  -- a source that cannot be read fails before any cache is asked
  cases hdata : s.dataOn w.disk with
  | error f =>
      have hfail : ∀ (useCache verbose : Bool) (v : World), v.disk = w.disk →
          ((s.compile engine useCache verbose).outcome v).1 = .error f := by
        intro useCache verbose v hv
        rw [s.outcome_compile, hv, hdata]
      rw [hfail true verbose w rfl, hfail false verbose' u hdisk]
      rfl
  | ok data =>
      -- with the cache, soundness says what is given; without it, the data alone does
      obtain ⟨cached, hcached, hout⟩ := compiles_compile true hdata
        (fun _ => ⟨hsound, hready data hdata, c, w₁, hopen⟩) engine verbose
      obtain ⟨plain, hplain, hout'⟩ := compiles_compile (k := k) false (hdisk ▸ hdata)
        (fun h => by cases h) engine verbose'
      rw [hout, hout']
      exact interchangeable_of_compiles hcached hplain

/-- A bundled module that has been compiled once is compiled again for another engine. -/
theorem compile_agree_fib : ∃ w w₁, bundled.Run (World.start []) w ∧ bundled.Ready w Bundle.fib ∧
    Cache.shared.outcome w = (.ok Cache.first, w₁) ∧
    Act.Agree (Interchangeable ⟨7⟩) ((Bundle.fib.compile ⟨7⟩ true false).outcome w).1
      ((Bundle.fib.compile ⟨7⟩ false false).outcome w).1 := by
  have hknown : bundled.datas Bundle.fibBinary := .head _
  have hrun : bundled.Run (World.start []) _ := Relation.ReflTransGen.single
    (.compile Bundle.fib Engine.shared true false fun _ => ready_start Bundle.dataOn_fib hknown)
  -- all that is computed is what there is after the first compilation
  have hafter : Bundle.fib.dataOn ((Bundle.fib.compile Engine.shared true false).outcome
        (World.start [])).2.disk = .ok Bundle.fibBinary ∧
      ((Bundle.fib.compile Engine.shared true false).outcome (World.start [])).2.sharedCache =
        some Cache.first ∧
      ((Bundle.fib.compile Engine.shared true false).outcome (World.start [])).2.disk.Keeps
        Cache.first.directory bundled.home (Cache.entryName (keyOf Bundle.fibBinary)) := by
    decide +kernel
  generalize ((Bundle.fib.compile Engine.shared true false).outcome (World.start [])).2 = w at *
  obtain ⟨hdata, hopened, htends⟩ := hafter
  have hopen := Cache.shared_of_sharedCache hopened
  have hready := ready_of_shared hdata hknown hopen htends
  have hagree := compile_agree (bare_start []) hrun hready hopen ⟨7⟩ false false (u := w) rfl
  exact ⟨w, w, hrun, hready, hopen, hagree⟩

end CacheScope

end WasmGauge
