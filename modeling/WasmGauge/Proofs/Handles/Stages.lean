import WasmGauge.Proofs.Cache.Soundness
import WasmGauge.Proofs.Footprint

/-!
# Loads in stages

Several sources may be loaded at once. Each load reads its source, asks the cache, compiles, and puts
the module into the cache, and whatever the others do may come in between. The stages here are where a
load can be interrupted; going through them without an interruption is compiling the source.

## Main statements

- `Load.stages_eq_compile`: a load that is not interrupted compiles its source.
- `Load.advance_right`: whatever happens in between, a module that a load comes by is what its data
  compiles to.
-/

namespace WasmGauge

open Wasm (Bytes)

/-- How far a load has come. -/
inductive Stage where
  /-- It has been asked for. -/
  | asked
  /-- The source has been read. -/
  | read (data : Bytes)
  /-- No cache has the module. -/
  | missed (data : Bytes)
  /-- The module has been compiled, and is to be put into the cache. -/
  | built (data : Bytes) (compiled : Compiled)
  /-- A cache remembers the module, and its artifact is to be written. -/
  | remembered (cache : Cache) (data : Bytes) (compiled : Compiled)
  /-- The module is there, and instances can be made of it. -/
  | ready (data : Bytes) (compiled : Compiled)

/-- A load: what is loaded, and how. -/
structure Load where
  source : Source
  engine : Engine
  /-- Whether the module goes through the cache. -/
  useCache : Bool
  /-- Whether the load is announced. -/
  verbose : Bool

namespace Load

def executable (l : Load) (m : Compiled) : Executable := ⟨l.source, l.engine, m⟩

def advance (l : Load) : Stage → Act Stage
  | .asked => do pure (.read (← l.source.readModule))
  | .read data => do
    if l.useCache then
      match ← (← Cache.shared).get data l.engine with
      | some m =>
        if l.verbose then Act.say s!"✓ Using cached compilation for {l.source.name}"
        Act.debug "core" s!"cache hit for {l.source.text}"
        pure (.ready data m)
      | none => pure (.missed data)
    else pure (.missed data)
  | .missed data => do
    l.source.announce data l.verbose
    let m ← l.source.compileData data l.engine
    pure (if l.useCache then .built data m else .ready data m)
  | .built data m => do
    let c ← Cache.shared
    c.remember (keyOf data) l.engine m
    pure (.remembered c data m)
  | .remembered c data m => do
    c.persist (keyOf data) m
    pure (.ready data m)
  | .ready data m => pure (.ready data m)

/-! ## §1 No interruption -/

/-- Goes through the stages up to the one at which a module has been compiled, if it comes to that. -/
def opening (l : Load) : Act Stage := do l.advance (← l.advance (← l.advance .asked))

/-- Goes through all stages without an interruption. -/
def stages (l : Load) : Act Stage := do l.advance (← l.advance (← l.opening))

def executable? (l : Load) : Stage → Option Executable
  | .ready _ m => some (l.executable m)
  | _ => none

/-- A load that is not interrupted compiles its source, with the same executable or failure and the
same world at the end. -/
theorem stages_eq_compile (l : Load) :
    l.executable? <$> l.stages = some <$> l.source.compile l.engine l.useCache l.verbose := by
  obtain ⟨source, engine, useCache, verbose⟩ := l
  unfold stages opening Source.compile
  simp only [advance, map_bind, bind_assoc, pure_bind]
  -- both begin by reading; what follows is compared by whether the cache is asked and what it has
  refine bind_congr fun data => ?_
  cases useCache with
  | false => simp [executable?, executable]
  | true =>
      simp only [if_true, Source.compileCached, map_bind, bind_assoc]
      refine bind_congr fun c => bind_congr fun result => ?_
      cases result with
      | some m => cases verbose <;> simp [executable?, executable]
      | none => simp [executable?, executable, Cache.put_eq]

/-! ## §2 Interruptions -/

/-- A module at a stage is what the data compiles to, for the engine of the load. -/
def Right (l : Load) : Stage → Prop
  | .built data m | .remembered _ data m | .ready data m =>
    Artifact.ofData? data = some m.artifact ∧ m.engine = l.engine
  | _ => True

/-- The cache is ready for what a stage does with it. -/
def Ready (l : Load) (k : CacheScope) (w : World) : Stage → Prop
  | .read data => l.useCache = true → k.ReadyFor w data
  | .built data _ => k.ReadyFor w data
  | .remembered c data _ => k.datas data ∧ k.Tends w.disk c data
  | _ => True

/-- Going on to the next stage stays within the footprint of the load. -/
theorem footprint_advance (l : Load) (stage : Stage) : (l.advance stage).Within l.verbose := by
  obtain ⟨source, engine, useCache, verbose⟩ := l
  -- one case for each stage, in the order in which a load goes through them
  cases stage with
  | asked => exact Act.Within.bind source.footprint_readModule fun data => Act.Within.pure _
  | read data =>
      cases useCache with
      | false => exact Act.Within.pure _
      | true =>
          refine Act.Within.bind Cache.footprint_shared fun c => ?_
          refine Act.Within.bind (c.footprint_get data engine) fun result => ?_
          cases result with
          | none => exact Act.Within.pure _
          | some m =>
              cases verbose with
              | false => exact Act.Within.bind (Act.Within.debug _ _) fun _ => Act.Within.pure _
              | true =>
                  exact Act.Within.bind (Act.Within.say _) fun _ =>
                    Act.Within.bind (Act.Within.debug _ _) fun _ => Act.Within.pure _
  | missed data =>
      refine Act.Within.bind (source.footprint_announce data) fun _ => ?_
      exact Act.Within.bind (source.footprint_compileData data engine) fun m => Act.Within.pure _
  | built data m =>
      refine Act.Within.bind Cache.footprint_shared fun c => ?_
      exact Act.Within.bind (c.footprint_remember _ engine m) fun _ => Act.Within.pure _
  | remembered c data m =>
      exact Act.Within.bind (c.footprint_persist _ m) fun _ => Act.Within.pure _
  | ready data m => exact Act.Within.pure _

/-- A stage keeps caches sound, and hands on a module only if it is right. -/
theorem advance_right {k : CacheScope} {w : World} (l : Load) {stage : Stage} (hw : k.Sound w)
    (hright : l.Right stage) (hready : l.Ready k w stage) :
    k.Sound ((l.advance stage).outcome w).2 ∧
      ∀ stage', ((l.advance stage).outcome w).1 = .ok stage' → l.Right stage' := by
  -- one case for each stage; only those that ask the cache, compile or tell the cache change anything
  obtain ⟨source, engine, useCache, verbose⟩ := l
  cases stage with
  | asked =>
      simp only [advance]
      rw [Act.outcome_bind_pure, source.outcome_readModule]
      refine ⟨hw, ?_⟩
      intro stage' h
      cases hdata : source.dataOn w.disk with
      | error f => simp [hdata, Except.map] at h
      | ok data =>
          simp only [hdata, Except.map, Except.ok.injEq] at h
          rw [← h]
          trivial
  | read data =>
      cases useCache with
      | false =>
          refine ⟨hw, fun stage' h => ?_⟩
          rw [← Except.ok.inj h]
          trivial
      | true =>
          obtain ⟨hknown, htends⟩ := hready rfl
          have hw₁ := CacheScope.Sound.shared w hw
          rcases hopen : Cache.shared.outcome w with ⟨opened, w₁⟩
          rw [hopen] at hw₁
          simp only [advance, if_true]
          cases opened with
          | error f =>
              rw [Act.outcome_bind_of_error hopen]
              exact ⟨hw₁, fun stage' h => by cases h⟩
          | ok c =>
              obtain ⟨result, w₂, hget, hw₂, -, -, hgot⟩ :=
                hw₁.get hknown (htends c w₁ hopen) engine
              rw [Act.outcome_bind_of_ok hopen, Act.outcome_bind_of_ok hget]
              cases result with
              | none =>
                  refine ⟨hw₂, fun stage' h => ?_⟩
                  rw [← Except.ok.inj h]
                  trivial
              | some m =>
                  obtain ⟨hengine, hartifact⟩ := hgot m rfl
                  cases verbose <;>
                  · refine ⟨hw₂.of_eq rfl rfl rfl, fun stage' h => ?_⟩
                    rw [← Except.ok.inj h]
                    exact ⟨hartifact, hengine⟩
  | missed data =>
      obtain ⟨out, hannounce⟩ := source.outcome_announce data verbose w
      have hw₁ : k.Sound { w with out := out } := hw.of_eq rfl rfl rfl
      simp only [advance]
      rw [Act.outcome_bind_of_ok hannounce]
      cases ha : Artifact.ofData? data with
      | none =>
          rw [Act.outcome_bind_of_error (source.outcome_compileData_of_none engine _ ha)]
          exact ⟨hw₁, fun stage' h => by cases h⟩
      | some a =>
          obtain ⟨logger, hout⟩ := source.outcome_compileData_of_some engine { w with out := out } ha
          rw [Act.outcome_bind_of_ok hout]
          refine ⟨hw₁.of_eq rfl rfl rfl, fun stage' h => ?_⟩
          rw [← Except.ok.inj h]
          cases useCache <;> exact ⟨ha, rfl⟩
  | built data m =>
      obtain ⟨hknown, htends⟩ := hready
      obtain ⟨hartifact, hengine⟩ := hright
      have hw₁ := CacheScope.Sound.shared w hw
      rcases hopen : Cache.shared.outcome w with ⟨opened, w₁⟩
      rw [hopen] at hw₁
      simp only [advance]
      cases opened with
      | error f =>
          rw [Act.outcome_bind_of_error hopen]
          exact ⟨hw₁, fun stage' h => by cases h⟩
      | ok c =>
          rw [Act.outcome_bind_of_ok hopen]
          refine ⟨hw₁.remember hknown hengine hartifact, fun stage' h => ?_⟩
          rw [← Except.ok.inj h]
          exact ⟨hartifact, hengine⟩
  | remembered c data m =>
      obtain ⟨hknown, htends⟩ := hready
      obtain ⟨w₁, hpersist, hw₁⟩ := hw.persist hknown htends hright.1
      simp only [advance]
      rw [Act.outcome_bind_of_ok hpersist]
      refine ⟨hw₁, fun stage' h => ?_⟩
      rw [← Except.ok.inj h]
      exact hright
  | ready data m =>
      refine ⟨hw, fun stage' h => ?_⟩
      rw [← Except.ok.inj h]
      exact hright

end Load

end WasmGauge
