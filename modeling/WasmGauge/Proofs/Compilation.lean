import WasmGauge.Gauge.Loading
import WasmGauge.Proofs.Outcome

/-!
# Compiling a source

What compiling a source does apart from any cache. What the source holds is a matter of the disk
alone, and what its data compiles to is a matter of the data alone; the engine only puts its number to
it.

## Main statements

- `Source.outcome_readModule`: reading a source changes nothing and depends on the disk alone.
- `Source.compiles_announced`: compiling data without a cache gives what the data compiles to.
- `Source.outcome_compile`: compiling a source is reading it and obtaining the module for its data.
-/

namespace WasmGauge

open Storage (Path Disk DiskFault)
open Wasm (Bytes)

def Compiled.Same (m m' : Compiled) : Prop := m.engine = m'.engine ∧ m.artifact = m'.artifact

namespace Source

/-! ## §1 Reading -/

/-- What an engine compiles for a source, as it lies on a disk. -/
def dataOn (s : Source) (d : Disk) : Except Failure Bytes :=
  match d.read s.text with
  | .ok bytes => (s.assemble bytes).mapError (.compile s.path)
  | .error (.os cause _) => .error (.load s.path cause)
  | .error fault => .error (.disk fault)

theorem outcome_readModule (s : Source) (w : World) :
    s.readModule.outcome w = (s.dataOn w.disk, w) := by
  unfold readModule readBytes dataOn
  rw [Act.outcome_bind, Act.outcome_bind_of_ok (Act.outcome_get w)]
  -- what is read is assembled, if it is a text, and a refusal is put into words
  cases w.disk.read s.text with
  | ok bytes =>
      simp only [Act.outcome_pure]
      cases s.assemble bytes <;> rfl
  | error fault => cases fault <;> rfl

/-! ## §2 Compiling data -/

variable {data : Bytes}

/-- What is expected of a compilation: a module with certain code for a certain engine, or the failure
that there is none. -/
def Gives (s : Source) : Option (Engine × Artifact) → Except Failure Compiled → Prop
  | some (engine, a), result => ∃ m, result = .ok m ∧ m.engine = engine ∧ m.artifact = a
  | none, result => result = .error (.compile s.path .rejected)

/-- What compiling data gives: a module for the engine with what the data compiles to, or the failure
that the data compiles to nothing. -/
def Compiles (s : Source) (data : Bytes) (engine : Engine) (result : Except Failure Compiled) :
    Prop :=
  s.Gives ((Artifact.ofData? data).map (engine, ·)) result

theorem Compiles.engine_eq {s : Source} {data : Bytes} {engine : Engine} {m : Compiled}
    (h : s.Compiles data engine (.ok m)) : m.engine = engine := by
  unfold Compiles at h
  cases ha : Artifact.ofData? data with
  | none =>
      rw [ha] at h
      cases h
  | some a =>
      rw [ha] at h
      obtain ⟨m', hm, hengine, -⟩ := h
      cases hm
      exact hengine

/-- What is expected is settled but for the number of the module. -/
theorem Gives.agree {s : Source} {expected : Option (Engine × Artifact)}
    {r r' : Except Failure Compiled} (h : s.Gives expected r) (h' : s.Gives expected r') :
    Act.Agree Compiled.Same r r' := by
  -- either both have failed for the one reason, or both have given the one artifact
  cases expected with
  | none =>
      rw [h, h']
      rfl
  | some expected =>
      obtain ⟨m, rfl, hengine, hartifact⟩ := h
      obtain ⟨m', rfl, hengine', hartifact'⟩ := h'
      exact ⟨hengine.trans hengine'.symm, hartifact.trans hartifact'.symm⟩

theorem outcome_announce (s : Source) (data : Bytes) (verbose : Bool) (w : World) :
    ∃ out, (s.announce data verbose).outcome w = (.ok ⟨⟩, { w with out := out }) := by
  cases verbose with
  | false => exact ⟨w.out, rfl⟩
  | true => exact ⟨_, rfl⟩

theorem outcome_compileData_of_none (s : Source) (engine : Engine) (w : World)
    (ha : Artifact.ofData? data = none) :
    (s.compileData data engine).outcome w = (.error (.compile s.path .rejected), w) := by
  unfold Source.compileData
  rw [ha]
  rfl

theorem outcome_compileData_of_some (s : Source) (engine : Engine) (w : World) {a : Artifact}
    (ha : Artifact.ofData? data = some a) :
    ∃ logger, (s.compileData data engine).outcome w =
      (.ok ⟨w.made, engine, a⟩, { w with made := w.made + 1, logger := logger }) := by
  unfold Source.compileData
  rw [ha]
  exact ⟨_, rfl⟩

theorem compiles_announced (s : Source) (data : Bytes) (engine : Engine) (verbose : Bool)
    (w : World) :
    Compiles s data engine
      ((do s.announce data verbose; s.compileData data engine : Act Compiled).outcome w).1 := by
  obtain ⟨out, hannounce⟩ := outcome_announce s data verbose w
  rw [Act.outcome_bind_of_ok hannounce]
  unfold Compiles
  cases ha : Artifact.ofData? data with
  | none =>
      rw [outcome_compileData_of_none s engine _ ha]
      rfl
  | some a =>
      obtain ⟨logger, hout⟩ := outcome_compileData_of_some s engine { w with out := out } ha
      rw [hout]
      exact ⟨_, rfl, rfl, rfl⟩

/-! ## §3 Compiling a source -/

/-- The module for data, through the cache if that is asked for. -/
def obtain (s : Source) (data : Bytes) (engine : Engine) (useCache verbose : Bool) : Act Compiled :=
  if useCache then s.compileCached data engine verbose
  else do
    s.announce data verbose
    s.compileData data engine

/-- A source that cannot be read fails for this reason, and nothing happens. For one that can be read,
the module for its data is obtained. -/
theorem outcome_compile (s : Source) (engine : Engine) (useCache verbose : Bool) (w : World) :
    (s.compile engine useCache verbose).outcome w =
      match s.dataOn w.disk with
      | .error f => (.error f, w)
      | .ok data =>
        (((s.obtain data engine useCache verbose).outcome w).1.map fun m => ⟨s, engine, m⟩,
          ((s.obtain data engine useCache verbose).outcome w).2) := by
  unfold compile obtain
  rw [Act.outcome_bind, s.outcome_readModule]
  cases s.dataOn w.disk with
  | error f => rfl
  | ok data =>
      -- the cache gives the module by itself; without it there is an announcement before
      cases useCache with
      | true => exact Act.outcome_bind_pure _ _ w
      | false =>
          simp only [Bool.false_eq_true, if_false]
          rw [← Act.outcome_bind_pure, bind_assoc]

end Source

end WasmGauge
