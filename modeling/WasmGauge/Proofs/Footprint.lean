import WasmGauge.Proofs.Cache.Operations
import WasmGauge.Proofs.Compilation

/-!
# The footprint of loading

Compiling a source may change the disk, the log, what caches remember and how much has been made. It
never touches the clock, the settings, the bounds of calls, the stream of a report, or an instance
that is alive, and only a verbose one writes anything.

## Main statements

- `Source.footprint_compile`: the footprint of a compilation.
-/

namespace WasmGauge

open Storage (Path Disk DiskFault)
open Wasm (Bytes)

/-- A world that a compilation may lead to from another one. -/
structure World.Footprint (verbose : Bool) (w w' : World) : Prop where
  /-- What may change. -/
  rest : w' = { w with
    disk := w'.disk, logger := w'.logger, out := w'.out, made := w'.made
    sharedCache := w'.sharedCache, memory := w'.memory, fates := w'.fates }
  /-- Numbers are never given twice. -/
  made : w.made ≤ w'.made
  /-- Only who is verbose writes. -/
  out : verbose = false → w'.out = w.out

namespace World.Footprint

variable {verbose : Bool} {u v w : World}

theorem refl (verbose : Bool) (w : World) : w.Footprint verbose w :=
  ⟨rfl, Nat.le_refl _, fun _ => rfl⟩

theorem trans (h : u.Footprint verbose v) (h' : v.Footprint verbose w) :
    u.Footprint verbose w where
  rest := by
    have hrest := h'.rest
    rw [h.rest] at hrest
    exact hrest
  made := Nat.le_trans h.made h'.made
  out hv := (h'.out hv).trans (h.out hv)

end World.Footprint

/-- A step within the footprint of a compilation. -/
abbrev Act.Within (verbose : Bool) {α : Type} (act : Act α) : Prop :=
  act.Moves (World.Footprint verbose)

namespace Act.Within

variable {verbose : Bool} {α β : Type}

theorem bind {act : Act α} {next : α → Act β} (first : act.Within verbose)
    (second : ∀ a, (next a).Within verbose) : (act >>= next).Within verbose :=
  Act.Moves.bind (R := World.Footprint verbose) World.Footprint.trans first second

theorem of_same {act : Act α} (h : ∀ w, (act.outcome w).2 = w) : act.Within verbose :=
  Act.Moves.of_same (World.Footprint.refl verbose) h

theorem pure (a : α) : (Pure.pure a : Act α).Within verbose := of_same fun _ => rfl

theorem fail (f : Failure) : (Act.fail f : Act α).Within verbose := of_same fun _ => rfl

theorem get : (MonadState.get : Act World).Within verbose := of_same fun _ => rfl

theorem see (g : Disk → Except DiskFault α) : (Act.see g).Within verbose :=
  of_same fun w => by rw [Act.outcome_see]

theorem change (g : Disk → Except DiskFault Disk) : (Act.change g).Within verbose := by
  intro w
  rw [Act.outcome_change]
  cases g w.disk with
  | ok d => exact ⟨rfl, Nat.le_refl _, fun _ => rfl⟩
  | error fault => exact World.Footprint.refl verbose w

theorem debug (part message : String) : (Act.debug part message).Within verbose :=
  fun _ => ⟨rfl, Nat.le_refl _, fun _ => rfl⟩

theorem freshId : Act.freshId.Within verbose := fun _ => ⟨rfl, Nat.le_succ _, fun _ => rfl⟩

theorem compiledFor (engine : Engine) (a : Artifact) :
    (Act.compiledFor engine a).Within verbose :=
  bind freshId fun _ => pure _

theorem say (line : String) : (Act.say line).Within true :=
  fun _ => ⟨rfl, Nat.le_refl _, fun h => by cases h⟩

end Act.Within

open Act.Within

variable {verbose : Bool}

/-! ## §1 Caches -/

namespace Cache

theorem footprint_openAt (directory : Path) : (openAt directory).Within verbose := by
  refine Act.Within.bind (change _) fun _ => Act.Within.bind (see _) fun e => ?_
  refine Act.Within.bind Act.Within.get fun w => ?_
  cases checkDirectory directory.text e.owner w.disk.user e.mode with
  | ok _ => exact Act.Within.bind freshId fun _ => Act.Within.pure _
  | error f => exact Act.Within.fail f

theorem footprint_shared : shared.Within verbose := by
  refine Act.Within.bind Act.Within.get fun w => ?_
  cases w.sharedCache with
  | some c => exact Act.Within.pure c
  | none =>
      refine Act.Within.bind ?_ fun c => Act.Within.bind ?_ fun _ => Act.Within.pure c
      · exact Act.Within.bind Act.Within.get fun w => footprint_openAt _
      · exact fun w => ⟨rfl, Nat.le_refl _, fun _ => rfl⟩

theorem footprint_remember (c : Cache) (key : String) (engine : Engine) (m : Compiled) :
    (c.remember key engine m).Within verbose :=
  fun _ => ⟨rfl, Nat.le_refl _, fun _ => rfl⟩

theorem footprint_takeUp (c : Cache) (key : String) (engine : Engine) :
    (c.takeUp key engine).Within verbose := by
  refine Act.Within.bind (see _) fun there => ?_
  cases there with
  | false => exact Act.Within.pure none
  | true =>
      refine Act.Within.bind Act.Within.get fun w => ?_
      -- what is taken up gets the next number; what cannot be used is removed
      cases artifactAt w.disk (c.file key) with
      | ok a =>
          refine Act.Within.bind (compiledFor engine a) fun m => ?_
          exact Act.Within.bind (footprint_remember c key engine m) fun _ => Act.Within.pure _
      | error reason =>
          refine Act.Within.bind (debug _ _) fun _ => ?_
          exact Act.Within.bind (change _) fun _ => Act.Within.pure _

theorem footprint_get (c : Cache) (data : Bytes) (engine : Engine) :
    (c.get data engine).Within verbose := by
  refine Act.Within.bind Act.Within.get fun w => ?_
  cases c.lookup? w (keyOf data) with
  | none => exact footprint_takeUp c _ engine
  | some r =>
      -- what is remembered for another engine is as good as nothing
      by_cases hengine : r.engine = engine
      · simp only [hengine, if_true]
        exact Act.Within.pure _
      · simp only [hengine, if_false]
        exact footprint_takeUp c _ engine

theorem footprint_persist (c : Cache) (key : String) (m : Compiled) :
    (c.persist key m).Within verbose := by
  intro w
  obtain ⟨logger, hout⟩ := outcome_persist c key m w
  rw [hout]
  exact ⟨rfl, Nat.le_refl _, fun _ => rfl⟩

theorem footprint_put (c : Cache) (data : Bytes) (m : Compiled) (engine : Engine) :
    (c.put data m (some engine)).Within verbose :=
  Act.Within.bind (footprint_remember c _ engine m) fun _ => footprint_persist c _ m

theorem footprint_clear (c : Cache) : c.clear.Within verbose := by
  refine Act.Within.bind (fun w => ⟨rfl, Nat.le_refl _, fun _ => rfl⟩) fun _ => ?_
  refine Act.Within.bind ?_ fun names => ?_
  · refine Act.Within.bind (see _) fun there => ?_
    cases there with
    | false => exact Act.Within.pure _
    | true => exact Act.Within.bind (see _) fun names => Act.Within.pure _
  · exact Act.Moves.forM (World.Footprint.refl verbose) World.Footprint.trans
      (fun n => change _) names

end Cache

/-! ## §2 Sources -/

namespace Source

theorem footprint_readModule (s : Source) : s.readModule.Within verbose :=
  Act.Within.of_same fun w => by rw [s.outcome_readModule]

theorem footprint_announce (s : Source) (data : Bytes) :
    (s.announce data verbose).Within verbose := by
  cases verbose with
  | false => exact Act.Within.pure _
  | true => exact say _

theorem footprint_compileData (s : Source) (data : Bytes) (engine : Engine) :
    (s.compileData data engine).Within verbose := by
  unfold compileData
  cases Artifact.ofData? data with
  | none => exact Act.Within.fail _
  | some a =>
      refine Act.Within.bind (compiledFor engine a) fun m => ?_
      exact Act.Within.bind (debug _ _) fun _ => Act.Within.pure m

theorem footprint_compileCached (s : Source) (data : Bytes) (engine : Engine) :
    (s.compileCached data engine verbose).Within verbose := by
  refine Act.Within.bind Cache.footprint_shared fun c => ?_
  refine Act.Within.bind (c.footprint_get data engine) fun result => ?_
  -- a hit may say so; a miss announces, compiles, and tells the cache
  cases result with
  | some m =>
      cases verbose with
      | false => exact Act.Within.bind (debug _ _) fun _ => Act.Within.pure m
      | true =>
          exact Act.Within.bind (say _) fun _ =>
            Act.Within.bind (debug _ _) fun _ => Act.Within.pure m
  | none =>
      refine Act.Within.bind (s.footprint_announce data) fun _ => ?_
      refine Act.Within.bind (s.footprint_compileData data engine) fun m => ?_
      refine Act.Within.bind Cache.footprint_shared fun c => ?_
      exact Act.Within.bind (c.footprint_put data m engine) fun _ => Act.Within.pure m

/-- A compilation stays within its footprint, whether it succeeds or fails. -/
theorem footprint_compile (s : Source) (engine : Engine) (useCache : Bool) :
    (s.compile engine useCache verbose).Within verbose := by
  refine Act.Within.bind s.footprint_readModule fun data => ?_
  cases useCache with
  | true =>
      exact Act.Within.bind (s.footprint_compileCached data engine) fun m => Act.Within.pure _
  | false =>
      refine Act.Within.bind (s.footprint_announce data) fun _ => ?_
      exact Act.Within.bind (s.footprint_compileData data engine) fun m => Act.Within.pure _

end Source

end WasmGauge
