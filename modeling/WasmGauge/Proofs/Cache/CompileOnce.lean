import Mathlib.Logic.Relation
import WasmGauge.Proofs.Comparison.Independence
import WasmGauge.Proofs.Handles.Stages

/-!
# Compiling once

Sources are compiled and loaded, and candidates compared, through the cache for all. In between, files
come and go, artifacts are spoiled or cannot be written, and other data is compiled, also for other
engines. The engine for all compiles the same data once, and every call for that data which returns
gives the one module.

Memory is asked before the disk, and told before it. From the first call on that has come by a module
for the data, memory holds this module, and whatever happens afterwards leaves it there.

## Main statements

- `Source.obtains_compileCached`: what a call for the data comes to.
- `Source.keepsFor_compileCached`: a call for other data leaves alone what is remembered for this
  one.
- `Course.once_of_run`: after any course, nothing has come of the data yet, or memory holds the one
  module that has.
- `Course.compile_once`: the data is compiled once, and every call gives the same module.
-/

namespace WasmGauge

open Wasm (Bytes)

variable {data d : Bytes} {u v w w' : World} {m m' : Compiled}

/-! ## §1 What is remembered for some data -/

/-- The cache for all remembers a module for the data and the engine for all. -/
def World.Holds (w : World) (data : Bytes) (m : Compiled) : Prop :=
  ∃ c, w.sharedCache = some c ∧ w.memory.lookup (c.id, keyOf data) = some ⟨Engine.shared, m⟩

/-- What the cache for all remembers for some data is left alone: once open, it stays the cache for
all, and remembers the same under the digest. Before, anything may happen. -/
def World.SameFor (data : Bytes) (w w' : World) : Prop :=
  ∀ c, w.sharedCache = some c → w'.sharedCache = some c ∧
    w'.memory.lookup (c.id, keyOf data) = w.memory.lookup (c.id, keyOf data)

namespace World

theorem SameFor.refl (data : Bytes) (w : World) : w.SameFor data w := fun _ h => ⟨h, rfl⟩

theorem SameFor.trans (h : u.SameFor data v) (h' : v.SameFor data w) : u.SameFor data w := by
  intro c hc
  obtain ⟨hc', hlookup⟩ := h c hc
  obtain ⟨hc'', hlookup'⟩ := h' c hc'
  exact ⟨hc'', hlookup'.trans hlookup⟩

theorem SameFor.of_eq (hshared : w'.sharedCache = w.sharedCache) (hmemory : w'.memory = w.memory) :
    w.SameFor data w' :=
  fun _ hc => ⟨hshared.trans hc, by rw [hmemory]⟩

theorem SameFor.remember (hkey : keyOf d ≠ keyOf data) (w : World) (c : Cache) (r : Remembered) :
    w.SameFor data (w.remember c (keyOf d) r) := by
  intro c' hc'
  -- the digest is half of the key under which a module is remembered
  have hne : (c'.id, keyOf data) ≠ (c.id, keyOf d) := fun h => hkey (Prod.ext_iff.1 h).2.symm
  exact ⟨hc', by rw [Cache.lookup_remember, if_neg hne]⟩

/-- A module that is held stays where it is left alone. -/
theorem Holds.of_sameFor (hw : w.Holds data m) (h : w.SameFor data w') : w'.Holds data m := by
  obtain ⟨c, hshared, hlookup⟩ := hw
  obtain ⟨hshared', hsame⟩ := h c hshared
  exact ⟨c, hshared', hsame.trans hlookup⟩

/-- Data with the same digest is the same to the cache. -/
theorem Holds.of_key (hw : w.Holds data m) (hkey : keyOf d = keyOf data) : w.Holds d m := by
  unfold Holds
  rw [hkey]
  exact hw

end World

/-! ## §2 What leaves it alone -/

/-- A step that leaves alone what the cache for all remembers for some data. -/
abbrev Act.KeepsFor (data : Bytes) {α : Type} (act : Act α) : Prop := act.Moves (World.SameFor data)

namespace Act.KeepsFor

variable {α β : Type}

theorem bind {act : Act α} {next : α → Act β} (first : act.KeepsFor data)
    (second : ∀ a, (next a).KeepsFor data) : (act >>= next).KeepsFor data :=
  Act.Moves.bind (R := World.SameFor data) World.SameFor.trans first second

theorem of_same {act : Act α} (h : ∀ w, (act.outcome w).2 = w) : act.KeepsFor data :=
  Act.Moves.of_same (World.SameFor.refl data) h

theorem pure (a : α) : (Pure.pure a : Act α).KeepsFor data := of_same fun _ => rfl

theorem debug (part message : String) : (Act.debug part message).KeepsFor data :=
  fun _ => .of_eq rfl rfl

theorem say (line : String) : (Act.say line).KeepsFor data := fun _ => .of_eq rfl rfl

end Act.KeepsFor

theorem Executable.keepsFor_instantiate (x : Executable) : x.instantiate.KeepsFor data := by
  intro w
  -- only a new instance is noted in the world, and no cache is asked
  cases hi : x.instance? w.bounds with
  | error cause =>
    rw [outcome_instantiate_of_error hi]
    exact .refl data w
  | ok i =>
    obtain ⟨logger, hout⟩ := outcome_instantiate_of_ok hi
    rw [hout]
    exact .of_eq rfl rfl

theorem Handle.keepsFor_invoke (h : Handle) (name : String) (args : List Value) (label : Value) :
    (h.invoke name args label).KeepsFor data := by
  intro w
  have hrest := (h.framed_invoke name args label w).rest
  exact .of_eq (by rw [hrest]) (by rw [hrest])

theorem Candidate.keepsFor_measure_of_reference (c : Candidate) {r : Reference}
    (hsubject : c.subject = .reference r) (name : String) (args : List Value) (useCache : Bool) :
    (c.measure name args useCache).KeepsFor data := by
  intro w
  have hsame := c.sameStore_of_reference hsubject name args useCache w
  exact .of_eq hsame.sharedCache hsame.memory

theorem Candidate.keepsFor_report_rest (m : Measurement) (sink : Sink) :
    (do
      let line ← Act.ofValue m.line
      Act.write sink (line ++ "\n")
      pure m : Act Measurement).KeepsFor data := by
  refine .bind (.of_same fun w => by rw [Act.outcome_ofValue]) fun line => ?_
  refine .bind (fun w => ?_) fun _ => .pure m
  rw [World.outcome_write]
  cases sink <;> exact .of_eq rfl rfl

namespace Cache

/-- Opening the cache for all is no matter: where it is open, nothing happens. -/
theorem keepsFor_shared : shared.KeepsFor data := by
  intro w c hc
  rw [shared_of_sharedCache hc]
  exact ⟨hc, rfl⟩

theorem keepsFor_get (c : Cache) (hkey : keyOf d ≠ keyOf data) (engine : Engine) :
    (c.get d engine).KeepsFor data := by
  intro w c' hc'
  have hfetches := c.fetches_get d engine w
  -- getting for one digest touches what is remembered under this one only
  have hne : (c'.id, keyOf data) ≠ (c.id, keyOf d) := fun h => hkey (Prod.ext_iff.1 h).2.symm
  exact ⟨hfetches.sharedCache.trans hc', hfetches.lookup_of_ne hne⟩

theorem keepsFor_put (c : Cache) (hkey : keyOf d ≠ keyOf data) (m : Compiled) (engine : Engine) :
    (c.put d m (some engine)).KeepsFor data := by
  intro w
  obtain ⟨disk, logger, hput⟩ := c.outcome_put d m engine w
  rw [hput]
  -- first memory is told, then the artifact is written
  exact (World.SameFor.remember hkey w c ⟨engine, m⟩).trans (.of_eq rfl rfl)

end Cache

namespace Source

variable (s : Source) (engine : Engine) (verbose : Bool)

theorem keepsFor_announce (d : Bytes) : (s.announce d verbose).KeepsFor data := by
  intro w
  obtain ⟨out, hannounce⟩ := s.outcome_announce d verbose w
  rw [hannounce]
  exact .of_eq rfl rfl

theorem keepsFor_compileData (d : Bytes) : (s.compileData d engine).KeepsFor data := by
  intro w
  cases ha : Artifact.ofData? d with
  | none =>
    rw [s.outcome_compileData_of_none engine w ha]
    exact .refl data w
  | some a =>
    obtain ⟨logger, hout⟩ := s.outcome_compileData_of_some engine w ha
    rw [hout]
    exact .of_eq rfl rfl

theorem keepsFor_compileCached (hkey : keyOf d ≠ keyOf data) :
    (s.compileCached d engine verbose).KeepsFor data := by
  refine .bind Cache.keepsFor_shared fun c => .bind (c.keepsFor_get hkey engine) fun result => ?_
  -- a hit says so and ends; a miss compiles and puts the module into the cache
  cases result with
  | some m =>
    cases verbose with
    | false => exact .bind (.debug _ _) fun _ => .pure m
    | true => exact .bind (.say _) fun _ => .bind (.debug _ _) fun _ => .pure m
  | none =>
    refine .bind (s.keepsFor_announce verbose d) fun _ => ?_
    refine .bind (s.keepsFor_compileData engine d) fun m => ?_
    exact .bind Cache.keepsFor_shared fun c => .bind (c.keepsFor_put hkey m engine) fun _ => .pure m

end Source

/-! ## §3 A call for the data -/

/-- What a call for the data comes to: whether the engine compiles the data, and what is given. -/
inductive Obtains (data : Bytes) (w : World) :
    Option Compiled → Except Failure Compiled × World → Prop where
  /-- No module is held, and the call fails. The engine compiles nothing. -/
  | failed {f : Failure} {w' : World} (hnew : ∀ m, ¬ w.Holds data m) :
      Obtains data w none (.error f, w')
  /-- A module is given that was held, or that has been taken up. The engine compiles nothing. -/
  | found {m : Compiled} {w' : World} (hold : ∀ m', w.Holds data m' → m' = m)
      (hafter : w'.Holds data m) : Obtains data w none (.ok m, w')
  /-- No module is held, and the engine compiles the data. -/
  | built {m : Compiled} {w' : World} (hnew : ∀ m, ¬ w.Holds data m) (hafter : w'.Holds data m) :
      Obtains data w (some m) (.ok m, w')

def Stage.built? : Stage → Option Compiled
  | .built _ m => some m
  | _ => none

namespace Load

/-- What the engine compiles for a load that is not interrupted, if it comes to that. -/
def built? (l : Load) (w : World) : Option Compiled :=
  (l.opening.outcome w).1.toOption.bind Stage.built?

section Built

variable {s : Source} {engine : Engine} {verbose : Bool}

theorem built?_of_data (hdata : s.dataOn w.disk = .ok d) :
    (mk s engine true verbose).built? w =
      (((mk s engine true verbose).advance (.read d) >>=
        (mk s engine true verbose).advance).outcome w).1.toOption.bind Stage.built? := by
  -- the first stage only reads, and leaves the world as it is
  have hasked : ((mk s engine true verbose).advance .asked).outcome w = (.ok (.read d), w) := by
    simp only [advance]
    rw [Act.outcome_bind_pure, s.outcome_readModule, hdata]
    rfl
  unfold built? opening
  rw [Act.outcome_bind_of_ok hasked]

theorem built?_of_error (hdata : s.dataOn w.disk = .ok d) {f : Failure}
    (hask : (do (← Cache.shared).get d engine).outcome w = (.error f, w')) :
    (mk s engine true verbose).built? w = none := by
  have hread : ((mk s engine true verbose).advance (.read d)).outcome w = (.error f, w') := by
    simp only [advance, if_true]
    rw [← bind_assoc]
    exact Act.outcome_bind_of_error hask
  rw [built?_of_data hdata, Act.outcome_bind_of_error hread]
  rfl

theorem built?_of_some (hdata : s.dataOn w.disk = .ok d)
    (hask : (do (← Cache.shared).get d engine).outcome w = (.ok (some m), w')) :
    (mk s engine true verbose).built? w = none := by
  have hread : ∃ w₁, ((mk s engine true verbose).advance (.read d)).outcome w =
      (.ok (.ready d m), w₁) := by
    simp only [advance, if_true]
    rw [← bind_assoc, Act.outcome_bind_of_ok hask]
    cases verbose <;> exact ⟨_, rfl⟩
  obtain ⟨w₁, hread⟩ := hread
  rw [built?_of_data hdata, Act.outcome_bind_of_ok hread]
  rfl

/-- A load that finds nothing in the cache comes to compiling, and what is a module is compiled. -/
theorem built?_of_none (hdata : s.dataOn w.disk = .ok d)
    (hask : (do (← Cache.shared).get d engine).outcome w = (.ok none, w')) :
    (mk s engine true verbose).built? w =
      (Artifact.ofData? d).map (⟨w'.made, engine, ·⟩) := by
  have hread : ((mk s engine true verbose).advance (.read d)).outcome w = (.ok (.missed d), w') := by
    simp only [advance, if_true]
    rw [← bind_assoc, Act.outcome_bind_of_ok hask]
    rfl
  rw [built?_of_data hdata, Act.outcome_bind_of_ok hread]
  obtain ⟨out, hannounce⟩ := s.outcome_announce d verbose w'
  simp only [advance]
  rw [Act.outcome_bind_of_ok hannounce]
  -- the engine compiles what is a module, and refuses what is not
  cases ha : Artifact.ofData? d with
  | none =>
    rw [Act.outcome_bind_of_error (s.outcome_compileData_of_none engine _ ha)]
    rfl
  | some a =>
    obtain ⟨logger, hout⟩ := s.outcome_compileData_of_some engine { w' with out := out } ha
    rw [Act.outcome_bind_of_ok hout]
    rfl

end Built

end Load

/-- A module that is held is what the cache for all gives. -/
theorem World.Holds.outcome_get (hw : w.Holds data m) (hkey : keyOf d = keyOf data) :
    (do (← Cache.shared).get d Engine.shared).outcome w = (.ok (some m), w) := by
  obtain ⟨c, hshared, hlookup⟩ := hw.of_key hkey
  rw [Act.outcome_bind_of_ok (Cache.shared_of_sharedCache hshared)]
  exact Cache.outcome_get_of_remembered hlookup rfl

/-- A call through the cache for the data, or other data with the same digest, never fails where a
module is held, and where one is given, it is held from then on. -/
theorem Source.obtains_compileCached (s : Source) (verbose : Bool) (hkey : keyOf d = keyOf data)
    (hdata : s.dataOn w.disk = .ok d) :
    Obtains data w ((Load.mk s Engine.shared true verbose).built? w)
      ((s.compileCached d Engine.shared verbose).outcome w) := by
  -- where a module is held, the cache gives it, so the cases in which it does not are new
  have hheld : ∀ m, w.Holds data m →
      (do (← Cache.shared).get d Engine.shared).outcome w = (.ok (some m), w) :=
    fun m hm => hm.outcome_get hkey
  rcases hask : (do (← Cache.shared).get d Engine.shared).outcome w with ⟨result, w₂⟩
  rw [hask] at hheld
  cases result with
  | error f =>
    -- the cache cannot be opened, or an entry can neither be used nor removed
    have hfail : (s.compileCached d Engine.shared verbose).outcome w = (.error f, w₂) := by
      unfold compileCached
      rw [← bind_assoc]
      exact Act.outcome_bind_of_error hask
    rw [Load.built?_of_error hdata hask, hfail]
    exact .failed fun m hm => by cases hheld m hm
  | ok result =>
    obtain ⟨c, w₁, hopen, hget⟩ := Act.outcome_bind_eq_ok hask
    have hfetches := c.fetches_get d Engine.shared w₁
    rw [hget] at hfetches
    have hshared : w₂.sharedCache = some c :=
      hfetches.sharedCache.trans (Cache.sharedCache_of_shared hopen)
    have hcases := s.compileCached_cases verbose hopen hget hshared
    cases result with
    | some m =>
      obtain ⟨out, logger, hout⟩ := hcases
      rw [Load.built?_of_some hdata hask, hout]
      -- an artifact that is taken up is remembered as well, so the disk is not asked again
      refine .found (fun m' hm' => ?_) ⟨c, hshared, hkey ▸ hfetches.lookup_of_some rfl⟩
      cases hheld m' hm'
      rfl
    | none =>
      have hnew : ∀ m, ¬ w.Holds data m := fun m hm => by cases hheld m hm
      rw [Load.built?_of_none hdata hask]
      cases ha : Artifact.ofData? d with
      | none =>
        simp only [ha] at hcases
        obtain ⟨out, hout⟩ := hcases
        rw [hout]
        exact .failed hnew
      | some a =>
        simp only [ha] at hcases
        obtain ⟨out, logger, hout⟩ := hcases
        obtain ⟨disk, logger', hput⟩ := c.outcome_put d ⟨w₂.made, Engine.shared, a⟩ Engine.shared
          { w₂ with out := out, made := w₂.made + 1, logger := logger }
        rw [hout _ hput]
        -- memory has been told before the artifact is written, and whether that succeeds is no matter
        refine .built hnew ⟨c, hshared, ?_⟩
        exact (Cache.lookup_remember _ c (keyOf d) _ _).trans (if_pos (by rw [hkey]))

namespace Obtains

variable {built : Option Compiled} {out : Except Failure Compiled × World}

/-- Where a module is held, a call gives it without compiling anything. -/
theorem of_holds (h : Obtains data w built out) (hw : w.Holds data m) :
    built = none ∧ out.1 = .ok m := by
  cases h with
  | failed hnew => exact absurd hw (hnew m)
  | found hold hafter => exact ⟨rfl, by rw [hold m hw]⟩
  | built hnew hafter => exact absurd hw (hnew m)

/-- A module that a call gives is held afterwards. -/
theorem holds_of_ok (h : Obtains data w built out) (hok : out.1 = .ok m) : out.2.Holds data m := by
  cases h with
  | failed hnew => cases hok
  | found hold hafter =>
    cases hok
    exact hafter
  | built hnew hafter =>
    cases hok
    exact hafter

theorem ok_of_built (h : Obtains data w (some m) out) : out.1 = .ok m := by
  cases h
  rfl

end Obtains

/-! ## §4 Courses -/

/-- What has come of a call through the cache. -/
structure Compilation where
  data : Bytes
  /-- What the engine has compiled, if it came to that. -/
  built : Option Compiled
  /-- The module that the call has given, if it returned. -/
  given : Option Compiled

namespace Compilation

/-- A module has come of a call: it has been compiled, or given. -/
def Shows (x : Compilation) (m : Compiled) : Prop := x.built = some m ∨ x.given = some m

/-- The engine has compiled data with the same digest. -/
def Builds (data : Bytes) (x : Compilation) : Bool := keyOf x.data = keyOf data && x.built.isSome

end Compilation

/-- What is noted of a call for a source, with the module that it gives. Nothing is noted if the source
cannot be read. -/
def Source.note (s : Source) (engine : Engine) (verbose : Bool) (given : Option Compiled)
    (w : World) : List Compilation :=
  match s.dataOn w.disk with
  | .ok data => [⟨data, (Load.mk s engine true verbose).built? w, given⟩]
  | .error _ => []

def Source.noteCompile (s : Source) (engine : Engine) (verbose : Bool) (w : World) :
    List Compilation :=
  s.note engine verbose
    (((s.compile engine true verbose).outcome w).1.toOption.map (·.compiled)) w

def Source.noteLoad (s : Source) (engine : Engine) (verbose : Bool) (w : World) :
    List Compilation :=
  s.note engine verbose
    (((s.load engine true verbose).outcome w).1.toOption.map (·.executable.compiled)) w

/-- What is noted of a candidate. Only a module is loaded. -/
def Candidate.note (c : Candidate) (w : World) : List Compilation :=
  match c.subject with
  | .reference _ => []
  | .source s => s.noteLoad Engine.shared false w

/-- What is noted of a comparison: each candidate in its turn, up to the first one that fails. -/
def noteAll (name : String) (args : List Value) (sink : Sink) :
    List Candidate → World → List Compilation
  | [], _ => []
  | c :: cs, w =>
    c.note w ++
      match (c.report name args sink true).outcome w with
      | (.ok _, w') => noteAll name args sink cs w'
      | (.error _, _) => []

/-- A world, with what has come of the calls through the cache so far. -/
structure Course where
  world : World
  /-- What has come of the calls, in order. -/
  history : List Compilation

/-- A source is not compiled for another engine if it holds the data. To the cache, data with the same
digest is the same. -/
def Source.Admits (s : Source) (data : Bytes) (engine : Engine) (w : World) : Prop :=
  ∀ d, s.dataOn w.disk = .ok d → keyOf d = keyOf data → engine = Engine.shared

namespace Course

/-- One step of a course. -/
inductive Step (data : Bytes) : Course → Course → Prop where
  | compile {σ : Course} (s : Source) (engine : Engine) (verbose : Bool)
      (hadmits : s.Admits data engine σ.world) :
      Step data σ ⟨((s.compile engine true verbose).outcome σ.world).2,
        σ.history ++ s.noteCompile engine verbose σ.world⟩
  | load {σ : Course} (s : Source) (engine : Engine) (verbose : Bool)
      (hadmits : s.Admits data engine σ.world) :
      Step data σ ⟨((s.load engine true verbose).outcome σ.world).2,
        σ.history ++ s.noteLoad engine verbose σ.world⟩
  /-- Candidates are compared through the cache. -/
  | compare {σ : Course} (cs : List Candidate) (name : String) (args : List Value) (sink : Sink) :
      Step data σ ⟨((compare cs name args sink true).outcome σ.world).2,
        σ.history ++ noteAll name args sink cs σ.world⟩
  /-- Anything else happens, to sources and artifacts or to how the next ones are written, as long as
  the cache for all is not told about the data, nor made to forget it. -/
  | outside {σ : Course} {w' : World} (hsame : σ.world.SameFor data w') :
      Step data σ ⟨w', σ.history⟩

/-- A course of any number of steps. -/
def Run (data : Bytes) : Course → Course → Prop := Relation.ReflTransGen (Step data)

end Course

/-- What has come of some data: nothing yet, or one module, which is held and has been compiled once at
most. -/
inductive Once (data : Bytes) (w : World) (xs : List Compilation) : Prop where
  /-- Nothing has come of it. -/
  | new (hnone : ∀ x ∈ xs, keyOf x.data = keyOf data → ∀ m, ¬ x.Shows m)
  /-- One module has come of it. -/
  | settled (m : Compiled) (hheld : w.Holds data m)
      (hcount : xs.countP (Compilation.Builds data) ≤ 1)
      (hall : ∀ x ∈ xs, keyOf x.data = keyOf data → ∀ m', x.Shows m' → m' = m)

namespace Once

variable {xs : List Compilation} {x : Compilation}

theorem of_sameFor (h : Once data w xs) (hsame : w.SameFor data w') : Once data w' xs := by
  cases h with
  | new hnone => exact .new hnone
  | settled m hheld hcount hall => exact .settled m (hheld.of_sameFor hsame) hcount hall

theorem preserves {α : Type} {act : Act α} (hact : act.KeepsFor data) :
    act.Preserves (Once data · xs) :=
  fun w hw => hw.of_sameFor (hact w)

/-- What has come of other data is no matter. -/
theorem concat_of_ne (h : Once data w xs) (hkey : keyOf x.data ≠ keyOf data) :
    Once data w (xs ++ [x]) := by
  cases h with
  | new hnone =>
    refine .new (List.forall_mem_append.2 ⟨hnone, List.forall_mem_singleton.2 fun hsame => ?_⟩)
    exact absurd hsame hkey
  | settled m hheld hcount hall =>
    refine .settled m hheld ?_
      (List.forall_mem_append.2 ⟨hall, List.forall_mem_singleton.2 fun hsame => absurd hsame hkey⟩)
    simpa [Compilation.Builds, hkey] using hcount

/-- Of data of which nothing has come, nothing has been compiled. -/
theorem countP_eq_zero (hnone : ∀ x ∈ xs, keyOf x.data = keyOf data → ∀ m, ¬ x.Shows m) :
    xs.countP (Compilation.Builds data) = 0 := by
  refine List.countP_eq_zero.2 fun x hx hbuilds => ?_
  obtain ⟨hkey, hbuilt⟩ : keyOf x.data = keyOf data ∧ x.built.isSome = true := by
    simpa [Compilation.Builds] using hbuilds
  obtain ⟨m, hm⟩ := Option.isSome_iff_exists.1 hbuilt
  exact hnone x hx hkey m (.inl hm)

/-- A call for the data gives the module that has come of it, or is the first one of which a module
comes. -/
theorem concat (h : Once data w xs) {out : Except Failure Compiled × World}
    (hout : Obtains data w x.built out)
    (hgiven : ∀ m, x.given = some m → out.1 = .ok m) : Once data out.2 (xs ++ [x]) := by
  -- whatever comes of the call is what it gives, so the result settles all that is noted
  have hshows : ∀ m, x.Shows m → out.1 = .ok m := by
    rintro m (hbuilt | hgave)
    · exact Obtains.ok_of_built (hbuilt ▸ hout)
    · exact hgiven m hgave
  cases h with
  | settled m hheld hcount hall =>
    -- memory answers: nothing more is compiled
    obtain ⟨hbuilt, hok⟩ := hout.of_holds hheld
    refine .settled m (hout.holds_of_ok hok) ?_
      (List.forall_mem_append.2 ⟨hall, List.forall_mem_singleton.2 fun _ m' hm' => ?_⟩)
    · simpa [Compilation.Builds, hbuilt] using hcount
    · exact Except.ok.inj ((hshows m' hm').symm.trans hok)
  | new hnone =>
    cases hresult : out.1 with
    | error f =>
      refine .new (List.forall_mem_append.2 ⟨hnone, List.forall_mem_singleton.2 fun _ m hm => ?_⟩)
      cases hresult.symm.trans (hshows m hm)
    | ok m =>
      refine .settled m (hout.holds_of_ok hresult) ?_ (List.forall_mem_append.2
        ⟨fun y hy hsame m' hm' => absurd hm' (hnone y hy hsame m'),
          List.forall_mem_singleton.2 fun _ m' hm' => ?_⟩)
      · -- the call is the only one for which the data may have been compiled
        rw [List.countP_append, countP_eq_zero hnone, Nat.zero_add]
        exact List.countP_le_length
      · exact Except.ok.inj ((hshows m' hm').symm.trans hresult)

section Calls

variable {s : Source} {engine : Engine} {verbose : Bool}

/-- A call for a source keeps to the module that has come of the data, if it gives nothing but what
compiling the source gives. -/
theorem note (h : Once data w xs) (hadmits : s.Admits data engine w) {given : Option Compiled}
    (hgiven : ∀ m, given = some m →
      ∃ x, ((s.compile engine true verbose).outcome w).1 = .ok x ∧ x.compiled = m) :
    Once data ((s.compile engine true verbose).outcome w).2 (xs ++ s.note engine verbose given w) := by
  unfold Source.note
  rw [s.outcome_compile] at hgiven ⊢
  -- a source that cannot be read is not noted, and the call for it has done nothing
  cases hdata : s.dataOn w.disk with
  | error f => simpa using h
  | ok d =>
    rw [hdata] at hgiven
    show Once data ((s.compileCached d engine verbose).outcome w).2 (xs ++ [⟨d, _, given⟩])
    by_cases hkey : keyOf d = keyOf data
    · -- the same to the cache, so the engine is the one for all
      obtain rfl := hadmits d hdata hkey
      refine h.concat (s.obtains_compileCached verbose hkey hdata) fun m hm => ?_
      obtain ⟨x, hx, rfl⟩ := hgiven m hm
      have hmap : ((s.compileCached d Engine.shared verbose).outcome w).1.map
          (fun m => (⟨s, Engine.shared, m⟩ : Executable)) = .ok x := hx
      cases hresult : ((s.compileCached d Engine.shared verbose).outcome w).1 with
      | error f =>
        rw [hresult] at hmap
        cases hmap
      | ok m =>
        rw [hresult] at hmap
        cases hmap
        rfl
    · -- other data: nothing that matters comes of it
      have hother := s.keepsFor_compileCached engine verbose hkey w
      exact (h.of_sameFor hother).concat_of_ne hkey

theorem compile (h : Once data w xs) (hadmits : s.Admits data engine w) :
    Once data ((s.compile engine true verbose).outcome w).2
      (xs ++ s.noteCompile engine verbose w) := by
  refine h.note hadmits fun m hm => ?_
  cases hresult : ((s.compile engine true verbose).outcome w).1 with
  | error f =>
    rw [hresult] at hm
    cases hm
  | ok x =>
    rw [hresult] at hm
    exact ⟨x, rfl, Option.some.inj hm⟩

theorem load (h : Once data w xs) (hadmits : s.Admits data engine w) :
    Once data ((s.load engine true verbose).outcome w).2 (xs ++ s.noteLoad engine verbose w) := by
  have hcompiled : Once data ((s.compile engine true verbose).outcome w).2
      (xs ++ s.noteLoad engine verbose w) := by
    refine h.note hadmits fun m hm => ?_
    rcases hload : (s.load engine true verbose).outcome w with ⟨result, w'⟩
    rw [hload] at hm
    cases result with
    | error f => cases hm
    | ok g =>
      obtain ⟨x, w₁, hcompile, hmade⟩ := Act.outcome_bind_eq_ok hload
      obtain rfl : g.executable = x := (Executable.birth_of_instantiate hmade).1.executable
      exact ⟨_, by rw [hcompile], Option.some.inj hm⟩
  -- making the instance, whether that succeeds or not, tells the cache nothing
  exact Act.Preserves.after hcompiled fun x => preserves x.keepsFor_instantiate

theorem report (h : Once data w xs) (c : Candidate) (name : String) (args : List Value)
    (sink : Sink) :
    Once data ((c.report name args sink true).outcome w).2 (xs ++ c.note w) := by
  have hmeasured : Once data ((c.measure name args true).outcome w).2 (xs ++ c.note w) := by
    unfold Candidate.note
    -- a host function needs no module, so nothing is noted
    cases hsubject : c.subject with
    | reference r =>
      simpa using h.of_sameFor (c.keepsFor_measure_of_reference hsubject name args true w)
    | source s =>
      unfold Candidate.measure
      rw [hsubject]
      have hloaded : Once data ((s.load Engine.shared true false).outcome w).2
          (xs ++ s.noteLoad Engine.shared false w) := h.load fun d _ _ => rfl
      exact Act.Preserves.after hloaded fun g =>
        preserves (g.keepsFor_invoke name args c.label)
  exact Act.Preserves.after hmeasured fun m => preserves (Candidate.keepsFor_report_rest m sink)

/-- A comparison keeps to the module that has come of the data, whichever candidate fails. -/
theorem compare (h : Once data w xs) (cs : List Candidate) (name : String) (args : List Value)
    (sink : Sink) :
    Once data ((compare cs name args sink true).outcome w).2
      (xs ++ noteAll name args sink cs w) := by
  -- on the candidates: each one is reported in the world that the others before it leave
  induction cs generalizing w xs with
  | nil => simpa [noteAll] using h
  | cons c cs ih =>
    have hfirst := h.report c name args sink
    rw [compare_cons, Act.outcome_bind, noteAll, ← List.append_assoc]
    rcases hreport : (c.report name args sink true).outcome w with ⟨result, w'⟩
    rw [hreport] at hfirst
    cases result with
    | error f => simpa using hfirst
    | ok m => exact Act.Preserves.after (ih hfirst) fun ms => preserves (.pure _)

end Calls

end Once

namespace Course

variable {σ τ : Course}

theorem Step.once (hstep : Step data σ τ) (h : Once data σ.world σ.history) :
    Once data τ.world τ.history := by
  cases hstep with
  | compile s engine verbose hadmits => exact h.compile hadmits
  | load s engine verbose hadmits => exact h.load hadmits
  | compare cs name args sink => exact h.compare cs name args sink
  | outside hsame => exact h.of_sameFor hsame

/-- After any course, nothing has come of the data yet, or memory holds the one module that has. -/
theorem once_of_run (hrun : Run data ⟨w, []⟩ σ) : Once data σ.world σ.history := by
  -- on the run, which may begin in any world: the history is empty, so nothing has come of the data
  induction hrun with
  | refl => exact .new (by simp)
  | tail _ hstep ih => exact hstep.once ih

/-- The same data is compiled once. Let sources be compiled, loaded and compared through the cache for
all, in any order and any number; let other data be compiled in between, for whichever engine; and let
artifacts be removed, be spoiled or not be written at any point. As long as the cache is not told about
the data, made to forget it, or asked for it by another engine:

* the engine for all has compiled the data once at most;
* every call for the data that has returned has given the same module, the one that has been compiled
  if there is one;
* once a module has come of the data, every call for it returns with this module, whatever has become
  of the artifacts;
* what is counted of a call is what the first stages of a load come to, and all stages of a load one
  after another are what compiling its source is. -/
theorem compile_once (hrun : Run data ⟨w, []⟩ σ) :
    σ.history.countP (fun x => x.data = data ∧ x.built.isSome) ≤ 1 ∧
    (∀ x ∈ σ.history, ∀ y ∈ σ.history, x.data = data → y.data = data →
      ∀ m m', x.Shows m → y.Shows m' → m = m') ∧
    (∀ x ∈ σ.history, x.data = data → ∀ m, x.Shows m →
      ∀ (s : Source) (verbose : Bool), s.dataOn σ.world.disk = .ok data →
        ((s.compile Engine.shared true verbose).outcome σ.world).1 =
          .ok ⟨s, Engine.shared, m⟩) ∧
    ∀ l : Load,
      (∀ w, l.built? w = (l.opening.outcome w).1.toOption.bind Stage.built?) ∧
        l.executable? <$> (do l.advance (← l.advance (← l.opening))) =
          some <$> l.source.compile l.engine l.useCache l.verbose := by
  -- what is counted for the digest is counted for the data at least
  have hcount_le : σ.history.countP (fun x => x.data = data ∧ x.built.isSome) ≤
      σ.history.countP (Compilation.Builds data) := by
    refine List.countP_mono_left fun x _ hx => ?_
    obtain ⟨rfl, hbuilt⟩ : x.data = data ∧ x.built.isSome = true := by simpa using hx
    simp [Compilation.Builds, hbuilt]
  -- either nothing has come of the data, or one module that memory holds
  cases once_of_run hrun with
  | new hnone =>
    have hnever : ∀ x ∈ σ.history, x.data = data → ∀ m, ¬ x.Shows m :=
      fun x hx hdata => hnone x hx (by rw [hdata])
    rw [Once.countP_eq_zero hnone] at hcount_le
    exact ⟨Nat.le_succ_of_le hcount_le, fun x hx _ _ hdata _ m _ hm => absurd hm (hnever x hx hdata m),
      fun x hx hdata m hm => absurd hm (hnever x hx hdata m),
      fun l => ⟨fun w => rfl, l.stages_eq_compile⟩⟩
  | settled m hheld hcount hall =>
    have hshown : ∀ x ∈ σ.history, x.data = data → ∀ m', x.Shows m' → m' = m :=
      fun x hx hdata => hall x hx (by rw [hdata])
    refine ⟨Nat.le_trans hcount_le hcount, fun x hx y hy hdx hdy m₁ m₂ h₁ h₂ => ?_,
      fun x hx hdx m' hm' s verbose hdata => ?_, fun l => ⟨fun w => rfl, l.stages_eq_compile⟩⟩
    · rw [hshown x hx hdx m₁ h₁, hshown y hy hdy m₂ h₂]
    · obtain rfl := hshown x hx hdx m' hm'
      obtain ⟨-, hok⟩ := (s.obtains_compileCached verbose rfl hdata).of_holds hheld
      rw [s.outcome_compile, hdata]
      exact congrArg (Except.map fun m => (⟨s, Engine.shared, m⟩ : Executable)) hok

/-! ## §5 A directory that has gone -/

/-- A source that holds the data can be compiled, and that is noted. -/
theorem exists_step_compile {s : Source} (hdata : s.dataOn σ.world.disk = .ok data) :
    ∃ w' x, Step data σ ⟨w', σ.history ++ [x]⟩ ∧ x.data = data ∧
      x.built = (Load.mk s Engine.shared true false).built? σ.world ∧
      x.given =
        ((s.compile Engine.shared true false).outcome σ.world).1.toOption.map (·.compiled) := by
  have hstep : Step data σ _ := .compile s Engine.shared false fun _ _ _ => rfl
  unfold Source.noteCompile Source.note at hstep
  rw [hdata] at hstep
  exact ⟨_, _, hstep, rfl, rfl, rfl⟩

theorem isSome_built?_fib :
    ((Load.mk Bundle.fib Engine.shared true false).built? (World.start [])).isSome = true := by
  decide +kernel

/-- A bundled module is compiled, the directory of the cache is removed, and the module is compiled
again. The second call gives the module of the first one, and compiles nothing. -/
theorem compile_once_fib : ∃ σ x y m, Run Bundle.fibBinary ⟨World.start [], []⟩ σ ∧
    σ.history = [x, y] ∧ x.data = Bundle.fibBinary ∧ y.data = Bundle.fibBinary ∧
    x.built = some m ∧ y.built = none ∧ y.given = some m := by
  obtain ⟨w₁, x, hfirst, hx, hbuilt, -⟩ :=
    exists_step_compile (σ := ⟨World.start [], []⟩) Bundle.dataOn_fib
  obtain ⟨m, hm⟩ := Option.isSome_iff_exists.1 isSome_built?_fib
  rw [hm] at hbuilt
  have hgone : Step Bundle.fibBinary ⟨w₁, [x]⟩ ⟨{ w₁ with disk := Bundle.disk }, [x]⟩ :=
    .outside (.of_eq rfl rfl)
  have hrun := (Relation.ReflTransGen.single hfirst).tail hgone
  obtain ⟨w₂, y, hsecond, hy, -, hgiven⟩ :=
    exists_step_compile (σ := ⟨{ w₁ with disk := Bundle.disk }, [x]⟩) Bundle.dataOn_fib
  obtain ⟨-, -, hreturns, -⟩ := compile_once hrun
  rw [hreturns x (by simp) hx m (.inl hbuilt) Bundle.fib false Bundle.dataOn_fib] at hgiven
  obtain ⟨hcount, -⟩ := compile_once (hrun.tail hsecond)
  refine ⟨_, x, y, m, hrun.tail hsecond, rfl, hx, hy, hbuilt, ?_, hgiven⟩
  -- the data has been compiled for the first call already
  cases hagain : y.built with
  | none => rfl
  | some m' => simp [hx, hy, hbuilt, hagain] at hcount

end Course

end WasmGauge
