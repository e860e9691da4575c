import WasmGauge.Proofs.Cache.LastWriter
import WasmGauge.Proofs.Cache.Opening
import WasmGauge.Proofs.Cache.Unusable

/-!
# Compilations that fail

A compilation through the cache that fails because of its source leaves nothing behind. If the source
cannot be read or is no text of a module, the cache is not even opened. Otherwise the data compiles to
nothing, and the cache, which has been asked in vain, has at most removed an artifact that could not be
used. As long as nobody stores a module for the data, every further attempt fails in the same way.

The last part is an invariant: the cache lacks the data. It is kept up by every use of the cache for other
data, by every attempt to compile this one, and by whatever happens outside that puts nothing under its
digest.

## Main statements

- `Cache.Spares.lacks`: what does not store a module for data, leaves the cache without one.
- `Source.compile_failure`: what a failing compilation leaves behind.
-/

namespace WasmGauge

open Storage (Path Disk DiskFault Entry Location)
open Wasm (Bytes)

namespace Cache

variable {c : Cache} {data data' : Bytes} {engine engine' : Engine} {w w' : World} {home : Location}

/-! ## §1 Data that a cache lacks -/

/-- A cache has no module for data and an engine: none is remembered, and there is nothing under the name
of the artifact. -/
structure Lacks (c : Cache) (data : Bytes) (engine : Engine) (w : World) : Prop where
  memory : ∀ r, w.memory.lookup (c.id, keyOf data) = some r → r.engine ≠ engine
  absent : w.disk.exists? (c.file (keyOf data)).text = .ok false

namespace Lacks

theorem get (h : c.Lacks data engine w) : (c.get data engine).outcome w = (.ok none, w) := by
  obtain ⟨logger, hout⟩ := c.outcome_takeUp (keyOf data) engine w
  rw [outcome_get_of_not_remembered h.memory, hout, h.absent]

/-- What a cache lacks is a matter of its memory and the disk alone. -/
theorem of_eq (h : c.Lacks data engine w) (hmemory : w'.memory = w.memory)
    (hdisk : w'.disk = w.disk) : c.Lacks data engine w' where
  memory := hmemory ▸ h.memory
  absent := hdisk ▸ h.absent

/-- Asking for a module, be it for this data or for other data, brings none about. -/
theorem after_get (h : c.Lacks data engine w) (data' : Bytes) (engine' : Engine) :
    c.Lacks data engine ((c.get data' engine').outcome w).2 := by
  -- either memory answers, or the disk is searched, with one of four results
  rcases c.outcome_get_cases data' engine' w with ⟨m, -, hget⟩ | ⟨-, hget⟩
  · rw [hget]
    exact h
  · have hsearches := c.searches_takeUp (isEntryName_entryName data') engine' w
    rw [← hget] at hsearches
    generalize (c.get data' engine').outcome w = out at hsearches
    cases hsearches with
    | absent _ => exact h
    | obstructed _ logger => exact h.of_eq rfl rfl
    | dropped _ _ logger => exact ⟨h.memory, Disk.exists?_erase h.absent _⟩
    | taken hthere ha =>
      -- there is nothing under the digest of the data, so the artifact is another one
      have hkey : keyOf data ≠ keyOf data' := by
        intro hkey
        have habsent := h.absent
        rw [hkey, hthere] at habsent
        cases habsent
      refine ⟨fun r hr => h.memory r ?_, h.absent⟩
      rw [lookup_remember, if_neg (by simpa using hkey)] at hr
      exact hr

theorem after_clear (h : c.Lacks data engine w) : c.Lacks data engine (c.clear.outcome w).2 where
  memory r hr := by
    rw [lookup_clear] at hr
    cases hr
  absent := by
    refine Act.Preserves.after (P := fun u => u.disk.exists? (c.file (keyOf data)).text = .ok false)
      h.absent fun _ => ?_
    refine Act.Preserves.bind (preserves_namesWith _ _) fun names => ?_
    refine Act.Preserves.forM (fun n => Act.Preserves.change fun u d hd hu => ?_) names
    rcases Disk.eq_erase_of_unlinkIfThere hd with rfl | ⟨q, rfl⟩
    · exact hu
    · exact Disk.exists?_erase hu q

theorem after_put (h : c.Lacks data engine w) (hdisk : c.AtHand home w.disk)
    (hkey : keyOf data' ≠ keyOf data) (m : Compiled) (owner : Option Engine) :
    c.Lacks data engine ((c.put data' m owner).outcome w).2 := by
  obtain ⟨w', hout, htouches, -⟩ := hdisk.outcome_put data' m owner
  rw [hout]
  have hother : home ++ [entryName (keyOf data)] ≠ home ++ [entryName (keyOf data')] := by
    intro hsame
    have hnames : entryName (keyOf data) = entryName (keyOf data') := by simpa using hsame
    exact hkey (entryName_injective hnames).symm
  refine ⟨fun r hr => h.memory r ?_, ?_⟩
  · rw [← htouches.memory _ (by simpa using hkey.symm)]
    exact hr
  · have habsent := h.absent
    rw [file_eq, (hdisk.entries data).exists?_eq] at habsent
    rw [file_eq, (htouches.disk.entries data).exists?_eq, htouches.places _ hother]
    exact habsent

end Lacks

end Cache

/-! ## §2 Compiling through the cache -/

def Failure.ofSource (f : Failure) : Bool :=
  f.class? = some .load ∨ f.class? = some .compile

/-- A cache that cannot be opened is not to be blamed on a source. -/
theorem Cache.ofSource_of_shared_error {f : Failure} {w w' : World}
    (h : Cache.shared.outcome w = (.error f, w')) : f.ofSource = false := by
  rw [outcome_shared] at h
  cases hshared : w.sharedCache with
  | some c =>
    rw [hshared] at h
    cases h
  | none =>
    rw [hshared] at h
    simp only [outcome_openAt] at h
    -- what can go wrong is making the directory, looking at it, and what is seen there
    cases hensure : w.disk.ensureDirectory w.settings.cacheDirectory directoryMode with
    | error fault =>
      simp only [hensure] at h
      cases h
      rfl
    | ok d =>
      simp only [hensure] at h
      cases hstatus : d.status w.settings.cacheDirectory.text with
      | error fault =>
        simp only [hstatus] at h
        cases h
        rfl
      | ok e =>
        simp only [hstatus, checkDirectory] at h
        cases hfault : privacyFault? e.owner d.user e.mode with
        | none =>
          simp only [hfault] at h
          cases h
        | some fault =>
          simp only [hfault] at h
          cases h
          rfl

theorem Cache.ofSource_of_get_error {c : Cache} {data : Bytes} {engine : Engine} {f : Failure}
    {w w' : World} (h : (c.get data engine).outcome w = (.error f, w')) : f.ofSource = false := by
  rcases c.outcome_get_cases data engine w with ⟨m, -, hget⟩ | ⟨-, hget⟩
  · rw [hget] at h
    cases h
  · have hsearches := c.searches_takeUp (isEntryName_entryName data) engine w
    rw [← hget, h] at hsearches
    -- the only failure of a search is one of the disk
    cases hsearches
    rfl

namespace Source

variable {s : Source} {data : Bytes} {engine : Engine} {verbose : Bool} {c : Cache} {f : Failure}
  {w w₁ w₂ w' : World}

/-- If the cache has nothing for data that compiles to nothing, compiling it fails, and at most something
has been written. -/
theorem outcome_compileCached_of_miss (s : Source) (verbose : Bool)
    (hopen : Cache.shared.outcome w = (.ok c, w₁))
    (hget : (c.get data engine).outcome w₁ = (.ok none, w₂)) (ha : Artifact.ofData? data = none) :
    ∃ out, (s.compileCached data engine verbose).outcome w =
      (.error (.compile s.path .rejected), { w₂ with out := out }) := by
  have hshared := (Cache.sharedCache_of_get hget).trans (Cache.sharedCache_of_shared hopen)
  have hcases := s.compileCached_cases verbose hopen hget hshared
  rw [ha] at hcases
  exact hcases

/-- Compiling a source that can be read fails as obtaining the module for its data does. -/
theorem compile_eq_error_iff (hdata : s.dataOn w.disk = .ok data) :
    (s.compile engine true verbose).outcome w = (.error f, w') ↔
      (s.compileCached data engine verbose).outcome w = (.error f, w') := by
  have hobtain : s.obtain data engine true verbose = s.compileCached data engine verbose := rfl
  rw [s.outcome_compile, hdata]
  simp only [hobtain]
  -- the module is only wrapped up, and that cannot fail
  rcases (s.compileCached data engine verbose).outcome w with ⟨result, w₁⟩
  cases result with
  | ok m => simp [Except.map]
  | error f' => simp [Except.map]

/-- A failure of a compilation through the cache that is to be blamed on the source comes after the cache
has been opened and has been asked for the module in vain. -/
theorem exists_miss_of_compileCached
    (h : (s.compileCached data engine verbose).outcome w = (.error f, w'))
    (hf : f.ofSource = true) :
    ∃ c w₁ w₂ out, Cache.shared.outcome w = (.ok c, w₁) ∧
      (c.get data engine).outcome w₁ = (.ok none, w₂) ∧ Artifact.ofData? data = none ∧
      f = .compile s.path .rejected ∧ w' = { w₂ with out := out } := by
  rcases hopen : Cache.shared.outcome w with ⟨opened, w₁⟩
  cases opened with
  -- a cache that cannot be opened, or asked, fails for a reason of its own
  | error f' =>
    have hblame := Cache.ofSource_of_shared_error hopen
    unfold compileCached at h
    rw [Act.outcome_bind_of_error hopen] at h
    cases h
    rw [hf] at hblame
    cases hblame
  | ok c =>
    rcases hget : (c.get data engine).outcome w₁ with ⟨got, w₂⟩
    have hshared := (Cache.sharedCache_of_get hget).trans (Cache.sharedCache_of_shared hopen)
    cases got with
    | error f' =>
      have hblame := Cache.ofSource_of_get_error hget
      unfold compileCached at h
      rw [Act.outcome_bind_of_ok hopen, Act.outcome_bind_of_error hget] at h
      cases h
      rw [hf] at hblame
      cases hblame
    | ok result =>
      have hcases := s.compileCached_cases verbose hopen hget hshared
      cases result with
      | some m =>
        obtain ⟨out, logger, hout⟩ := hcases
        rw [hout] at h
        cases h
      | none =>
        cases ha : Artifact.ofData? data with
        | none =>
          rw [ha] at hcases
          obtain ⟨out, hout⟩ := hcases
          rw [hout] at h
          cases h
          exact ⟨c, w₁, w₂, out, rfl, hget, rfl, rfl, rfl⟩
        -- what compiles is put into the cache, and that never fails
        | some a =>
          rw [ha] at hcases
          obtain ⟨out, logger, hout⟩ := hcases
          obtain ⟨disk, logger', hput⟩ := c.outcome_put data ⟨w₂.made, engine, a⟩ engine
            { w₂ with out := out, made := w₂.made + 1, logger := logger }
          rw [hout _ hput] at h
          cases h

end Source

/-! ## §3 What stores nothing -/

namespace Cache

variable {c : Cache} {data : Bytes} {engine : Engine} {u w w' : World}

/-- Steps by which nobody stores a module for data in a cache. The cache may be asked for any module and be
cleared; modules for other data may be stored, by hand or by compiling a source, if the directory is at
hand; and sources may be compiled whose data compiles to nothing. What happens outside is free as long as
the cache is not told to remember a module for the data, and nothing is put under its digest. -/
inductive Spares (c : Cache) (data : Bytes) : World → World → Prop where
  | get {w : World} (data' : Bytes) (engine : Engine) :
      Spares c data w ((c.get data' engine).outcome w).2
  | clear {w : World} : Spares c data w (c.clear.outcome w).2
  | put {w : World} {home : Location} {data' : Bytes} (hdisk : c.AtHand home w.disk)
      (hkey : keyOf data' ≠ keyOf data) (m : Compiled) (owner : Option Engine) :
      Spares c data w ((c.put data' m owner).outcome w).2
  | compile {w : World} (s : Source) (engine : Engine) (verbose : Bool)
      (hshared : w.sharedCache = some c)
      (hdata : ∀ data', s.dataOn w.disk = .ok data' → Artifact.ofData? data' = none ∨
        keyOf data' ≠ keyOf data ∧ ∃ home, c.AtHand home w.disk) :
      Spares c data w ((s.compile engine true verbose).outcome w).2
  | outside {w w' : World}
      (hmemory : ∀ r, w'.memory.lookup (c.id, keyOf data) = some r →
        w.memory.lookup (c.id, keyOf data) = some r)
      (habsent : w'.disk.exists? (c.file (keyOf data)).text = .ok false) : Spares c data w w'

/-- Compiling a source whose data is not this one, or compiles to nothing, stores no module for this
data. -/
theorem Lacks.after_compile (h : c.Lacks data engine w) (s : Source) (engine' : Engine) (verbose : Bool)
    (hshared : w.sharedCache = some c)
    (hdata : ∀ data', s.dataOn w.disk = .ok data' → Artifact.ofData? data' = none ∨
      keyOf data' ≠ keyOf data ∧ ∃ home, c.AtHand home w.disk) :
    c.Lacks data engine ((s.compile engine' true verbose).outcome w).2 := by
  rw [s.outcome_compile]
  cases hread : s.dataOn w.disk with
  -- a source that cannot be read does not come to the cache
  | error f => exact h
  | ok data' =>
    show c.Lacks data engine ((s.compileCached data' engine' verbose).outcome w).2
    have hopen := shared_of_sharedCache hshared
    have hafter := h.after_get data' engine'
    rcases hget : (c.get data' engine').outcome w with ⟨got, w₂⟩
    rw [hget] at hafter
    have hshared₂ := (sharedCache_of_get hget).trans hshared
    cases got with
    | error f =>
      unfold Source.compileCached
      rw [Act.outcome_bind_of_ok hopen, Act.outcome_bind_of_error hget]
      exact hafter
    | ok result =>
      have hcases := s.compileCached_cases verbose hopen hget hshared₂
      cases result with
      | some m =>
        obtain ⟨out, logger, hout⟩ := hcases
        rw [hout]
        exact hafter.of_eq rfl rfl
      | none =>
        cases ha : Artifact.ofData? data' with
        | none =>
          rw [ha] at hcases
          obtain ⟨out, hout⟩ := hcases
          rw [hout]
          exact hafter.of_eq rfl rfl
        | some a =>
          -- only here is something stored, and that for other data
          rw [ha] at hcases
          obtain ⟨out, logger, hout⟩ := hcases
          rcases hdata data' hread with hnone | ⟨hkey, home, hdisk⟩
          · rw [ha] at hnone
            cases hnone
          obtain ⟨-, htouches, -⟩ := (hdisk.given data' engine').touches hdisk rfl
          rw [hget] at htouches
          have hlacks : c.Lacks data engine
              { w₂ with out := out, made := w₂.made + 1, logger := logger } := hafter.of_eq rfl rfl
          have hput := hlacks.after_put htouches.disk hkey ⟨w₂.made, engine', a⟩ (some engine')
          obtain ⟨disk, logger', hstored⟩ := c.outcome_put data' ⟨w₂.made, engine', a⟩ engine'
            { w₂ with out := out, made := w₂.made + 1, logger := logger }
          rw [hstored] at hput
          rw [hout _ hstored]
          exact hput

/-- One step that stores no module for the data leaves the cache without one. -/
theorem Spares.lacks (hstep : c.Spares data w w') (h : c.Lacks data engine w) :
    c.Lacks data engine w' := by
  cases hstep with
  | get data' engine' => exact h.after_get data' engine'
  | clear => exact h.after_clear
  | put hdisk hkey m owner => exact h.after_put hdisk hkey m owner
  | compile s engine' verbose hshared hdata => exact h.after_compile s engine' verbose hshared hdata
  | outside hmemory habsent => exact ⟨fun r hr => h.memory r (hmemory r hr), habsent⟩

theorem lacks_of_run (hrun : Relation.ReflTransGen (c.Spares data) w w') (h : c.Lacks data engine w) :
    c.Lacks data engine w' := by
  -- on the run: no step of it stores a module for the data
  induction hrun with
  | refl => exact h
  | tail _ hstep ih => exact hstep.lacks ih

end Cache

/-! ## §4 What a failing compilation leaves behind -/

namespace Source

/-- A cached compilation that fails because of its source leaves the caches as they were. If the source
cannot be read or assembled, nothing at all has happened, and it fails again for as long as it stays as
it is. Otherwise its data compiles to nothing. Then the cache has been opened, for which directories may
have been made; nothing that is remembered has changed, and nothing on the disk but that the entry of an
unusable artifact for this data may have been removed; and for every engine for which nothing was
remembered, the source fails to compile in the same way until somebody stores a module for its data. -/
theorem compile_failure (s : Source) (engine : Engine) (verbose : Bool) {w w' : World} {f : Failure}
    (h : (s.compile engine true verbose).outcome w = (.error f, w')) (hf : f.ofSource = true) :
    (∀ g, s.dataOn w.disk = .error g → f = g ∧ w' = w ∧
      ∀ u engine' verbose', s.dataOn u.disk = s.dataOn w.disk →
        (s.compile engine' true verbose').outcome u = (.error f, u)) ∧
    ∀ data, s.dataOn w.disk = .ok data → f = .compile s.path .rejected ∧
      ∃ c w₁, Cache.shared.outcome w = (.ok c, w₁) ∧ w.disk.Grows w₁.disk ∧
        (w.sharedCache.isSome → w₁ = w) ∧ w'.sharedCache = some c ∧ w'.memory = w.memory ∧
        (w'.disk = w₁.disk ∨
          ∃ home e, c.Unusable (keyOf data) w₁.disk home e ∧ e.isDirectory = false ∧
            w'.disk = w₁.disk.erase (home ++ [Cache.entryName (keyOf data)])) ∧
        (∀ r, w.memory.lookup (c.id, keyOf data) = some r → r.engine ≠ engine) ∧
        ∀ engine', (∀ r, w.memory.lookup (c.id, keyOf data) = some r → r.engine ≠ engine') →
          ∀ u verbose', Relation.ReflTransGen (c.Spares data) w' u → u.sharedCache = some c →
            s.dataOn u.disk = .ok data →
            ∃ out, (s.compile engine' true verbose').outcome u = (.error f, { u with out := out }) := by
  refine ⟨fun g hdata => ?_, fun data hdata => ?_⟩
  · -- the failure is that of reading, and reading looks at the source alone
    rw [s.outcome_compile, hdata] at h
    cases h
    refine ⟨rfl, rfl, fun u engine' verbose' hsame => ?_⟩
    rw [s.outcome_compile, hsame, hdata]
  · obtain ⟨c, w₁, w₂, out, hopen, hget, ha, rfl, rfl⟩ :=
      exists_miss_of_compileCached ((compile_eq_error_iff hdata).1 h) hf
    obtain ⟨hgrows, hmemory, hsame⟩ := Cache.grows_shared hopen
    obtain ⟨hother, hkept, habsent, hdisk⟩ := Cache.miss_of_get hget
    have hshared := (Cache.sharedCache_of_get hget).trans (Cache.sharedCache_of_shared hopen)
    refine ⟨rfl, c, w₁, hopen, hgrows, hsame, hshared, hkept.trans hmemory, ?_, hmemory ▸ hother, ?_⟩
    · rcases hdisk with ⟨-, hdisk⟩ | hdropped
      · exact .inl hdisk
      · exact .inr hdropped
    · intro engine' hengine' u verbose' hrun hshared' hdata'
      -- nothing has been stored for the data, and nobody stores anything for it until then
      have hlacks : c.Lacks data engine' { w₂ with out := out } :=
        ⟨by rw [hkept, hmemory]; exact hengine', habsent⟩
      have hlacks' := Cache.lacks_of_run hrun hlacks
      obtain ⟨out', hout'⟩ := s.outcome_compileCached_of_miss verbose'
        (Cache.shared_of_sharedCache hshared') hlacks'.get ha
      exact ⟨out', (compile_eq_error_iff hdata').2 hout'⟩

end Source

/-- A world in which a file holds something else than a module, and the cache is open. -/
def World.spoilt : World :=
  { World.start [] with
    disk := Bundle.diskOpened.put (Bundle.workplace ++ ["m.wasm"]) ⟨.file [1], 0, 0o644⟩
    sharedCache := some Cache.first }

/-- The file is no module, and it is none the second time either. -/
theorem Source.compile_failure_spoilt : ∃ w',
    ((ofText "m.wasm").compile Engine.shared true false).outcome World.spoilt =
        (.error (.compile (Path.ofText "m.wasm") .rejected), w') ∧
      w'.memory = World.spoilt.memory ∧
      ∃ out, ((ofText "m.wasm").compile Engine.shared true false).outcome w' =
        (.error (.compile (Path.ofText "m.wasm") .rejected), { w' with out := out }) := by
  have hdata : (ofText "m.wasm").dataOn World.spoilt.disk = .ok [1] := by decide +kernel
  have ha : Artifact.ofData? [1] = none := by
    have hnone : (Artifact.ofData? [1]).isNone = true := by decide +kernel
    exact Option.isNone_iff_eq_none.1 hnone
  have hlacks : Cache.first.Lacks [1] Engine.shared World.spoilt :=
    ⟨fun r hr => (by cases hr), by decide +kernel⟩
  obtain ⟨out, hmiss⟩ := outcome_compileCached_of_miss (ofText "m.wasm") false
    (Cache.shared_of_sharedCache rfl) hlacks.get ha
  have hfail := (compile_eq_error_iff hdata).2 hmiss
  obtain ⟨-, hrefused⟩ := compile_failure (ofText "m.wasm") Engine.shared false hfail rfl
  obtain ⟨-, c, w₁, -, -, -, hshared, hmemory, -, hother, hlater⟩ := hrefused [1] hdata
  exact ⟨_, hfail, hmemory, hlater Engine.shared hother _ false .refl hshared hdata⟩

end WasmGauge
