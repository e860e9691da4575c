import WasmGauge.Proofs.Cache.Soundness

/-!
# What a cache yields

Whether or not what a cache keeps is right, it is settled what a compilation through it will give: the
module that is remembered for the engine, or else the artifact on the disk, or else what the data
compiles to. Once a compilation has given this, every further one will; and what the cache yields for
other data does not change.

## Main statements

- `CacheScope.gives_compileCached`: a compilation gives what the cache yields, and does not change what
  it yields, be it for the data at hand or for other data.
- `CacheScope.Follows.obtain_cached`: no compilation changes what further ones give.
-/

namespace WasmGauge

open Storage (Path Disk DiskFault Location)
open Wasm (Bytes)

/-! ## §1 Yields -/

namespace Cache

/-- The module that a cache remembers for data and an engine. -/
def remembered? (c : Cache) (w : World) (data : Bytes) (engine : Engine) : Option Compiled :=
  ((w.memory.lookup (c.id, keyOf data)).filter (·.engine = engine)).map (·.compiled)

/-- The engine and the code of the module that a compilation through a cache gives, if it gives
one. -/
def yield (c : Cache) (w : World) (data : Bytes) (engine : Engine) : Option (Engine × Artifact) :=
  match c.remembered? w data engine with
  | some m => some (m.engine, m.artifact)
  | none =>
    match artifactAt w.disk (c.file (keyOf data)) with
    | .ok a => some (engine, a)
    | .error _ => (Artifact.ofData? data).map (engine, ·)

variable {c : Cache} {w w' : World} {data : Bytes} {engine : Engine} {m : Compiled}

theorem yield_of_remembered (h : c.remembered? w data engine = some m) :
    c.yield w data engine = some (m.engine, m.artifact) := by
  unfold yield
  rw [h]

theorem yield_of_not_remembered (h : c.remembered? w data engine = none) :
    c.yield w data engine =
      match artifactAt w.disk (c.file (keyOf data)) with
      | .ok a => some (engine, a)
      | .error _ => (Artifact.ofData? data).map (engine, ·) := by
  unfold yield
  rw [h]

/-- What a cache yields is a matter of what it remembers and of the file for the data. -/
theorem yield_congr (hmemory : c.remembered? w' data engine = c.remembered? w data engine)
    (hread : w'.disk.read (c.file (keyOf data)).text = w.disk.read (c.file (keyOf data)).text) :
    c.yield w' data engine = c.yield w data engine := by
  unfold yield artifactAt
  rw [hmemory, hread]

theorem remembered?_congr (hmemory : w'.memory = w.memory) :
    c.remembered? w' data engine = c.remembered? w data engine := by
  unfold remembered?
  rw [hmemory]

theorem remembered?_remember (w : World) (c : Cache) (data : Bytes) (engine : Engine)
    (m : Compiled) :
    c.remembered? (w.remember c (keyOf data) ⟨engine, m⟩) data engine = some m := by
  unfold remembered?
  rw [lookup_remember, if_pos rfl, Option.filter_some, if_pos (by simp)]
  rfl

/-- Remembering a module for some data does not touch other data. -/
theorem remembered?_remember_of_ne {other : Bytes} (h : keyOf other ≠ keyOf data) (r : Remembered) :
    c.remembered? (w.remember c (keyOf data) r) other engine = c.remembered? w other engine := by
  unfold remembered?
  rw [lookup_remember, if_neg (by simp [h])]

/-- A cache gives the module that it remembers for the engine, and looks for an artifact if there is
none. -/
theorem outcome_get (c : Cache) (data : Bytes) (engine : Engine) (w : World) :
    (c.get data engine).outcome w =
      match c.remembered? w data engine with
      | some m => (.ok (some m), w)
      | none => (c.takeUp (keyOf data) engine).outcome w := by
  unfold remembered?
  cases hr : w.memory.lookup (c.id, keyOf data) with
  | none =>
      rw [outcome_get_of_not_remembered (by simp [hr])]
      rfl
  | some r =>
      rw [Option.filter_some]
      by_cases hengine : r.engine = engine
      · rw [outcome_get_of_remembered hr hengine, if_pos (by simpa using hengine)]
        rfl
      · rw [outcome_get_of_not_remembered (by simpa [hr] using hengine),
          if_neg (by simpa using hengine)]
        rfl

end Cache

/-! ## §2 Steadiness -/

namespace CacheScope

variable {k : CacheScope} {c : Cache} {u v w w' : World} {data other : Bytes} {engine : Engine}

/-- What a cache yields for an engine has not changed, and its entries are still in reach. -/
structure Steady (k : CacheScope) (c : Cache) (engine : Engine) (w w' : World) : Prop where
  sharedCache : w'.sharedCache = w.sharedCache
  /-- What is in reach stays there. -/
  tends : ∀ data, k.datas data → k.Tends w.disk c data → k.Tends w'.disk c data
  /-- What is yielded stays the same. -/
  yields : ∀ data, k.datas data → k.Tends w.disk c data →
    c.yield w' data engine = c.yield w data engine

namespace Steady

theorem trans (h : k.Steady c engine u v) (h' : k.Steady c engine v w) :
    k.Steady c engine u w where
  sharedCache := h'.sharedCache.trans h.sharedCache
  tends data hdata htends := h'.tends data hdata (h.tends data hdata htends)
  yields data hdata htends :=
    (h'.yields data hdata (h.tends data hdata htends)).trans (h.yields data hdata htends)

theorem of_eq (hshared : w'.sharedCache = w.sharedCache) (hmemory : w'.memory = w.memory)
    (hdisk : w'.disk = w.disk) : k.Steady c engine w w' where
  sharedCache := hshared
  tends data _ htends := hdisk.symm ▸ htends
  yields data _ _ := Cache.yield_congr (Cache.remembered?_congr hmemory) (by rw [hdisk])

theorem remember (hdata : k.datas data) {m : Compiled}
    (hyield : c.yield w data engine = some (m.engine, m.artifact)) :
    k.Steady c engine w (w.remember c (keyOf data) ⟨engine, m⟩) where
  sharedCache := rfl
  tends _ _ htends := htends
  yields other hother _ := by
    -- what is remembered now is what was yielded; no other digest is touched
    by_cases hsame : other = data
    · subst hsame
      rw [hyield, Cache.yield_of_remembered (Cache.remembered?_remember w c other engine m)]
    · exact Cache.yield_congr
        (Cache.remembered?_remember_of_ne (fun hkey => hsame (k.distinct hother hdata hkey)) _) rfl

theorem entry_ne (hdata : k.datas data) (hother : k.datas other) (hne : other ≠ data) :
    k.entry other ≠ k.entry data := by
  intro hplace
  have hname : Cache.entryName (keyOf other) = Cache.entryName (keyOf data) := by
    simpa [entry] using hplace
  exact hne (k.distinct hother hdata (Cache.entryName_injective hname))

/-- A change of the file for some data, if it does not matter to that data. -/
theorem change (hdata : k.datas data) (hshared : w'.sharedCache = w.sharedCache)
    (hmemory : w'.memory = w.memory) (agree : w.disk.AgreeBut w'.disk (k.entry data))
    (htends : k.Tends w'.disk c data)
    (hyield : c.yield w' data engine = c.yield w data engine) : k.Steady c engine w w' where
  sharedCache := hshared
  tends other hother hthere := by
    by_cases hsame : other = data
    · exact hsame ▸ htends
    · exact Storage.Disk.Keeps.carry hthere agree (entry_ne hdata hother hsame)
  yields other hother hthere := by
    by_cases hsame : other = data
    · exact hsame ▸ hyield
    · exact Cache.yield_congr (Cache.remembered?_congr hmemory)
        (Storage.Disk.Keeps.read_carry hthere agree (entry_ne hdata hother hsame))

theorem erase (hdata : k.datas data) (htends : k.Tends w.disk c data) {reason : String}
    (hbad : Cache.artifactAt w.disk (c.file (keyOf data)) = .error reason) (logger : Logger) :
    k.Steady c engine w
      { w with disk := w.disk.erase (k.entry data), logger := logger } := by
  refine change hdata rfl rfl (Disk.AgreeBut.erase htends.blocked) htends.erase ?_
  -- what is left there is nothing, which cannot be used either
  have hgone : Cache.artifactAt (w.disk.erase (k.entry data)) (c.file (keyOf data)) =
      .error (DiskFault.os .noEntry (c.file (keyOf data)).text).message := by
    unfold Cache.artifactAt
    rw [Cache.file_eq, entry, htends.read_erase]
  unfold Cache.yield
  simp only [hbad, hgone]
  rfl

/-- Writing the artifact of a module that is remembered, whatever becomes of it. -/
theorem persist (hdata : k.datas data) (htends : k.Tends w.disk c data) {m : Compiled}
    (hremembered : c.remembered? w data engine = some m) :
    ∃ w', (c.persist (keyOf data) m).outcome w = (.ok ⟨⟩, w') ∧ k.Steady c engine w w' := by
  obtain ⟨logger, hout⟩ := Cache.outcome_persist c (keyOf data) m w
  refine ⟨_, hout, ?_⟩
  rcases Cache.written_cases htends (w.fates.head?.getD .kept) m.artifact.bytes with
    hsame | ⟨owner, mode, left, hput, -⟩
  · exact of_eq rfl rfl hsame
  · rw [hput]
    refine change hdata rfl rfl (Disk.AgreeBut.put htends.blocked _) (htends.put _ _ _) ?_
    -- memory is asked first, so the file does not matter
    rw [Cache.yield_of_remembered hremembered, Cache.yield_of_remembered (m := m)]
    exact hremembered

end Steady

/-! ## §3 Compiling -/

/-- Getting a module from a cache is steady. If there is one, it is what the cache yields; if not,
what the data compiles to is. -/
theorem Steady.get (hdata : k.datas data) (htends : k.Tends w.disk c data) (engine : Engine) :
    ∃ result w', (c.get data engine).outcome w = (.ok result, w') ∧ k.Steady c engine w w' ∧
      match result with
      | some m => c.yield w data engine = some (m.engine, m.artifact)
      | none => c.yield w data engine = (Artifact.ofData? data).map (engine, ·) := by
  rw [Cache.outcome_get]
  cases hr : c.remembered? w data engine with
  | some m => exact ⟨some m, w, rfl, of_eq rfl rfl rfl, Cache.yield_of_remembered hr⟩
  | none =>
      have hyield := Cache.yield_of_not_remembered hr
      cases hat : Cache.artifactAt w.disk (c.file (keyOf data)) with
      | ok a =>
          -- the artifact is taken up: what is remembered now is what the disk would have given
          rw [hat] at hyield
          have hmade : k.Steady c engine w { w with made := w.made + 1 } := of_eq rfl rfl rfl
          have hsame := (hmade.yields data hdata htends).trans hyield
          exact ⟨_, _, Cache.outcome_takeUp_of_ok htends hat,
            hmade.trans (remember (m := ⟨w.made, engine, a⟩) hdata hsame), hyield⟩
      | error reason =>
          rw [hat] at hyield
          obtain ⟨logger, hout⟩ := Cache.outcome_takeUp_of_error engine htends hat
          exact ⟨none, _, hout, erase hdata htends hat logger, hyield⟩

theorem Steady.put (hdata : k.datas data) (htends : k.Tends w.disk c data) {m : Compiled}
    (hyield : c.yield w data engine = some (m.engine, m.artifact)) :
    ∃ w', (c.put data m (some engine)).outcome w = (.ok ⟨⟩, w') ∧ k.Steady c engine w w' := by
  obtain ⟨w', hpersist, hsteady⟩ := persist (w := w.remember c (keyOf data) ⟨engine, m⟩) hdata
    htends (Cache.remembered?_remember w c data engine m)
  exact ⟨w', (Act.outcome_bind_of_ok (Cache.outcome_remember _ _ _ m w)).trans hpersist,
    (remember hdata hyield).trans hsteady⟩

/-- A compilation through a cache gives what the cache yields, and is steady. -/
theorem gives_compileCached (hdata : k.datas data) {w₁ : World}
    (hopen : Cache.shared.outcome w = (.ok c, w₁)) (htends : k.Tends w₁.disk c data) (s : Source)
    (engine : Engine) (verbose : Bool) :
    Source.Gives s (c.yield w₁ data engine) ((s.compileCached data engine verbose).outcome w).1 ∧
      k.Steady c engine w₁ ((s.compileCached data engine verbose).outcome w).2 := by
  obtain ⟨result, w₂, hget, hsteady, hyield⟩ := Steady.get hdata htends engine
  have hcases := Source.compileCached_cases s verbose hopen hget
    (hsteady.sharedCache.trans (Cache.sharedCache_of_shared hopen))
  cases result with
  | some m =>
      obtain ⟨out, logger, hout⟩ := hcases
      rw [hout, hyield]
      exact ⟨⟨m, rfl, rfl, rfl⟩, hsteady.trans (Steady.of_eq rfl rfl rfl)⟩
  | none =>
      cases ha : Artifact.ofData? data with
      | none =>
          simp only [ha] at hcases hyield
          obtain ⟨out, hout⟩ := hcases
          rw [hout, hyield]
          exact ⟨rfl, hsteady.trans (Steady.of_eq rfl rfl rfl)⟩
      | some a =>
          -- what is compiled is put where the cache yields it anyway, so nothing is yielded differently
          simp only [ha] at hcases hyield
          obtain ⟨out, logger, hput⟩ := hcases
          have hquiet : k.Steady c engine w₁
              { w₂ with out := out, made := w₂.made + 1, logger := logger } :=
            hsteady.trans (Steady.of_eq rfl rfl rfl)
          have hnow := (hquiet.yields data hdata htends).trans hyield
          obtain ⟨w₃, hthere, hlast⟩ := Steady.put (m := ⟨w₂.made, engine, a⟩) hdata
            (hquiet.tends data hdata htends) hnow
          rw [hput w₃ hthere, hyield]
          exact ⟨⟨_, rfl, rfl, rfl⟩, hquiet.trans hlast⟩

/-! ## §4 Worlds that follow one another -/

/-- Two worlds in which the cache for all, if it can be opened, yields the same for whatever is in its
reach, and is refused alike if it cannot. -/
structure Follows (k : CacheScope) (engine : Engine) (w u : World) : Prop where
  opened : (Cache.shared.outcome u).1 = (Cache.shared.outcome w).1
  /-- What is in reach stays there, and what is yielded stays the same. -/
  steady : ∀ c w₁, Cache.shared.outcome w = (.ok c, w₁) → ∀ data, k.datas data →
    k.Tends w₁.disk c data → k.Tends (Cache.shared.outcome u).2.disk c data ∧
      c.yield (Cache.shared.outcome u).2 data engine = c.yield w₁ data engine

/-- Two worlds in which there is no difference to a cache. The numbers that have been given do not
matter once the cache for all has been opened. -/
structure SameStore (w u : World) : Prop where
  disk : u.disk = w.disk
  settings : u.settings = w.settings
  memory : u.memory = w.memory
  sharedCache : u.sharedCache = w.sharedCache
  made : w.sharedCache = none → u.made = w.made

theorem SameStore.trans (h : SameStore u v) (h' : SameStore v w) : SameStore u w where
  disk := h'.disk.trans h.disk
  settings := h'.settings.trans h.settings
  memory := h'.memory.trans h.memory
  sharedCache := h'.sharedCache.trans h.sharedCache
  made hnone := (h'.made (h.sharedCache.trans hnone)).trans (h.made hnone)

theorem SameStore.shared (h : SameStore w u) :
    (Cache.shared.outcome u).1 = (Cache.shared.outcome w).1 ∧
      (Cache.shared.outcome u).2.disk = (Cache.shared.outcome w).2.disk ∧
      (Cache.shared.outcome u).2.memory = (Cache.shared.outcome w).2.memory := by
  obtain ⟨hdisk, hsettings, hmemory, hshared, hmade⟩ := h
  rw [Cache.outcome_shared, Cache.outcome_shared, hshared]
  cases hnone : w.sharedCache with
  | some c => exact ⟨rfl, hdisk, hmemory⟩
  | none =>
      -- opening looks at the settings and the disk, and gives the next number
      simp only [Cache.outcome_openAt, hsettings, hdisk, hmade hnone]
      cases w.disk.ensureDirectory w.settings.cacheDirectory Cache.directoryMode with
      | error fault => exact ⟨rfl, hdisk, hmemory⟩
      | ok d =>
          cases hstatus : d.status w.settings.cacheDirectory.text with
          | error fault =>
              simp only [hstatus]
              exact ⟨trivial, trivial, hmemory⟩
          | ok e =>
              simp only [hstatus]
              cases Cache.checkDirectory w.settings.cacheDirectory.text e.owner d.user e.mode <;>
                exact ⟨rfl, rfl, hmemory⟩

/-- What is ready in a world is so where there is no difference to a cache. -/
theorem Ready.of_sameStore {s : Source} (hready : k.Ready w s) (h : SameStore w u) :
    k.Ready u s := by
  intro data hdata
  rw [h.disk] at hdata
  obtain ⟨hknown, htends⟩ := hready data hdata
  refine ⟨hknown, ?_⟩
  intro c u₁ hopen
  obtain ⟨hopened, hdisk, -⟩ := h.shared
  rw [hopen] at hopened hdisk
  have hthere := htends c (Cache.shared.outcome w).2 (Prod.ext hopened.symm rfl)
  rwa [← hdisk] at hthere

namespace Follows

theorem of_sameStore (h : SameStore w u) : k.Follows engine w u := by
  obtain ⟨hopened, hdisk, hmemory⟩ := h.shared
  refine ⟨hopened, ?_⟩
  intro c w₁ hopen data _ htends
  rw [hopen] at hdisk hmemory
  exact ⟨hdisk ▸ htends, Cache.yield_congr (Cache.remembered?_congr hmemory) (by rw [hdisk])⟩

theorem trans (h : k.Follows engine u v) (h' : k.Follows engine v w) : k.Follows engine u w where
  opened := h'.opened.trans h.opened
  steady := by
    intro c u₁ hopen data hdata htends
    have hopen' : Cache.shared.outcome v = (.ok c, (Cache.shared.outcome v).2) :=
      Prod.ext (by rw [h.opened, hopen]) rfl
    obtain ⟨htends', hyield⟩ := h.steady c u₁ hopen data hdata htends
    obtain ⟨htends'', hyield'⟩ := h'.steady c _ hopen' data hdata htends'
    exact ⟨htends'', hyield'.trans hyield⟩

theorem of_steady {w₁ : World} (hopen : Cache.shared.outcome w = (.ok c, w₁))
    (hsteady : k.Steady c engine w₁ w') : k.Follows engine w w' := by
  have hopened := Cache.shared_of_sharedCache
    (hsteady.sharedCache.trans (Cache.sharedCache_of_shared hopen))
  refine ⟨by rw [hopened, hopen], ?_⟩
  rintro c' w₁' hopen' data hdata htends
  rw [hopen] at hopen'
  cases hopen'
  rw [hopened]
  exact ⟨hsteady.tends data hdata htends, hsteady.yields data hdata htends⟩

/-- In worlds that follow one another the same module is obtained for data, or the same failure; and
the world after a success follows them too. -/
theorem obtain_cached (h : k.Follows engine w u) (hready : k.ReadyFor w data) (s : Source)
    (verbose : Bool) :
    Act.Agree Compiled.Same ((s.obtain data engine true verbose).outcome w).1
        ((s.obtain data engine true verbose).outcome u).1 ∧
      ∀ m u', (s.obtain data engine true verbose).outcome u = (.ok m, u') →
        k.Follows engine w u' ∧ u'.sharedCache ≠ none := by
  obtain ⟨hdata, htends⟩ := hready
  show Act.Agree _ ((s.compileCached data engine verbose).outcome w).1
      ((s.compileCached data engine verbose).outcome u).1 ∧
    ∀ m u', (s.compileCached data engine verbose).outcome u = (.ok m, u') → _
  rcases hopen : Cache.shared.outcome w with ⟨opened, w₁⟩
  rcases hopen' : Cache.shared.outcome u with ⟨opened', u₁⟩
  have hsame : opened' = opened := by
    have hopened := h.opened
    rwa [hopen, hopen'] at hopened
  subst hsame
  cases opened' with
  -- no cache on either side, and the same reason for that
  | error f =>
      have hfail : ∀ {v v₁ : World}, Cache.shared.outcome v = (.error f, v₁) →
          (s.compileCached data engine verbose).outcome v = (.error f, v₁) :=
        fun hopen => Act.outcome_bind_of_error hopen
      rw [hfail hopen, hfail hopen']
      exact ⟨rfl, by simp⟩
  | ok c =>
      have hthere := htends c w₁ hopen
      obtain ⟨hthere', hyield⟩ := h.steady c w₁ hopen data hdata hthere
      rw [hopen'] at hthere' hyield
      obtain ⟨hgives, -⟩ := gives_compileCached hdata hopen hthere s engine verbose
      obtain ⟨hgives', hsteady⟩ := gives_compileCached hdata hopen' hthere' s engine verbose
      refine ⟨hgives.agree (hyield ▸ hgives'), ?_⟩
      intro m u' hout
      rw [hout] at hsteady
      refine ⟨h.trans (of_steady hopen' hsteady), ?_⟩
      rw [hsteady.sharedCache, Cache.sharedCache_of_shared hopen']
      simp

end Follows

end CacheScope

end WasmGauge
