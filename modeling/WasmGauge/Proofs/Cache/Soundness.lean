import WasmGauge.Proofs.Cache.Operations
import WasmGauge.Proofs.Compilation

/-!
# Soundness of caches

Caches that share a directory are sound for some data if whatever they remember under the digest of
such data, and whatever lies under it on the disk as an artifact, is what the data compiles to. Every
operation of a cache keeps this up, also when writing an artifact fails half-way.

## Main statements

- `CacheScope.Bare.sound`: caches that have not kept anything yet are sound.
- `CacheScope.Sound.get`, `CacheScope.Sound.put`: sound caches give and keep the right modules.
- `CacheScope.Sound.shared`, `CacheScope.Sound.clear`: opening and clearing keep caches sound.
- `CacheScope.Sound.compileCached`: a compilation through a sound cache gives what the data compiles
  to.
-/

namespace WasmGauge

open Storage (Path Disk DiskFault Location)
open Wasm (Bytes)

/-- A fate that leaves no bytes behind that are taken for an artifact. -/
def Fate.IsHarmless : Fate → Prop
  | .kept | .refused _ => True
  | .broken _ left => Artifact.ofBytes? left = none

/-- A directory that caches share, with the data that is compiled through them. -/
structure CacheScope where
  home : Location
  datas : Bytes → Prop
  /-- No two of the data have the same digest. -/
  distinct : ∀ {a b : Bytes}, datas a → datas b → keyOf a = keyOf b → a = b

namespace CacheScope

variable {k : CacheScope} {w w' : World} {c : Cache} {data : Bytes} {engine : Engine}

/-! ## §1 What it is to be sound -/

def entry (k : CacheScope) (data : Bytes) : Location :=
  k.home ++ [Cache.entryName (keyOf data)]

/-- A disk has an artifact in the place for data. -/
def Offers (k : CacheScope) (d : Disk) (data : Bytes) (a : Artifact) : Prop :=
  ∃ e bytes, d.find? (k.entry data) = some e ∧ e.node = .file bytes ∧
    Artifact.ofBytes? bytes = some a

/-- The directory of a cache is the shared one, and its entry for data is a file or nothing. -/
def Tends (k : CacheScope) (d : Disk) (c : Cache) (data : Bytes) : Prop :=
  d.Keeps c.directory k.home (Cache.entryName (keyOf data))

/-- Data may go through the cache: it is some of the data, and if the cache can be opened, its
directory keeps the entry for that data as a file. -/
def ReadyFor (k : CacheScope) (w : World) (data : Bytes) : Prop :=
  k.datas data ∧ ∀ c w₁, Cache.shared.outcome w = (.ok c, w₁) → k.Tends w₁.disk c data

def Ready (k : CacheScope) (w : World) (s : Source) : Prop :=
  ∀ data, s.dataOn w.disk = .ok data → k.ReadyFor w data

/-- What a source holds now, and what is found when the cache is opened now, settle whether it may be
compiled through the cache. -/
theorem ready_of_shared {s : Source} {w₁ : World} (hdata : s.dataOn w.disk = .ok data)
    (hknown : k.datas data) (hopen : Cache.shared.outcome w = (.ok c, w₁))
    (htends : k.Tends w₁.disk c data) : k.Ready w s := by
  intro data' hdata'
  obtain rfl : data' = data := Except.ok.inj (hdata'.symm.trans hdata)
  refine ⟨hknown, fun c' w' hopen' => ?_⟩
  obtain ⟨rfl, rfl⟩ : c' = c ∧ w' = w₁ := by
    rw [hopen] at hopen'
    cases hopen'
    exact ⟨rfl, rfl⟩
  exact htends

/-- What is remembered and what lies on the disk is what the data compiles to, and no fate that is to
come will change that. -/
structure Sound (k : CacheScope) (w : World) : Prop where
  /-- What is remembered for an engine belongs to it and comes from the data. -/
  memory : ∀ id data r, k.datas data → w.memory.lookup (id, keyOf data) = some r →
    r.compiled.engine = r.engine ∧ Artifact.ofData? data = some r.compiled.artifact
  /-- What lies on the disk comes from the data. -/
  entries : ∀ data a, k.datas data → k.Offers w.disk data a → Artifact.ofData? data = some a
  /-- Writing that breaks off leaves nothing that is taken for an artifact. -/
  fates : ∀ fate ∈ w.fates, fate.IsHarmless

/-- Nothing is remembered, and there are no artifacts in the directory. -/
structure Bare (k : CacheScope) (w : World) : Prop where
  /-- Nothing is remembered. -/
  memory : w.memory = []
  /-- No artifact lies in the directory. -/
  entries : ∀ key, w.disk.find? (k.home ++ [Cache.entryName key]) = none
  /-- Writing that breaks off leaves nothing that is taken for an artifact. -/
  fates : ∀ fate ∈ w.fates, fate.IsHarmless

/-- What may happen to the world from outside: anything, save that caches are not told what to
remember, that nothing comes to lie in the directory that is taken for an artifact, and that writing
that breaks off leaves nothing of the kind. -/
structure Disturbed (k : CacheScope) (w w' : World) : Prop where
  memory : w'.memory = w.memory
  entries : ∀ data a, k.datas data → k.Offers w'.disk data a → k.Offers w.disk data a
  fates : ∀ fate ∈ w'.fates, fate.IsHarmless

/-- Caches that have not kept anything yet are sound. -/
theorem Bare.sound (h : k.Bare w) : k.Sound w where
  memory := by
    intro id data r _ hr
    simp [h.memory] at hr
  entries := by
    rintro data a - ⟨e, bytes, hfind, -⟩
    rw [entry, h.entries] at hfind
    cases hfind
  fates := h.fates

namespace Sound

/-- Soundness is a matter of the memory, the artifacts on the disk, and the fates alone. -/
theorem transfer (hw : k.Sound w) (hmemory : w'.memory = w.memory)
    (hentries : ∀ data a, k.datas data → k.Offers w'.disk data a →
      k.Offers w.disk data a ∨ Artifact.ofData? data = some a)
    (hfates : ∀ fate ∈ w'.fates, fate.IsHarmless) : k.Sound w' where
  memory := by
    rw [hmemory]
    exact hw.memory
  entries := by
    intro data a hdata hoffers
    rcases hentries data a hdata hoffers with hold | hright
    · exact hw.entries data a hdata hold
    · exact hright
  fates := hfates

/-- Steps that touch neither the memory nor the disk nor the fates keep caches sound. -/
theorem of_eq (hw : k.Sound w) (hmemory : w'.memory = w.memory) (hdisk : w'.disk = w.disk)
    (hfates : w'.fates = w.fates) : k.Sound w' :=
  hw.transfer hmemory (fun _ _ _ h => Or.inl (hdisk ▸ h)) (hfates ▸ hw.fates)

theorem disturbed (hw : k.Sound w) (h : k.Disturbed w w') : k.Sound w' :=
  hw.transfer h.memory (fun data a hdata hoffers => Or.inl (h.entries data a hdata hoffers)) h.fates

theorem of_onlyDirectoriesNew (hw : k.Sound w) (hmemory : w'.memory = w.memory)
    (hdisk : w.disk.OnlyDirectoriesNew w'.disk) (hfates : w'.fates = w.fates) : k.Sound w' := by
  refine hw.transfer hmemory ?_ (hfates ▸ hw.fates)
  rintro data a - ⟨e, bytes, hfind, hnode, hbytes⟩
  rcases hdisk _ e hfind with hold | hdir
  · exact Or.inl ⟨e, bytes, hold, hnode, hbytes⟩
  · simp [Storage.Entry.isDirectory, hnode] at hdir

theorem remember (hw : k.Sound w) (hdata : k.datas data) {r : Remembered}
    (hengine : r.compiled.engine = r.engine)
    (hartifact : Artifact.ofData? data = some r.compiled.artifact) :
    k.Sound (w.remember c (keyOf data) r) where
  memory := by
    intro id data' r' hdata' hr'
    rw [Cache.lookup_remember] at hr'
    -- what is remembered was put there now, or had been there before
    -- digests tell the data apart
    by_cases hkey : (id, keyOf data') = (c.id, keyOf data)
    · have hsame : data' = data := k.distinct hdata' hdata (Prod.ext_iff.1 hkey).2
      rw [if_pos hkey, Option.some.injEq] at hr'
      subst hsame hr'
      exact ⟨hengine, hartifact⟩
    · rw [if_neg hkey] at hr'
      exact hw.memory id data' r' hdata' hr'
  entries := hw.entries
  fates := hw.fates

/-- Writing the artifact of the right module is no harm, whatever becomes of it. -/
theorem written (hw : k.Sound w) (htends : k.Tends w.disk c data) (hdata : k.datas data)
    {a : Artifact} (ha : Artifact.ofData? data = some a)
    (hmemory : w'.memory = w.memory)
    (hdisk : w'.disk = (Cache.written w.disk (w.fates.head?.getD .kept)
      (c.file (keyOf data)).text a.bytes).1)
    (hfates : w'.fates = w.fates.tail) : k.Sound w' := by
  -- the next fate is one of those that are harmless, or the file is kept whole
  have hharmless : (w.fates.head?.getD .kept).IsHarmless := by
    cases hhead : w.fates.head? with
    | none => trivial
    | some fate => exact hw.fates fate (List.mem_of_head? hhead)
  refine hw.transfer hmemory ?_ fun fate hfate =>
    hw.fates fate (List.mem_of_mem_tail (hfates ▸ hfate))
  rintro data' a' hdata' ⟨e, bytes, hfind, hnode, hbytes⟩
  rcases Cache.written_cases htends (w.fates.head?.getD .kept) a.bytes with
    hsame | ⟨owner, mode, left, hput, hleft⟩
  · rw [hdisk, hsame] at hfind
    exact Or.inl ⟨e, bytes, hfind, hnode, hbytes⟩
  · rw [hdisk, hput, Disk.find?_put] at hfind
    -- only the entry that has been written may hold something new
    by_cases hplace : k.entry data' = k.home ++ [Cache.entryName (keyOf data)]
    · -- the entry that has been written: its data is the data at hand
      have hname : Cache.entryName (keyOf data') = Cache.entryName (keyOf data) := by
        simpa [entry] using hplace
      have hsame : data' = data := k.distinct hdata' hdata (Cache.entryName_injective hname)
      rw [if_pos hplace, Option.some.injEq] at hfind
      have hheld : left = bytes := by
        subst hfind
        simpa using hnode
      subst hsame hheld
      right
      rcases hleft with rfl | ⟨words, hbroken⟩
      · rw [Artifact.ofBytes?_bytes, Option.some.injEq] at hbytes
        rw [← hbytes, ha]
      · rw [hbroken] at hharmless
        simp [Fate.IsHarmless, hbytes] at hharmless
    · rw [if_neg hplace] at hfind
      exact Or.inl ⟨e, bytes, hfind, hnode, hbytes⟩

/-! ## §2 Getting and putting -/

/-- A sound cache gives nothing, or what the data compiles to for the engine that asks. -/
theorem get (hw : k.Sound w) (hdata : k.datas data) (htends : k.Tends w.disk c data)
    (engine : Engine) :
    ∃ result w', (c.get data engine).outcome w = (.ok result, w') ∧ k.Sound w' ∧
      k.Tends w'.disk c data ∧ w'.sharedCache = w.sharedCache ∧
      ∀ m, result = some m → m.engine = engine ∧ Artifact.ofData? data = some m.artifact := by
  by_cases hremembered : ∃ r, w.memory.lookup (c.id, keyOf data) = some r ∧ r.engine = engine
  · -- what is remembered for the engine is right by assumption
    obtain ⟨r, hr, hengine⟩ := hremembered
    refine ⟨some r.compiled, w, Cache.outcome_get_of_remembered hr hengine, hw, htends, rfl, ?_⟩
    intro m hm
    obtain ⟨hbelongs, hartifact⟩ := hw.memory c.id data r hdata hr
    rw [Option.some.injEq] at hm
    rw [← hm, hbelongs]
    exact ⟨hengine, hartifact⟩
  · have hother : ∀ r, w.memory.lookup (c.id, keyOf data) = some r → r.engine ≠ engine :=
      fun r hr hengine => hremembered ⟨r, hr, hengine⟩
    rw [Cache.outcome_get_of_not_remembered hother]
    cases hat : Cache.artifactAt w.disk (c.file (keyOf data)) with
    | ok a =>
        -- what lies on the disk is right, so what is taken up is
        have hright : Artifact.ofData? data = some a :=
          hw.entries data a hdata (Cache.find?_of_artifactAt htends hat)
        have hmade : k.Sound { w with made := w.made + 1 } :=
          hw.transfer rfl (fun _ _ _ h => Or.inl h) hw.fates
        refine ⟨_, _, Cache.outcome_takeUp_of_ok htends hat, hmade.remember hdata rfl hright,
          htends, rfl, ?_⟩
        intro m hm
        rw [Option.some.injEq] at hm
        rw [← hm]
        exact ⟨rfl, hright⟩
    -- no artifact is taken up, and at most one is removed
    | error reason =>
        obtain ⟨logger, hout⟩ := Cache.outcome_takeUp_of_error engine htends hat
        refine ⟨_, _, hout, hw.of_onlyDirectoriesNew rfl ?_ rfl, htends.erase, rfl, by simp⟩
        exact Disk.onlyDirectoriesNew_erase _ _

theorem persist (hw : k.Sound w) (hdata : k.datas data) (htends : k.Tends w.disk c data)
    {m : Compiled} (hartifact : Artifact.ofData? data = some m.artifact) :
    ∃ w', (c.persist (keyOf data) m).outcome w = (.ok ⟨⟩, w') ∧ k.Sound w' := by
  obtain ⟨logger, hout⟩ := Cache.outcome_persist c (keyOf data) m w
  exact ⟨_, hout, hw.written htends hdata hartifact rfl rfl rfl⟩

theorem put (hw : k.Sound w) (hdata : k.datas data) (htends : k.Tends w.disk c data)
    {m : Compiled} (hengine : m.engine = engine)
    (hartifact : Artifact.ofData? data = some m.artifact) :
    ∃ w', (c.put data m (some engine)).outcome w = (.ok ⟨⟩, w') ∧ k.Sound w' := by
  -- first memory is told, then the artifact is written
  have hremember : k.Sound (w.remember c (keyOf data) ⟨engine, m⟩) :=
    hw.remember hdata hengine hartifact
  obtain ⟨w', hpersist, hw'⟩ := hremember.persist hdata htends hartifact
  exact ⟨w', (Act.outcome_bind_of_ok (Cache.outcome_remember _ _ _ m w)).trans hpersist, hw'⟩

/-! ## §3 Opening and clearing -/

theorem openAt (directory : Path) : (Cache.openAt directory).Preserves k.Sound := by
  refine Act.Preserves.bind (Act.Preserves.change ?_) fun _ => ?_
  · -- all that opening makes are directories
    intro w d hd hw
    exact hw.of_onlyDirectoriesNew rfl (Disk.onlyDirectoriesNew_ensureWithin hd) rfl
  refine Act.Preserves.bind (Act.Preserves.see _) fun e => ?_
  refine Act.Preserves.bind (Act.Preserves.of_same Act.outcome_get_snd) fun w => ?_
  cases Cache.checkDirectory directory.text e.owner w.disk.user e.mode with
  | ok _ => exact fun w hw => hw.transfer rfl (fun _ _ _ h => Or.inl h) hw.fates
  | error f => exact Act.Preserves.of_same fun w => rfl

theorem shared : Cache.shared.Preserves k.Sound := by
  refine Act.Preserves.bind (Act.Preserves.of_same Act.outcome_get_snd) fun w => ?_
  cases w.sharedCache with
  | some c => exact Act.Preserves.of_same fun w => rfl
  | none =>
      refine Act.Preserves.bind ?_ fun c => ?_
      · exact Act.Preserves.bind (Act.Preserves.of_same Act.outcome_get_snd) fun w => openAt _
      · exact fun w hw => hw.transfer rfl (fun _ _ _ h => Or.inl h) hw.fates

/-- Clearing a cache is no harm, whichever files it removes before it may fail. -/
theorem clear (c : Cache) : c.clear.Preserves k.Sound := by
  refine Act.Preserves.bind ?_ fun _ => ?_
  · intro w hw
    refine ⟨?_, hw.entries, hw.fates⟩
    intro id data r hdata hr
    have hkept : (w.memory.filter fun x => x.1.1 != c.id).lookup (id, keyOf data) = some r := hr
    rw [lookup_filter_key (fun key : Nat × String => key.1 != c.id)] at hkept
    exact hw.memory id data r hdata (by grind)
  refine Act.Preserves.bind (Cache.preserves_namesWith _ _) fun names => ?_
  refine Act.Preserves.forM (fun n => Act.Preserves.change ?_) names
  intro w d hd hw
  refine hw.of_onlyDirectoriesNew rfl ?_ rfl
  -- a name is removed or is not there; neither makes an artifact
  rcases Disk.eq_erase_of_unlinkIfThere hd with rfl | ⟨q, rfl⟩
  · exact Disk.OnlyDirectoriesNew.refl _
  · exact Disk.onlyDirectoriesNew_erase _ _

end Sound

/-! ## §4 Compiling through a cache -/

/-- Compiling data through a sound cache gives what the data compiles to, and leaves it sound. -/
theorem Sound.compileCached (hw : k.Sound w) (hdata : k.datas data) {w₁ : World}
    (hopen : Cache.shared.outcome w = (.ok c, w₁)) (htends : k.Tends w₁.disk c data) (s : Source)
    (engine : Engine) (verbose : Bool) :
    Source.Compiles s data engine ((s.compileCached data engine verbose).outcome w).1 ∧
      k.Sound ((s.compileCached data engine verbose).outcome w).2 := by
  have hw₁ : k.Sound w₁ := by
    have h := Sound.shared w hw
    rwa [hopen] at h
  obtain ⟨result, w₂, hget, hw₂, htends₂, hshared₂, hright⟩ := hw₁.get hdata htends engine
  have hcases := Source.compileCached_cases s verbose hopen hget
    (hshared₂.trans (Cache.sharedCache_of_shared hopen))
  unfold Source.Compiles
  cases result with
  | some m =>
      obtain ⟨hengine, hartifact⟩ := hright m rfl
      obtain ⟨out, logger, hout⟩ := hcases
      rw [hout, hartifact]
      exact ⟨⟨m, rfl, hengine, rfl⟩, hw₂.of_eq rfl rfl rfl⟩
  | none =>
      cases ha : Artifact.ofData? data with
      | none =>
          simp only [ha] at hcases
          obtain ⟨out, hout⟩ := hcases
          rw [hout]
          exact ⟨rfl, hw₂.of_eq rfl rfl rfl⟩
      | some a =>
          simp only [ha] at hcases
          obtain ⟨out, logger, hput⟩ := hcases
          have hquiet : k.Sound
              { w₂ with out := out, made := w₂.made + 1, logger := logger } :=
            hw₂.of_eq rfl rfl rfl
          obtain ⟨w₃, hthere, hw₃⟩ := hquiet.put hdata htends₂ (m := ⟨w₂.made, engine, a⟩) rfl ha
          rw [hput w₃ hthere]
          exact ⟨⟨_, rfl, rfl, rfl⟩, hw₃⟩

/-- Compiling a source, without a cache or through a sound one that can be opened, gives what the
data of the source compiles to. -/
theorem compiles_compile {s : Source} (useCache : Bool) (hdata : s.dataOn w.disk = .ok data)
    (hcache : useCache = true →
      k.Sound w ∧ k.ReadyFor w data ∧ ∃ c w₁, Cache.shared.outcome w = (.ok c, w₁))
    (engine : Engine) (verbose : Bool) :
    ∃ result, Source.Compiles s data engine result ∧
      ((s.compile engine useCache verbose).outcome w).1 =
        result.map fun m => ⟨s, engine, m⟩ := by
  rw [s.outcome_compile, hdata]
  refine ⟨_, ?_, rfl⟩
  cases useCache with
  | true =>
      obtain ⟨hw, ⟨hknown, htends⟩, c, w₁, hopen⟩ := hcache rfl
      exact (hw.compileCached hknown hopen (htends c w₁ hopen) s engine verbose).1
  | false => exact Source.compiles_announced s data engine verbose w

end CacheScope

end WasmGauge
