import WasmGauge.Proofs.Cache.Names
import WasmGauge.Proofs.Compilation

/-!
# What a cache does

The exact outcomes of the operations of a cache on a directory that keeps its entries as files. None
of them fails there: whether an artifact is there, is broken, or cannot be written only decides what
is remembered and what is left on the disk.

## Main statements

- `Cache.outcome_takeUp_of_ok`, `Cache.outcome_takeUp_of_error`: an artifact is taken up, or what is
  there is removed.
- `Cache.fetches_get`: what getting a module comes to on any disk.
- `Cache.outcome_persist`: an artifact meets its fate.
- `Cache.lookup_clear`: a cache that has been cleared remembers nothing.
-/

namespace WasmGauge

open Storage (Path Disk DiskFault Location)
open Wasm (Bytes)

/-! ## §1 Memory -/

/-- The world in which a cache remembers something more. -/
def World.remember (w : World) (c : Cache) (key : String) (r : Remembered) : World :=
  { w with memory := ((c.id, key), r) :: w.memory.filter fun x => x.1 != (c.id, key) }

namespace Cache

variable {c : Cache} {key : String} {home : Location} {engine : Engine} {w w₁ : World}

theorem outcome_remember (c : Cache) (key : String) (engine : Engine) (m : Compiled) (w : World) :
    (c.remember key engine m).outcome w = (.ok ⟨⟩, w.remember c key ⟨engine, m⟩) := rfl

theorem lookup_remember (w : World) (c : Cache) (key : String) (r : Remembered)
    (k : Nat × String) :
    (w.remember c key r).memory.lookup k =
      if k = (c.id, key) then some r else w.memory.lookup k :=
  lookup_cons_filter_ne w.memory (c.id, key) k r

/-! ## §2 Taking up an artifact -/

theorem find?_of_artifactAt {d : Disk} (h : d.Keeps c.directory home (entryName key))
    {a : Artifact} (ha : artifactAt d (c.file key) = .ok a) :
    ∃ e bytes, d.find? (home ++ [entryName key]) = some e ∧ e.node = .file bytes ∧
      Artifact.ofBytes? bytes = some a := by
  unfold artifactAt at ha
  cases hread : d.read (c.file key).text with
  | error fault => simp [hread] at ha
  | ok bytes =>
      obtain ⟨e, hfind, hnode⟩ := h.find?_of_read hread
      refine ⟨e, bytes, hfind, hnode, ?_⟩
      simp only [hread] at ha
      -- of what has been read, only what decodes is an artifact
      grind

/-- An artifact that can be used is taken up and remembered. -/
theorem outcome_takeUp_of_ok (h : w.disk.Keeps c.directory home (entryName key)) {a : Artifact}
    (ha : artifactAt w.disk (c.file key) = .ok a) :
    (c.takeUp key engine).outcome w =
      (.ok (some ⟨w.made, engine, a⟩),
        { w with made := w.made + 1 }.remember c key ⟨engine, ⟨w.made, engine, a⟩⟩) := by
  obtain ⟨e, bytes, hfind, -⟩ := find?_of_artifactAt h ha
  have hthere : w.disk.exists? (c.file key).text = .ok true := by
    rw [file_eq, h.exists?_eq, hfind]
    rfl
  have hsee : (Act.see (·.exists? (c.file key).text)).outcome w = (.ok true, w) := by
    rw [Act.outcome_see, hthere]
    rfl
  unfold takeUp
  rw [Act.outcome_bind_of_ok hsee, if_pos rfl, Act.outcome_bind_of_ok (Act.outcome_get w), ha]
  rfl

theorem outcome_takeUp_of_error (engine : Engine)
    (h : w.disk.Keeps c.directory home (entryName key))
    {reason : String} (hbad : artifactAt w.disk (c.file key) = .error reason) :
    ∃ logger, (c.takeUp key engine).outcome w =
      (.ok none,
        { w with disk := w.disk.erase (home ++ [entryName key]), logger := logger }) := by
  have hsee : (Act.see (·.exists? (c.file key).text)).outcome w =
      (.ok (w.disk.find? (home ++ [entryName key])).isSome, w) := by
    rw [Act.outcome_see, file_eq, h.exists?_eq]
    rfl
  unfold takeUp
  rw [Act.outcome_bind_of_ok hsee]
  -- where nothing is, taking up ends before it says anything, and erasing changes nothing
  cases hthere : (w.disk.find? (home ++ [entryName key])).isSome with
  | false =>
      have hnone : w.disk.find? (home ++ [entryName key]) = none := by simpa using hthere
      rw [Disk.erase_of_find?_eq_none hnone]
      exact ⟨w.logger, rfl⟩
  | true =>
      have hunlink := h.unlinkIfThere_eq hthere
      have hchange : ∀ logger, (Act.change (·.unlinkIfThere (c.file key).text)).outcome
          { w with logger := logger } =
          (.ok ⟨⟩, { w with logger := logger, disk := w.disk.erase (home ++ [entryName key]) }) := by
        intro logger
        rw [Act.outcome_change, file_eq, hunlink]
      rw [if_pos rfl, Act.outcome_bind_of_ok (Act.outcome_get w), hbad]
      simp only
      rw [Act.outcome_bind_of_ok (Act.outcome_debug _ _ w), Act.outcome_bind_of_ok (hchange _)]
      exact ⟨_, rfl⟩

/-- Whatever the disk is like, an artifact is taken up and remembered, or no module is given, and at
most the disk and the log have changed. -/
theorem outcome_takeUp_cases (c : Cache) (key : String) (engine : Engine) (w : World) :
    (∃ a, (c.takeUp key engine).outcome w =
      (.ok (some ⟨w.made, engine, a⟩),
        { w with made := w.made + 1 }.remember c key ⟨engine, ⟨w.made, engine, a⟩⟩)) ∨
    ∃ result disk logger, (c.takeUp key engine).outcome w =
        (result, { w with disk := disk, logger := logger }) ∧
      ∀ m, result ≠ .ok (some m) := by
  unfold takeUp
  rw [Act.outcome_bind, Act.outcome_see]
  cases w.disk.exists? (c.file key).text with
  | error fault => exact .inr ⟨_, _, _, rfl, by simp⟩
  | ok there =>
      cases there with
      | false => exact .inr ⟨_, _, _, rfl, by simp⟩
      | true =>
          simp only [Except.mapError, if_true]
          rw [Act.outcome_bind_of_ok (Act.outcome_get w)]
          -- only here a module is given: the file is there, can be read, and decodes
          cases artifactAt w.disk (c.file key) with
          | ok a => exact .inl ⟨a, rfl⟩
          | error reason =>
              simp only
              rw [Act.outcome_bind_of_ok (Act.outcome_debug _ _ w), Act.outcome_bind,
                Act.outcome_change]
              -- the unusable file is removed, or it cannot be; no module is given either way
              cases w.disk.unlinkIfThere (c.file key).text with
              | error fault => exact .inr ⟨_, _, _, rfl, by simp⟩
              | ok d => exact .inr ⟨_, _, _, rfl, by simp⟩

/-! ## §3 Getting and putting -/

/-- What is remembered for the engine is given without a look at the disk. -/
theorem outcome_get_of_remembered {data : Bytes} {r : Remembered}
    (hr : w.memory.lookup (c.id, keyOf data) = some r) (hengine : r.engine = engine) :
    (c.get data engine).outcome w = (.ok (some r.compiled), w) := by
  have hlookup : c.lookup? w (keyOf data) = some r := hr
  unfold get
  rw [Act.outcome_bind_of_ok (Act.outcome_get w), hlookup]
  simp [hengine]

/-- What is not remembered for the engine is looked for on the disk. -/
theorem outcome_get_of_not_remembered {data : Bytes}
    (hr : ∀ r, w.memory.lookup (c.id, keyOf data) = some r → r.engine ≠ engine) :
    (c.get data engine).outcome w = (c.takeUp (keyOf data) engine).outcome w := by
  unfold get
  rw [Act.outcome_bind_of_ok (Act.outcome_get w)]
  cases hlookup : c.lookup? w (keyOf data) with
  | none => rfl
  | some r => simp [hr r hlookup]

/-- A module that is remembered for the engine is given, and nothing happens. Otherwise it is looked for on
the disk. -/
theorem outcome_get_cases (c : Cache) (data : Bytes) (engine : Engine) (w : World) :
    (∃ m, w.memory.lookup (c.id, keyOf data) = some ⟨engine, m⟩ ∧
        (c.get data engine).outcome w = (.ok (some m), w)) ∨
      (∀ r, w.memory.lookup (c.id, keyOf data) = some r → r.engine ≠ engine) ∧
        (c.get data engine).outcome w = (c.takeUp (keyOf data) engine).outcome w := by
  by_cases hstored : ∃ m, w.memory.lookup (c.id, keyOf data) = some ⟨engine, m⟩
  · obtain ⟨m, hm⟩ := hstored
    exact .inl ⟨m, hm, outcome_get_of_remembered hm rfl⟩
  · have hother : ∀ r, w.memory.lookup (c.id, keyOf data) = some r → r.engine ≠ engine := by
      rintro ⟨_, m⟩ hr rfl
      exact hstored ⟨m, hr⟩
    exact .inr ⟨hother, outcome_get_of_not_remembered hother⟩

/-- What getting a module for data and an engine comes to, whatever the disk is like. -/
inductive Fetches (c : Cache) (data : Bytes) (engine : Engine) (w : World) :
    Except Failure (Option Compiled) × World → Prop where
  /-- The module is remembered for the engine. Nothing happens. -/
  | remembered {m : Compiled} (hr : w.memory.lookup (c.id, keyOf data) = some ⟨engine, m⟩) :
      Fetches c data engine w (.ok (some m), w)
  /-- None is remembered for the engine, and an artifact is taken up and remembered. -/
  | taken (a : Artifact)
      (hr : ∀ r, w.memory.lookup (c.id, keyOf data) = some r → r.engine ≠ engine) :
      Fetches c data engine w
        (.ok (some ⟨w.made, engine, a⟩),
          { w with made := w.made + 1 }.remember c (keyOf data) ⟨engine, ⟨w.made, engine, a⟩⟩)
  /-- None is remembered for the engine, and there is no artifact that could be taken up. -/
  | missed {result : Except Failure (Option Compiled)} (disk : Disk) (logger : Logger)
      (hr : ∀ r, w.memory.lookup (c.id, keyOf data) = some r → r.engine ≠ engine)
      (hresult : ∀ m, result ≠ .ok (some m)) :
      Fetches c data engine w (result, { w with disk := disk, logger := logger })

theorem fetches_get (c : Cache) (data : Bytes) (engine : Engine) (w : World) :
    c.Fetches data engine w ((c.get data engine).outcome w) := by
  rcases c.outcome_get_cases data engine w with ⟨m, hm, hget⟩ | ⟨hother, hget⟩
  · rw [hget]
    exact .remembered hm
  · rw [hget]
    -- memory has nothing for the engine, so the disk decides
    rcases c.outcome_takeUp_cases (keyOf data) engine w with
      ⟨a, hout⟩ | ⟨result, disk, logger, hout, hresult⟩
    · rw [hout]
      exact .taken a hother
    · rw [hout]
      exact .missed disk logger hother hresult

namespace Fetches

variable {data : Bytes} {out : Except Failure (Option Compiled) × World}

theorem sharedCache (h : c.Fetches data engine w out) : out.2.sharedCache = w.sharedCache := by
  cases h <;> rfl

theorem lookup_of_ne (h : c.Fetches data engine w out) {k : Nat × String}
    (hk : k ≠ (c.id, keyOf data)) : out.2.memory.lookup k = w.memory.lookup k := by
  cases h with
  | remembered hr => rfl
  | taken a hr => rw [lookup_remember, if_neg hk]
  | missed disk logger hr hresult => rfl

/-- A module that is given is remembered. -/
theorem lookup_of_some (h : c.Fetches data engine w out) {m : Compiled} (hm : out.1 = .ok (some m)) :
    out.2.memory.lookup (c.id, keyOf data) = some ⟨engine, m⟩ := by
  cases h with
  | remembered hr =>
      cases hm
      exact hr
  | taken a hr =>
      cases hm
      rw [lookup_remember, if_pos rfl]
  | missed disk logger hr hresult => exact absurd hm (hresult m)

end Fetches

theorem sharedCache_of_get {data : Bytes} {result : Except Failure (Option Compiled)}
    (h : (c.get data engine).outcome w = (result, w₁)) : w₁.sharedCache = w.sharedCache := by
  have hfetches := c.fetches_get data engine w
  rw [h] at hfetches
  exact hfetches.sharedCache

/-- An artifact meets the next fate. That it cannot be written is only logged. -/
theorem outcome_persist (c : Cache) (key : String) (m : Compiled) (w : World) :
    ∃ logger, (c.persist key m).outcome w =
      (.ok ⟨⟩,
        { w with
          disk := (written w.disk (w.fates.head?.getD .kept) (c.file key).text m.artifact.bytes).1
          fates := w.fates.tail
          logger := logger }) := by
  unfold persist
  simp only
  rw [Act.outcome_bind_of_ok (Act.outcome_nextFate w), Act.outcome_bind_of_ok (Act.outcome_get _)]
  simp only
  rw [Act.outcome_bind_of_ok (Act.outcome_modify _ _)]
  -- what went wrong, if anything, shows in the log alone
  generalize (written w.disk (w.fates.head?.getD .kept) (c.file key).text m.artifact.bytes).2 =
    fault?
  cases fault? with
  | none => exact ⟨w.logger, rfl⟩
  | some words => exact ⟨_, Act.outcome_debug _ _ _⟩

theorem put_eq (c : Cache) (data : Bytes) (m : Compiled) (engine : Engine) :
    c.put data m (some engine) =
      (do
        c.remember (keyOf data) engine m
        c.persist (keyOf data) m) := rfl

/-- Putting a module into a cache never fails. The module is remembered, whatever becomes of its
artifact. -/
theorem outcome_put (c : Cache) (data : Bytes) (m : Compiled) (engine : Engine) (w : World) :
    ∃ disk logger, (c.put data m (some engine)).outcome w =
      (.ok ⟨⟩, { w.remember c (keyOf data) ⟨engine, m⟩ with
        disk := disk, fates := w.fates.tail, logger := logger }) := by
  obtain ⟨logger, hpersist⟩ :=
    outcome_persist c (keyOf data) m (w.remember c (keyOf data) ⟨engine, m⟩)
  rw [put_eq, Act.outcome_bind_of_ok (outcome_remember c (keyOf data) engine m w), hpersist]
  exact ⟨_, logger, rfl⟩

/-! ## §4 The disk after writing -/

/-- What a fate leaves on the disk is what was there, or one file in the place of the entry, with
the bytes that are written or those at which writing broke off. -/
theorem written_cases {d : Disk} (h : d.Keeps c.directory home (entryName key)) (fate : Fate)
    (bytes : Bytes) :
    (written d fate (c.file key).text bytes).1 = d ∨
      ∃ owner mode left,
        (written d fate (c.file key).text bytes).1 =
          d.put (home ++ [entryName key]) ⟨.file left, owner, mode⟩ ∧
        (left = bytes ∨ ∃ words, fate = .broken words left) := by
  have hput : ∀ left d', d.write (c.file key).text left = .ok d' →
      ∃ owner mode, d' = d.put (home ++ [entryName key]) ⟨.file left, owner, mode⟩ := by
    intro left d' hwrite
    rw [file_eq] at hwrite
    exact h.eq_put_of_write hwrite
  -- a fate may refuse to write, keep all bytes, or break off after some of them
  cases fate with
  | kept =>
      simp only [written]
      cases hwrite : d.write (c.file key).text bytes with
      -- the system may refuse as well, and then nothing is left
      | error fault => exact Or.inl (by simp only)
      | ok d' =>
          obtain ⟨owner, mode, hd'⟩ := hput bytes d' hwrite
          exact Or.inr ⟨owner, mode, bytes, hd', Or.inl rfl⟩
  | refused words => exact Or.inl (by simp only [written])
  | broken words left =>
      simp only [written]
      cases hwrite : d.write (c.file key).text left with
      | error fault => exact Or.inl (by simp only)
      | ok d' =>
          obtain ⟨owner, mode, hd'⟩ := hput left d' hwrite
          exact Or.inr ⟨owner, mode, left, hd', Or.inr ⟨words, rfl⟩⟩

/-! ## §5 Opening -/

/-- Opening a cache makes its directory and looks at who may write to it. -/
theorem outcome_openAt (directory : Path) (w : World) :
    (openAt directory).outcome w =
      match w.disk.ensureDirectory directory directoryMode with
      | .error fault => (.error (.disk fault), w)
      | .ok d =>
        match d.status directory.text with
        | .error fault => (.error (.disk fault), { w with disk := d })
        | .ok e =>
          match checkDirectory directory.text e.owner d.user e.mode with
          | .error f => (.error f, { w with disk := d })
          | .ok _ => (.ok ⟨w.made, directory⟩, { w with disk := d, made := w.made + 1 }) := by
  unfold openAt
  rw [Act.outcome_bind, Act.outcome_change]
  cases w.disk.ensureDirectory directory directoryMode with
  | error fault => rfl
  | ok d =>
      simp only
      -- the directory is looked at after it has been made, if it was missing
      rw [Act.outcome_bind, Act.outcome_see]
      cases hstatus : d.status directory.text with
      | error fault => rfl
      | ok e =>
          simp only [Except.mapError]
          rw [Act.outcome_bind_of_ok (Act.outcome_get _)]
          cases checkDirectory directory.text e.owner d.user e.mode <;> rfl

theorem outcome_shared (w : World) :
    shared.outcome w =
      match w.sharedCache with
      | some c => (.ok c, w)
      | none =>
        match (openAt w.settings.cacheDirectory).outcome w with
        | (.error f, w') => (.error f, w')
        | (.ok c, w') => (.ok c, { w' with sharedCache := some c }) := by
  unfold shared
  rw [Act.outcome_bind_of_ok (Act.outcome_get w)]
  cases w.sharedCache with
  | some c => rfl
  | none =>
      have hdefault : openDefault.outcome w = (openAt w.settings.cacheDirectory).outcome w :=
        Act.outcome_bind_of_ok (Act.outcome_get w)
      simp only
      rw [Act.outcome_bind, hdefault]
      rcases (openAt w.settings.cacheDirectory).outcome w with ⟨result, w'⟩
      cases result <;> rfl

theorem sharedCache_of_shared (h : shared.outcome w = (.ok c, w₁)) : w₁.sharedCache = some c := by
  rw [outcome_shared] at h
  cases hshared : w.sharedCache with
  | some c' =>
      rw [hshared] at h
      cases h
      exact hshared
  | none =>
      rw [hshared] at h
      rcases hopen : (openAt w.settings.cacheDirectory).outcome w with ⟨result, w'⟩
      simp only [hopen] at h
      cases result with
      | error f => cases h
      | ok c' =>
          cases h
          rfl

theorem shared_of_sharedCache (h : w.sharedCache = some c) : shared.outcome w = (.ok c, w) := by
  rw [outcome_shared, h]

/-! ## §6 Clearing -/

theorem preserves_namesWith {P : World → Prop} (ending : String) (directory : Path) :
    (namesWith ending directory).Preserves P := by
  refine Act.Preserves.bind (Act.Preserves.see _) fun there => ?_
  cases there with
  | false => exact Act.Preserves.of_same fun w => rfl
  | true =>
      exact Act.Preserves.bind (Act.Preserves.see _) fun names => Act.Preserves.of_same fun w => rfl

/-- The names in a directory can be found by looking, if the user may read the directory. -/
theorem outcome_namesWith (ending : String) {directory : Path}
    (h : w.disk.Holds directory home) :
    ∃ e, w.disk.find? home = some e ∧ (namesWith ending directory).outcome w =
      (.ok ((if w.disk.allows e 4 then w.disk.names home else []).filter fun n =>
        ending.toList.isSuffixOf n.toList), w) := by
  obtain ⟨e, hfind, hdir, -, -, hresolve⟩ := h
  refine ⟨e, hfind, ?_⟩
  have hstatus : w.disk.status directory.text = .ok e := by
    unfold Disk.status
    rw [hresolve]
    rfl
  -- a directory is there, so it is listed
  have hthere : (Act.see (·.isDirectory? directory.text)).outcome w = (.ok true, w) := by
    rw [Act.outcome_see, Disk.isDirectory?, Disk.leadsTo?, hstatus]
    simp only [hdir]
    rfl
  have hlist : (Act.see (·.listIfAllowed directory.text)).outcome w =
      (.ok (if w.disk.allows e 4 then w.disk.names home else []), w) := by
    rw [Act.outcome_see, Disk.listIfAllowed, Disk.list, hresolve]
    simp only [bind, Except.bind, hdir, Bool.not_true, Bool.false_eq_true, if_false]
    cases w.disk.allows e 4 <;> rfl
  unfold namesWith
  rw [Act.outcome_bind_of_ok hthere, if_pos rfl, Act.outcome_bind_of_ok hlist]
  rfl

/-- A cache that has been cleared remembers nothing, even if a file could not be removed. -/
theorem lookup_clear (c : Cache) (key : String) (w : World) :
    (c.clear.outcome w).2.memory.lookup (c.id, key) = none := by
  -- forgetting comes first, and no removal, whether it fails or not, brings anything back
  refine Act.Preserves.after (P := fun u => u.memory.lookup (c.id, key) = none) ?_ fun _ => ?_
  · have hdropped := lookup_filter_key (fun k : Nat × String => k.1 != c.id) w.memory (c.id, key)
    exact hdropped.trans (by simp)
  · refine Act.Preserves.bind (preserves_namesWith _ _) fun names => ?_
    exact Act.Preserves.forM (fun n => Act.Preserves.change fun _ _ _ hnone => hnone) names

end Cache

/-! ## §7 Compiling through a cache -/

/-- What a compilation comes to if the cache can be opened: what the cache has is given, or data that
compiles to nothing is refused, or what the data compiles to is put into the cache and given. -/
theorem Source.compileCached_cases {data : Bytes} {engine : Engine} {c : Cache} {w w₁ w₂ : World}
    {result : Option Compiled} (s : Source) (verbose : Bool)
    (hopen : Cache.shared.outcome w = (.ok c, w₁))
    (hget : (c.get data engine).outcome w₁ = (.ok result, w₂)) (hshared : w₂.sharedCache = some c) :
    match result, Artifact.ofData? data with
    | some m, _ =>
        ∃ out logger, (s.compileCached data engine verbose).outcome w =
          (.ok m, { w₂ with out := out, logger := logger })
    | none, none =>
        ∃ out, (s.compileCached data engine verbose).outcome w =
          (.error (.compile s.path .rejected), { w₂ with out := out })
    | none, some a =>
        ∃ out logger, ∀ w₃, (c.put data ⟨w₂.made, engine, a⟩ (some engine)).outcome
            { w₂ with out := out, made := w₂.made + 1, logger := logger } = (.ok ⟨⟩, w₃) →
          (s.compileCached data engine verbose).outcome w = (.ok ⟨w₂.made, engine, a⟩, w₃) := by
  unfold Source.compileCached
  rw [Act.outcome_bind_of_ok hopen, Act.outcome_bind_of_ok hget]
  -- a hit gives the module; a miss says so and compiles, before the cache is told
  cases result with
  | some m => cases verbose <;> exact ⟨_, _, rfl⟩
  | none =>
      obtain ⟨out, hannounce⟩ := outcome_announce s data verbose w₂
      simp only
      rw [Act.outcome_bind_of_ok hannounce]
      cases ha : Artifact.ofData? data with
      | none => exact ⟨out, Act.outcome_bind_of_error (outcome_compileData_of_none s engine _ ha)⟩
      | some a =>
          obtain ⟨logger, hout⟩ := outcome_compileData_of_some s engine { w₂ with out := out } ha
          have hopened := Cache.shared_of_sharedCache (c := c)
            (w := { w₂ with out := out, made := w₂.made + 1, logger := logger }) hshared
          refine ⟨out, logger, fun w₃ hput => ?_⟩
          rw [Act.outcome_bind_of_ok hout, Act.outcome_bind_of_ok hopened,
            Act.outcome_bind_of_ok hput]
          rfl

end WasmGauge
