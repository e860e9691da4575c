import WasmGauge.Proofs.Cache.Beginning
import WasmGauge.Proofs.Storage.Walks

/-!
# Artifacts that cannot be used

Whatever lies under the name of an artifact, a cache that looks for the artifact either takes it up or
removes what lies there. That is so for files that hold something else or may not be read, and for links
wherever they lead. But looking and removing are operations of the disk, which the system may refuse,
and then getting a module fails with the refusal. This module says exactly when that is.

## Main statements

- `Cache.searches_takeUp`: what looking for an artifact comes to, whatever the disk is like.
- `Cache.get_unusable`: what keeps a module from being given, and what becomes of an artifact that cannot
  be used.
- `Cache.get_cluttered`: a directory under the name of an artifact makes getting a module fail.
-/

namespace WasmGauge

open Storage (Path Disk DiskFault Errno Entry Location)
open Wasm (Bytes)

namespace Cache

variable {c : Cache} {key : String} {data : Bytes} {engine : Engine} {w : World} {d : Disk}

/-! ## §1 Looking for an artifact -/

/-- Whether there is something under the name of an artifact that cannot be used, in a directory where
the name has an entry. -/
structure Unusable (c : Cache) (key : String) (d : Disk) (home : Location) (e : Entry) : Prop where
  entry : d.EntryAt c.directory (entryName key) home e
  present : d.exists? (c.file key).text = .ok true
  /-- The engine makes nothing of it, or it cannot be read. -/
  unusable : ∃ reason, artifactAt d (c.file key) = .error reason

/-- Why the system keeps a cache from finding out about an artifact, or from removing one that cannot be
used. -/
inductive Obstructs (c : Cache) (key : String) (d : Disk) : DiskFault → Prop where
  /-- The cache may not look: the user may not pass through a directory on the way, or a name on the way
  is too long. -/
  | hidden {cause : Errno} (hcause : cause.isAbsence = false)
      (h : d.status (c.file key).text = .error (.os cause (c.file key).text)) :
      Obstructs c key d (.os cause (c.file key).text)
  /-- The user may not change the directory in which something unusable lies under the name. -/
  | locked {home : Location} {e : Entry} (h : c.Unusable key d home e)
      (hlocked : d.mayChange (home ++ [entryName key]) = false) :
      Obstructs c key d (.os .noPermission (c.file key).text)
  /-- There is a directory under the name, in a directory that the user may change. -/
  | directory {home : Location} {e : Entry} (h : d.EntryAt c.directory (entryName key) home e)
      (hmay : d.mayChange (home ++ [entryName key]) = true) (hdir : e.isDirectory = true) :
      Obstructs c key d (.os .isDirectory (c.file key).text)

/-- What looking for the artifact under a key comes to. -/
inductive Searches (c : Cache) (key : String) (engine : Engine) (w : World) :
    Except Failure (Option Compiled) × World → Prop where
  /-- There is none. Nothing happens. -/
  | absent (h : w.disk.exists? (c.file key).text = .ok false) : Searches c key engine w (.ok none, w)
  /-- There is one. It is taken up and remembered. -/
  | taken {a : Artifact} (h : w.disk.exists? (c.file key).text = .ok true)
      (ha : artifactAt w.disk (c.file key) = .ok a) :
      Searches c key engine w
        (.ok (some ⟨w.made, engine, a⟩),
          { w with made := w.made + 1 }.remember c key ⟨engine, ⟨w.made, engine, a⟩⟩)
  /-- There is something that cannot be used. Its entry is removed. -/
  | dropped {home : Location} {e : Entry} (h : c.Unusable key w.disk home e)
      (hdir : e.isDirectory = false) (logger : Logger) :
      Searches c key engine w
        (.ok none, { w with disk := w.disk.erase (home ++ [entryName key]), logger := logger })
  /-- The system refuses. At most the log has changed. -/
  | obstructed {fault : DiskFault} (h : c.Obstructs key w.disk fault) (logger : Logger) :
      Searches c key engine w (.error (.disk fault), { w with logger := logger })

/-- Looking fails for a cause that is no absence, with the name that is looked for. -/
theorem status_of_exists?_error {name : String} {fault : DiskFault}
    (h : d.exists? name = .error fault) :
    ∃ cause, cause.isAbsence = false ∧ d.status name = .error (.os cause name) ∧
      fault = .os cause name := by
  unfold Disk.exists? Disk.leadsTo? at h
  -- a name that no file can have, and a name that leads somewhere, have an answer
  rcases d.status_cases name with ⟨-, hstatus⟩ | ⟨-, ⟨e, hstatus⟩ | ⟨cause, hstatus⟩⟩
  · simp [hstatus] at h
  · simp [hstatus] at h
  · rw [hstatus] at h
    refine ⟨cause, ?_, hstatus, ?_⟩
    · cases hcause : cause.isAbsence with
      | false => rfl
      | true => simp [hcause] at h
    · grind

theorem exists?_of_status_error {name : String} {cause : Errno} (hcause : cause.isAbsence = false)
    (h : d.status name = .error (.os cause name)) : d.exists? name = .error (.os cause name) := by
  unfold Disk.exists? Disk.leadsTo?
  simp [h, hcause]

/-- What looking for an artifact comes to, as the operations of the disk have it. -/
theorem outcome_takeUp (c : Cache) (key : String) (engine : Engine) (w : World) :
    ∃ logger, (c.takeUp key engine).outcome w =
      match w.disk.exists? (c.file key).text with
      | .error fault => (.error (.disk fault), w)
      | .ok false => (.ok none, w)
      | .ok true =>
        match artifactAt w.disk (c.file key) with
        | .ok a =>
          (.ok (some ⟨w.made, engine, a⟩),
            { w with made := w.made + 1 }.remember c key ⟨engine, ⟨w.made, engine, a⟩⟩)
        | .error _ =>
          match w.disk.unlinkIfThere (c.file key).text with
          | .error fault => (.error (.disk fault), { w with logger := logger })
          | .ok d => (.ok none, { w with disk := d, logger := logger }) := by
  unfold takeUp
  rw [Act.outcome_bind, Act.outcome_see]
  cases w.disk.exists? (c.file key).text with
  | error fault => exact ⟨w.logger, rfl⟩
  | ok there =>
    cases there with
    | false => exact ⟨w.logger, rfl⟩
    | true =>
      simp only [Except.mapError, if_true]
      rw [Act.outcome_bind_of_ok (Act.outcome_get w)]
      cases artifactAt w.disk (c.file key) with
      | ok a => exact ⟨w.logger, rfl⟩
      | error reason =>
        simp only
        rw [Act.outcome_bind_of_ok (Act.outcome_debug _ _ w), Act.outcome_bind, Act.outcome_change]
        cases w.disk.unlinkIfThere (c.file key).text <;> exact ⟨_, rfl⟩

theorem searches_takeUp (c : Cache) (hkey : Disk.isEntryName (entryName key) = true) (engine : Engine)
    (w : World) : c.Searches key engine w ((c.takeUp key engine).outcome w) := by
  obtain ⟨logger, hout⟩ := c.outcome_takeUp key engine w
  rw [hout]
  cases hexists : w.disk.exists? (c.file key).text with
  | error fault =>
    obtain ⟨cause, hcause, hstatus, rfl⟩ := status_of_exists?_error hexists
    exact .obstructed (.hidden hcause hstatus) w.logger
  | ok there =>
    cases there with
    | false => exact .absent hexists
    | true =>
      simp only
      cases hat : artifactAt w.disk (c.file key) with
      | ok a => exact .taken hexists hat
      | error reason =>
        -- what is there has an entry in the directory, and that is what is to be removed
        obtain ⟨home, e, hentry⟩ := Disk.exists_entryAt hkey hexists
        have hunusable : c.Unusable key w.disk home e := ⟨hentry, hexists, reason, hat⟩
        have hunlink := hentry.unlinkIfThere_eq
        rw [← file_eq] at hunlink
        rw [hunlink]
        cases hmay : w.disk.mayChange (home ++ [entryName key]) with
        | false => exact .obstructed (.locked hunusable hmay) logger
        | true =>
          cases hdir : e.isDirectory with
          | true => exact .obstructed (.directory hentry hmay hdir) logger
          | false => exact .dropped hunusable hdir logger

/-! ## §2 Obstacles -/

/-- Under a name whose entry is a directory there is something, but nothing that can be used. -/
theorem unusable_of_directory {home : Location} {e : Entry}
    (h : d.EntryAt c.directory (entryName key) home e) (hdir : e.isDirectory = true) :
    c.Unusable key d home e := by
  obtain ⟨node, owner, mode⟩ := e
  obtain rfl : node = .directory := by
    cases node <;> simp_all [Entry.isDirectory]
  have hstatus : d.status (c.file key).text = .ok ⟨.directory, owner, mode⟩ :=
    Disk.status_eq_ok_iff.2 ⟨_, h.resolve_of_not_link fun target hlink => by cases hlink⟩
  refine ⟨h, Disk.exists?_eq_true_iff.2 ⟨_, hstatus⟩, ?_⟩
  -- reading a directory is refused, whether the user may open it or not
  unfold artifactAt Disk.read
  simp only [hstatus, bind, Except.bind]
  cases d.allows ⟨.directory, owner, mode⟩ 4 with
  | false => exact ⟨_, rfl⟩
  | true => exact ⟨_, rfl⟩

/-- What is unusable is removed, if that is allowed. -/
theorem outcome_takeUp_of_unusable_entry {home : Location} {e : Entry} (engine : Engine)
    (h : c.Unusable key w.disk home e) :
    ∃ logger, (c.takeUp key engine).outcome w =
      match w.disk.unlinkIfThere (c.file key).text with
      | .error fault => (.error (.disk fault), { w with logger := logger })
      | .ok d => (.ok none, { w with disk := d, logger := logger }) := by
  obtain ⟨logger, hout⟩ := c.outcome_takeUp key engine w
  obtain ⟨reason, hreason⟩ := h.unusable
  rw [h.present, hreason] at hout
  exact ⟨logger, hout⟩

theorem Obstructs.outcome_takeUp {fault : DiskFault} (h : c.Obstructs key w.disk fault)
    (engine : Engine) : ((c.takeUp key engine).outcome w).1 = .error (.disk fault) := by
  cases h with
  | hidden hcause hstatus =>
    obtain ⟨logger, hout⟩ := c.outcome_takeUp key engine w
    rw [hout, exists?_of_status_error hcause hstatus]
  | locked hunusable hlocked =>
    obtain ⟨logger, hout⟩ := outcome_takeUp_of_unusable_entry engine hunusable
    have hunlink := hunusable.entry.unlinkIfThere_eq
    rw [← file_eq, hlocked] at hunlink
    rw [hout, hunlink]
    rfl
  | directory hentry hmay hdir =>
    obtain ⟨logger, hout⟩ := outcome_takeUp_of_unusable_entry engine (unusable_of_directory hentry hdir)
    have hunlink := hentry.unlinkIfThere_eq
    rw [← file_eq, hmay, hdir] at hunlink
    rw [hout, hunlink]
    rfl

/-- Looking fails exactly if there is an obstacle. -/
theorem takeUp_eq_error_iff (c : Cache) (hkey : Disk.isEntryName (entryName key) = true)
    (engine : Engine) (w : World) (f : Failure) :
    ((c.takeUp key engine).outcome w).1 = .error f ↔
      ∃ fault, c.Obstructs key w.disk fault ∧ f = .disk fault := by
  constructor
  · intro h
    have hsearches := c.searches_takeUp hkey engine w
    generalize (c.takeUp key engine).outcome w = out at h hsearches
    -- of the four results of a search only one is a failure
    cases hsearches with
    | absent _ => cases h
    | taken _ _ => cases h
    | dropped _ _ _ => cases h
    | obstructed hobstructs logger =>
      cases h
      exact ⟨_, hobstructs, rfl⟩
  · rintro ⟨fault, hobstructs, rfl⟩
    exact hobstructs.outcome_takeUp engine

/-! ## §3 Getting a module -/

/-- If no module is given, then none is remembered for the engine, and there is nothing under the name of
the artifact, be it that there was nothing before or that an entry has been removed. Nothing else has
happened but that something may have been logged. -/
theorem miss_of_get {w' : World} (h : (c.get data engine).outcome w = (.ok none, w')) :
    (∀ r, w.memory.lookup (c.id, keyOf data) = some r → r.engine ≠ engine) ∧
      w'.memory = w.memory ∧ w'.disk.exists? (c.file (keyOf data)).text = .ok false ∧
      ((w.disk.exists? (c.file (keyOf data)).text = .ok false ∧ w'.disk = w.disk) ∨
        ∃ home e, c.Unusable (keyOf data) w.disk home e ∧ e.isDirectory = false ∧
          w'.disk = w.disk.erase (home ++ [entryName (keyOf data)])) := by
  rcases c.outcome_get_cases data engine w with ⟨m, -, hget⟩ | ⟨hother, hget⟩
  · rw [hget] at h
    cases h
  · have hsearches := c.searches_takeUp (isEntryName_entryName data) engine w
    rw [← hget, h] at hsearches
    -- no module is given where there is none, or where the entry has been removed
    cases hsearches with
    | absent habsent => exact ⟨hother, rfl, habsent, .inl ⟨habsent, rfl⟩⟩
    | dropped hunusable hdir logger =>
      have hpresent := hunusable.present
      rw [file_eq] at hpresent ⊢
      exact ⟨hother, rfl, hunusable.entry.exists?_erase hpresent, .inr ⟨_, _, hunusable, hdir, rfl⟩⟩

/-- Getting a module fails only if none is remembered for the engine and the system refuses: it does not
let the cache look, or it does not let it remove what cannot be used, because that is a directory or lies
in one that the user may not change. In a directory of the user's own a file is no obstacle. If no module
is given although there is something under the name of the artifact, then its entry is removed, and
nothing else. -/
theorem get_unusable (c : Cache) (data : Bytes) (engine : Engine) (w : World) :
    (∀ f, ((c.get data engine).outcome w).1 = .error f ↔
      (∀ r, w.memory.lookup (c.id, keyOf data) = some r → r.engine ≠ engine) ∧
        ∃ fault, c.Obstructs (keyOf data) w.disk fault ∧ f = .disk fault) ∧
    (∀ home, w.disk.Keeps c.directory home (entryName (keyOf data)) →
      ∃ result, ((c.get data engine).outcome w).1 = .ok result) ∧
    ∀ w', (c.get data engine).outcome w = (.ok none, w') →
      w'.disk.exists? (c.file (keyOf data)).text = .ok false ∧
      ((w.disk.exists? (c.file (keyOf data)).text = .ok false ∧ w'.disk = w.disk) ∨
        ∃ home e, c.Unusable (keyOf data) w.disk home e ∧ e.isDirectory = false ∧
          w'.disk = w.disk.erase (home ++ [entryName (keyOf data)])) := by
  refine ⟨fun f => ?_, fun home hkeeps => ?_, fun w' hout => (miss_of_get hout).2.2⟩
  · -- what is remembered for the engine is given without a look at the disk
    rcases c.outcome_get_cases data engine w with ⟨m, hm, hget⟩ | ⟨hother, hget⟩
    · rw [hget]
      constructor
      · intro h
        cases h
      · rintro ⟨hother, -⟩
        exact absurd rfl (hother _ hm)
    · rw [hget, c.takeUp_eq_error_iff (isEntryName_entryName data)]
      exact (and_iff_right hother).symm
  · rcases c.outcome_get_cases data engine w with ⟨m, -, hget⟩ | ⟨-, hget⟩
    · -- memory answers
      exact ⟨_, by rw [hget]⟩
    · rw [hget]
      cases hat : artifactAt w.disk (c.file (keyOf data)) with
      | ok a => exact ⟨_, by rw [outcome_takeUp_of_ok hkeeps hat]⟩
      | error reason =>
        obtain ⟨logger, hout⟩ := outcome_takeUp_of_error engine hkeeps hat
        exact ⟨_, by rw [hout]⟩

end Cache

/-- A world in which a directory lies under the name of an artifact. -/
def World.cluttered : World :=
  { World.start [] with
    disk := Bundle.diskOpened.put
      (CacheScope.bundled.home ++ [Cache.entryName (keyOf Bundle.fibBinary)]) ⟨.directory, 0, 0o755⟩ }

theorem Cache.get_cluttered :
    ((Cache.first.get Bundle.fibBinary Engine.shared).outcome World.cluttered).1 =
      .error (.disk (.os .isDirectory (Cache.first.file (keyOf Bundle.fibBinary)).text)) := by
  have hkeeps := CacheScope.keeps_diskOpened Bundle.fibBinary
  have hholds := hkeeps.holds.carry (Disk.AgreeBut.put hkeeps.blocked ⟨.directory, 0, 0o755⟩)
  have hmay := hholds.mayChange (Cache.entryName (keyOf Bundle.fibBinary))
  obtain ⟨e, -, hdir, hpass, -, hresolve⟩ := hholds
  have hentry : World.cluttered.disk.EntryAt Cache.first.directory
      (Cache.entryName (keyOf Bundle.fibBinary)) CacheScope.bundled.home ⟨.directory, 0, 0o755⟩ :=
    ⟨⟨hkeeps.named, hkeeps.accepted, e, hresolve, hdir, hpass⟩,
      (Disk.find?_put _ _ _ _).trans (if_pos rfl)⟩
  have hobstructs : Cache.first.Obstructs (keyOf Bundle.fibBinary) World.cluttered.disk
      (.os .isDirectory (Cache.first.file (keyOf Bundle.fibBinary)).text) :=
    .directory hentry hmay rfl
  have hnone : ∀ r, World.cluttered.memory.lookup (Cache.first.id, keyOf Bundle.fibBinary) = some r →
      r.engine ≠ Engine.shared := by
    intro r hr
    cases hr
  rw [Cache.outcome_get_of_not_remembered hnone]
  exact hobstructs.outcome_takeUp Engine.shared

end WasmGauge
