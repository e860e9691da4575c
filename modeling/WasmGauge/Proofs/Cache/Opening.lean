import WasmGauge.Proofs.Cache.Beginning
import WasmGauge.Proofs.Storage.Directories

/-!
# Opening a cache

A cache loads code from its directory, so the directory has to be the user's own, and nobody else may
write to it. Opening a cache makes the directory if it is missing and looks at what there is then. What is
made is private from the beginning, so only a directory that was there before is ever refused, and a
refusal leaves everything as it was.

## Main statements

- `Cache.privacyFault?_eq_none_iff`: which directories are accepted.
- `Cache.opening_private`: what opening a cache comes to, whether it succeeds or refuses the directory.
- `Cache.opening_inherits`: a new directory takes over a bit from the directory that it is made in.
-/

namespace WasmGauge

open Storage (Path Disk Entry Location Route)

namespace Cache

variable {directory : Path} {w w' : World} {d d' : Disk} {c : Cache} {e : Entry}

/-! ## §1 The check -/

/-- Whether a directory is safe for a user to load code from: it is the user's own, and neither the group
nor others may write to it. -/
structure IsPrivate (e : Entry) (user : Nat) : Prop where
  owner : e.owner = user
  group : Disk.hasBit e.mode 0o20 = false
  others : Disk.hasBit e.mode 0o2 = false

instance (e : Entry) (user : Nat) : Decidable (IsPrivate e user) :=
  decidable_of_iff (e.owner = user ∧ Disk.hasBit e.mode 0o20 = false ∧ Disk.hasBit e.mode 0o2 = false)
    ⟨fun ⟨howner, hgroup, hothers⟩ => ⟨howner, hgroup, hothers⟩,
      fun h => ⟨h.owner, h.group, h.others⟩⟩

/-- What is said of a directory that is not: first of all that it is not the user's own. -/
def refusal (e : Entry) (user : Nat) : PrivacyFault :=
  if e.owner ≠ user then .owner e.owner user else .writable (e.mode % 0o10000)

theorem privacyFault?_eq_none_iff (e : Entry) (user : Nat) :
    privacyFault? e.owner user e.mode = none ↔ IsPrivate e user := by
  unfold privacyFault?
  constructor
  · intro h
    -- the owner is looked at first, and only then the bits
    by_cases howner : e.owner = user
    · rw [if_neg (not_not.2 howner)] at h
      refine ⟨howner, ?_, ?_⟩ <;> simp only [Disk.hasBit] <;> grind
    · rw [if_pos howner] at h
      cases h
  · rintro ⟨howner, hgroup, hothers⟩
    simp only [Disk.hasBit, beq_eq_false_iff_ne] at hgroup hothers
    rw [if_neg (not_not.2 howner), if_neg (by simp [hgroup, hothers])]

theorem privacyFault?_of_not_private {user : Nat} (h : ¬ IsPrivate e user) :
    privacyFault? e.owner user e.mode = some (refusal e user) := by
  cases hfault : privacyFault? e.owner user e.mode with
  | none => exact absurd ((privacyFault?_eq_none_iff e user).1 hfault) h
  | some fault =>
    unfold privacyFault? at hfault
    unfold refusal
    grind

theorem checkDirectory_eq (e : Entry) (user : Nat) (name : String) :
    checkDirectory name e.owner user e.mode =
      if IsPrivate e user then .ok () else .error (.cache name (refusal e user)) := by
  unfold checkDirectory
  by_cases h : IsPrivate e user
  · rw [(privacyFault?_eq_none_iff e user).2 h, if_pos h]
  · rw [privacyFault?_of_not_private h, if_neg h]

/-! ## §2 The directory -/

/-- The permissions of a new directory, given those of the directory that it is made in. -/
def newMode (above : Nat) : Nat :=
  if Disk.hasBit above 0o2000 then directoryMode + 0o2000 else directoryMode

theorem isPrivate_new (user above : Nat) : IsPrivate ⟨.directory, user, newMode above⟩ user := by
  have hmode : newMode above = 0o700 ∨ newMode above = 0o2700 := by
    unfold newMode
    cases Disk.hasBit above 0o2000 with
    | false => exact .inl rfl
    | true => exact .inr rfl
  -- the bit that is passed on lies above those that are looked at
  have hbits : ∀ mode, mode = 0o700 ∨ mode = 0o2700 →
      Disk.hasBit mode 0o20 = false ∧ Disk.hasBit mode 0o2 = false := by
    rintro _ (rfl | rfl) <;> decide
  obtain ⟨hgroup, hothers⟩ := hbits _ hmode
  exact ⟨rfl, hgroup, hothers⟩

/-- What the path of a cache leads to when its directory has been seen to. -/
inductive Provides (directory : Path) (d d' : Disk) : Entry → Prop where
  /-- There was a directory. Nothing has happened. -/
  | there {e : Entry} (hstatus : d.status directory.text = .ok e) (hdir : e.isDirectory = true)
      (hsame : d' = d) : Provides directory d d' e
  /-- There was nothing. The directory is new, like those above it that were missing. -/
  | new {e : Entry} (habsent : ∀ e, d.status directory.text ≠ .ok e)
      (habove : d'.status directory.parent.text = .ok e)
      (hstatus : d'.status directory.text = .ok ⟨.directory, d.user, newMode e.mode⟩) :
      Provides directory d d' ⟨.directory, d.user, newMode e.mode⟩

theorem Provides.status (h : Provides directory d d' e) :
    d'.status directory.text = .ok e ∧ e.isDirectory = true := by
  cases h with
  | there hstatus hdir hsame => exact ⟨hsame ▸ hstatus, hdir⟩
  | new _ _ hstatus => exact ⟨hstatus, rfl⟩

theorem provides_of_ensureDirectory (hrooted : d.Rooted) (hdots : Route.above ∉ directory.parts)
    (h : d.ensureDirectory directory directoryMode = .ok d') : ∃ e, Provides directory d d' e := by
  -- a fresh directory belongs to the user, who is the same after it has been made
  cases Disk.ensureDirectory_cases hrooted hdots h with
  | there hstatus hdir hsame => exact ⟨_, .there hstatus hdir hsame⟩
  | fresh habsent hfresh =>
    have hitself := hfresh.itself
    rw [(Disk.grows_ensureDirectory h).user] at hitself
    exact ⟨_, .new habsent (Disk.status_eq_ok_iff.2 ⟨_, hfresh.parent⟩)
      (Disk.status_eq_ok_iff.2 ⟨_, hitself⟩)⟩

/-! ## §3 Opening -/

theorem outcome_openAt_of_provides (hensure : w.disk.ensureDirectory directory directoryMode = .ok d')
    (h : Provides directory w.disk d' e) :
    (openAt directory).outcome w =
      if IsPrivate e w.disk.user then
        (.ok ⟨w.made, directory⟩, { w with disk := d', made := w.made + 1 })
      else (.error (.cache directory.text (refusal e w.disk.user)), { w with disk := d' }) := by
  rw [outcome_openAt, hensure]
  simp only [h.status.1, checkDirectory_eq, (Disk.grows_ensureDirectory hensure).user]
  by_cases hprivate : IsPrivate e w.disk.user
  · rw [if_pos hprivate, if_pos hprivate]
  · rw [if_neg hprivate, if_neg hprivate]

/-- A cache whose directory is there is opened on it, or it is refused, and the disk stays as it is. -/
theorem outcome_openAt_of_status (hdots : Route.above ∉ directory.parts)
    (hstatus : w.disk.status directory.text = .ok e) (hdir : e.isDirectory = true) :
    (openAt directory).outcome w =
      if IsPrivate e w.disk.user then (.ok ⟨w.made, directory⟩, { w with made := w.made + 1 })
      else (.error (.cache directory.text (refusal e w.disk.user)), w) :=
  outcome_openAt_of_provides (Disk.ensureDirectory_of_status hdots hstatus hdir _)
    (.there hstatus hdir rfl)

/-- Opening a cache, on whatever path, tells no cache what to remember, and makes nothing but
directories. -/
theorem grows_openAt (h : (openAt directory).outcome w = (.ok c, w')) :
    w.disk.Grows w'.disk ∧ w'.memory = w.memory := by
  rw [outcome_openAt] at h
  cases hensure : w.disk.ensureDirectory directory directoryMode with
  | error fault =>
    rw [hensure] at h
    cases h
  | ok d =>
    simp only [hensure] at h
    cases hstatus : d.status directory.text with
    | error fault =>
      rw [hstatus] at h
      cases h
    | ok e =>
      simp only [hstatus] at h
      cases hcheck : checkDirectory directory.text e.owner d.user e.mode with
      | error f =>
        rw [hcheck] at h
        cases h
      | ok _ =>
        rw [hcheck] at h
        cases h
        exact ⟨Disk.grows_ensureDirectory hensure, rfl⟩

theorem grows_shared (h : shared.outcome w = (.ok c, w')) :
    w.disk.Grows w'.disk ∧ w'.memory = w.memory ∧ (w.sharedCache.isSome → w' = w) := by
  rw [outcome_shared] at h
  cases hshared : w.sharedCache with
  -- a cache that is open is given at once
  | some c' =>
    rw [hshared] at h
    cases h
    exact ⟨Disk.Grows.refl _, rfl, fun _ => rfl⟩
  | none =>
    rw [hshared] at h
    rcases hopen : (openAt w.settings.cacheDirectory).outcome w with ⟨result, w₁⟩
    simp only [hopen] at h
    cases result with
    | error f => cases h
    | ok c' =>
      cases h
      obtain ⟨hgrows, hmemory⟩ := grows_openAt hopen
      exact ⟨hgrows, hmemory, fun hsome => by cases hsome⟩

theorem sharedCache_openAt (directory : Path) (w : World) :
    ((openAt directory).outcome w).2.sharedCache = w.sharedCache := by
  rw [outcome_openAt]
  cases w.disk.ensureDirectory directory directoryMode with
  | error fault => rfl
  | ok d =>
    simp only
    cases d.status directory.text with
    | error fault => rfl
    | ok e =>
      simp only
      cases checkDirectory directory.text e.owner d.user e.mode <;> rfl

/-- If the cache for all cannot be opened, there is none, and the next one who needs it tries again. -/
theorem sharedCache_of_shared_error {f : Failure} (h : shared.outcome w = (.error f, w')) :
    w'.sharedCache = none := by
  rw [outcome_shared] at h
  cases hnone : w.sharedCache with
  | some c =>
    rw [hnone] at h
    cases h
  | none =>
    have hkept := sharedCache_openAt w.settings.cacheDirectory w
    rw [hnone] at h
    rcases hopen : (openAt w.settings.cacheDirectory).outcome w with ⟨result, w₁⟩
    rw [hopen] at h hkept
    cases result with
    | ok c => cases h
    | error f' =>
      cases h
      exact hkept.trans hnone

/-- A cache is opened on a private directory only. The directory and those above it are made if they are
missing; nothing that is on the disk is touched by that, and whatever is new is a directory of the user's
own. A directory is refused only if it was there and is not private, first of all because it is not the
user's own, and then nothing has happened. Nor is there a cache for all after it could not be opened, so
that the directory is looked at again, and accepted once it is private. -/
theorem opening_private (directory : Path) (w : World) (hrooted : w.disk.Rooted)
    (hdots : Route.above ∉ directory.parts) :
    (∀ c w', (openAt directory).outcome w = (.ok c, w') →
      w.disk.Grows w'.disk ∧
      (∃ e, w'.disk.status directory.text = .ok e ∧ e.isDirectory = true ∧
        IsPrivate e w.disk.user ∧ Provides directory w.disk w'.disk e) ∧
      ∀ k, ∃ e, w'.disk.status (Path.parent^[k] directory).text = .ok e ∧ e.isDirectory = true) ∧
    (∀ name fault w', (openAt directory).outcome w = (.error (.cache name fault), w') →
      w' = w ∧ name = directory.text ∧ ∃ e, w.disk.status directory.text = .ok e ∧
        e.isDirectory = true ∧ ¬ IsPrivate e w.disk.user ∧ fault = refusal e w.disk.user) ∧
    (∀ f w', shared.outcome w = (.error f, w') → w'.sharedCache = none) ∧
    ∀ u e, u.sharedCache = none → u.settings.cacheDirectory = directory →
      u.disk.status directory.text = .ok e → e.isDirectory = true →
      (IsPrivate e u.disk.user → ∃ u', shared.outcome u = (.ok ⟨u.made, directory⟩, u') ∧
        u'.disk = u.disk ∧ u'.sharedCache = some ⟨u.made, directory⟩) ∧
      (¬ IsPrivate e u.disk.user →
        shared.outcome u = (.error (.cache directory.text (refusal e u.disk.user)), u)) := by
  -- in turn: what is accepted, what is refused, no cache after a failure, and the cache for all
  refine ⟨fun c w' hopen => ?_, fun name fault w' hopen => ?_,
    fun f w' => sharedCache_of_shared_error, fun u e hnone hset hstatus hdir => ?_⟩
  · cases hensure : w.disk.ensureDirectory directory directoryMode with
    | error fault =>
      rw [outcome_openAt, hensure] at hopen
      cases hopen
    | ok d' =>
      obtain ⟨e, hprovides⟩ := provides_of_ensureDirectory hrooted hdots hensure
      rw [outcome_openAt_of_provides hensure hprovides] at hopen
      by_cases hprivate : IsPrivate e w.disk.user
      · rw [if_pos hprivate] at hopen
        cases hopen
        obtain ⟨hstatus, hdir⟩ := hprovides.status
        exact ⟨Disk.grows_ensureDirectory hensure, ⟨e, hstatus, hdir, hprivate, hprovides⟩,
          Disk.exists_status_ancestor hstatus hdir⟩
      · rw [if_neg hprivate] at hopen
        cases hopen
  · cases hensure : w.disk.ensureDirectory directory directoryMode with
    | error fault =>
      rw [outcome_openAt, hensure] at hopen
      cases hopen
    | ok d' =>
      obtain ⟨e, hprovides⟩ := provides_of_ensureDirectory hrooted hdots hensure
      rw [outcome_openAt_of_provides hensure hprovides] at hopen
      by_cases hprivate : IsPrivate e w.disk.user
      · rw [if_pos hprivate] at hopen
        cases hopen
      · rw [if_neg hprivate] at hopen
        -- only a directory that was there before is refused, and then nothing has been made
        cases hprovides with
        | there hstatus hdir hsame =>
          cases hopen
          exact ⟨by rw [hsame], rfl, e, hstatus, hdir, hprivate, rfl⟩
        | new _ _ _ => exact absurd (isPrivate_new _ _) hprivate
  · rw [outcome_shared, hnone, hset]
    simp only [outcome_openAt_of_status hdots hstatus hdir]
    constructor
    · intro hprivate
      rw [if_pos hprivate]
      exact ⟨_, rfl, rfl, rfl⟩
    · intro hprivate
      rw [if_neg hprivate]

/-- At the beginning of a run the directory is made, and all that there was is kept. -/
theorem opening_private_start :
    (World.start []).disk.Rooted ∧ Route.above ∉ Settings.standard.cacheDirectory.parts ∧
      ∃ w', (openAt Settings.standard.cacheDirectory).outcome (World.start []) = (.ok first, w') ∧
        (World.start []).disk.Grows w'.disk ∧
        ∃ e, w'.disk.status Settings.standard.cacheDirectory.text = .ok e ∧ IsPrivate e 0 := by
  have hrooted : (World.start []).disk.Rooted := Disk.rooted_of_entries (by decide +kernel)
  have hdots : Route.above ∉ Settings.standard.cacheDirectory.parts := by decide
  have hopen := CacheScope.openAt_start []
  obtain ⟨hopened, -⟩ := opening_private Settings.standard.cacheDirectory (World.start []) hrooted hdots
  obtain ⟨hgrows, ⟨e, hstatus, -, hprivate, -⟩, -⟩ := hopened _ _ hopen
  exact ⟨hrooted, hdots, _, hopen, hgrows, e, hstatus, hprivate⟩

end Cache

/-- A world whose current directory passes its group on to what is made in it. -/
def World.passingOn : World :=
  { World.start [] with disk := Bundle.disk.put Bundle.workplace ⟨.directory, 0, 0o2755⟩ }

/-- There the new directory of a cache has one bit more than a new directory is asked to have. -/
theorem Cache.opening_inherits : ∃ c w',
    (Cache.openAt Settings.standard.cacheDirectory).outcome World.passingOn = (.ok c, w') ∧
      World.passingOn.disk.status Settings.standard.cacheDirectory.text =
        .error (.os .noEntry Settings.standard.cacheDirectory.text) ∧
      w'.disk.status Settings.standard.cacheDirectory.text = .ok ⟨.directory, 0, 0o2700⟩ := by
  have hmade : ∃ d', World.passingOn.disk.ensureDirectory Settings.standard.cacheDirectory
      Cache.directoryMode = .ok d' ∧ d'.user = 0 ∧
        d'.status Settings.standard.cacheDirectory.text = .ok ⟨.directory, 0, 0o2700⟩ := by
    have hchecked : (World.passingOn.disk.ensureDirectory Settings.standard.cacheDirectory
        Cache.directoryMode).toOption.any (fun d' => d'.user = 0 ∧
          d'.status Settings.standard.cacheDirectory.text = .ok ⟨.directory, 0, 0o2700⟩) = true := by
      decide +kernel
    cases hensure : World.passingOn.disk.ensureDirectory Settings.standard.cacheDirectory
        Cache.directoryMode with
    | error fault =>
      rw [hensure] at hchecked
      cases hchecked
    | ok d' =>
      rw [hensure] at hchecked
      exact ⟨d', rfl, by simpa [Except.toOption] using hchecked⟩
  obtain ⟨d', hensure, huser, hstatus⟩ := hmade
  rw [Cache.outcome_openAt, hensure]
  simp only [hstatus, huser]
  exact ⟨_, _, rfl, by decide +kernel, hstatus⟩

end WasmGauge
