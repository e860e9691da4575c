import WasmGauge.Proofs.Cache.Refusals

/-!
# Clearing a cache

Clearing a cache empties both of its tiers, whoever has put there what they hold, and touches nothing else.
Between the tiers there is an invariant: as long as a cache is alone with its directory and everything it
writes is kept, whatever it remembers lies on the disk as well, so that it never remembers more than it
keeps.

All this is about directories that are orderly: the user may list and change them, and the paths of what
is in them are no longer than the system takes. The last section shows a directory with a longer path.

## Main statements

- `Cache.Orderly.outcome_clear`, `Cache.Orderly.outcome_info`: what clearing a cache comes to, and what a
  cache says of itself.
- `Cache.Alone.paired`: one step of a cache that is alone keeps its tiers together.
- `Cache.clear_empties`: both tiers after clearing, and at any time before.
- `Cache.get_winding`: in a directory with too long a path, getting a module fails instead.
-/

namespace WasmGauge

open Storage (Path Disk DiskFault Entry Location Route)
open Wasm (Bytes)

/-! ## §1 Removing names -/

namespace Storage.Disk

variable {d : Disk} {dir : Path} {home : Location} {n : String}

/-- The disk without the entries of some names in a directory. -/
def without (d : Disk) (home : Location) (ns : List String) : Disk :=
  ns.foldl (fun d n => d.erase (home ++ [n])) d

theorem find?_without (d : Disk) (home : Location) (ns : List String) (p : Location) :
    (d.without home ns).find? p = if ∃ n ∈ ns, p = home ++ [n] then none else d.find? p := by
  induction ns generalizing d with
  | nil => simp [without]
  | cons n ns ih =>
    show ((d.erase (home ++ [n])).without home ns).find? p = _
    rw [ih, find?_erase]
    -- a name may stand in the list more than once, so the later ones decide first
    by_cases hlater : ∃ m ∈ ns, p = home ++ [m]
    · obtain ⟨m, hm, hp⟩ := hlater
      rw [if_pos ⟨m, hm, hp⟩, if_pos ⟨m, List.mem_cons_of_mem n hm, hp⟩]
    · rw [if_neg hlater]
      by_cases hp : p = home ++ [n]
      · rw [if_pos hp, if_pos ⟨n, List.mem_cons_self, hp⟩]
      · rw [if_neg hp, if_neg]
        rintro ⟨m, hm, hp'⟩
        rcases List.mem_cons.1 hm with rfl | hm
        · exact hp hp'
        · exact hlater ⟨m, hm, hp'⟩

theorem allows_without (d : Disk) (home : Location) (ns : List String) (e : Entry) (bit : Nat) :
    (d.without home ns).allows e bit = d.allows e bit := by
  induction ns generalizing d with
  | nil => rfl
  | cons n ns ih => exact ih (d.erase (home ++ [n]))

theorem user_without (d : Disk) (home : Location) (ns : List String) :
    (d.without home ns).user = d.user := by
  induction ns generalizing d with
  | nil => rfl
  | cons n ns ih => exact ih (d.erase (home ++ [n]))

theorem mem_names_of_find? {e : Entry} (h : d.find? (home ++ [n]) = some e) : n ∈ d.names home := by
  obtain ⟨before, after, hentries, -⟩ := List.lookup_eq_some_iff.1 h
  exact List.mem_filterMap.2 ⟨(home ++ [n], e), by simp [hentries], by simp⟩

/-- Removing a name that belongs to a file or is free takes away what there is. -/
theorem Keeps.unlinkIfThere_eq_erase (h : d.Keeps dir home n) :
    d.unlinkIfThere (dir.child n).text = .ok (d.erase (home ++ [n])) := by
  cases hfind : d.find? (home ++ [n]) with
  | some e => exact h.unlinkIfThere_eq (by rw [hfind]; rfl)
  -- removing is let off where nothing is, and there erasing changes nothing either
  | none =>
    rw [erase_of_find?_eq_none hfind]
    unfold unlinkIfThere unlink
    rw [h.holds.spot_child h.named h.accepted h.blocked]
    simp [bind, Except.bind, hfind]

end Storage.Disk

namespace Cache

variable {c : Cache} {home : Location} {d : Disk} {w w' : World} {data : Bytes} {engine : Engine}

theorem endsAsArtifact_entryName (key : String) : EndsAsArtifact (entryName key) := by
  simp [EndsAsArtifact, entryName]

/-- The names of the artifacts in a directory. -/
def artifactNames (d : Disk) (home : Location) : List String :=
  (d.names home).filter fun n => suffix.toList.isSuffixOf n.toList

/-- A directory that is at hand is orderly: the user may read it as well, and whatever ends as an artifact
is a file, whose path is not refused. -/
structure Orderly (c : Cache) (home : Location) (d : Disk) : Prop extends c.AtHand home d where
  /-- The directory can be listed. -/
  readable : ∀ e, d.find? home = some e → d.allows e 4 = true
  /-- Everything that is cleared away. -/
  regular : ∀ n, EndsAsArtifact n → ∀ e, d.find? (home ++ [n]) = some e →
    (∃ bytes, e.node = .file bytes) ∧ Disk.checkName (c.directory.child n).text = .ok ()

namespace Orderly

theorem holds (h : c.Orderly home d) : d.Holds c.directory home := (h.entries []).holds

theorem keeps (h : c.Orderly home d) {n : String} (hn : n ∈ artifactNames d home) :
    d.Keeps c.directory home n := by
  obtain ⟨hlisted, hends⟩ := List.mem_filter.1 hn
  obtain ⟨e, hfind⟩ := Disk.find?_of_mem_names hlisted
  obtain ⟨hfile, haccepted⟩ := h.regular n hends e hfind
  refine ⟨h.holds, (h.artifacts n hends e hfind).1, haccepted, fun e' he' => ?_⟩
  obtain rfl : e = e' := Option.some.inj (hfind.symm.trans he')
  exact hfile

end Orderly

theorem outcome_forM_unlink (ns : List String) (hkeeps : ∀ n ∈ ns, w.disk.Keeps c.directory home n) :
    (ns.forM fun n => Act.change (·.unlinkIfThere (c.directory.child n).text)).outcome w =
      (.ok ⟨⟩, { w with disk := w.disk.without home ns }) := by
  -- on the names: each is removed from the disk that the ones before it have left
  induction ns generalizing w with
  | nil => rfl
  | cons n ns ih =>
    have hn := hkeeps n List.mem_cons_self
    have hchange : (Act.change (·.unlinkIfThere (c.directory.child n).text)).outcome w =
        (.ok ⟨⟩, { w with disk := w.disk.erase (home ++ [n]) }) := by
      rw [Act.outcome_change, hn.unlinkIfThere_eq_erase]
    show (Act.change (·.unlinkIfThere (c.directory.child n).text) >>= fun _ =>
      ns.forM fun n => Act.change (·.unlinkIfThere (c.directory.child n).text)).outcome w = _
    rw [Act.outcome_bind_of_ok hchange]
    refine (ih fun m hm => ?_).trans rfl
    -- the names that remain are still in reach, be they the same name again
    by_cases hsame : m = n
    · exact hsame ▸ hn.erase
    · exact (hkeeps m (List.mem_cons_of_mem n hm)).carry (Disk.AgreeBut.erase hn.blocked)
        (by simpa using hsame)

/-! ## §2 Clearing -/

/-- The world in which a cache has forgotten everything and its directory has no artifacts. -/
def cleared (c : Cache) (home : Location) (w : World) : World :=
  { w with
    memory := w.memory.filter fun x => x.1.1 != c.id
    disk := w.disk.without home (artifactNames w.disk home) }

/-- What there is after something has been put under a name is this, or it was there before. -/
theorem find?_put_entry {n m : String} {e e' : Entry}
    (h : (d.put (home ++ [m]) e').find? (home ++ [n]) = some e) :
    n = m ∧ e = e' ∨ d.find? (home ++ [n]) = some e := by
  rw [Disk.find?_put] at h
  split at h
  · next hplace => exact .inl ⟨by simpa using hplace, (Option.some.inj h).symm⟩
  · exact .inr h

/-- If the user may list a directory, and everything that ends as an artifact there can be removed, then
clearing does not fail. -/
theorem outcome_clear_of_keeps (hholds : w.disk.Holds c.directory home)
    (hreadable : ∀ e, w.disk.find? home = some e → w.disk.allows e 4 = true)
    (hkeeps : ∀ n ∈ artifactNames w.disk home, w.disk.Keeps c.directory home n) :
    c.clear.outcome w = (.ok ⟨⟩, c.cleared home w) := by
  -- memory goes first, and the directory does not depend on it
  have hforget : c.forgetAll.outcome w =
      (.ok ⟨⟩, { w with memory := w.memory.filter fun x => x.1.1 != c.id }) := rfl
  obtain ⟨e, hfind, hnames⟩ := outcome_namesWith suffix
    (w := { w with memory := w.memory.filter fun x => x.1.1 != c.id }) hholds
  rw [if_pos (hreadable e hfind)] at hnames
  unfold Cache.clear
  rw [Act.outcome_bind_of_ok hforget, Act.outcome_bind_of_ok hnames]
  exact outcome_forM_unlink _ hkeeps

namespace Orderly

theorem outcome_namesWith (h : c.Orderly home w.disk) :
    (namesWith suffix c.directory).outcome w = (.ok (artifactNames w.disk home), w) := by
  obtain ⟨e, hfind, hnames⟩ := Cache.outcome_namesWith suffix h.holds
  rw [hnames, if_pos (h.readable e hfind)]
  rfl

/-- Clearing never fails. -/
theorem outcome_clear (h : c.Orderly home w.disk) : c.clear.outcome w = (.ok ⟨⟩, c.cleared home w) :=
  outcome_clear_of_keeps h.holds h.readable fun _ => h.keeps

/-- There are no artifacts afterwards. -/
theorem find?_cleared (w : World) {n : String} (hn : EndsAsArtifact n) :
    (c.cleared home w).disk.find? (home ++ [n]) = none := by
  show (w.disk.without home (artifactNames w.disk home)).find? _ = _
  rw [Disk.find?_without]
  -- what is not listed is not there in the first place
  cases hfind : w.disk.find? (home ++ [n]) with
  | none => exact ite_self _
  | some e => exact if_pos ⟨n, List.mem_filter.2 ⟨Disk.mem_names_of_find? hfind, hn⟩, rfl⟩

theorem find?_cleared_of_ne (w : World) {p : Location}
    (hp : ∀ n, EndsAsArtifact n → p ≠ home ++ [n]) :
    (c.cleared home w).disk.find? p = w.disk.find? p := by
  show (w.disk.without home (artifactNames w.disk home)).find? p = _
  rw [Disk.find?_without, if_neg]
  rintro ⟨n, hn, rfl⟩
  exact hp n (List.mem_filter.1 hn).2 rfl

theorem find?_of_find?_cleared {p : Location} {e : Entry}
    (he : (c.cleared home w).disk.find? p = some e) : w.disk.find? p = some e := by
  change (w.disk.without home (artifactNames w.disk home)).find? p = some e at he
  rw [Disk.find?_without] at he
  split at he
  · cases he
  · exact he

/-- What is left is orderly. -/
theorem cleared (h : c.Orderly home w.disk) : c.Orderly home (c.cleared home w).disk := by
  have hhand : c.AtHand home (c.cleared home w).disk := by
    have hclear := h.toAtHand.clear
    rwa [h.outcome_clear] at hclear
  refine ⟨hhand, fun e he => ?_, fun n hn e he => h.regular n hn e (find?_of_find?_cleared he)⟩
  exact (Disk.allows_without _ _ _ e 4).trans (h.readable e (find?_of_find?_cleared he))

/-- So is the directory with a file under a digest. -/
theorem put (h : c.Orderly home d) (data bytes : Bytes) (owner mode : Nat) :
    c.Orderly home (d.put (home ++ [entryName (keyOf data)]) ⟨.file bytes, owner, mode⟩) := by
  have hkeeps := h.entries data
  have agree := Disk.AgreeBut.put hkeeps.blocked ⟨.file bytes, owner, mode⟩
  refine ⟨h.toAtHand.put hkeeps.named hkeeps.blocked _ _ _, fun e he => ?_, fun n hn e he => ?_⟩
  · rw [agree.find home (by simp)] at he
    exact (agree.allows e 4).trans (h.readable e he)
  · rcases find?_put_entry he with ⟨rfl, rfl⟩ | hold
    · exact ⟨⟨_, rfl⟩, hkeeps.accepted⟩
    · exact h.regular n hn e hold

theorem artifactNames_cleared (w : World) : artifactNames (c.cleared home w).disk home = [] := by
  refine List.filter_eq_nil_iff.2 fun n hn hends => ?_
  obtain ⟨e, he⟩ := Disk.find?_of_mem_names hn
  rw [find?_cleared w hends] at he
  cases he

/-- Clearing once more changes nothing. -/
theorem cleared_cleared (w : World) : c.cleared home (c.cleared home w) = c.cleared home w := by
  have hmemory : (c.cleared home w).memory.filter (fun x => x.1.1 != c.id) =
      (c.cleared home w).memory := by
    simp [Cache.cleared, List.filter_filter]
  show { c.cleared home w with
    memory := (c.cleared home w).memory.filter fun x => x.1.1 != c.id
    disk := (c.cleared home w).disk.without home (artifactNames (c.cleared home w).disk home) } = _
  rw [hmemory, artifactNames_cleared]
  rfl

end Orderly

/-! ## §3 What a cache says of itself -/

/-- The words of a cache about itself. -/
def infoText (remembered kept : Nat) (directory : Path) : String :=
  ("Cache Info:" ++ "\n") ++ (s!"  Memory entries: {remembered}" ++ "\n") ++
    (s!"  Disk entries: {kept}" ++ "\n") ++ (s!"  Cache directory: {directory.text}" ++ "\n")

theorem append_infoText (out : String) (remembered kept : Nat) (directory : Path) :
    out ++ infoText remembered kept directory =
      out ++ ("Cache Info:" ++ "\n") ++ (s!"  Memory entries: {remembered}" ++ "\n") ++
        (s!"  Disk entries: {kept}" ++ "\n") ++ (s!"  Cache directory: {directory.text}" ++ "\n") := by
  have hlines : ∀ l₁ l₂ l₃ l₄ : String,
      out ++ (l₁ ++ l₂ ++ l₃ ++ l₄) = out ++ l₁ ++ l₂ ++ l₃ ++ l₄ := by
    intro l₁ l₂ l₃ l₄
    simp only [String.append_assoc]
  exact hlines _ _ _ _

theorem Orderly.outcome_info (h : c.Orderly home w.disk) :
    c.info.outcome w = (.ok ⟨⟩, { w with
      out := w.out ++ infoText (c.remembered w) (artifactNames w.disk home).length c.directory }) := by
  have hsay : ∀ line u, (Act.say line).outcome u = (.ok ⟨⟩, { u with out := u.out ++ (line ++ "\n") }) :=
    fun _ _ => rfl
  unfold Cache.info
  rw [Act.outcome_bind_of_ok (Act.outcome_get w), Act.outcome_bind_of_ok h.outcome_namesWith,
    Act.outcome_bind_of_ok (hsay _ _), Act.outcome_bind_of_ok (hsay _ _),
    Act.outcome_bind_of_ok (hsay _ _), hsay, append_infoText]

theorem ne_of_mem_cleared {x : (Nat × String) × Remembered} (hx : x ∈ (c.cleared home w).memory) :
    x.1.1 ≠ c.id := by
  simpa using (List.mem_filter.1 hx).2

theorem remembered_cleared (c : Cache) (home : Location) (w : World) :
    c.remembered (c.cleared home w) = 0 :=
  List.countP_eq_zero.2 fun x hx => by simpa using ne_of_mem_cleared hx

/-- A cache that has been cleared lacks all data. -/
theorem Orderly.lacks_cleared (h : c.Orderly home w.disk) (data : Bytes) (engine : Engine) :
    c.Lacks data engine (c.cleared home w) where
  memory r hr := by
    have hnone := lookup_clear c (keyOf data) w
    rw [h.outcome_clear] at hnone
    rw [hnone] at hr
    cases hr
  absent := by
    rw [file_eq, (h.cleared.entries data).exists?_eq,
      find?_cleared w (endsAsArtifact_entryName (keyOf data))]
    rfl

/-! ## §4 Both tiers -/

/-- A step of a cache that is alone: it puts and gets modules and is cleared, and in between nothing
happens to the disk, to what is remembered, or to what becomes of artifacts. -/
inductive Alone (c : Cache) : World → World → Prop where
  | put {w : World} (data : Bytes) (m : Compiled) (engine : Option Engine) :
      Alone c w ((c.put data m engine).outcome w).2
  | get {w : World} (data : Bytes) (engine : Engine) : Alone c w ((c.get data engine).outcome w).2
  | clear {w : World} : Alone c w (c.clear.outcome w).2
  | idle {w w' : World} (hdisk : w'.disk = w.disk) (hmemory : w'.memory = w.memory)
      (hfates : w'.fates = w.fates) : Alone c w w'

/-- The tiers of a cache belong together: whatever is remembered lies on the disk as well. -/
structure Paired (c : Cache) (home : Location) (w : World) : Prop where
  orderly : c.Orderly home w.disk
  /-- No writing fails. -/
  fates : ∀ fate ∈ w.fates, fate = .kept
  /-- Under a digest there is a file of the user's own with an artifact, or nothing. -/
  entries : ∀ data e, w.disk.find? (home ++ [entryName (keyOf data)]) = some e →
    e.owner = w.disk.user ∧ e.mode = Disk.fileMode ∧ ∃ a : Artifact, e.node = .file a.bytes
  /-- What is remembered is remembered under a digest, and there is a file under this digest. -/
  memory : ∀ x ∈ w.memory, x.1.1 = c.id →
    ∃ data, x.1.2 = keyOf data ∧ ∃ e, w.disk.find? (home ++ [entryName (keyOf data)]) = some e
  /-- No digest is remembered twice. -/
  distinct : ((w.memory.filter fun x => x.1.1 == c.id).map (·.1.2)).Nodup

theorem distinct_of_new (hnew : ∀ x ∈ w.memory, x.1.1 ≠ c.id) :
    ((w.memory.filter fun x => x.1.1 == c.id).map (·.1.2)).Nodup := by
  have hnone : w.memory.filter (fun x => x.1.1 == c.id) = [] :=
    List.filter_eq_nil_iff.2 fun x hx => by simpa using hnew x hx
  rw [hnone]
  exact List.nodup_nil

theorem allows_of_fileMode {e : Entry} (howner : e.owner = d.user) (hmode : e.mode = Disk.fileMode) :
    d.allows e 4 = true ∧ d.allows e 2 = true := by
  simp [Disk.allows, howner, hmode, Disk.fileMode]

namespace Paired

/-- The tiers are a matter of the disk, the memory and the fates alone. -/
theorem of_eq (h : c.Paired home w) (hdisk : w'.disk = w.disk) (hmemory : w'.memory = w.memory)
    (hfates : w'.fates = w.fates) : c.Paired home w' where
  orderly := hdisk ▸ h.orderly
  fates := hfates ▸ h.fates
  entries := hdisk ▸ h.entries
  memory := by
    rw [hmemory, hdisk]
    exact h.memory
  distinct := hmemory ▸ h.distinct

/-- Remembering a module for data that has a file keeps the tiers together. -/
theorem remember (h : c.Paired home w) {e : Entry}
    (hfile : w.disk.find? (home ++ [entryName (keyOf data)]) = some e) (r : Remembered) :
    c.Paired home (w.remember c (keyOf data) r) where
  orderly := h.orderly
  fates := h.fates
  entries := h.entries
  memory x hx hid := by
    rcases List.mem_cons.1 hx with rfl | hx
    · exact ⟨data, rfl, e, hfile⟩
    · exact h.memory x (List.mem_filter.1 hx).1 hid
  distinct := by
    show (((((c.id, keyOf data), r) :: w.memory.filter fun x => x.1 != (c.id, keyOf data)).filter
      fun x => x.1.1 == c.id).map (·.1.2)).Nodup
    rw [List.filter_cons, if_pos (by simp), List.map_cons, List.nodup_cons]
    constructor
    · -- what had been remembered under the digest is forgotten
      intro hmem
      obtain ⟨x, hx, hkey⟩ := List.mem_map.1 hmem
      obtain ⟨hx, hid⟩ := List.mem_filter.1 hx
      have hne := (List.mem_filter.1 hx).2
      exact absurd (Prod.ext (by simpa using hid) hkey) (by simpa using hne)
    · refine h.distinct.sublist (List.Sublist.map _ ?_)
      exact List.Sublist.filter _ List.filter_sublist

/-- Writing the artifact of a module succeeds. -/
theorem written_eq (h : c.Paired home w) (data : Bytes) (bytes : Bytes) :
    written w.disk (w.fates.head?.getD .kept) (c.file (keyOf data)).text bytes =
      (w.disk.put (home ++ [entryName (keyOf data)]) ⟨.file bytes, w.disk.user, Disk.fileMode⟩, none) := by
  have hfate : w.fates.head?.getD .kept = .kept := by
    cases hhead : w.fates.head? with
    | none => rfl
    | some fate => exact h.fates fate (List.mem_of_head? hhead)
  have hkeeps := h.orderly.entries data
  have hwrite : w.disk.write (c.file (keyOf data)).text bytes =
      .ok (w.disk.put (home ++ [entryName (keyOf data)])
        ⟨.file bytes, w.disk.user, Disk.fileMode⟩) := by
    unfold Disk.write
    rw [file_eq, hkeeps.resolve_eq]
    cases hfind : w.disk.find? (home ++ [entryName (keyOf data)]) with
    | none =>
      obtain ⟨e', hhome, -, hpass, hwrite, -⟩ := hkeeps.holds
      simp [bind, Except.bind, Disk.mayChange, hhome, hpass, hwrite]
    -- the user's own file lets itself be written, and its mode stays
    | some e =>
      obtain ⟨howner, hmode, -⟩ := h.entries data e hfind
      have hmode' : Disk.writtenMode Disk.fileMode = Disk.fileMode := by decide
      simp [bind, Except.bind, hkeeps.blocked.not_directory hfind,
        (allows_of_fileMode howner hmode).2, howner, hmode, hmode']
  rw [hfate]
  unfold written
  rw [hwrite]

/-- A file under a digest keeps the tiers together. -/
theorem put_file (h : c.Paired home w) (data : Bytes) (a : Artifact) (logger : Logger) :
    c.Paired home { w with
      disk := w.disk.put (home ++ [entryName (keyOf data)])
        ⟨.file a.bytes, w.disk.user, Disk.fileMode⟩
      fates := w.fates.tail
      logger := logger } where
  orderly := h.orderly.put data a.bytes w.disk.user Disk.fileMode
  fates fate hfate := h.fates fate (List.mem_of_mem_tail hfate)
  entries data' e he := by
    have agree := Disk.AgreeBut.put (h.orderly.entries data).blocked
      ⟨.file a.bytes, w.disk.user, Disk.fileMode⟩
    show e.owner = (w.disk.put _ _).user ∧ _
    rw [agree.user]
    rcases find?_put_entry he with ⟨-, rfl⟩ | hold
    · exact ⟨rfl, rfl, a, rfl⟩
    · exact h.entries data' e hold
  memory x hx hid := by
    obtain ⟨data', hkey, e, he⟩ := h.memory x hx hid
    refine ⟨data', hkey, ?_⟩
    -- the file of what is remembered is this one, or it is where it was
    by_cases hsame : home ++ [entryName (keyOf data')] = home ++ [entryName (keyOf data)]
    · exact ⟨_, (Disk.find?_put _ _ _ _).trans (if_pos hsame)⟩
    · exact ⟨e, (Disk.find?_put _ _ _ _).trans ((if_neg hsame).trans he)⟩
  distinct := h.distinct

/-- Putting a module keeps the tiers together. -/
theorem put (h : c.Paired home w) (data : Bytes) (m : Compiled) (engine : Option Engine) :
    c.Paired home ((c.put data m engine).outcome w).2 := by
  -- whatever memory holds at that moment, the artifact reaches the disk
  have hput : ∀ u, u.disk = w.disk → u.fates = w.fates → ∃ logger,
      (c.persist (keyOf data) m).outcome u = (.ok ⟨⟩, { u with
        disk := w.disk.put (home ++ [entryName (keyOf data)])
          ⟨.file m.artifact.bytes, w.disk.user, Disk.fileMode⟩
        fates := w.fates.tail
        logger := logger }) := by
    intro u hdisk hfates
    obtain ⟨logger, hout⟩ := c.outcome_persist (keyOf data) m u
    rw [hdisk, hfates, h.written_eq data m.artifact.bytes] at hout
    exact ⟨logger, hout⟩
  cases engine with
  | none =>
    obtain ⟨logger, hout⟩ := hput w rfl rfl
    show c.Paired home ((c.persist (keyOf data) m).outcome w).2
    rw [hout]
    exact h.put_file data m.artifact logger
  | some engine =>
    -- the module is remembered first, but to be remembered it needs its file
    obtain ⟨logger, hout⟩ := hput (w.remember c (keyOf data) ⟨engine, m⟩) rfl rfl
    rw [put_eq, Act.outcome_bind_of_ok (outcome_remember c (keyOf data) engine m w), hout]
    exact (h.put_file data m.artifact logger).remember
      ((Disk.find?_put _ _ _ _).trans (if_pos rfl)) ⟨engine, m⟩

/-- So does getting one: no file is ever dropped. -/
theorem get (h : c.Paired home w) (data : Bytes) (engine : Engine) :
    c.Paired home ((c.get data engine).outcome w).2 := by
  have hgiven := h.orderly.toAtHand.given data engine
  generalize (c.get data engine).outcome w = out, w.memory.lookup (c.id, keyOf data) = last at hgiven
  cases hgiven with
  | stored _ => exact h
  | absent _ _ => exact h
  -- what is taken up and remembered has just been read from its file
  | taken _ hfile =>
    obtain ⟨e, he⟩ : ∃ e, w.disk.find? (home ++ [entryName (keyOf data)]) = some e := by
      unfold usable? at hfile
      cases hfind : w.disk.find? (home ++ [entryName (keyOf data)]) with
      | none => simp [hfind] at hfile
      | some e => exact ⟨e, rfl⟩
    have hmade : c.Paired home { w with made := w.made + 1 } := h.of_eq rfl rfl rfl
    exact hmade.remember he _
  -- only a file that is no readable artifact is dropped, and there is none
  | dropped _ hthere hfile =>
    obtain ⟨e, he⟩ := Option.isSome_iff_exists.1 hthere
    obtain ⟨howner, hmode, a, ha⟩ := h.entries data e he
    unfold usable? at hfile
    simp [he, ha, (allows_of_fileMode howner hmode).1, Artifact.ofBytes?_bytes] at hfile

/-- Clearing leaves nothing that could be apart. -/
theorem clear (h : c.Paired home w) : c.Paired home (c.clear.outcome w).2 := by
  rw [h.orderly.outcome_clear]
  -- of the disk only names of artifacts are gone, so what is left had its entry before
  refine ⟨h.orderly.cleared, h.fates, fun data e he => ?_, fun x hx hid => ?_, ?_⟩
  · show e.owner = (w.disk.without home (artifactNames w.disk home)).user ∧ _
    rw [Disk.user_without]
    exact h.entries data e (Orderly.find?_of_find?_cleared he)
  · exact absurd hid (ne_of_mem_cleared hx)
  · exact distinct_of_new fun x hx => ne_of_mem_cleared hx

/-- A cache remembers at most as much as it keeps. -/
theorem remembered_le (h : c.Paired home w) :
    c.remembered w ≤ (artifactNames w.disk home).length := by
  have hcount : c.remembered w =
      (((w.memory.filter fun x => x.1.1 == c.id).map (·.1.2)).map entryName).length := by
    simp [remembered, List.countP_eq_length_filter]
  rw [hcount]
  -- different digests have different names, and each of these names has a file
  refine (List.subperm_of_subset (h.distinct.map fun _ _ => entryName_injective) ?_).length_le
  intro n hn
  obtain ⟨key, hkey, rfl⟩ := List.mem_map.1 hn
  obtain ⟨x, hx, rfl⟩ := List.mem_map.1 hkey
  obtain ⟨hx, hid⟩ := List.mem_filter.1 hx
  obtain ⟨data, hdata, e, he⟩ := h.memory x hx (by simpa using hid)
  rw [hdata]
  exact List.mem_filter.2 ⟨Disk.mem_names_of_find? he, endsAsArtifact_entryName _⟩

/-- What is remembered has its file, with an artifact in it. -/
theorem artifact_of_lookup (h : c.Paired home w) {key : String} {r : Remembered}
    (hr : w.memory.lookup (c.id, key) = some r) :
    ∃ e a, w.disk.find? (home ++ [entryName key]) = some e ∧ e.node = .file (Artifact.bytes a) := by
  obtain ⟨before, after, hmemory, -⟩ := List.lookup_eq_some_iff.1 hr
  obtain ⟨data, hdata, e, he⟩ := h.memory ((c.id, key), r) (by simp [hmemory]) rfl
  obtain ⟨-, -, a, ha⟩ := h.entries data e he
  obtain rfl : key = keyOf data := hdata
  exact ⟨e, a, he, ha⟩

/-- At first nothing is remembered, and there is nothing in the directory. -/
theorem of_empty (horderly : c.Orderly home w.disk) (hfates : ∀ fate ∈ w.fates, fate = .kept)
    (hnew : ∀ x ∈ w.memory, x.1.1 ≠ c.id) (hempty : ∀ n, w.disk.find? (home ++ [n]) = none) :
    c.Paired home w where
  orderly := horderly
  fates := hfates
  entries data e he := by
    rw [hempty] at he
    cases he
  memory x hx hid := absurd hid (hnew x hx)
  distinct := distinct_of_new hnew

end Paired

/-- Every step of a cache that is alone keeps its tiers together. -/
theorem Alone.paired (hstep : c.Alone w w') (h : c.Paired home w) : c.Paired home w' := by
  cases hstep with
  | put data m engine => exact h.put data m engine
  | get data engine => exact h.get data engine
  | clear => exact h.clear
  | idle hdisk hmemory hfates => exact h.of_eq hdisk hmemory hfates

theorem paired_of_run (hrun : Relation.ReflTransGen c.Alone w w') (h : c.Paired home w) :
    c.Paired home w' := by
  induction hrun with
  | refl => exact h
  | tail _ hstep ih => exact hstep.paired ih

/-- Clearing a cache whose directory is orderly empties both of its tiers and nothing else: nothing that
it remembered is left and no name of an artifact, whoever has made it, but everything else in the world
is as it was. No module is given for any data until somebody stores one for it, the cache speaks of
nothing in either tier, and clearing once more changes nothing. And while a cache that starts with nothing
is alone and nothing fails to be written, whatever it remembers lies on the disk as well, so that it
never speaks of more that it remembers than of what it keeps. -/
theorem clear_empties (c : Cache) (w : World) (h : c.Orderly home w.disk) :
    (∃ w', c.clear.outcome w = (.ok ⟨⟩, w') ∧
      w' = { w with memory := w.memory.filter fun x => x.1.1 != c.id, disk := w'.disk } ∧
      (∀ key, w'.memory.lookup (c.id, key) = none) ∧
      (∀ n, EndsAsArtifact n → w'.disk.find? (home ++ [n]) = none) ∧
      (∀ p, (∀ n, EndsAsArtifact n → p ≠ home ++ [n]) → w'.disk.find? p = w.disk.find? p) ∧
      (∀ data engine u, Relation.ReflTransGen (c.Spares data) w' u →
        (c.get data engine).outcome u = (.ok none, u)) ∧
      c.info.outcome w' = (.ok ⟨⟩, { w' with out := w'.out ++ infoText 0 0 c.directory }) ∧
      c.clear.outcome w' = (.ok ⟨⟩, w')) ∧
    ((∀ n, w.disk.find? (home ++ [n]) = none) → (∀ x ∈ w.memory, x.1.1 ≠ c.id) →
      (∀ fate ∈ w.fates, fate = .kept) → ∀ u, Relation.ReflTransGen c.Alone w u →
        (∀ key r, u.memory.lookup (c.id, key) = some r →
          ∃ e a, u.disk.find? (home ++ [entryName key]) = some e ∧
            e.node = .file (Artifact.bytes a)) ∧
        c.remembered u ≤ (artifactNames u.disk home).length ∧
        c.info.outcome u = (.ok ⟨⟩, { u with
          out := u.out ++
            infoText (c.remembered u) (artifactNames u.disk home).length c.directory })) := by
  have hclear := h.outcome_clear
  have hinfo := h.cleared.outcome_info
  have hagain := h.cleared.outcome_clear
  rw [remembered_cleared, Orderly.artifactNames_cleared] at hinfo
  rw [Orderly.cleared_cleared] at hagain
  refine ⟨⟨c.cleared home w, hclear, rfl, fun key => ?_, fun n hn => Orderly.find?_cleared w hn,
    fun p hp => Orderly.find?_cleared_of_ne w hp, fun data engine u hrun => ?_, hinfo, hagain⟩,
    fun hempty hnew hfates u hrun => ?_⟩
  · have hnone := lookup_clear c key w
    rwa [hclear] at hnone
  · -- after clearing, the cache lacks the data, and nobody has stored a module for it since
    exact (lacks_of_run hrun (h.lacks_cleared data engine)).get
  · -- an empty directory and an empty memory belong together, and so do whatever they become
    have hpaired := paired_of_run hrun (Paired.of_empty h hfates hnew hempty)
    exact ⟨fun key r hr => hpaired.artifact_of_lookup hr, hpaired.remembered_le,
      hpaired.orderly.outcome_info⟩

/-- A world in which the first cache has been opened, and nothing else has happened. -/
def vacant : World :=
  { World.start [] with disk := Bundle.diskOpened, made := 2, sharedCache := some first }

theorem orderly_vacant : first.Orderly CacheScope.bundled.home vacant.disk where
  entries := CacheScope.keeps_diskOpened
  artifacts n _ e he := by
    cases (CacheScope.find?_diskOpened n).symm.trans he
  readable e _ := by
    have huser : vacant.disk.user = 0 := by decide +kernel
    simp [Disk.allows, huser]
  regular n _ e he := by
    cases (CacheScope.find?_diskOpened n).symm.trans he

/-- A module is put, and its artifact is kept; then the cache is cleared, and the module is gone. -/
theorem clear_empties_fib : ∃ a, Artifact.ofData? Bundle.fibBinary = some a ∧
    ∃ u, u = ((first.put Bundle.fibBinary ⟨1, Engine.shared, a⟩ (some Engine.shared)).outcome vacant).2 ∧
      first.Orderly CacheScope.bundled.home vacant.disk ∧
      first.remembered u ≤ (artifactNames u.disk CacheScope.bundled.home).length ∧
      first.Orderly CacheScope.bundled.home u.disk ∧
      ∃ w', first.clear.outcome u = (.ok ⟨⟩, w') ∧
        (first.get Bundle.fibBinary Engine.shared).outcome w' = (.ok none, w') := by
  obtain ⟨a, ha, -⟩ := Fibonacci.holds_fib
  have hnew : ∀ x ∈ vacant.memory, x.1.1 ≠ first.id := fun x hx => by cases hx
  have hfates : ∀ fate ∈ vacant.fates, fate = .kept := fun fate hfate => by cases hfate
  have hput := (Paired.of_empty orderly_vacant hfates hnew CacheScope.find?_diskOpened).put
    Bundle.fibBinary ⟨1, Engine.shared, a⟩ (some Engine.shared)
  obtain ⟨-, hruns⟩ := clear_empties first vacant orderly_vacant
  obtain ⟨-, hcount, -⟩ := hruns CacheScope.find?_diskOpened hnew hfates _
    (.single (.put Bundle.fibBinary ⟨1, Engine.shared, a⟩ (some Engine.shared)))
  obtain ⟨⟨w', hclear, -, -, -, -, hget, -⟩, -⟩ := clear_empties first _ hput.orderly
  exact ⟨a, ha, _, rfl, orderly_vacant, hcount, hput.orderly, w', hclear, hget _ _ _ .refl⟩

end Cache

/-! ## §5 A directory under a long name -/

namespace Bundle

/-- A name of so many characters. It stays closed, so that nobody spells it out to compare it. -/
@[irreducible]
def longName (k : Nat) : String := String.ofList (List.replicate k 'n')

theorem not_mem_longName {x : Char} (hx : x ≠ 'n') (k : Nat) : x ∉ (longName k).toList := by
  rw [longName, String.toList_ofList]
  exact fun h => hx (List.eq_of_mem_replicate h)

theorem utf8ByteSize_longName (k : Nat) : (longName k).utf8ByteSize = k := by
  have hplain : ∀ c ∈ List.replicate k 'n', Text.isPlainChar c = true := by
    intro c hc
    rw [List.eq_of_mem_replicate hc]
    decide
  rw [longName, Text.utf8ByteSize_ofList hplain, List.length_replicate]

/-- The name of a link from the current directory to itself, almost as long as names can be. -/
def windingName : String := longName 254

theorem utf8ByteSize_windingName : windingName.utf8ByteSize = 254 := utf8ByteSize_longName 254

theorem not_mem_windingName {x : Char} (hx : x ≠ 'n') : x ∉ windingName.toList :=
  not_mem_longName hx 254

theorem isEntryName_windingName : Disk.isEntryName windingName = true := by
  have hsize := utf8ByteSize_windingName
  -- shorter names are other names, without a look at the letters
  have hother : ∀ s : String, s.utf8ByteSize < 254 → windingName ≠ s := by
    rintro s hs rfl
    omega
  have hpart : Storage.isPart windingName = true :=
    Storage.isPart_iff.2 ⟨hother _ (by decide), hother _ (by decide), not_mem_windingName (by decide)⟩
  have habove : windingName ≠ Route.above := hother _ (by decide)
  simp [Disk.isEntryName, hpart, habove, hsize, Disk.stepLimit]

/-- The current directory, by so many links to itself that the path is almost as long as paths can be. -/
def windingWay : Path where
  root := .relative
  parts := List.replicate 16 windingName
  clean s hs := by
    rw [List.eq_of_mem_replicate hs]
    exact (Disk.Holds.isPart_of_isEntryName isEntryName_windingName).1

theorem windingWay_parts_ne : windingWay.parts ≠ [] := by
  simp [windingWay]

theorem utf8ByteSize_windingWay : windingWay.text.utf8ByteSize = 4079 := by
  have hsize := Storage.utf8ByteSize_intercalate_replicate windingName 15
  have hroot : windingWay.root.text.utf8ByteSize = 0 := by decide
  have hparts : windingWay.parts = List.replicate (15 + 1) windingName := rfl
  rw [utf8ByteSize_windingName] at hsize
  rw [Path.text_of_ne_nil windingWay_parts_ne, String.utf8ByteSize_append, hroot, hparts]
  omega

theorem holdsNull_windingWay : Disk.holdsNull windingWay.text = false := by
  have hparts : '\x00' ∉ ("/".intercalate windingWay.parts).toList :=
    Storage.not_mem_intercalate (by decide) fun s hs => by
      rw [List.eq_of_mem_replicate hs]
      exact not_mem_windingName (by decide)
  rw [Path.text_of_ne_nil windingWay_parts_ne]
  simpa [Disk.holdsNull, windingWay, Storage.Root.text] using hparts

/-- The directory that is set for artifacts, by the same way. -/
def windingPath : Path := windingWay.child "cache"

theorem text_windingPath : windingPath.text = windingWay.text ++ "/" ++ "cache" :=
  Path.text_child windingWay_parts_ne (by decide)

theorem parts_windingPath : windingPath.parts = windingWay.parts ++ ["cache"] :=
  Path.parts_child _ (by decide)

theorem utf8ByteSize_windingPath : windingPath.text.utf8ByteSize = 4085 := by
  rw [text_windingPath, String.utf8ByteSize_append, String.utf8ByteSize_append, utf8ByteSize_windingWay]
  rfl

theorem holdsNull_windingPath : Disk.holdsNull windingPath.text = false := by
  have hway := holdsNull_windingWay
  simp only [Disk.holdsNull, List.contains_eq_mem, decide_eq_false_iff_not] at hway
  simp [Disk.holdsNull, text_windingPath, hway]

theorem checkName_windingPath : Disk.checkName windingPath.text = .ok () := by
  have hsize := utf8ByteSize_windingPath
  refine Disk.checkName_eq_ok_iff.2 ⟨holdsNull_windingPath, fun hempty => ?_, ?_⟩
  · rw [hempty] at hsize
    cases hsize
  · rw [hsize, Disk.nameLimit]
    omega

end Bundle

/-- A world with such a link, after the directory for artifacts has been made. -/
def World.winding : World :=
  { World.start [] with
    disk := Bundle.diskOpened.put (Bundle.workplace ++ [Bundle.windingName])
      ⟨.link Route.here, 0, Disk.linkMode⟩ }

namespace World

theorem disk_winding : winding.disk = Bundle.diskOpened.put (Bundle.workplace ++ [Bundle.windingName])
    ⟨.link Route.here, 0, Disk.linkMode⟩ := rfl

theorem memory_winding : winding.memory = [] := rfl

theorem user_winding : winding.disk.user = 0 := by
  have hopened : Bundle.diskOpened.user = 0 := by decide +kernel
  rw [disk_winding, Disk.put]
  split <;> exact hopened

theorem current_winding : winding.disk.current = Bundle.workplace := by
  have hopened : Bundle.diskOpened.current = Bundle.workplace := by decide +kernel
  rw [disk_winding, Disk.put]
  split <;> exact hopened

theorem allows_winding (e : Entry) (bit : Nat) : winding.disk.allows e bit = true := by
  simp [Disk.allows, user_winding]

theorem entryAt_winding : winding.disk.EntryAt Bundle.windingWay "cache" Bundle.workplace
    ⟨.directory, 0, Cache.directoryMode⟩ := by
  have hpart : Storage.isPart "cache" = true := by decide
  have hwork : winding.disk.find? Bundle.workplace = some ⟨.directory, 0, 0o700⟩ := by
    rw [disk_winding, Disk.find?_put, if_neg (by simp)]
    decide +kernel
  have hlink : winding.disk.find? (Bundle.workplace ++ [Bundle.windingName]) =
      some ⟨.link Route.here, 0, Disk.linkMode⟩ := by
    rw [disk_winding, Disk.find?_put, if_pos rfl]
  have hother : Bundle.workplace ++ ["cache"] ≠ Bundle.workplace ++ [Bundle.windingName] := by
    intro hsame
    have hsize := Bundle.utf8ByteSize_windingName
    rw [← show "cache" = Bundle.windingName by simpa using hsame] at hsize
    cases hsize
  have hentry : winding.disk.find? (Bundle.workplace ++ ["cache"]) =
      some ⟨.directory, 0, Cache.directoryMode⟩ := by
    rw [disk_winding, Disk.find?_put, if_neg hother]
    decide +kernel
  -- sixteen links in a row are not too many
  have hwalk := Disk.walk_replicate hwork rfl (allows_winding _ 1) Bundle.isEntryName_windingName hlink
    (show 16 ≤ Disk.linkLimit by decide)
  have hway : winding.disk.resolve .follow Bundle.windingWay.text =
      .ok (.found Bundle.workplace ⟨.directory, 0, 0o700⟩) := by
    refine Disk.resolve_of_walk_parts (Disk.checkName_of_child hpart Bundle.checkName_windingPath) ?_
      rfl (allows_winding _ 1)
    rw [current_winding]
    exact hwalk
  exact ⟨⟨by decide, Bundle.checkName_windingPath, _, hway, rfl, allows_winding _ 1⟩, hentry⟩

theorem resolve_winding : winding.disk.resolve .follow Bundle.windingPath.text =
    .ok (.found CacheScope.bundled.home ⟨.directory, 0, Cache.directoryMode⟩) :=
  entryAt_winding.resolve_of_not_link fun target hlink => by cases hlink

theorem artifactNames_winding : Cache.artifactNames winding.disk CacheScope.bundled.home = [] := by
  refine List.filter_eq_nil_iff.2 fun n hn => ?_
  obtain ⟨e, hfind⟩ := Disk.find?_of_mem_names hn
  -- the link lies beside the directory, not in it
  rw [disk_winding, Disk.find?_put, if_neg (by simp [CacheScope.bundled, Bundle.workplace]),
    CacheScope.find?_diskOpened] at hfind
  cases hfind

end World

/-- If the path of a directory is almost too long, the system refuses the paths of all artifacts in it. -/
theorem Cache.obstructs_of_long {c : Cache} (hne : c.directory.parts ≠ [])
    (hnull : Disk.holdsNull c.directory.text = false)
    (hlong : c.directory.text.utf8ByteSize + 71 > Disk.nameLimit) (data : Wasm.Bytes) (d : Disk) :
    c.Obstructs (keyOf data) d (.os .nameTooLong (c.file (keyOf data)).text) := by
  have hcheck := checkName_child_entryName_eq hne hnull data
  rw [if_pos hlong] at hcheck
  exact .hidden rfl (Disk.status_of_resolve_error (Disk.resolve_of_checkName_error hcheck d .follow))

/-- There a cache is opened and cleared, and then getting a module fails all the same. -/
theorem Cache.get_winding : ∃ c w₁ w₂,
    (Cache.openAt Bundle.windingPath).outcome World.winding = (.ok c, w₁) ∧
      c.clear.outcome w₁ = (.ok ⟨⟩, w₂) ∧
      ((c.get Bundle.fibBinary Engine.shared).outcome w₂).1 =
        .error (.disk (.os .nameTooLong (c.file (keyOf Bundle.fibBinary)).text)) := by
  have hdots : Route.above ∉ Bundle.windingPath.parts := by
    rw [Bundle.parts_windingPath, List.mem_append, not_or]
    have habove := (Disk.Holds.isPart_of_isEntryName Bundle.isEntryName_windingName).2.2.2.1
    exact ⟨fun h => habove (List.eq_of_mem_replicate h).symm, by decide⟩
  have hopen := Cache.outcome_openAt_of_status hdots
    (Disk.status_eq_ok_iff.2 ⟨_, World.resolve_winding⟩) rfl
  rw [World.user_winding, if_pos (by decide)] at hopen
  have hholds : World.winding.disk.Holds Bundle.windingPath CacheScope.bundled.home :=
    ⟨_, World.entryAt_winding.entry, rfl, World.allows_winding _ 1, World.allows_winding _ 2,
      World.resolve_winding⟩
  have hclear : ∀ w, w.disk = World.winding.disk →
      (Cache.mk World.winding.made Bundle.windingPath).clear.outcome w =
        (.ok ⟨⟩, Cache.cleared ⟨World.winding.made, Bundle.windingPath⟩ CacheScope.bundled.home w) := by
    intro w hw
    refine Cache.outcome_clear_of_keeps (hw ▸ hholds) (fun e _ => hw ▸ World.allows_winding e 4) ?_
    rw [hw, World.artifactNames_winding]
    simp
  have hlong : Bundle.windingPath.text.utf8ByteSize + 71 > Disk.nameLimit := by
    rw [Bundle.utf8ByteSize_windingPath, Disk.nameLimit]
    omega
  refine ⟨_, _, _, hopen, hclear _ rfl, ?_⟩
  generalize hw : Cache.cleared _ _ _ = w
  have hmemory : w.memory = [] := by
    rw [← hw]
    simp [Cache.cleared, World.memory_winding]
  have hobstructs := Cache.obstructs_of_long (c := ⟨World.winding.made, Bundle.windingPath⟩)
    (by simp [Bundle.parts_windingPath]) Bundle.holdsNull_windingPath hlong Bundle.fibBinary w.disk
  rw [Cache.outcome_get_of_not_remembered (by simp [hmemory])]
  exact hobstructs.outcome_takeUp Engine.shared

end WasmGauge
