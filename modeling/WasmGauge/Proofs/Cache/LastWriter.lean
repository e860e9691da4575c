import Mathlib.Logic.Relation
import WasmGauge.Proofs.Cache.Beginning
import WasmGauge.Proofs.Fibonacci.Modules

/-!
# The last writer

A cache is used: modules are put into it and got from it, it is cleared, and in between anything may
happen to the files in its directory. What it then has for some data is told by its history and by one
file: the module that has been stored last under the digest, if it belongs to the engine that asks, and
otherwise what that engine makes of the file.

The proof keeps one invariant of uses: memory holds what the history says was stored last, and the
directory is still at hand. It is carried over every step by what the operations of the cache do to one
key and to one place.

## Main statements

- `Cache.Use.tracks_of_run`: after any use, memory holds what was stored last.
- `Cache.last_writer`: what a cache gives after any use, and what getting and putting leave alone.
-/

namespace WasmGauge

open Storage (Path Disk DiskFault Location)
open Wasm (Bytes)

namespace Cache

variable {c : Cache} {home : Location} {d d' : Disk} {w : World} {data : Bytes} {key : String}

/-! ## §1 A directory at hand -/

def EndsAsArtifact (n : String) : Prop := suffix.toList.isSuffixOf n.toList = true

/-- The directory of a cache is at hand: the user may make and remove things in it, the entry for any
data is a file or free, and nothing that ends as an artifact is a link. -/
structure AtHand (c : Cache) (home : Location) (d : Disk) : Prop where
  entries : ∀ data, d.Keeps c.directory home (entryName (keyOf data))
  /-- Everything that is cleared away. -/
  artifacts : ∀ n, EndsAsArtifact n → ∀ e, d.find? (home ++ [n]) = some e →
    Disk.isEntryName n = true ∧ ∀ target, e.node ≠ .link target

namespace AtHand

/-- A change at the place of one name, after which there is a file or nothing, keeps the directory at
hand. -/
theorem carry (h : c.AtHand home d) {n : String} (hn : Disk.isEntryName n = true)
    (agree : d.AgreeBut d' (home ++ [n])) (hblocked : d'.Blocked (home ++ [n])) :
    c.AtHand home d' where
  entries data := by
    have hkeeps := h.entries data
    -- the changed place is the entry for the data, or another place
    by_cases hsame : entryName (keyOf data) = n
    · exact ⟨hkeeps.holds.carry agree, hkeeps.named, hkeeps.accepted, hsame ▸ hblocked⟩
    · exact hkeeps.carry agree (by simpa using hsame)
  artifacts n' hends e he := by
    by_cases hsame : n' = n
    · obtain ⟨bytes, hbytes⟩ := hblocked e (hsame ▸ he)
      exact ⟨hsame ▸ hn, fun target hlink => by simp [hbytes] at hlink⟩
    · rw [agree.find (home ++ [n']) (by simpa using hsame)] at he
      exact h.artifacts n' hends e he

theorem erase (h : c.AtHand home d) {n : String} (hn : Disk.isEntryName n = true)
    (hblocked : d.Blocked (home ++ [n])) : c.AtHand home (d.erase (home ++ [n])) := by
  refine h.carry hn (Disk.AgreeBut.erase hblocked) ?_
  intro e he
  simp [Disk.find?_erase] at he

theorem put (h : c.AtHand home d) {n : String} (hn : Disk.isEntryName n = true)
    (hblocked : d.Blocked (home ++ [n])) (bytes : Bytes) (owner mode : Nat) :
    c.AtHand home (d.put (home ++ [n]) ⟨.file bytes, owner, mode⟩) := by
  refine h.carry hn (Disk.AgreeBut.put hblocked _) ?_
  intro e he
  rw [Disk.find?_put, if_pos rfl, Option.some.injEq] at he
  exact ⟨bytes, he ▸ rfl⟩

/-- What fates make of an entry keeps the directory at hand, and touches nothing else. -/
theorem written (h : c.AtHand home d) (data : Bytes) (fate : Fate) (bytes : Bytes) :
    c.AtHand home (Cache.written d fate (c.file (keyOf data)).text bytes).1 ∧
      ∀ p, p ≠ home ++ [entryName (keyOf data)] →
        (Cache.written d fate (c.file (keyOf data)).text bytes).1.find? p = d.find? p := by
  have hkeeps := h.entries data
  rcases written_cases hkeeps fate bytes with hsame | ⟨owner, mode, left, hput, -⟩
  · rw [hsame]
    exact ⟨h, fun _ _ => rfl⟩
  · rw [hput]
    refine ⟨h.put hkeeps.named hkeeps.blocked left owner mode, fun p hp => ?_⟩
    rw [Disk.find?_put, if_neg hp]

/-- Removing what ends as an artifact keeps the directory at hand. -/
theorem unlinkIfThere (h : c.AtHand home d) {n : String} (hends : EndsAsArtifact n)
    (hn : Disk.isEntryName n = true) (hd' : d.unlinkIfThere (c.directory.child n).text = .ok d') :
    c.AtHand home d' := by
  have hkeeps := h.entries []
  rcases hkeeps.holds.unlinkIfThere_cases hn hkeeps.blocked (by simp) hd' with
    rfl | ⟨e, hfind, hdir, rfl⟩
  · exact h
  · -- neither a directory nor a link, so it is a file, and no way leads through it
    refine h.erase hn fun e' he' => ?_
    obtain rfl : e = e' := Option.some.inj (hfind.symm.trans he')
    have hlink := (h.artifacts n hends e hfind).2
    unfold Storage.Entry.isDirectory at hdir
    cases hnode : e.node with
    | file bytes => exact ⟨bytes, rfl⟩
    | directory => simp [hnode] at hdir
    | link target => exact absurd hnode (hlink target)

/-- Clearing a cache keeps its directory at hand, whether it fails or not. -/
theorem clear (h : c.AtHand home w.disk) : c.AtHand home (c.clear.outcome w).2.disk := by
  have hforget : c.forgetAll.outcome w =
      (.ok ⟨⟩, { w with memory := w.memory.filter fun x => x.1.1 != c.id }) := rfl
  obtain ⟨e, -, hnames⟩ := outcome_namesWith (w := { w with
    memory := w.memory.filter fun x => x.1.1 != c.id }) suffix (h.entries []).holds
  unfold Cache.clear
  rw [Act.outcome_bind_of_ok hforget, Act.outcome_bind_of_ok hnames]
  refine Act.Preserves.forM_of_mem (P := fun u => c.AtHand home u.disk) (fun n hn => ?_) _ h
  obtain ⟨hn, hends⟩ := List.mem_filter.1 hn
  -- what is listed is there, and so has a name that an entry can have
  have hnamed : Disk.isEntryName n = true := by
    split at hn
    · obtain ⟨e, he⟩ := Disk.find?_of_mem_names hn
      exact (h.artifacts n hends e he).1
    · cases hn
  exact Act.Preserves.change fun u d' hd' hu => hu.unlinkIfThere hends hnamed hd'

end AtHand

/-! ## §2 The file of an entry -/

/-- The artifact that can be taken up from a place: there is a file, the user may read it, and it holds
one. -/
def usable? (d : Disk) (place : Location) : Option Artifact :=
  match d.find? place with
  | none => none
  | some e =>
    match e.node with
    | .file bytes => if d.allows e 4 then Artifact.ofBytes? bytes else none
    | _ => none

theorem artifactAt_eq (h : d.Keeps c.directory home (entryName key)) :
    (artifactAt d (c.file key)).toOption = usable? d (home ++ [entryName key]) := by
  unfold artifactAt usable? Disk.read Disk.status
  rw [file_eq, h.resolve_eq]
  cases hfind : d.find? (home ++ [entryName key]) with
  | none => rfl
  -- a place that is kept holds a file, so the permission to read decides
  | some e =>
    obtain ⟨bytes, hbytes⟩ := h.blocked e hfind
    simp only [bind, Except.bind, hbytes]
    cases d.allows e 4 with
    | false => rfl
    | true =>
      simp only [Bool.not_true, Bool.false_eq_true, if_true, if_false]
      cases Artifact.ofBytes? bytes <;> rfl

theorem outcome_takeUp_of_absent (engine : Engine)
    (h : w.disk.Keeps c.directory home (entryName key))
    (hnone : w.disk.find? (home ++ [entryName key]) = none) :
    (c.takeUp key engine).outcome w = (.ok none, w) := by
  have hsee : (Act.see (·.exists? (c.file key).text)).outcome w = (.ok false, w) := by
    rw [Act.outcome_see, file_eq, h.exists?_eq, hnone]
    rfl
  unfold takeUp
  rw [Act.outcome_bind_of_ok hsee]
  rfl

/-- A usable file is taken up as a new module, which is remembered. -/
theorem outcome_takeUp_of_usable (engine : Engine)
    (h : w.disk.Keeps c.directory home (entryName key)) {a : Artifact}
    (ha : usable? w.disk (home ++ [entryName key]) = some a) :
    (c.takeUp key engine).outcome w =
      (.ok (some ⟨w.made, engine, a⟩),
        { w with made := w.made + 1 }.remember c key ⟨engine, ⟨w.made, engine, a⟩⟩) := by
  have hat := (artifactAt_eq h).trans ha
  cases hread : artifactAt w.disk (c.file key) with
  | error reason =>
    rw [hread] at hat
    cases hat
  | ok a' =>
    rw [hread] at hat
    cases hat
    exact outcome_takeUp_of_ok h hread

theorem outcome_takeUp_of_unusable (engine : Engine)
    (h : w.disk.Keeps c.directory home (entryName key))
    (ha : usable? w.disk (home ++ [entryName key]) = none) :
    ∃ logger, (c.takeUp key engine).outcome w =
      (.ok none,
        { w with disk := w.disk.erase (home ++ [entryName key]), logger := logger }) := by
  have hat := (artifactAt_eq h).trans ha
  cases hread : artifactAt w.disk (c.file key) with
  | error reason => exact outcome_takeUp_of_error engine h hread
  | ok a =>
    rw [hread] at hat
    cases hat

/-! ## §3 Histories -/

/-- What has been done with a cache. -/
inductive Deed where
  /-- A module has been put for data, and for an engine if one is given. -/
  | put (data : Bytes) (m : Compiled) (engine : Option Engine)
  /-- The module for data has been asked for, with this result. -/
  | get (data : Bytes) (engine : Engine) (result : Except Failure (Option Compiled))
  /-- The cache has been cleared. -/
  | clear

/-- What is stored under a key after a deed. A module that is put is stored for its engine, if it has
one. So is a module that is given, unless it is the stored one: it comes from the disk. -/
def Deed.store (key : String) (last : Option Remembered) : Deed → Option Remembered
  | .put data m (some engine) => if keyOf data = key then some ⟨engine, m⟩ else last
  -- without an engine only the artifact is written
  | .put _ _ none => last
  | .get data engine (.ok (some m)) =>
    if keyOf data = key ∧ ¬ (last.any fun r => r.engine = engine) = true then some ⟨engine, m⟩
    else last
  | .get _ _ _ => last
  | .clear => none

/-- What has been stored last under a key since the cache was cleared. -/
def lastStored (history : List Deed) (key : String) : Option Remembered :=
  history.foldl (Deed.store key) none

theorem lastStored_concat (history : List Deed) (deed : Deed) (key : String) :
    lastStored (history ++ [deed]) key = deed.store key (lastStored history key) := by
  simp [lastStored]

/-- A cache in use: the world, and what has been done so far. -/
structure Use where
  world : World
  /-- What has been done, the first deed in front. -/
  history : List Deed

namespace Use

/-- One step of a use. Only modules that there are can be put. From outside, anything may happen save
that the cache is told what to remember, as long as the directory stays at hand. -/
inductive Step (c : Cache) (home : Location) : Use → Use → Prop where
  | put {σ : Use} (data : Bytes) (m : Compiled) (engine : Option Engine) (hm : m.id < σ.world.made) :
      Step c home σ ⟨((c.put data m engine).outcome σ.world).2, σ.history ++ [.put data m engine]⟩
  | get {σ : Use} (data : Bytes) (engine : Engine) :
      Step c home σ ⟨((c.get data engine).outcome σ.world).2,
        σ.history ++ [.get data engine ((c.get data engine).outcome σ.world).1]⟩
  | clear {σ : Use} : Step c home σ ⟨(c.clear.outcome σ.world).2, σ.history ++ [.clear]⟩
  | outside {σ : Use} {w' : World}
      (hmemory : ∀ key, w'.memory.lookup (c.id, key) = σ.world.memory.lookup (c.id, key))
      (hmade : σ.world.made ≤ w'.made) (hdisk : c.AtHand home w'.disk) :
      Step c home σ ⟨w', σ.history⟩

def Run (c : Cache) (home : Location) : Use → Use → Prop := Relation.ReflTransGen (Step c home)

/-- The invariant of uses. -/
structure Tracks (c : Cache) (home : Location) (σ : Use) : Prop where
  /-- Memory holds what has been stored last. -/
  memory : ∀ key, σ.world.memory.lookup (c.id, key) = lastStored σ.history key
  /-- What has been stored has been made before. -/
  made : ∀ key r, lastStored σ.history key = some r → r.compiled.id < σ.world.made
  /-- The directory is at hand. -/
  disk : c.AtHand home σ.world.disk

end Use

/-! ## §4 What the operations do -/

/-- What becomes of a world when a cache gets or puts the module for data: at most one key of the cache
and one place of the disk are touched. -/
structure Touches (c : Cache) (home : Location) (data : Bytes) (w w' : World) : Prop where
  /-- Other keys, and other caches, remember what they did. -/
  memory : ∀ k, k ≠ (c.id, keyOf data) → w'.memory.lookup k = w.memory.lookup k
  /-- Other places are as they were. -/
  places : ∀ p, p ≠ home ++ [entryName (keyOf data)] → w'.disk.find? p = w.disk.find? p
  /-- Numbers are never given twice. -/
  made : w.made ≤ w'.made
  /-- The directory is still at hand. -/
  disk : c.AtHand home w'.disk

theorem Touches.trans {u v : World} (h : c.Touches home data u v) (h' : c.Touches home data v w) :
    c.Touches home data u w where
  memory k hk := (h'.memory k hk).trans (h.memory k hk)
  places p hp := (h'.places p hp).trans (h.places p hp)
  made := Nat.le_trans h.made h'.made
  disk := h'.disk

theorem AtHand.touches_remember (h : c.AtHand home w.disk) (data : Bytes) (r : Remembered) :
    c.Touches home data w (w.remember c (keyOf data) r) where
  memory k hk := by rw [lookup_remember, if_neg hk]
  places _ _ := rfl
  made := Nat.le_refl _
  disk := h

theorem AtHand.touches_persist (h : c.AtHand home w.disk) (data : Bytes) (m : Compiled) :
    ∃ w', (c.persist (keyOf data) m).outcome w = (.ok ⟨⟩, w') ∧ c.Touches home data w w' ∧
      w'.memory = w.memory := by
  obtain ⟨logger, hout⟩ := outcome_persist c (keyOf data) m w
  obtain ⟨hdisk, hplaces⟩ := h.written data (w.fates.head?.getD .kept) m.artifact.bytes
  exact ⟨_, hout, ⟨fun _ _ => rfl, hplaces, Nat.le_refl _, hdisk⟩, rfl⟩

/-- Putting a module never fails. It is remembered if it belongs to an engine, whatever becomes of its
artifact. -/
theorem AtHand.outcome_put (h : c.AtHand home w.disk) (data : Bytes) (m : Compiled)
    (engine : Option Engine) :
    ∃ w', (c.put data m engine).outcome w = (.ok ⟨⟩, w') ∧ c.Touches home data w w' ∧
      w'.memory.lookup (c.id, keyOf data) =
        Deed.store (keyOf data) (w.memory.lookup (c.id, keyOf data)) (.put data m engine) := by
  cases engine with
  | none =>
    obtain ⟨w', hout, htouches, hmemory⟩ := h.touches_persist data m
    exact ⟨w', hout, htouches, by rw [hmemory]; rfl⟩
  | some e =>
    -- remembering comes first, and leaves the disk alone
    have hremember := h.touches_remember data ⟨e, m⟩
    obtain ⟨w', hout, htouches, hmemory⟩ := hremember.disk.touches_persist data m
    refine ⟨w', (Act.outcome_bind_of_ok (outcome_remember c (keyOf data) e m w)).trans hout,
      hremember.trans htouches, ?_⟩
    rw [hmemory, lookup_remember, if_pos rfl, Deed.store, if_pos rfl]

/-- What getting a module comes to, given what is stored last. -/
inductive Given (c : Cache) (home : Location) (data : Bytes) (engine : Engine) (w : World) :
    Option Remembered → Except Failure (Option Compiled) × World → Prop where
  /-- The stored module belongs to the engine. It is given itself, and nothing happens. -/
  | stored {r : Remembered} (hengine : r.engine = engine) :
      Given c home data engine w (some r) (.ok (some r.compiled), w)
  /-- Nothing is stored for the engine, and there is no file. Nothing happens. -/
  | absent {last : Option Remembered} (hlast : ∀ r, last = some r → r.engine ≠ engine)
      (hfile : w.disk.find? (home ++ [entryName (keyOf data)]) = none) :
      Given c home data engine w last (.ok none, w)
  /-- Nothing is stored for the engine, and the file is usable. A new module is made of it. -/
  | taken {last : Option Remembered} {a : Artifact} (hlast : ∀ r, last = some r → r.engine ≠ engine)
      (hfile : usable? w.disk (home ++ [entryName (keyOf data)]) = some a) :
      Given c home data engine w last
        (.ok (some ⟨w.made, engine, a⟩),
          { w with made := w.made + 1 }.remember c (keyOf data) ⟨engine, ⟨w.made, engine, a⟩⟩)
  /-- Nothing is stored for the engine, and the file is not usable. It is removed. -/
  | dropped {last : Option Remembered} {logger : Logger}
      (hlast : ∀ r, last = some r → r.engine ≠ engine)
      (hthere : (w.disk.find? (home ++ [entryName (keyOf data)])).isSome)
      (hfile : usable? w.disk (home ++ [entryName (keyOf data)]) = none) :
      Given c home data engine w last
        (.ok none,
          { w with disk := w.disk.erase (home ++ [entryName (keyOf data)]), logger := logger })

/-- Getting a module comes to what is stored, or to what becomes of the file. -/
theorem AtHand.given (h : c.AtHand home w.disk) (data : Bytes) (engine : Engine) :
    c.Given home data engine w (w.memory.lookup (c.id, keyOf data))
      ((c.get data engine).outcome w) := by
  have hkeeps := h.entries data
  -- memory is asked first, and the disk only if memory has nothing for the engine
  by_cases hstored : ∃ r, w.memory.lookup (c.id, keyOf data) = some r ∧ r.engine = engine
  · obtain ⟨r, hr, hengine⟩ := hstored
    rw [outcome_get_of_remembered hr hengine, hr]
    exact .stored hengine
  · have hlast : ∀ r, w.memory.lookup (c.id, keyOf data) = some r → r.engine ≠ engine :=
      fun r hr hengine => hstored ⟨r, hr, hengine⟩
    rw [outcome_get_of_not_remembered hlast]
    cases hfind : w.disk.find? (home ++ [entryName (keyOf data)]) with
    | none =>
      rw [outcome_takeUp_of_absent engine hkeeps hfind]
      exact .absent hlast hfind
    | some e =>
      cases husable : usable? w.disk (home ++ [entryName (keyOf data)]) with
      | some a =>
        rw [outcome_takeUp_of_usable engine hkeeps husable]
        exact .taken hlast husable
      | none =>
        obtain ⟨logger, hout⟩ := outcome_takeUp_of_unusable engine hkeeps husable
        rw [hout]
        exact .dropped hlast (by rw [hfind]; rfl) husable

section Given

variable {engine : Engine} {last : Option Remembered} {out : Except Failure (Option Compiled) × World}

/-- Getting a module never fails and touches nothing else. What is stored afterwards is settled by
what was stored before and what has been given. -/
theorem Given.touches (h : c.AtHand home w.disk) (hgiven : c.Given home data engine w last out)
    (hlast : w.memory.lookup (c.id, keyOf data) = last) :
    (∃ result, out.1 = .ok result) ∧ c.Touches home data w out.2 ∧
      out.2.memory.lookup (c.id, keyOf data) =
        Deed.store (keyOf data) last (.get data engine out.1) := by
  have hkeeps := h.entries data
  have hsame : c.Touches home data w w := ⟨fun _ _ => rfl, fun _ _ => rfl, Nat.le_refl _, h⟩
  -- one case for each way of getting a module; only two of them touch anything at all
  cases hgiven with
  | stored hengine => exact ⟨⟨_, rfl⟩, hsame, by simp [Deed.store, hengine, hlast]⟩
  | absent _ _ => exact ⟨⟨_, rfl⟩, hsame, hlast⟩
  | @taken _ a hother _ =>
    have hmade : c.Touches home data w { w with made := w.made + 1 } :=
      ⟨fun _ _ => rfl, fun _ _ => rfl, Nat.le_succ _, h⟩
    refine ⟨⟨_, rfl⟩, hmade.trans (hmade.disk.touches_remember data _), ?_⟩
    -- what comes from the disk is stored, because nothing is for this engine
    have hnew : ¬ (last.any fun r => r.engine = engine) = true := by
      cases last with
      | none => simp
      | some r => simpa using hother r rfl
    rw [lookup_remember, if_pos rfl, Deed.store, if_pos ⟨rfl, hnew⟩]
  | dropped _ _ _ =>
    refine ⟨⟨_, rfl⟩, ⟨fun _ _ => rfl, fun p hp => ?_, Nat.le_refl _, ?_⟩, hlast⟩
    · -- only the entry itself has gone
      simp only
      rw [Disk.find?_erase, if_neg hp]
    · exact h.erase hkeeps.named hkeeps.blocked

theorem Given.made (hgiven : c.Given home data engine w last out)
    (hlast : ∀ r, last = some r → r.compiled.id < w.made) {m : Compiled}
    (hm : out.1 = .ok (some m)) : m.id < out.2.made := by
  cases hgiven with
  | stored hengine =>
    obtain rfl : _ = m := by simpa using hm
    exact hlast _ rfl
  | taken _ _ =>
    obtain rfl : _ = m := by simpa using hm
    exact Nat.lt_succ_self _
  | absent _ _ => simp at hm
  | dropped _ _ _ => simp at hm

/-- What is stored is given itself to its own engine only: to another engine, what is given has just
been made. -/
theorem Given.engine_eq {r : Remembered} (hgiven : c.Given home data engine w (some r) out)
    (hmade : r.compiled.id < w.made) (hr : out.1 = .ok (some r.compiled)) : r.engine = engine := by
  cases hgiven with
  | stored hengine => exact hengine
  | taken _ _ =>
    -- a module that has just been made has a number of its own
    have hid : w.made = r.compiled.id := by
      simp only [Except.ok.injEq, Option.some.injEq] at hr
      exact congrArg Compiled.id hr
    omega
  | absent _ _ => simp at hr
  | dropped _ _ _ => simp at hr

end Given

/-! ## §5 Uses -/

/-- What is stored under a key after a deed was stored before, or is the module of the deed. -/
theorem Deed.store_cases {last : Option Remembered} {deed : Deed} {r : Remembered}
    (h : deed.store key last = some r) :
    last = some r ∨ (∃ data, deed = .put data r.compiled (some r.engine)) ∨
      ∃ data, deed = .get data r.engine (.ok (some r.compiled)) := by
  -- a module comes to be stored by its own deed, or it stays where it is
  unfold Deed.store at h
  split at h
  · split at h
    · cases h
      exact Or.inr (Or.inl ⟨_, rfl⟩)
    · exact Or.inl h
  · exact Or.inl h
  · split at h
    · cases h
      exact Or.inr (Or.inr ⟨_, rfl⟩)
    · exact Or.inl h
  · exact Or.inl h
  · cases h

/-- Putting and getting for some data is no matter to other keys. -/
theorem Deed.store_of_ne (hkey : keyOf data ≠ key) (last : Option Remembered) :
    (∀ m engine, Deed.store key last (.put data m engine) = last) ∧
      ∀ engine result, Deed.store key last (.get data engine result) = last := by
  constructor
  · intro m engine
    cases engine <;> simp [Deed.store, hkey]
  · intro engine result
    rcases result with f | _ | m <;> simp [Deed.store, hkey]

namespace Use

variable {σ τ : Use}

/-- After a deed for some data, memory holds what is stored last. -/
theorem Tracks.memory_of_touches (h : Tracks c home σ) {w' : World} {deed : Deed}
    (htouches : c.Touches home data σ.world w')
    (hthis : w'.memory.lookup (c.id, keyOf data) =
      deed.store (keyOf data) (σ.world.memory.lookup (c.id, keyOf data)))
    (hother : ∀ key, keyOf data ≠ key → ∀ last, deed.store key last = last) (key : String) :
    w'.memory.lookup (c.id, key) = lastStored (σ.history ++ [deed]) key := by
  rw [lastStored_concat, ← h.memory key]
  -- the deed settles its own key; no other key changes, in memory or in the history
  by_cases hkey : keyOf data = key
  · rw [← hkey, hthis]
  · rw [hother key hkey]
    exact htouches.memory _ (by simpa [eq_comm] using hkey)

theorem Step.tracks (hstep : Step c home σ τ) (h : Tracks c home σ) : Tracks c home τ := by
  cases hstep with
  | put data m engine hm =>
    obtain ⟨w', hout, htouches, hthis⟩ := h.disk.outcome_put data m engine
    rw [hout]
    refine ⟨h.memory_of_touches htouches hthis fun key hkey last =>
      (Deed.store_of_ne hkey last).1 m engine, fun key r hr => ?_, htouches.disk⟩
    rw [lastStored_concat] at hr
    -- what is stored now was stored before or is the module that is put, which there is
    rcases Deed.store_cases hr with hold | ⟨_, hput⟩ | ⟨_, hget⟩
    · exact Nat.lt_of_lt_of_le (h.made key r hold) htouches.made
    · cases hput
      exact Nat.lt_of_lt_of_le hm htouches.made
    · cases hget
  | get data engine =>
    have hgiven := h.disk.given data engine
    obtain ⟨-, htouches, hthis⟩ := hgiven.touches h.disk rfl
    refine ⟨h.memory_of_touches htouches hthis fun key hkey last =>
      (Deed.store_of_ne hkey last).2 engine _, fun key r hr => ?_, htouches.disk⟩
    rw [lastStored_concat] at hr
    rcases Deed.store_cases hr with hold | ⟨_, hput⟩ | ⟨_, hget⟩
    · exact Nat.lt_of_lt_of_le (h.made key r hold) htouches.made
    · cases hput
    · -- what has been given was stored, and so made, or is new
      injection hget with _ _ hresult
      refine hgiven.made (fun r' hr' => h.made (keyOf data) r' ?_) hresult
      rw [← h.memory]
      exact hr'
  -- a cleared cache has nothing stored, and remembers nothing
  | clear =>
    refine ⟨fun key => ?_, fun key r hr => ?_, h.disk.clear⟩
    · rw [lastStored_concat]
      exact lookup_clear c key σ.world
    · rw [lastStored_concat] at hr
      cases hr
  -- from outside the three parts are what is assumed of such a step
  | outside hmemory hmade hdisk =>
    exact ⟨fun key => (hmemory key).trans (h.memory key),
      fun key r hr => Nat.lt_of_lt_of_le (h.made key r hr) hmade, hdisk⟩

/-- A use that begins with a cache that remembers nothing, and a directory at hand, is kept track
of. -/
theorem tracks_of_run (hnew : ∀ key, w.memory.lookup (c.id, key) = none)
    (hdisk : c.AtHand home w.disk) (hrun : Run c home ⟨w, []⟩ σ) : Tracks c home σ := by
  -- on the run: every step keeps up the invariant, and at first nothing is stored
  -- of the parts of the invariant the first is what is new, the second has no case
  induction hrun with
  | refl => exact ⟨hnew, fun key r hr => (by cases hr), hdisk⟩
  | tail _ hstep ih => exact hstep.tracks ih

end Use

/-- A cache is a map to the last writer, with a directory behind it. After any use of a cache that
begins with nothing remembered:

* the module that has been stored last under the digest is given itself if it was stored for the
  engine that asks, whatever the disk is like, and only then;
* otherwise the file of the entry decides: there is none, it is taken up, or it is removed;
* getting and putting never fail, and touch nothing but the one key and the one entry;
* a module that is put is stored, whatever becomes of its artifact. -/
theorem last_writer (hnew : ∀ key, w.memory.lookup (c.id, key) = none)
    (hdisk : c.AtHand home w.disk) {σ : Use} (hrun : Use.Run c home ⟨w, []⟩ σ) (data : Bytes) :
    (∀ engine r, lastStored σ.history (keyOf data) = some r →
      (r.engine = engine → ∀ d, (c.get data engine).outcome { σ.world with disk := d } =
        (.ok (some r.compiled), { σ.world with disk := d })) ∧
      (((c.get data engine).outcome σ.world).1 = .ok (some r.compiled) → r.engine = engine)) ∧
    (∀ engine, c.Given home data engine σ.world (lastStored σ.history (keyOf data))
      ((c.get data engine).outcome σ.world)) ∧
    (∀ engine, ∃ result w', (c.get data engine).outcome σ.world = (.ok result, w') ∧
      c.Touches home data σ.world w') ∧
    (∀ m engine, ∃ w', (c.put data m engine).outcome σ.world = (.ok ⟨⟩, w') ∧
      c.Touches home data σ.world w' ∧
      w'.memory.lookup (c.id, keyOf data) =
        lastStored (σ.history ++ [.put data m engine]) (keyOf data)) := by
  have htracks := Use.tracks_of_run hnew hdisk hrun
  have hmemory := htracks.memory (keyOf data)
  have hgiven : ∀ engine, c.Given home data engine σ.world (lastStored σ.history (keyOf data))
      ((c.get data engine).outcome σ.world) := by
    intro engine
    rw [← hmemory]
    exact htracks.disk.given data engine
  refine ⟨fun engine r hr => ⟨fun hengine d => ?_, fun hresult => ?_⟩, hgiven, fun engine => ?_,
    fun m engine => ?_⟩
  · exact outcome_get_of_remembered (w := { σ.world with disk := d }) (hmemory.trans hr) hengine
  · -- any other module that is given has just been made, and what is stored has been made before
    have hthis := hgiven engine
    rw [hr] at hthis
    exact hthis.engine_eq (htracks.made _ r hr) hresult
  · obtain ⟨⟨result, hresult⟩, htouches, -⟩ := (hgiven engine).touches htracks.disk hmemory
    exact ⟨result, _, Prod.ext hresult rfl, htouches⟩
  · obtain ⟨w', hout, htouches, hthis⟩ := htracks.disk.outcome_put data m engine
    refine ⟨w', hout, htouches, ?_⟩
    rw [hthis, hmemory, lastStored_concat]

/-! ## §6 The cache that is opened first -/

/-- The world in which the first cache has just been opened, where the second artifact will find no
room. -/
def opened : World :=
  { World.start [] with
    disk := Bundle.diskOpened, made := 2, sharedCache := some first
    fates := [.kept, .refused "no space left on device"] }

theorem atHand_opened : first.AtHand CacheScope.bundled.home opened.disk where
  entries := CacheScope.keeps_diskOpened
  artifacts n _ e he := by
    have hnone := CacheScope.find?_diskOpened n
    cases hnone.symm.trans he

/-- A module that there is can be put without an engine, and then for one. -/
theorem exists_run_put_put (h : c.AtHand home w.disk) (data : Bytes) {m : Compiled}
    (hm : m.id < w.made) (engine : Engine) :
    ∃ σ, Use.Run c home ⟨w, []⟩ σ ∧
      σ.history = [.put data m none] ++ [.put data m (some engine)] := by
  have hfirst : Use.Step c home ⟨w, []⟩ _ := .put data m none hm
  obtain ⟨w', hout, htouches, -⟩ := h.outcome_put data m none
  rw [hout] at hfirst
  have hsecond : Use.Step c home ⟨w', [.put data m none]⟩ _ :=
    .put data m (some engine) (Nat.lt_of_lt_of_le hm htouches.made)
  exact ⟨_, (Relation.ReflTransGen.single hfirst).tail hsecond, rfl⟩

/-- A module is put without an engine, and then for one. That engine is given the module itself, and
any other engine is not. -/
theorem last_writer_fib : ∃ a, Artifact.ofData? Bundle.fibBinary = some a ∧
    ∃ σ, Use.Run first CacheScope.bundled.home ⟨opened, []⟩ σ ∧
      σ.history =
        [.put Bundle.fibBinary ⟨1, ⟨7⟩, a⟩ none] ++ [.put Bundle.fibBinary ⟨1, ⟨7⟩, a⟩ (some ⟨7⟩)] ∧
      (∀ d, (first.get Bundle.fibBinary ⟨7⟩).outcome { σ.world with disk := d } =
        (.ok (some ⟨1, ⟨7⟩, a⟩), { σ.world with disk := d })) ∧
      ∀ n, n ≠ 7 →
        ((first.get Bundle.fibBinary ⟨n⟩).outcome σ.world).1 ≠ .ok (some ⟨1, ⟨7⟩, a⟩) := by
  obtain ⟨a, ha, -⟩ := Fibonacci.holds_fib
  obtain ⟨σ, hrun, hhistory⟩ := exists_run_put_put (m := ⟨1, ⟨7⟩, a⟩) atHand_opened
    Bundle.fibBinary (by show 1 < 2; decide) ⟨7⟩
  have hstored : lastStored σ.history (keyOf Bundle.fibBinary) = some ⟨⟨7⟩, ⟨1, ⟨7⟩, a⟩⟩ := by
    rw [hhistory, lastStored_concat, Deed.store, if_pos rfl]
  obtain ⟨hsame, -⟩ := last_writer (fun _ => rfl) atHand_opened hrun Bundle.fibBinary
  refine ⟨a, ha, σ, hrun, hhistory, (hsame ⟨7⟩ _ hstored).1 rfl, fun n hn hgot => hn ?_⟩
  have hengine := (hsame ⟨n⟩ _ hstored).2 hgot
  exact (congrArg Engine.id hengine).symm

end Cache

end WasmGauge
