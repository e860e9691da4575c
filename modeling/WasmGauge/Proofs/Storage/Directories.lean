import WasmGauge.Proofs.Storage.Walks

/-!
# Making directories

Making a directory with all directories above it adds directories of the user's own to the disk and
touches nothing that is there. For a path without `..` there are two ways in which it can succeed. Either
the path leads to a directory already, and then nothing happens at all; or it leads to nothing, and then
there is a new directory at its end, which is empty and has the permissions that were asked for. What
cannot be is that the directory comes to light only when those above it are made: they are made empty.

## Main statements

- `Disk.grows_ensureDirectory`: what making directories does to what is there.
- `Disk.ensureDirectory_cases`: the two ways to succeed.
- `Disk.ensureDirectory_of_status`: what is there need not be made.
- `Disk.exists_status_ancestor`: where a path leads to a directory, all paths above it do.
-/

namespace WasmGauge.Storage

theorem Path.child_parent {p : Path} {way : List String} {n : String} (h : p.parts = way ++ [n]) :
    p.parent.child n = p := by
  obtain ⟨root, parts, clean⟩ := p
  obtain rfl : parts = way ++ [n] := h
  obtain ⟨hrelative, hpart⟩ := ofText_of_isPart (clean n (by simp))
  simp [Path.parent, child, join, isAbsolute, hrelative, hpart]

namespace Disk

variable {d d' d₁ : Disk} {p dir : Path} {n : String} {home place : Location} {e : Entry} {mode : Nat}

/-! ## §1 Growing disks -/

/-- A second disk has everything that the first one has, as it was, and besides that only directories of
the same user. -/
structure Grows (d d' : Disk) : Prop where
  user : d'.user = d.user
  current : d'.current = d.current
  kept : ∀ q e, d.find? q = some e → d'.find? q = some e
  new : ∀ q e, d'.find? q = some e → d.find? q = none → e.node = .directory ∧ e.owner = d.user

theorem Grows.refl (d : Disk) : d.Grows d where
  user := rfl
  current := rfl
  kept _ _ h := h
  new q e h hnone := by
    rw [h] at hnone
    cases hnone

theorem Grows.trans (h : d.Grows d₁) (h' : d₁.Grows d') : d.Grows d' where
  user := h'.user.trans h.user
  current := h'.current.trans h.current
  kept q e hq := h'.kept q e (h.kept q e hq)
  new q e hq hnone := by
    cases hmid : d₁.find? q with
    | some e₁ =>
      obtain rfl : e₁ = e := Option.some.inj ((h'.kept q e₁ hmid).symm.trans hq)
      exact h.new q e₁ hmid hnone
    | none =>
      obtain ⟨hnode, howner⟩ := h'.new q e hq hmid
      exact ⟨hnode, howner.trans h.user⟩

/-- A directory at a free place makes a disk grow. -/
theorem grows_put (d : Disk) (mode : Nat) (hfree : d.find? place = none) :
    d.Grows (d.put place ⟨.directory, d.user, mode⟩) where
  user := by unfold put; split <;> rfl
  current := by unfold put; split <;> rfl
  kept q e hq := by
    rw [find?_put, if_neg fun h => by rw [← h, hq] at hfree; cases hfree]
    exact hq
  new q e hq hnone := by
    rw [find?_put] at hq
    -- what is new is the directory; all else was there before
    split at hq
    · cases hq
      exact ⟨rfl, rfl⟩
    · rw [hq] at hnone
      cases hnone

theorem grows_ensureDirectory (h : d.ensureDirectory p mode = .ok d') : d.Grows d' := by
  refine of_ensureWithin Grows.refl Grows.trans (fun hmake => ?_) h
  obtain ⟨place, _, -, hfree, rfl⟩ := eq_put_of_makeDirectory hmake
  exact grows_put _ _ hfree

/-- Whether everything on a disk but the root lies in a directory. -/
def Rooted (d : Disk) : Prop :=
  ∀ q n e, d.find? (q ++ [n]) = some e → ∃ e', d.find? q = some e' ∧ e'.isDirectory = true

theorem rooted_of_entries
    (h : ∀ x ∈ d.entries, x.1 ≠ [] → ∃ e ∈ d.find? x.1.dropLast, e.isDirectory = true) : d.Rooted := by
  intro q n e he
  obtain ⟨before, after, hentries, -⟩ := List.lookup_eq_some_iff.1 he
  obtain ⟨e', hfind, hdir⟩ := h (q ++ [n], e) (by simp [hentries]) (by simp)
  exact ⟨e', by simpa using hfind, hdir⟩

theorem Rooted.put (h : d.Rooted) (hhome : d.find? home = some e) (hdir : e.isDirectory = true)
    (hfree : d.find? (home ++ [n]) = none) (mode : Nat) :
    (d.put (home ++ [n]) ⟨.directory, d.user, mode⟩).Rooted := by
  have hgrows := d.grows_put mode hfree
  intro q m e' he'
  rw [find?_put] at he'
  -- the new entry lies in the directory it was put into, and the others where they did
  split at he'
  · next hplace =>
    obtain ⟨rfl, -⟩ := List.append_inj' hplace rfl
    exact ⟨e, hgrows.kept _ _ hhome, hdir⟩
  · obtain ⟨e'', hq, hdir''⟩ := h q m e' he'
    exact ⟨e'', hgrows.kept _ _ hq, hdir''⟩

/-! ## §2 One directory -/

/-- Where a name in a directory ends, if something can be made there. -/
theorem exists_nameIn_of_spot {place : Location} {closed : Bool} (hpart : isPart n = true)
    (habove : n ≠ Route.above) (h : d.spot (dir.child n).text = .ok (.named place closed)) :
    ∃ home, place = home ++ [n] ∧ d.NameIn dir n home := by
  obtain ⟨hclosing, hhere⟩ := step_ne_of_isPart hpart
  have hparts := dir.parts_child hpart
  have hroute : Route.ofText (dir.child n).text = ⟨dir.isAbsolute, dir.parts ++ [n]⟩ := by
    rw [Route.ofText_text (by simp [hparts]), hparts, dir.isAbsolute_child hpart]
  unfold spot at h
  cases hcheck : checkName (dir.child n).text with
  | error fault => simp [hcheck, bind, Except.bind] at h
  | ok _ =>
    rw [hcheck, hroute] at h
    simp only [bind, Except.bind, Holds.ending?_concat hclosing, start] at h
    cases hwalk : d.walk .follow linkLimit (if dir.isAbsolute then [] else d.current)
        (dir.parts ++ [Route.closing]) with
    | error cause => simp [hwalk] at h
    | ok r =>
      cases r with
      | free q => simp [hwalk] at h
      | found home e =>
        simp only [hwalk, hhere, habove, or_self, if_false] at h
        obtain ⟨hpass, hsize, rfl⟩ : d.allows e 1 = true ∧ ¬ n.utf8ByteSize > stepLimit ∧
            place = home ++ [n] := by
          grind
        -- the slash behind the way lets only a directory pass, which is where the way leads
        obtain ⟨home', e', links, hfirst, hlast⟩ := walk_append (by simp) _ _ _ hwalk
        obtain ⟨jump, hjump⟩ := d.walk_eq_follow .follow links
        rw [hjump] at hlast
        have hfind := find?_of_walk _ _ _ hfirst
        obtain ⟨hdir, rfl, rfl⟩ : e'.isDirectory = true ∧ home' = home ∧ e' = e := by
          obtain ⟨e'', hfind'', hdir, -⟩ := exists_passable_of_follow hlast
          obtain rfl : e' = e'' := Option.some.inj (hfind.symm.trans hfind'')
          simp only [follow, hfind, hdir, Bool.not_true, Bool.false_eq_true, if_false, if_true,
            Except.ok.injEq, Place.found.injEq] at hlast
          exact ⟨hdir, hlast⟩
        exact ⟨home', rfl, isEntryName_of_size hpart habove hsize, hcheck, e',
          resolve_of_walk_parts (checkName_of_child hpart hcheck) hfirst hdir hpass, hdir, hpass⟩

/-- A path without parts does not end in a name of its own. -/
theorem spot_ne_named (hparts : p.parts = []) (place : Location) (closed : Bool) :
    d.spot p.text ≠ .ok (.named place closed) := by
  unfold spot
  rw [checkName_of_parts_nil hparts, Route.ofText_text_nil hparts]
  cases p.isAbsolute with
  | true => simp [bind, Except.bind, Route.ending?]
  | false =>
    simp only [bind, Except.bind, Route.ending?, Bool.false_eq_true, if_false, List.reverse_singleton]
    split <;> simp

/-- Where it leads to something, it ends in a step without a name. -/
theorem spot_eq_unnamed (hparts : p.parts = [])
    (h : d.resolve .follow p.text = .ok (.found place e)) :
    ∃ step, d.spot p.text = .ok (.unnamed step) := by
  have hcheck := checkName_of_parts_nil hparts
  rw [resolve_of_checkName hcheck, Route.ofText_text_nil hparts] at h
  unfold spot
  rw [hcheck, Route.ofText_text_nil hparts]
  cases habs : p.isAbsolute with
  | true => exact ⟨_, rfl⟩
  | false =>
    obtain ⟨jump, hjump⟩ := d.walk_eq_follow .follow linkLimit
    simp only [habs, start, Bool.false_eq_true, if_false, hjump] at h
    have hfollow : d.follow .follow jump d.current [Route.here] = .ok (.found place e) := by grind
    obtain ⟨e', hfind, hdir, -⟩ := exists_passable_of_follow hfollow
    have hend : d.follow .follow jump d.current [Route.closing] = .ok (.found d.current e') := by
      simp [follow, hfind, hdir]
    exact ⟨Route.here, by simp [bind, Except.bind, Route.ending?, start, hjump, hend]⟩

/-- Where a path leads to something, no directory is made. -/
theorem makeDirectory_of_resolve (habove : Route.above ∉ p.parts)
    (h : d.resolve .follow p.text = .ok (.found place e)) (mode : Nat) :
    d.makeDirectory p.text mode = .error (.os .exists p.text) := by
  unfold makeDirectory make
  -- a path without parts names no place where something could be made
  rcases p.parts.eq_nil_or_concat' with hparts | ⟨way, n, hparts⟩
  · obtain ⟨step, hspot⟩ := spot_eq_unnamed hparts h
    rw [hspot]
    rfl
  · have hn : n ∈ p.parts := by simp [hparts]
    have hchild := Path.child_parent hparts
    rw [← hchild] at h ⊢
    obtain ⟨home, e', hentry⟩ := exists_entryAt_of_resolve (p.clean n hn)
      (fun hdots => habove (hdots ▸ hn)) h
    rw [hentry.spot_eq]
    simp [bind, Except.bind, hentry.entry]

theorem ensure_of_status (habove : Route.above ∉ p.parts) (h : d.status p.text = .ok e) (mode : Nat) :
    d.ensure p.text mode = if e.isDirectory then .ok d else .error (.os .exists p.text) := by
  obtain ⟨place, hresolve⟩ := status_eq_ok_iff.1 h
  have hdir : d.isDirectory? p.text = .ok e.isDirectory := by
    unfold isDirectory? leadsTo?
    rw [h]
  unfold ensure
  rw [makeDirectory_of_resolve habove hresolve]
  simp [hdir, bind, Except.bind]

/-- What has become of a path at whose end a directory has been made: it leads to an empty directory of
the user's own, which has the permissions that were asked for, with the bit that it takes over from the
directory above. -/
structure Fresh (d : Disk) (p : Path) (mode : Nat) (place : Location) (e : Entry) : Prop where
  /-- The path has an end of its own. -/
  parts : p.parts ≠ []
  /-- The directory above. -/
  parent : d.resolve .follow p.parent.text = .ok (.found place.dropLast e)
  /-- The directory itself. -/
  itself : d.resolve .follow p.text =
    .ok (.found place ⟨.directory, d.user, if hasBit e.mode 0o2000 then mode + 0o2000 else mode⟩)
  /-- There is nothing in it. -/
  empty : ∀ n, d.find? (place ++ [n]) = none

/-- Below an empty directory, no path leads to anything. -/
theorem Fresh.status_ne_ok (h : d.Fresh p.parent mode place e) (habove : Route.above ∉ p.parts)
    (e' : Entry) : d.status p.text ≠ .ok e' := by
  intro hstatus
  obtain ⟨x, hresolve⟩ := status_eq_ok_iff.1 hstatus
  rcases p.parts.eq_nil_or_concat' with hparts | ⟨way, n, hparts⟩
  · exact h.parts (by simp [Path.parent, hparts])
  have hn : n ∈ p.parts := by simp [hparts]
  rw [← Path.child_parent hparts] at hresolve
  obtain ⟨home, child, hentry⟩ := exists_entryAt_of_resolve (p.clean n hn)
    (fun hdots => habove (hdots ▸ hn)) hresolve
  obtain ⟨_, hparent, -⟩ := hentry.directory
  obtain ⟨rfl, -⟩ : home = place ∧ _ := by simpa [hparent] using h.itself
  have hempty := h.empty n
  rw [hentry.entry] at hempty
  cases hempty

theorem fresh_of_makeDirectory (hrooted : d.Rooted) (habove : Route.above ∉ p.parts)
    (h : d.makeDirectory p.text mode = .ok d') :
    d'.Rooted ∧ ∃ place e, d'.Fresh p mode place e := by
  obtain ⟨place, closed, hspot, hfree, rfl⟩ := eq_put_of_makeDirectory h
  rcases p.parts.eq_nil_or_concat' with hparts | ⟨way, n, hparts⟩
  · exact absurd hspot (spot_ne_named hparts place closed)
  have hn : n ∈ p.parts := by simp [hparts]
  have hchild := Path.child_parent hparts
  rw [← hchild] at hspot
  obtain ⟨home, rfl, hname⟩ := exists_nameIn_of_spot (p.clean n hn) (fun hdots => habove (hdots ▸ hn))
    hspot
  obtain ⟨e, hresolve, hdir, hpass⟩ := hname.directory
  have hhome := find?_of_walk _ _ _ (walk_parts_of_resolve hresolve)
  have hgrows := d.grows_put (d.inherited (home ++ [n]) mode) hfree
  have hblocked : d.Blocked (home ++ [n]) := by
    intro e' he'
    rw [hfree] at he'
    cases he'
  have agree := AgreeBut.put hblocked ⟨.directory, d.user, d.inherited (home ++ [n]) mode⟩
  have hresolve' := resolve_carry agree hhome hdir hresolve
  have hentry : (d.put (home ++ [n]) ⟨.directory, d.user, d.inherited (home ++ [n]) mode⟩).EntryAt
      p.parent n home ⟨.directory, d.user, d.inherited (home ++ [n]) mode⟩ :=
    ⟨⟨hname.named, hname.accepted, e, hresolve', hdir, by rwa [agree.allows]⟩,
      (find?_put _ _ _ _).trans (if_pos rfl)⟩
  have hitself := hentry.resolve_of_not_link fun target hlink => by cases hlink
  rw [hchild] at hitself
  refine ⟨hrooted.put hhome hdir hfree _, home ++ [n], e, by simp [hparts], by simpa using hresolve',
    ?_, fun m => ?_⟩
  · rw [hitself, hgrows.user]
    simp [inherited, hhome]
  · -- there was no directory at the place before, and so nothing in it
    rw [find?_put, if_neg (by simp)]
    cases hinside : d.find? (home ++ [n] ++ [m]) with
    | none => rfl
    | some e' =>
      obtain ⟨e'', hplace, -⟩ := hrooted _ _ _ hinside
      rw [hfree] at hplace
      cases hplace

/-! ## §3 A directory and all above it -/

/-- What making a directory comes to, if it succeeds. -/
inductive Made (d : Disk) (p : Path) (mode : Nat) (d' : Disk) : Prop where
  /-- The path leads to a directory already. Nothing happens. -/
  | there {e : Entry} (hstatus : d.status p.text = .ok e) (hdir : e.isDirectory = true) (hsame : d' = d)
  /-- The path led to nothing, and a directory is made at its end. -/
  | fresh {place : Location} {e : Entry} (habsent : ∀ e, d.status p.text ≠ .ok e)
    (hfresh : d'.Fresh p mode place e)

theorem made_of_ensure (hrooted : d.Rooted) (habove : Route.above ∉ p.parts)
    (h : d.ensure p.text mode = .ok d') : d'.Rooted ∧ d.Made p mode d' := by
  cases hstatus : d.status p.text with
  | ok e =>
    rw [ensure_of_status habove hstatus] at h
    cases hdir : e.isDirectory with
    | false => simp [hdir] at h
    | true =>
      obtain rfl : d = d' := by simpa [hdir] using h
      exact ⟨hrooted, .there hstatus hdir rfl⟩
  | error fault =>
    have habsent : ∀ e, d.status p.text ≠ .ok e := by simp [hstatus]
    unfold ensure at h
    -- either it is made, or what is there counts
    cases hmake : d.makeDirectory p.text mode with
    | ok d'' =>
      rw [hmake] at h
      cases h
      obtain ⟨hrooted', place, e, hfresh⟩ := fresh_of_makeDirectory hrooted habove hmake
      exact ⟨hrooted', .fresh habsent hfresh⟩
    | error fault' =>
      -- what leads to nothing leads to no directory
      have hnot : d.isDirectory? p.text ≠ .ok true := by
        unfold isDirectory? leadsTo?
        rw [hstatus]
        grind
      rw [hmake] at h
      simp only [bind, Except.bind] at h
      grind

/-- Making a directory with all directories above it comes to the same two cases. -/
theorem made_of_ensureWithin {above : Nat} (hrooted : d.Rooted) (habove : Route.above ∉ p.parts)
    (h : d.ensureWithin above p mode = .ok d') : d'.Rooted ∧ d.Made p mode d' := by
  -- on the number of directories above that may be missing, for every path and all permissions
  induction above generalizing d' p mode with
  | zero => exact made_of_ensure hrooted habove h
  | succ above ih =>
    unfold ensureWithin at h
    cases hfirst : d.ensure p.text mode with
    | ok d'' =>
      rw [hfirst] at h
      cases h
      exact made_of_ensure hrooted habove hfirst
    | error fault =>
      rw [hfirst] at h
      obtain ⟨d₁, hparent, hlast⟩ : ∃ d₁, d.ensureWithin above p.parent directoryMode = .ok d₁ ∧
          d₁.ensure p.text mode = .ok d' := by
        cases hparent : d.ensureWithin above p.parent directoryMode with
        | error fault' =>
          simp only [hparent, bind, Except.bind] at h
          grind
        | ok d₁ =>
          simp only [hparent, bind, Except.bind] at h
          exact ⟨d₁, rfl, by grind⟩
      have habove' : Route.above ∉ p.parent.parts := fun hmem => habove (List.dropLast_subset _ hmem)
      obtain ⟨hrooted₁, hmade⟩ := ih habove' hparent
      obtain ⟨hrooted', hmade'⟩ := made_of_ensure hrooted₁ habove hlast
      refine ⟨hrooted', ?_⟩
      cases hmade with
      | there hstatus hdir hsame =>
        -- there was nothing to be made above, so the second attempt is the first one again
        rw [hsame, hfirst] at hlast
        cases hlast
      | fresh _ hfresh =>
        cases hmade' with
        | there hstatus hdir hsame => exact absurd hstatus (hfresh.status_ne_ok habove _)
        | fresh _ hfresh' =>
          refine .fresh (fun e hstatus => ?_) hfresh'
          -- what is there is no reason to make anything above
          rw [ensure_of_status habove hstatus] at hfirst
          cases hdir : e.isDirectory with
          | true => simp [hdir] at hfirst
          | false =>
            obtain rfl : .os .exists p.text = fault := by simpa [hdir] using hfirst
            cases h

theorem ensureDirectory_cases (hrooted : d.Rooted) (habove : Route.above ∉ p.parts)
    (h : d.ensureDirectory p mode = .ok d') : d.Made p mode d' :=
  (made_of_ensureWithin hrooted habove h).2

/-- What is there need not be made. -/
theorem ensureDirectory_of_status (habove : Route.above ∉ p.parts) (h : d.status p.text = .ok e)
    (hdir : e.isDirectory = true) (mode : Nat) : d.ensureDirectory p mode = .ok d := by
  have hensure : d.ensure p.text mode = .ok d := by
    rw [ensure_of_status habove h, if_pos hdir]
  unfold ensureDirectory
  -- the first attempt ends it, however many directories are above
  cases p.parts.length with
  | zero => exact hensure
  | succ above =>
    unfold ensureWithin
    rw [hensure]

/-! ## §4 Paths above -/

theorem exists_status_parent (h : d.status p.text = .ok e) (hdir : e.isDirectory = true) :
    ∃ e', d.status p.parent.text = .ok e' ∧ e'.isDirectory = true := by
  rcases p.parts.eq_nil_or_concat' with hparts | ⟨way, n, hparts⟩
  · have hsame : p.parent = p := by
      obtain ⟨root, parts, clean⟩ := p
      obtain rfl : parts = [] := hparts
      rfl
    rw [hsame]
    exact ⟨e, h, hdir⟩
  · obtain ⟨place, hresolve⟩ := status_eq_ok_iff.1 h
    have hpart : isPart n = true := p.clean n (by simp [hparts])
    obtain ⟨hclosing, -⟩ := step_ne_of_isPart hpart
    have hcheck : checkName p.parent.text = .ok () := by
      refine checkName_of_child hpart ?_
      rw [Path.child_parent hparts]
      exact checkName_of_resolve hresolve
    have hwalk := walk_parts_of_resolve hresolve
    rw [hparts] at hwalk
    obtain ⟨home, e', links, hfirst, hlast⟩ := walk_append (by simp) _ _ _ hwalk
    obtain ⟨jump, hjump⟩ := d.walk_eq_follow .follow links
    rw [hjump] at hlast
    -- the last step leads on from the directory above, so the user may pass through that
    obtain ⟨e'', hfind, hdir', hpass⟩ := exists_passable_of_follow hlast
    obtain rfl : e' = e'' := Option.some.inj ((find?_of_walk _ _ _ hfirst).symm.trans hfind)
    have hway : p.parent.parts = way := by simp [Path.parent, hparts]
    refine ⟨e', status_eq_ok_iff.2 ⟨home, resolve_of_walk_parts hcheck ?_ hdir' (hpass hclosing)⟩,
      hdir'⟩
    rw [hway]
    exact hfirst

theorem exists_status_ancestor (h : d.status p.text = .ok e) (hdir : e.isDirectory = true) (k : Nat) :
    ∃ e', d.status (Path.parent^[k] p).text = .ok e' ∧ e'.isDirectory = true := by
  -- on how far it is to the directory above
  induction k generalizing p e with
  | zero => exact ⟨e, h, hdir⟩
  | succ k ih =>
    obtain ⟨e', h', hdir'⟩ := exists_status_parent h hdir
    exact ih h' hdir'

end Disk

end WasmGauge.Storage
