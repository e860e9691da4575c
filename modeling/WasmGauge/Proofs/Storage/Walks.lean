import Mathlib.Data.Fintype.EquivFin
import WasmGauge.Proofs.Storage.Reading

/-!
# Walks in two parts

A walk to a name in a directory is a walk to the directory, and one step from there. So whoever looks at
a name and whoever removes it come to the same place, whatever links are on the way and whatever lies at
its end. Removing something at one place lets every other walk come to what it came to, or to nothing.

## Main statements

- `Disk.walk_append`: a walk that ends somewhere has come to the end of its first steps before.
- `Disk.walk_extend`: a walk goes on where another one ended.
- `Disk.walk_erase`: what becomes of walks when something is removed.
- `Disk.exists_entryAt`: a name that leads to something has an entry in the directory of its path.
- `Disk.NameIn.spot_eq`, `Disk.EntryAt.unlinkIfThere_eq`: where something is made or removed under a
  name, and what removing comes to.
-/

namespace WasmGauge.Storage

namespace Disk

variable {d : Disk} {final : Final} {links : Nat} {place home x : Location} {steps rest : List String}
  {r : Place} {e : Entry}

/-! ## §1 The first part of a walk -/

/-- Steps that come to an end lead to a directory before the last of them. A step other than a slash at
the end leads on from there only if the user may pass through it. -/
theorem exists_passable_of_follow {jump : Location → List String → Except Errno Place} {step : String}
    (h : d.follow final jump place (step :: rest) = .ok r) :
    ∃ e, d.find? place = some e ∧ e.isDirectory = true ∧
      (step ≠ Route.closing → d.allows e 1 = true) := by
  rcases follow_cons_cases h with ⟨_, haim, -⟩ | ⟨haim, -⟩
  · exact passable_of_aim haim
  · exact passable_of_aim haim

/-- Further steps are followed from where the first steps end. -/
theorem follow_append {jump jump' : Location → List String → Except Errno Place} (hrest : rest ≠ [])
    (hjump : ∀ p ss, jump p (ss ++ rest) = .ok r →
      ∃ home e n, jump' p ss = .ok (.found home e) ∧ d.walk final n home rest = .ok r)
    (hend : ∀ p, d.follow final jump p rest = .ok r → ∃ n, d.walk final n p rest = .ok r) :
    ∀ steps place, d.follow final jump place (steps ++ rest) = .ok r →
      ∃ home e n, d.follow .follow jump' place steps = .ok (.found home e) ∧
        d.walk final n home rest = .ok r := by
  intro steps
  -- on the first steps: each of them is followed alike with and without the further ones behind it
  induction steps with
  | nil =>
    intro place h
    obtain ⟨n, hn⟩ := hend place h
    obtain ⟨step, more, rfl⟩ := List.exists_cons_of_ne_nil hrest
    obtain ⟨e, hfind, -⟩ := exists_passable_of_follow h
    exact ⟨place, e, n, by simp [follow, hfind], hn⟩
  | cons step steps ih =>
    intro place h
    have hopen : isBarred .follow steps = false := rfl
    rw [List.cons_append] at h
    rw [follow_cons, hopen]
    rcases follow_cons_cases h with ⟨place', haim, h⟩ | ⟨haim, h⟩
    · rw [aim_open haim]
      exact ih place' h
    · rw [aim_open haim]
      unfold arrive at h ⊢
      have hmore : (steps ++ rest).isEmpty = false := by simp [hrest]
      cases hchild : d.find? (place ++ [step]) with
      | none => simp [hchild, hmore] at h
      | some child =>
        obtain ⟨node, owner, mode⟩ := child
        rw [hchild, hmore] at h
        cases node with
        | file bytes => exact ih _ h
        | directory => exact ih _ h
        | link target =>
          simp only [Bool.false_eq_true, false_and, if_false, ← List.append_assoc] at h
          simp only [reduceCtorEq, and_false, if_false]
          exact hjump _ _ h

/-- A walk that ends somewhere has come to the end of its first steps before, and goes on from there,
perhaps through fewer links. -/
theorem walk_append (hrest : rest ≠ []) (links : Nat) (place : Location) (steps : List String)
    (h : d.walk final links place (steps ++ rest) = .ok r) :
    ∃ home e n, d.walk .follow links place steps = .ok (.found home e) ∧
      d.walk final n home rest = .ok r := by
  -- on the links that are left, for every place and all steps, because a link leads anywhere
  induction links generalizing place steps with
  | zero => exact follow_append hrest (by simp) (fun p hp => ⟨0, hp⟩) steps place h
  | succ links ih => exact follow_append hrest ih (fun p hp => ⟨links + 1, hp⟩) steps place h

/-- Following steps comes to what is there, if going on at links does. -/
theorem find?_of_follow {jump : Location → List String → Except Errno Place}
    (hjump : ∀ p ss, jump p ss = .ok (.found x e) → d.find? x = some e) :
    ∀ steps place, d.follow final jump place steps = .ok (.found x e) → d.find? x = some e := by
  intro steps
  -- a step only ever hands on to fewer steps or to a jump, so the last place is looked up at the end
  induction steps with
  | nil =>
    intro place h
    unfold follow at h
    grind
  | cons step steps ih =>
    intro place h
    rcases follow_cons_cases h with ⟨place', -, h⟩ | ⟨-, h⟩
    · exact ih place' h
    · unfold arrive at h
      grind

/-- What a walk comes to is there. -/
theorem find?_of_walk (links : Nat) (place : Location) (steps : List String)
    (h : d.walk final links place steps = .ok (.found x e)) : d.find? x = some e := by
  -- on the links that are left, as in `walk_append`
  induction links generalizing place steps with
  | zero => exact find?_of_follow (by simp) steps place h
  | succ links ih => exact find?_of_follow ih steps place h

/-! ## §2 The second part of a walk -/

/-- There are places enough that nothing is at. -/
theorem exists_blocked_ne (d : Disk) (x : Location) : ∃ q, d.Blocked q ∧ x ≠ q := by
  -- the disk has finitely many entries
  obtain ⟨q, hq⟩ := Infinite.exists_notMem_finset (x :: d.entries.map (·.1)).toFinset
  simp only [List.mem_toFinset, List.mem_cons, List.mem_map, not_or, not_exists, not_and] at hq
  obtain ⟨hne, hfree⟩ := hq
  refine ⟨q, fun e he => ?_, fun h => hne h.symm⟩
  have hnone : d.entries.lookup q = none :=
    List.lookup_eq_none_iff.2 fun y hy => bne_iff_ne.2 fun h => hfree y hy h.symm
  exact absurd he (by simp [find?, hnone])

/-- A walk goes on where another one ended. -/
theorem walk_extend {out : Except Errno Place}
    (hwalk : d.walk .follow links place steps = .ok (.found x e))
    (hrest : final ≠ .follow → rest ≠ [] ∧ rest ≠ [Route.closing])
    (hout : ∀ jump, d.follow final jump x rest = out) :
    d.walk final links place (steps ++ rest) = out := by
  -- the disk is carried over to itself, with a change at a place where nothing is
  obtain ⟨q, hq, hne⟩ := d.exists_blocked_ne x
  exact walk_carry (AgreeBut.refl hq) hne hrest hout _ _ _ hwalk

/-! ## §3 Walks that lead to nothing -/

/-- Whether a walk leads to nothing: it comes to a free place, or something on the way is missing, is no
directory, or is a link too many. -/
def LeadsNowhere : Except Errno Place → Prop
  | .ok (.found _ _) => False
  | .ok (.free _) => True
  | .error cause => cause.isAbsence = true

/-- Following steps comes to the same after something has been removed, or leads to nothing, if going on
at links does. -/
theorem follow_erase {q : Location} {jump jump' : Location → List String → Except Errno Place}
    (hjump : ∀ p ss, jump' p ss = jump p ss ∨ LeadsNowhere (jump' p ss)) :
    ∀ steps place, (d.erase q).follow final jump' place steps = d.follow final jump place steps ∨
      LeadsNowhere ((d.erase q).follow final jump' place steps) := by
  intro steps
  -- on the steps: both disks are walked side by side until one comes to what is gone
  induction steps with
  | nil =>
    intro place
    unfold follow
    rw [find?_erase]
    by_cases hplace : place = q
    · exact .inr (by rw [if_pos hplace]; rfl)
    · exact .inl (by rw [if_neg hplace])
  | cons step steps ih =>
    intro place
    rw [follow_cons, follow_cons]
    by_cases hplace : place = q
    · have hgone : (d.erase q).find? place = none := by rw [find?_erase, if_pos hplace]
      rw [aim_of_find?_eq_none hgone]
      exact .inr rfl
    have hkept : (d.erase q).find? place = d.find? place := by rw [find?_erase, if_neg hplace]
    rw [aim_congr hkept rfl]
    cases d.aim place step (isBarred final steps) with
    | error cause => exact .inl rfl
    | ok a =>
      cases a with
      | known place' => exact ih place'
      | named =>
        -- the place to which the step leads may have become free
        unfold arrive
        rw [find?_erase]
        by_cases hchild : place ++ [step] = q
        · rw [if_pos hchild]
          refine .inr ?_
          dsimp only
          split
          · exact trivial
          · rfl
        rw [if_neg hchild]
        cases d.find? (place ++ [step]) with
        | none => exact .inl rfl
        | some child =>
          obtain ⟨node, owner, mode⟩ := child
          cases node with
          | file bytes => exact ih _
          | directory => exact ih _
          | link target =>
            dsimp only
            by_cases hkeep : steps.isEmpty = true ∧ final = .keep
            · exact .inl (by rw [if_pos hkeep, if_pos hkeep])
            · rw [if_neg hkeep, if_neg hkeep]
              exact hjump _ _

/-- After something has been removed, a walk comes to what it came to, or leads to nothing. -/
theorem walk_erase (d : Disk) (q : Location) (final : Final) (links : Nat) (place : Location)
    (steps : List String) :
    (d.erase q).walk final links place steps = d.walk final links place steps ∨
      LeadsNowhere ((d.erase q).walk final links place steps) := by
  induction links generalizing place steps with
  | zero => exact follow_erase (fun _ _ => .inl rfl) steps place
  | succ links ih => exact follow_erase ih steps place

/-- Whether there is something under a name that is accepted is told by the walk. -/
theorem exists?_of_checkName {name : String} (hcheck : checkName name = .ok ()) :
    d.exists? name =
      match d.walk .follow linkLimit (d.start (Route.ofText name)) (Route.ofText name).steps with
      | .ok (.found _ _) => .ok true
      | .ok (.free _) => .ok false
      | .error cause => if cause.isAbsence then .ok false else .error (.os cause name) := by
  unfold exists? leadsTo? status
  rw [resolve_of_checkName hcheck]
  cases d.walk .follow linkLimit (d.start (Route.ofText name)) (Route.ofText name).steps with
  | error cause => rfl
  | ok place => cases place <;> rfl

theorem exists?_of_leadsNowhere {name : String} (hcheck : checkName name = .ok ())
    (h : LeadsNowhere
      (d.walk .follow linkLimit (d.start (Route.ofText name)) (Route.ofText name).steps)) :
    d.exists? name = .ok false := by
  rw [exists?_of_checkName hcheck]
  cases hwalk : d.walk .follow linkLimit (d.start (Route.ofText name)) (Route.ofText name).steps with
  | error cause =>
    rw [hwalk] at h
    exact if_pos h
  | ok place =>
    rw [hwalk] at h
    cases place with
    | found p e => exact h.elim
    | free p => rfl

/-- Where there is nothing, removing something makes nothing appear. -/
theorem exists?_erase {name : String} (h : d.exists? name = .ok false) (q : Location) :
    (d.erase q).exists? name = .ok false := by
  cases hcheck : checkName name with
  | error fault =>
    -- a name that is refused is refused on every disk
    rw [← h]
    unfold exists? leadsTo? status
    rw [resolve_of_checkName_error hcheck, resolve_of_checkName_error hcheck]
  | ok _ =>
    have hstart : (d.erase q).start (Route.ofText name) = d.start (Route.ofText name) := rfl
    rcases d.walk_erase q .follow linkLimit (d.start (Route.ofText name)) (Route.ofText name).steps with
      hsame | hnowhere
    · rw [← h, exists?_of_checkName hcheck, exists?_of_checkName hcheck, hstart, hsame]
    · exact exists?_of_leadsNowhere hcheck (hstart ▸ hnowhere)

/-! ## §4 Entries of a directory -/

theorem checkName_eq_ok_iff {name : String} :
    checkName name = .ok () ↔
      holdsNull name = false ∧ name ≠ "" ∧ name.utf8ByteSize ≤ nameLimit := by
  unfold checkName
  grind

/-- A path without parts is written as its root or as a dot. -/
theorem checkName_of_parts_nil {p : Path} (hparts : p.parts = []) : checkName p.text = .ok () := by
  have htext : p.text = if p.root.text = "" then "." else p.root.text := by
    simp [Path.text, hparts]
  rw [htext]
  cases p.root <;> decide

/-- If a path with one more part is not refused, neither is the path. -/
theorem checkName_of_child {dir : Path} {n : String} (hn : isPart n = true)
    (hcheck : checkName (dir.child n).text = .ok ()) : checkName dir.text = .ok () := by
  by_cases hparts : dir.parts = []
  · exact checkName_of_parts_nil hparts
  · rw [Path.text_child hparts hn, checkName_eq_ok_iff] at hcheck
    obtain ⟨hnull, -, hsize⟩ := hcheck
    refine checkName_eq_ok_iff.2 ⟨?_, ?_, ?_⟩
    · simp only [holdsNull, List.contains_eq_mem, decide_eq_false_iff_not, String.toList_append,
        List.mem_append, not_or] at hnull ⊢
      exact hnull.1.1
    · rw [Path.text_of_ne_nil hparts]
      intro hempty
      exact Path.intercalate_ne_empty hparts dir.clean (String.append_eq_empty_iff.1 hempty).2
    · rw [String.utf8ByteSize_append, String.utf8ByteSize_append] at hsize
      omega

/-- The text of a path leads to where its parts do, if the user may pass through there. -/
theorem resolve_of_walk_parts {dir : Path} (hcheck : checkName dir.text = .ok ())
    (hwalk : d.walk .follow linkLimit (if dir.isAbsolute then [] else d.current) dir.parts =
      .ok (.found home e)) (hdir : e.isDirectory = true) (hpass : d.allows e 1 = true) :
    d.resolve .follow dir.text = .ok (.found home e) := by
  have hsteps : d.walk .follow linkLimit (d.start (Route.ofText dir.text))
      (Route.ofText dir.text).steps = .ok (.found home e) := by
    by_cases hparts : dir.parts = []
    · rw [Route.ofText_text_nil hparts]
      rw [hparts] at hwalk
      cases habs : dir.isAbsolute with
      | true => simpa [habs, start] using hwalk
      | false =>
        -- the path without parts is written as a dot, and so there is one step more
        simp only [habs, Bool.false_eq_true, if_false] at hwalk
        have hfind := find?_of_walk _ _ _ hwalk
        have hhere : ∀ jump, d.follow .follow jump home [Route.here] = .ok (.found home e) := by
          intro jump
          simp [follow, hfind, hdir, hpass, Route.here, Route.closing]
        simpa [start] using walk_extend hwalk (by simp) hhere
    · rw [Route.ofText_text hparts]
      exact hwalk
  rw [resolve_of_checkName hcheck, hsteps]

/-- A link from a directory to itself can be repeated, as long as the system follows so many links. -/
theorem walk_replicate {home : Location} {e : Entry} {n : String} {owner mode k links : Nat}
    (hfind : d.find? home = some e) (hdir : e.isDirectory = true) (hpass : d.allows e 1 = true)
    (hn : isEntryName n = true)
    (hlink : d.find? (home ++ [n]) = some ⟨.link Route.here, owner, mode⟩) (hk : k ≤ links) :
    d.walk .follow links home (List.replicate k n) = .ok (.found home e) := by
  obtain ⟨-, hclosing, hhere, habove, hsize⟩ := Holds.isPart_of_isEntryName hn
  have hroute : Route.ofText Route.here = ⟨false, [Route.here]⟩ := by decide
  have hdot : Route.here ≠ Route.closing := by decide
  induction k generalizing links with
  | zero =>
    obtain ⟨jump, hjump⟩ := walk_eq_follow d .follow links
    simp [hjump, follow, hfind]
  | succ k ih =>
    cases links with
    | zero => omega
    | succ links =>
      -- the link leads to the step that stays where it is, from which the rest is walked
      have hjump : d.walk .follow links home (Route.here :: List.replicate k n) =
          .ok (.found home e) := by
        obtain ⟨jump, hwalk⟩ := walk_eq_follow d .follow links
        have hrest := ih (show k ≤ links by omega)
        rw [hwalk] at hrest ⊢
        rw [follow]
        simp [hfind, hdir, hpass, hdot, hrest]
      simp [walk, List.replicate_succ, follow, hfind, hdir, hpass, hclosing, hhere, habove, hsize, hlink,
        hroute, hjump]

theorem status_eq_ok_iff {name : String} :
    d.status name = .ok e ↔ ∃ place, d.resolve .follow name = .ok (.found place e) := by
  unfold status
  cases d.resolve .follow name with
  | error fault => simp [bind, Except.bind]
  | ok place => cases place <;> simp [bind, Except.bind]

theorem exists?_eq_true_iff {name : String} :
    d.exists? name = .ok true ↔ ∃ e, d.status name = .ok e := by
  unfold exists? leadsTo?
  cases d.status name with
  | ok e => simp
  | error fault =>
    cases fault with
    | os cause name' => cases cause <;> simp [Errno.isAbsence]
    | _ => simp

/-- A name in the directory that a path leads to, whether or not it has an entry there. -/
structure NameIn (d : Disk) (dir : Path) (n : String) (home : Location) : Prop where
  /-- The name is one that an entry can have. -/
  named : isEntryName n = true
  /-- The path of the entry is not refused. -/
  accepted : checkName (dir.child n).text = .ok ()
  /-- The path leads to a directory that the user may pass through. -/
  directory : ∃ e, d.resolve .follow dir.text = .ok (.found home e) ∧ e.isDirectory = true ∧
    d.allows e 1 = true

/-- The entry that a name has in the directory that a path leads to, which may be a link. -/
structure EntryAt (d : Disk) (dir : Path) (n : String) (home : Location) (e : Entry) : Prop
    extends d.NameIn dir n home where
  /-- The entry is in the directory. -/
  entry : d.find? (home ++ [n]) = some e

theorem isEntryName_of_size {n : String} (hpart : isPart n = true) (habove : n ≠ Route.above)
    (hsize : ¬ n.utf8ByteSize > stepLimit) : isEntryName n = true := by
  simp only [isEntryName, hpart, Bool.true_and, Bool.and_eq_true, bne_iff_ne, ne_eq,
    decide_eq_true_eq]
  exact ⟨habove, by omega⟩

/-- A part of a path is a step with a name of its own, unless it leads to the directory above. -/
theorem step_ne_of_isPart {n : String} (hpart : isPart n = true) :
    n ≠ Route.closing ∧ n ≠ Route.here :=
  ⟨(isPart_iff.1 hpart).1, (isPart_iff.1 hpart).2.1⟩

/-- One step to a name leads through a directory, and to something only if the directory has an entry
under the name. -/
theorem follow_name {jump : Location → List String → Except Errno Place} {n : String}
    (hpart : isPart n = true) (habove : n ≠ Route.above)
    (h : d.follow .follow jump home [n] = .ok (.found x e)) :
    isEntryName n = true ∧ ∃ e' child, d.find? home = some e' ∧ e'.isDirectory = true ∧
      d.allows e' 1 = true ∧ d.find? (home ++ [n]) = some child := by
  obtain ⟨hclosing, hhere⟩ := step_ne_of_isPart hpart
  obtain ⟨e', hfind, hdir, hpass⟩ := exists_passable_of_follow h
  rcases follow_cons_cases h with ⟨_, haim, -⟩ | ⟨haim, h⟩
  · have hstep := step_of_aim_known haim
    simp [hclosing, hhere, habove] at hstep
  · obtain ⟨child, hchild⟩ : ∃ child, d.find? (home ++ [n]) = some child := by
      unfold arrive at h
      grind
    exact ⟨isEntryName_of_size hpart habove (size_of_aim_named haim), e', child, hfind, hdir,
      hpass hclosing, hchild⟩

/-- A name that leads to something has an entry in the directory of its path. -/
theorem exists_entryAt_of_resolve {dir : Path} {n : String} (hpart : isPart n = true)
    (habove : n ≠ Route.above) (hresolve : d.resolve .follow (dir.child n).text = .ok (.found x e)) :
    ∃ home e', d.EntryAt dir n home e' := by
  have hcheck := checkName_of_resolve hresolve
  have hwalk := walk_parts_of_resolve hresolve
  rw [dir.parts_child hpart, dir.isAbsolute_child hpart] at hwalk
  -- the walk comes to the directory first, and goes on from there by one step
  obtain ⟨home, e', links, hfirst, hlast⟩ := walk_append (by simp) _ _ _ hwalk
  obtain ⟨jump, hjump⟩ := d.walk_eq_follow .follow links
  rw [hjump] at hlast
  obtain ⟨hn, e'', child, hfind, hdir, hpass, hchild⟩ := follow_name hpart habove hlast
  obtain rfl : e' = e'' := Option.some.inj ((find?_of_walk _ _ _ hfirst).symm.trans hfind)
  exact ⟨home, child, ⟨hn, hcheck,
    e', resolve_of_walk_parts (checkName_of_child hpart hcheck) hfirst hdir hpass, hdir, hpass⟩,
    hchild⟩

theorem exists_entryAt {dir : Path} {n : String} (hn : isEntryName n = true)
    (h : d.exists? (dir.child n).text = .ok true) : ∃ home e, d.EntryAt dir n home e := by
  obtain ⟨e, hstatus⟩ := exists?_eq_true_iff.1 h
  obtain ⟨place, hresolve⟩ := status_eq_ok_iff.1 hstatus
  obtain ⟨hpart, -, -, habove, -⟩ := Holds.isPart_of_isEntryName hn
  exact exists_entryAt_of_resolve hpart habove hresolve

namespace NameIn

variable {dir : Path} {n : String}

/-- A walk that goes on from the directory by the name comes to where one step leads from there. -/
theorem resolve_eq {out : Place} (h : d.NameIn dir n home)
    (hout : ∀ jump, d.follow .follow jump home [n] = .ok out) :
    d.resolve .follow (dir.child n).text = .ok out := by
  obtain ⟨e, hresolve, -, -⟩ := h.directory
  rw [resolve_of_checkName h.accepted, Holds.route_child h.named]
  simp only [start, walk_extend (walk_parts_of_resolve hresolve) (by simp) hout]

/-- Whoever makes or removes something under the name comes to the place of the entry. -/
theorem spot_eq (h : d.NameIn dir n home) :
    d.spot (dir.child n).text = .ok (.named (home ++ [n]) false) := by
  obtain ⟨e, hresolve, hdir, hpass⟩ := h.directory
  obtain ⟨-, hclosing, hhere, habove, hsize⟩ := Holds.isPart_of_isEntryName h.named
  have hwalk := walk_parts_of_resolve hresolve
  have hfind := find?_of_walk _ _ _ hwalk
  -- a slash at the end of the way to the directory adds nothing
  have hend : ∀ jump, d.follow .follow jump home [Route.closing] = .ok (.found home e) := by
    intro jump
    simp [follow, hfind, hdir]
  unfold spot
  rw [h.accepted, Holds.route_child h.named]
  simp only [bind, Except.bind, Holds.ending?_concat hclosing, start,
    walk_extend hwalk (by simp) hend, hhere, habove, hpass, hsize, or_self, Bool.not_true,
    Bool.false_eq_true, if_false]

end NameIn

namespace EntryAt

variable {dir : Path} {n : String}

/-- Removing the name fails if the user may not change the directory that it is in, or if there is a
directory under it. Otherwise the entry is gone, and nothing else. -/
theorem unlinkIfThere_eq (h : d.EntryAt dir n home e) :
    d.unlinkIfThere (dir.child n).text =
      if !d.mayChange (home ++ [n]) then .error (.os .noPermission (dir.child n).text)
      else if e.isDirectory then .error (.os .isDirectory (dir.child n).text)
      else .ok (d.erase (home ++ [n])) := by
  unfold unlinkIfThere unlink
  simp only [h.spot_eq, bind, Except.bind, h.entry, Bool.false_eq_true, if_false]
  cases d.mayChange (home ++ [n]) with
  | false => rfl
  | true => cases e.isDirectory <;> rfl

/-- A name whose entry is no link leads to the entry. -/
theorem resolve_of_not_link (h : d.EntryAt dir n home e) (hlink : ∀ target, e.node ≠ .link target) :
    d.resolve .follow (dir.child n).text = .ok (.found (home ++ [n]) e) := by
  obtain ⟨e', hresolve, hdir, hpass⟩ := h.directory
  obtain ⟨-, hclosing, hhere, habove, hsize⟩ := Holds.isPart_of_isEntryName h.named
  have hfind := find?_of_walk _ _ _ (walk_parts_of_resolve hresolve)
  refine h.resolve_eq fun jump => ?_
  obtain ⟨node, owner, mode⟩ := e
  -- only a link would be followed further
  cases node with
  | link target => exact absurd rfl (hlink target)
  | _ => simp [follow, hfind, hdir, hclosing, hpass, hhere, habove, hsize, h.entry]

/-- Where the entry is gone, there is nothing under the name. -/
theorem exists?_erase (h : d.EntryAt dir n home e)
    (hthere : d.exists? (dir.child n).text = .ok true) :
    (d.erase (home ++ [n])).exists? (dir.child n).text = .ok false := by
  obtain ⟨e', hresolve, hdir, hpass⟩ := h.directory
  obtain ⟨e₁, hstatus⟩ := exists?_eq_true_iff.1 hthere
  obtain ⟨x, hchild⟩ := status_eq_ok_iff.1 hstatus
  obtain ⟨hpart, hclosing, hhere, habove, hsize⟩ := Holds.isPart_of_isEntryName h.named
  have hfirst := walk_parts_of_resolve hresolve
  have hfind := find?_of_walk _ _ _ hfirst
  have hwhole := walk_parts_of_resolve hchild
  rw [dir.parts_child hpart, dir.isAbsolute_child hpart] at hwhole
  refine exists?_of_leadsNowhere h.accepted ?_
  rw [Holds.route_child h.named]
  show LeadsNowhere ((d.erase (home ++ [n])).walk .follow linkLimit
    (if dir.isAbsolute then [] else d.current) (dir.parts ++ [n]))
  -- the way to the directory may itself have passed through the entry
  rcases d.walk_erase (home ++ [n]) .follow linkLimit (if dir.isAbsolute then [] else d.current)
    dir.parts with hsame | hnowhere
  · rw [hfirst] at hsame
    have hend : ∀ jump, (d.erase (home ++ [n])).follow .follow jump home [n] =
        .ok (.free (home ++ [n])) := by
      intro jump
      have hpass' : (d.erase (home ++ [n])).allows e' 1 = true := hpass
      simp [follow, find?_erase, hfind, hdir, hclosing, hpass', hhere, habove, hsize]
    rw [walk_extend hsame (by simp) hend]
    trivial
  · rcases d.walk_erase (home ++ [n]) .follow linkLimit (if dir.isAbsolute then [] else d.current)
      (dir.parts ++ [n]) with hsame | hnone
    · rw [hwhole] at hsame
      obtain ⟨home', e₂, links, hfirst', -⟩ := walk_append (by simp) _ _ _ hsame
      rw [hfirst'] at hnowhere
      exact hnowhere.elim
    · exact hnone

end EntryAt

end Disk

end WasmGauge.Storage
