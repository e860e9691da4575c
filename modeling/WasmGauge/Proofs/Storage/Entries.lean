import Mathlib.Control.Monad.Basic
import WasmGauge.Proofs.Lookup
import WasmGauge.Proofs.Storage.Routes
import WasmGauge.Proofs.Storage.Steps

/-!
# Entries of a directory

What the operations of a disk do to the entry that a clean name has in a directory. The way to the
directory may lead through links and over `..`; only its end is known. From that end on, a walk is
independent of how it got there, so that every operation on the entry comes down to what is found at
one place.

## Main statements

- `Disk.walk_carry`: what lies at a place that no walk can pass does not matter to a walk, and a walk
  can go on where another one ended.
- `Disk.Holds.carry`, `Disk.Keeps.carry`: a change at such a place leaves directories and all other
  entries where they are.
- `Disk.Holds.unlinkIfThere_cases`: what removing a name in a directory comes to.
- `Disk.Keeps.exists?_eq`, `Disk.Keeps.find?_of_read`, `Disk.Keeps.unlinkIfThere_eq`,
  `Disk.Keeps.eq_put_of_write`: the operations on an entry.
-/

namespace WasmGauge.Storage

namespace Disk

/-! ## §1 Changes at one place -/

theorem find?_erase (d : Disk) (p q : Location) :
    (d.erase p).find? q = if q = p then none else d.find? q :=
  lookup_filter_ne d.entries p q

theorem erase_of_find?_eq_none {d : Disk} {p : Location} (h : d.find? p = none) :
    d.erase p = d := by
  unfold erase
  rw [List.filter_eq_self.2]
  intro x hx
  have hne := List.lookup_eq_none_iff.1 h x hx
  simpa [bne, BEq.comm] using hne

theorem find?_put (d : Disk) (p q : Location) (e : Entry) :
    (d.put p e).find? q = if q = p then some e else d.find? q := by
  unfold put
  -- what was at the place is replaced where it stands, or the entry comes last
  cases hp : d.find? p with
  | some old =>
      have hlookup : d.entries.lookup p = some old := hp
      simp [find?, lookup_map_replace, hlookup]
  | none =>
      have hlookup : d.entries.lookup p = none := hp
      by_cases hq : q = p
      · simp [find?, List.lookup_append, hq, hlookup]
      · have hne : (q == p) = false := by simpa using hq
        simp [find?, List.lookup_append, hq, hne, List.lookup_cons]

theorem find?_of_mem_names {d : Disk} {place : Location} {n : String} (h : n ∈ d.names place) :
    ∃ e, d.find? (place ++ [n]) = some e := by
  obtain ⟨x, hx, hname⟩ := List.mem_filterMap.1 h
  have hplace : x.1 = place ++ [n] := by
    cases hlast : x.1.getLast? with
    | none => simp [hlast] at hname
    | some last =>
        obtain ⟨way, hway⟩ := List.getLast?_eq_some_iff.1 hlast
        simp only [hway, List.dropLast_concat] at hname
        grind
  cases hfind : d.find? (place ++ [n]) with
  | some e => exact ⟨e, rfl⟩
  | none => simpa [hplace] using List.lookup_eq_none_iff.1 hfind x hx

/-! ## §2 Walks -/

/-- Whether no walk passes a place: there is nothing, or a file. -/
def Blocked (d : Disk) (q : Location) : Prop :=
  ∀ e, d.find? q = some e → ∃ bytes, e.node = .file bytes

instance (d : Disk) (q : Location) : Decidable (d.Blocked q) :=
  match h : d.find? q with
  | none => isTrue (by simp [Blocked, h])
  | some ⟨.file bytes, owner, mode⟩ => isTrue (by simp [Blocked, h])
  | some ⟨.directory, owner, mode⟩ => isFalse (by simp [Blocked, h])
  | some ⟨.link target, owner, mode⟩ => isFalse (by simp [Blocked, h])

theorem Blocked.not_directory {d : Disk} {q : Location} (hq : d.Blocked q) {e : Entry}
    (he : d.find? q = some e) : e.isDirectory = false := by
  obtain ⟨bytes, hbytes⟩ := hq e he
  simp [Entry.isDirectory, hbytes]

/-- Two disks that agree but for one blocked place. -/
structure AgreeBut (d d' : Disk) (q : Location) : Prop where
  blocked : d.Blocked q
  user : d'.user = d.user
  current : d'.current = d.current
  find : ∀ p, p ≠ q → d'.find? p = d.find? p

theorem AgreeBut.refl {d : Disk} {q : Location} (h : d.Blocked q) : d.AgreeBut d q :=
  ⟨h, rfl, rfl, fun _ _ => rfl⟩

theorem AgreeBut.erase {d : Disk} {q : Location} (h : d.Blocked q) : d.AgreeBut (d.erase q) q :=
  ⟨h, rfl, rfl, fun p hp => by rw [find?_erase, if_neg hp]⟩

theorem AgreeBut.put {d : Disk} {q : Location} (h : d.Blocked q) (e : Entry) :
    d.AgreeBut (d.put q e) q where
  blocked := h
  user := by
    unfold Disk.put
    cases d.find? q <;> rfl
  current := by
    unfold Disk.put
    cases d.find? q <;> rfl
  find p hp := by rw [find?_put, if_neg hp]

theorem AgreeBut.allows {d d' : Disk} {q : Location} (agree : d.AgreeBut d' q) (e : Entry)
    (bit : Nat) : d'.allows e bit = d.allows e bit := by
  unfold Disk.allows
  rw [agree.user]

theorem Blocked.not_aim {d : Disk} {q : Location} (hq : d.Blocked q) (step : String) (barred : Bool)
    (a : Aim) : d.aim q step barred ≠ .ok a := by
  intro haim
  obtain ⟨e, hfind, hdir, -⟩ := passable_of_aim haim
  simp [hq.not_directory hfind] at hdir

/-- A step that is taken on one disk is taken on the other: it leaves from another place than the
blocked one. -/
theorem AgreeBut.aim {d d' : Disk} {q place : Location} {step : String} {barred : Bool} {a : Aim}
    (agree : d.AgreeBut d' q) (h : d.aim place step barred = .ok a) :
    d'.aim place step false = .ok a := by
  have hne : place ≠ q := by
    rintro rfl
    exact agree.blocked.not_aim step barred a h
  rw [aim_congr (agree.find place hne) agree.user]
  exact aim_open h

/-- A walk that comes to a blocked place ends there. -/
theorem follow_blocked {d : Disk} {final : Final}
    {jump : Location → List String → Except Errno Place} {steps : List String} {q x : Location}
    {e : Entry} (hq : d.Blocked q) (h : d.follow final jump q steps = .ok (.found x e)) : x = q := by
  cases steps with
  | nil =>
      unfold follow at h
      grind
  | cons step steps =>
      rcases follow_cons_cases h with ⟨_, haim, -⟩ | ⟨haim, -⟩
      · exact absurd haim (hq.not_aim step _ _)
      · exact absurd haim (hq.not_aim step _ _)

section Carry

variable {d d' : Disk} {q x : Location} {e : Entry} {final : Final} {rest : List String}
  {out : Except Errno Place}

theorem isBarred_append (hrest : final ≠ .follow → rest ≠ [] ∧ rest ≠ [Route.closing])
    (steps : List String) : isBarred final (steps ++ rest) = false := by
  rw [Bool.eq_false_iff]
  intro hbarred
  obtain ⟨rfl, hsingle⟩ : final = .create ∧ steps ++ rest = [Route.closing] := by
    simpa [isBarred] using hbarred
  obtain ⟨hne, hne'⟩ := hrest (by simp)
  rcases List.append_eq_singleton_iff.1 hsingle with ⟨-, hclosing⟩ | ⟨-, hnil⟩
  · exact hne' hclosing
  · exact hne hnil

/-- A name on the way is the name of the same entry on both disks, unless the way ends at the blocked
place. -/
theorem arrive_carry {jump jump' : Location → List String → Except Errno Place} {place : Location}
    {step : String} {steps : List String} (agree : d.AgreeBut d' q) (hx : x ≠ q)
    (hrest : final ≠ .follow → rest ≠ [] ∧ rest ≠ [Route.closing])
    (hjump : ∀ p ss, jump p ss = .ok (.found x e) → jump' p (ss ++ rest) = out)
    (hsteps : ∀ p, d.follow .follow jump p steps = .ok (.found x e) →
      d'.follow final jump' p (steps ++ rest) = out)
    (h : d.arrive .follow jump place step steps = .ok (.found x e)) :
    d'.arrive final jump' place step (steps ++ rest) = out := by
  unfold arrive at h ⊢
  cases hchild : d.find? (place ++ [step]) with
  | none => grind
  | some child =>
      obtain ⟨node, owner, mode⟩ := child
      rw [hchild] at h
      by_cases hq : place ++ [step] = q
      · -- the walk would end at the blocked place
        obtain ⟨bytes, rfl⟩ : ∃ bytes, node = .file bytes := agree.blocked _ (hq ▸ hchild)
        exact absurd (follow_blocked (hq ▸ agree.blocked) h) (hq ▸ hx)
      rw [agree.find _ hq, hchild]
      cases node with
      | file bytes => exact hsteps _ h
      | directory => exact hsteps _ h
      | link target =>
          have hkeep : ¬ ((steps ++ rest).isEmpty = true ∧ final = .keep) := by
            rintro ⟨hempty, rfl⟩
            exact (hrest (by simp)).1 (List.append_eq_nil_iff.1 (List.isEmpty_iff.1 hempty)).2
          simp only [reduceCtorEq, and_false, if_false] at h
          simp only [hkeep, if_false, ← List.append_assoc]
          exact hjump _ _ h

/-- Steps that lead to something on one disk, and further steps behind them, lead on another disk
to where the further steps lead from there. -/
theorem follow_carry {jump jump' : Location → List String → Except Errno Place}
    (agree : d.AgreeBut d' q) (hx : x ≠ q)
    (hrest : final ≠ .follow → rest ≠ [] ∧ rest ≠ [Route.closing])
    (hjump : ∀ p ss, jump p ss = .ok (.found x e) → jump' p (ss ++ rest) = out)
    (hout : ∀ jump, d'.follow final jump x rest = out) :
    ∀ steps place, d.follow .follow jump place steps = .ok (.found x e) →
      d'.follow final jump' place (steps ++ rest) = out := by
  intro steps
  -- on the steps; at each of them both disks say the same
  induction steps with
  | nil =>
      intro place h
      unfold follow at h
      cases hplace : d.find? place with
      | none => simp [hplace] at h
      | some e0 =>
          simp only [hplace, Except.ok.injEq, Place.found.injEq] at h
          rw [h.1]
          exact hout jump'
  | cons step steps ih =>
      intro place h
      rw [List.cons_append, follow_cons, isBarred_append hrest]
      rcases follow_cons_cases h with ⟨place', haim, h⟩ | ⟨haim, h⟩
      · rw [agree.aim haim]
        exact ih place' h
      · rw [agree.aim haim]
        exact arrive_carry agree hx hrest hjump ih h

/-- A walk that leads to something on one disk, and further steps behind it, lead on another disk
to where the further steps lead from there. -/
theorem walk_carry (agree : d.AgreeBut d' q) (hx : x ≠ q)
    (hrest : final ≠ .follow → rest ≠ [] ∧ rest ≠ [Route.closing])
    (hout : ∀ jump, d'.follow final jump x rest = out) :
    ∀ links place steps, d.walk .follow links place steps = .ok (.found x e) →
      d'.walk final links place (steps ++ rest) = out := by
  intro links
  -- on the links that may still be followed
  induction links with
  | zero =>
      intro place steps h
      exact follow_carry agree hx hrest (by simp) hout steps place h
  | succ links ih =>
      intro place steps h
      exact follow_carry agree hx hrest (fun p ss => ih p ss) hout steps place h

end Carry

/-! ## §3 A directory and the names in it -/

/-- A path leads to a directory at a place, in which the user may make and remove things. -/
def Holds (d : Disk) (dir : Path) (home : Location) : Prop :=
  ∃ e, d.find? home = some e ∧ e.isDirectory = true ∧ d.allows e 1 = true ∧ d.allows e 2 = true ∧
    d.resolve .follow dir.text = .ok (.found home e)

instance (d : Disk) (dir : Path) (home : Location) : Decidable (d.Holds dir home) :=
  decidable_of_iff (∃ e ∈ d.find? home, e.isDirectory = true ∧ d.allows e 1 = true ∧
    d.allows e 2 = true ∧ d.resolve .follow dir.text = .ok (.found home e)) Iff.rfl

/-- Whether a name is one that an entry of a directory can have, whatever the directory is. -/
def isEntryName (n : String) : Bool :=
  isPart n && n != Route.above && n.utf8ByteSize ≤ stepLimit

theorem walk_eq_follow (d : Disk) (final : Final) (links : Nat) :
    ∃ jump, d.walk final links = d.follow final jump := by
  cases links with
  | zero => exact ⟨_, rfl⟩
  | succ links => exact ⟨_, rfl⟩

/-- A name that is accepted is resolved by a walk alone. -/
theorem resolve_of_checkName {d : Disk} {final : Final} {name : String}
    (h : checkName name = .ok ()) :
    d.resolve final name =
      match d.walk final linkLimit (d.start (Route.ofText name)) (Route.ofText name).steps with
      | .ok place => .ok place
      | .error e => .error (.os e name) := by
  unfold resolve
  rw [h]
  rfl

theorem checkName_of_resolve {d : Disk} {final : Final} {name : String} {place : Place}
    (h : d.resolve final name = .ok place) : checkName name = .ok () := by
  cases hcheck : checkName name with
  | ok _ => rfl
  | error fault => simp [resolve, hcheck, bind, Except.bind] at h

/-- The parts of a path lead to where its text does. -/
theorem walk_parts_of_resolve {d : Disk} {dir : Path} {home : Location} {e : Entry}
    (hresolve : d.resolve .follow dir.text = .ok (.found home e)) :
    d.walk .follow linkLimit (if dir.isAbsolute then [] else d.current) dir.parts =
      .ok (.found home e) := by
  rw [resolve_of_checkName (checkName_of_resolve hresolve)] at hresolve
  have hwalk : d.walk .follow linkLimit (d.start (Route.ofText dir.text))
      (Route.ofText dir.text).steps = .ok (.found home e) := by
    grind
  -- the text of a path without parts is a dot, or slashes alone
  by_cases hparts : dir.parts = []
  · rw [Route.ofText_text_nil hparts] at hwalk
    rw [hparts]
    cases habs : dir.isAbsolute with
    | true => simpa [habs, start] using hwalk
    | false =>
        simp only [habs, start, Bool.false_eq_true, if_false] at hwalk ⊢
        obtain ⟨jump, hjump⟩ := d.walk_eq_follow .follow linkLimit
        rw [hjump] at hwalk ⊢
        rw [follow] at hwalk
        grind
  · rw [Route.ofText_text hparts] at hwalk
    exact hwalk

/-- A change at a blocked place leaves the way to a directory as it is. -/
theorem resolve_carry {d d' : Disk} {q home : Location} {name : String} {e : Entry}
    (agree : d.AgreeBut d' q) (hfind : d.find? home = some e) (hdir : e.isDirectory = true)
    (hresolve : d.resolve .follow name = .ok (.found home e)) :
    d'.resolve .follow name = .ok (.found home e) := by
  have hne : home ≠ q := by
    rintro rfl
    simp [agree.blocked.not_directory hfind] at hdir
  have hcheck := checkName_of_resolve hresolve
  rw [resolve_of_checkName hcheck] at hresolve ⊢
  have hwalk : d.walk .follow linkLimit (d.start (Route.ofText name)) (Route.ofText name).steps =
      .ok (.found home e) := by
    grind
  have hstart : d'.start (Route.ofText name) = d.start (Route.ofText name) := by
    simp [start, agree.current]
  have hend : ∀ jump, d'.follow .follow jump home [] = .ok (.found home e) := by
    intro jump
    simp [follow, agree.find home hne, hfind]
  have hwalk' := walk_carry agree hne (by simp) hend _ _ _ hwalk
  rw [List.append_nil] at hwalk'
  rw [hstart, hwalk']

namespace Holds

variable {d d' : Disk} {dir : Path} {home q : Location} {n : String}

theorem walk_parts (h : d.Holds dir home) :
    ∃ e, d.find? home = some e ∧ e.isDirectory = true ∧ d.allows e 1 = true ∧
      d.allows e 2 = true ∧
      d.walk .follow linkLimit (if dir.isAbsolute then [] else d.current) dir.parts =
        .ok (.found home e) := by
  obtain ⟨e, hfind, hdir, hpass, hwrite, hresolve⟩ := h
  exact ⟨e, hfind, hdir, hpass, hwrite, walk_parts_of_resolve hresolve⟩

theorem mayChange (h : d.Holds dir home) (n : String) : d.mayChange (home ++ [n]) = true := by
  obtain ⟨e, hfind, -, hpass, hwrite, -⟩ := h
  simp [Disk.mayChange, hfind, hpass, hwrite]

/-- A change at a blocked place leaves the directory where it is. -/
theorem carry (h : d.Holds dir home) (agree : d.AgreeBut d' q) : d'.Holds dir home := by
  obtain ⟨e, hfind, hdir, hpass, hwrite, hresolve⟩ := h
  have hne : home ≠ q := by
    rintro rfl
    simp [agree.blocked.not_directory hfind] at hdir
  exact ⟨e, by rw [agree.find home hne, hfind], hdir, by rw [agree.allows, hpass],
    by rw [agree.allows, hwrite], resolve_carry agree hfind hdir hresolve⟩

theorem isPart_of_isEntryName (hn : isEntryName n = true) :
    isPart n = true ∧ n ≠ Route.closing ∧ n ≠ Route.here ∧ n ≠ Route.above ∧
      ¬ n.utf8ByteSize > stepLimit := by
  simp only [isEntryName, Bool.and_eq_true, bne_iff_ne, ne_eq, decide_eq_true_eq] at hn
  obtain ⟨⟨hpart, habove⟩, hsize⟩ := hn
  obtain ⟨hempty, hdot, -⟩ := isPart_iff.1 hpart
  exact ⟨hpart, hempty, hdot, habove, by omega⟩

theorem route_child (hn : isEntryName n = true) :
    Route.ofText (dir.child n).text = ⟨dir.isAbsolute, dir.parts ++ [n]⟩ := by
  obtain ⟨hpart, -⟩ := isPart_of_isEntryName hn
  have hparts := dir.parts_child hpart
  rw [Route.ofText_text (by simp [hparts]), hparts, dir.isAbsolute_child hpart]

/-- A route to a name ends with the name. -/
theorem ending?_concat (hclosing : n ≠ Route.closing) :
    (Route.mk dir.isAbsolute (dir.parts ++ [n])).ending? = some ⟨dir.parts, n, false⟩ := by
  unfold Route.ending?
  rcases hparts : dir.parts.reverse with _ | ⟨last, way⟩
  · simp [List.reverse_eq_nil_iff.1 hparts]
  · have hway : dir.parts = way.reverse ++ [last] := by simpa using congrArg List.reverse hparts
    simp [hway, hclosing]

/-- A name in the directory resolves to the place below the directory. -/
theorem resolve_child (h : d.Holds dir home) (hn : isEntryName n = true)
    (hname : checkName (dir.child n).text = .ok ()) (hblocked : d.Blocked (home ++ [n]))
    (final : Final) :
    d.resolve final (dir.child n).text = .ok
      (match d.find? (home ++ [n]) with
        | some e => .found (home ++ [n]) e
        | none => .free (home ++ [n])) := by
  obtain ⟨e, hfind, hdir, hpass, -, hwalk⟩ := h.walk_parts
  obtain ⟨-, hclosing, hhere, habove, hsize⟩ := isPart_of_isEntryName hn
  have hne : home ≠ home ++ [n] := by simp
  have hend : ∀ jump, d.follow final jump home [n] = .ok
      (match d.find? (home ++ [n]) with
        | some e => .found (home ++ [n]) e
        | none => .free (home ++ [n])) := by
    intro jump
    rw [follow, hfind]
    simp only [hdir, hclosing, hpass, hhere, habove, hsize, Bool.not_true, Bool.false_eq_true,
      if_false, List.nil_eq, reduceCtorEq, and_false]
    -- the place is blocked: there is nothing, or a file at which the name ends
    cases hchild : d.find? (home ++ [n]) with
    | none => simp
    | some e1 =>
        obtain ⟨bytes, hbytes⟩ := hblocked e1 hchild
        obtain ⟨node, owner, mode⟩ := e1
        simp only at hbytes
        subst hbytes
        simp [follow, hchild]
  rw [resolve_of_checkName hname, route_child hn]
  have hwalk' := walk_carry (AgreeBut.refl hblocked) hne
    (fun _ => ⟨by simp, by simpa using hclosing⟩) hend _ _ _ hwalk
  simp only [start, hwalk']

/-- A name in the directory ends at the place below the directory, whatever is there. -/
theorem spot_name (h : d.Holds dir home) (hn : isEntryName n = true)
    (hname : checkName (dir.child n).text = .ok ()) (hblocked : d.Blocked q) (hne : home ≠ q) :
    d.spot (dir.child n).text = .ok (.named (home ++ [n]) false) := by
  obtain ⟨e, hfind, hdir, hpass, -, hwalk⟩ := h.walk_parts
  obtain ⟨-, hclosing, hhere, habove, hsize⟩ := isPart_of_isEntryName hn
  have hend : ∀ jump, d.follow .follow jump home [Route.closing] = .ok (.found home e) := by
    intro jump
    simp [follow, hfind, hdir]
  have hwalk' := walk_carry (AgreeBut.refl hblocked) hne (by simp) hend _ _ _ hwalk
  unfold spot
  rw [hname, route_child hn]
  simp only [bind, Except.bind, ending?_concat hclosing, start, hwalk', hhere, habove, hpass, hsize,
    or_self, Bool.not_true, Bool.false_eq_true, if_false]

theorem spot_child (h : d.Holds dir home) (hn : isEntryName n = true)
    (hname : checkName (dir.child n).text = .ok ()) (hblocked : d.Blocked (home ++ [n])) :
    d.spot (dir.child n).text = .ok (.named (home ++ [n]) false) :=
  h.spot_name hn hname hblocked (by simp)

/-- Removing a name in the directory removes what is at its place, which is no directory, or
nothing. -/
theorem unlinkIfThere_cases (h : d.Holds dir home) (hn : isEntryName n = true)
    (hblocked : d.Blocked q) (hne : home ≠ q)
    (hd' : d.unlinkIfThere (dir.child n).text = .ok d') :
    d' = d ∨ ∃ e, d.find? (home ++ [n]) = some e ∧ e.isDirectory = false ∧
      d' = d.erase (home ++ [n]) := by
  unfold unlinkIfThere unlink at hd'
  cases hcheck : checkName (dir.child n).text with
  | error fault =>
      -- a name that is refused is not removed
      have hspot : d.spot (dir.child n).text = .error fault := by
        unfold spot
        rw [hcheck]
        rfl
      simp only [hspot, bind, Except.bind] at hd'
      left
      grind
  | ok _ =>
      simp only [h.spot_name hn hcheck hblocked hne, bind, Except.bind] at hd'
      cases hfind : d.find? (home ++ [n]) with
      | none =>
          simp only [hfind, Except.ok.injEq] at hd'
          exact Or.inl hd'.symm
      | some e =>
          simp only [hfind, Bool.false_eq_true, if_false] at hd'
          right
          grind

end Holds

/-! ## §4 Operations on an entry -/

/-- A path leads to a directory at a place, in which a name belongs to a file or is free. -/
structure Keeps (d : Disk) (dir : Path) (home : Location) (n : String) : Prop where
  /-- The user may make and remove things in the directory. -/
  holds : d.Holds dir home
  /-- The name is one that an entry can have. -/
  named : isEntryName n = true
  /-- The path of the entry is not refused. -/
  accepted : checkName (dir.child n).text = .ok ()
  /-- There is nothing under the name, or a file. -/
  blocked : d.Blocked (home ++ [n])

instance (d : Disk) (dir : Path) (home : Location) (n : String) : Decidable (d.Keeps dir home n) :=
  decidable_of_iff (d.Holds dir home ∧ isEntryName n = true ∧ checkName (dir.child n).text = .ok () ∧
      d.Blocked (home ++ [n]))
    ⟨fun ⟨hholds, hnamed, haccepted, hblocked⟩ => ⟨hholds, hnamed, haccepted, hblocked⟩,
      fun h => ⟨h.holds, h.named, h.accepted, h.blocked⟩⟩

namespace Keeps

variable {d d' : Disk} {dir : Path} {home : Location} {n : String}

theorem resolve_eq (h : d.Keeps dir home n) (final : Final) :
    d.resolve final (dir.child n).text = .ok
      (match d.find? (home ++ [n]) with
        | some e => .found (home ++ [n]) e
        | none => .free (home ++ [n])) :=
  h.holds.resolve_child h.named h.accepted h.blocked final

/-- Whether there is an entry is no matter of failure. -/
theorem exists?_eq (h : d.Keeps dir home n) :
    d.exists? (dir.child n).text = .ok (d.find? (home ++ [n])).isSome := by
  unfold exists? leadsTo? status
  rw [h.resolve_eq]
  cases d.find? (home ++ [n]) <;> rfl

/-- What is read from an entry is what the file there holds. -/
theorem find?_of_read (h : d.Keeps dir home n) {bytes : List UInt8}
    (hread : d.read (dir.child n).text = .ok bytes) :
    ∃ e, d.find? (home ++ [n]) = some e ∧ e.node = .file bytes := by
  unfold Disk.read status at hread
  rw [h.resolve_eq] at hread
  cases hfind : d.find? (home ++ [n]) with
  | none => simp [hfind, bind, Except.bind] at hread
  | some e =>
      obtain ⟨held, hheld⟩ := h.blocked e hfind
      refine ⟨e, rfl, ?_⟩
      simp only [hfind, bind, Except.bind, hheld] at hread
      grind

/-- An entry that is there can be removed. -/
theorem unlinkIfThere_eq (h : d.Keeps dir home n) (hthere : (d.find? (home ++ [n])).isSome) :
    d.unlinkIfThere (dir.child n).text = .ok (d.erase (home ++ [n])) := by
  obtain ⟨e, hfind⟩ := Option.isSome_iff_exists.1 hthere
  have hnot := h.blocked.not_directory hfind
  unfold unlinkIfThere unlink
  rw [h.holds.spot_child h.named h.accepted h.blocked]
  simp [bind, Except.bind, hfind, hnot, h.holds.mayChange n]

/-- What is written to an entry comes to its place and nowhere else. -/
theorem eq_put_of_write (h : d.Keeps dir home n) {bytes : List UInt8}
    (hwrite : d.write (dir.child n).text bytes = .ok d') :
    ∃ owner mode, d' = d.put (home ++ [n]) ⟨.file bytes, owner, mode⟩ := by
  unfold Disk.write at hwrite
  rw [h.resolve_eq] at hwrite
  cases hfind : d.find? (home ++ [n]) with
  | none =>
      simp only [hfind, bind, Except.bind] at hwrite
      by_cases hmay : d.mayChange (home ++ [n]) = true
      · exact ⟨d.user, fileMode, by simpa [hmay, eq_comm] using hwrite⟩
      · simp [hmay] at hwrite
  | some e =>
      simp only [hfind, bind, Except.bind, h.blocked.not_directory hfind, Bool.false_eq_true,
        if_false] at hwrite
      -- the file keeps its owner, and its mode but for bits that writing takes away
      by_cases hallows : d.allows e 2 = true
      · exact ⟨e.owner, writtenMode e.mode, by simpa [hallows, eq_comm] using hwrite⟩
      · simp [hallows] at hwrite

theorem erase (h : d.Keeps dir home n) : (d.erase (home ++ [n])).Keeps dir home n where
  holds := h.holds.carry (AgreeBut.erase h.blocked)
  named := h.named
  accepted := h.accepted
  blocked := by
    intro e he
    simp [find?_erase] at he

theorem put (h : d.Keeps dir home n) (bytes : List UInt8) (owner mode : Nat) :
    (d.put (home ++ [n]) ⟨.file bytes, owner, mode⟩).Keeps dir home n where
  holds := h.holds.carry (AgreeBut.put h.blocked _)
  named := h.named
  accepted := h.accepted
  blocked := by
    intro e he
    rw [find?_put, if_pos rfl, Option.some.injEq] at he
    exact ⟨bytes, he ▸ rfl⟩

/-- A change at a blocked place elsewhere leaves the entry where it is. -/
theorem carry (h : d.Keeps dir home n) {q : Location} (agree : d.AgreeBut d' q)
    (hq : home ++ [n] ≠ q) : d'.Keeps dir home n where
  holds := h.holds.carry agree
  named := h.named
  accepted := h.accepted
  blocked := by
    intro e he
    rw [agree.find _ hq] at he
    exact h.blocked e he

theorem read_carry (h : d.Keeps dir home n) {q : Location} (agree : d.AgreeBut d' q)
    (hq : home ++ [n] ≠ q) : d'.read (dir.child n).text = d.read (dir.child n).text := by
  unfold Disk.read status
  rw [h.resolve_eq, (h.carry agree hq).resolve_eq, agree.find _ hq]
  cases d.find? (home ++ [n]) with
  | none => rfl
  | some e => simp only [bind, Except.bind, agree.allows]

theorem read_erase (h : d.Keeps dir home n) :
    (d.erase (home ++ [n])).read (dir.child n).text =
      .error (.os .noEntry (dir.child n).text) := by
  unfold Disk.read status
  rw [h.erase.resolve_eq, find?_erase, if_pos rfl]
  rfl

end Keeps

/-! ## §5 Changes that make no files -/

theorem eq_erase_of_unlink {d d' : Disk} {name : String} (h : d.unlink name = .ok d') :
    ∃ q, d' = d.erase q := by
  unfold unlink at h
  simp only [bind, Except.bind] at h
  grind

/-- Removing a name takes away what is at one place, if anything. -/
theorem eq_erase_of_unlinkIfThere {d d' : Disk} {name : String}
    (h : d.unlinkIfThere name = .ok d') : d' = d ∨ ∃ q, d' = d.erase q := by
  unfold unlinkIfThere at h
  cases hunlink : d.unlink name with
  | ok d'' =>
      simp only [hunlink, Except.ok.injEq] at h
      subst h
      exact Or.inr (eq_erase_of_unlink hunlink)
  | error fault =>
      rw [hunlink] at h
      left
      grind

/-- Whether whatever is new on a second disk is a directory. -/
def OnlyDirectoriesNew (d d' : Disk) : Prop :=
  ∀ q e, d'.find? q = some e → d.find? q = some e ∨ e.isDirectory = true

theorem OnlyDirectoriesNew.refl (d : Disk) : d.OnlyDirectoriesNew d :=
  fun _ _ h => Or.inl h

theorem OnlyDirectoriesNew.trans {d₁ d₂ d₃ : Disk} (h : d₁.OnlyDirectoriesNew d₂)
    (h' : d₂.OnlyDirectoriesNew d₃) : d₁.OnlyDirectoriesNew d₃ := by
  intro q e hq
  rcases h' q e hq with hold | hdir
  · exact h q e hold
  · exact Or.inr hdir

theorem onlyDirectoriesNew_erase (d : Disk) (p : Location) : d.OnlyDirectoriesNew (d.erase p) := by
  intro q e hq
  rw [find?_erase] at hq
  left
  grind

/-- Making a directory puts it at a free place, which is where the name ends. -/
theorem eq_put_of_makeDirectory {d d' : Disk} {name : String} {mode : Nat}
    (h : d.makeDirectory name mode = .ok d') :
    ∃ place closed, d.spot name = .ok (.named place closed) ∧ d.find? place = none ∧
      d' = d.put place ⟨.directory, d.user, d.inherited place mode⟩ := by
  unfold makeDirectory make at h
  simp only [bind, Except.bind] at h
  -- the name has to end at a place of its own
  cases hspot : d.spot name with
  | error fault => simp [hspot] at h
  | ok spot =>
      cases spot with
      | unnamed step => simp [hspot] at h
      | named place closed =>
          simp only [hspot] at h
          refine ⟨place, closed, rfl, ?_, ?_⟩
          · cases hfind : d.find? place with
            | none => rfl
            | some e => simp [hfind] at h
          · grind

/-- What relates a disk to itself, and to the disk after one directory is made, relates it to the disk
after a directory is made with all directories above it. -/
theorem of_ensureWithin {R : Disk → Disk → Prop} (refl : ∀ d, R d d)
    (trans : ∀ {d₁ d₂ d₃}, R d₁ d₂ → R d₂ d₃ → R d₁ d₃)
    (make : ∀ {d d' name mode}, d.makeDirectory name mode = .ok d' → R d d') {d d' : Disk}
    {above : Nat} {p : Path} {mode : Nat} (h : d.ensureWithin above p mode = .ok d') : R d d' := by
  have hensure : ∀ {d d' : Disk} {name mode}, d.ensure name mode = .ok d' → R d d' := by
    intro d d' name mode h
    unfold ensure at h
    cases hmake : d.makeDirectory name mode with
    | ok d'' =>
        simp only [hmake, Except.ok.injEq] at h
        subst h
        exact make hmake
    | error fault =>
        have hsame : d' = d := by
          rw [hmake] at h
          simp only [bind, Except.bind] at h
          grind
        rw [hsame]
        exact refl d
  -- on the number of directories above that may be missing
  induction above generalizing d d' p mode with
  | zero => exact hensure h
  | succ above ih =>
      unfold ensureWithin at h
      cases hfirst : d.ensure p.text mode with
      | ok d'' =>
          simp only [hfirst, Except.ok.injEq] at h
          subst h
          exact hensure hfirst
      | error fault =>
          rw [hfirst] at h
          cases habove : d.ensureWithin above p.parent directoryMode with
          | error fault' =>
              simp only [habove, bind, Except.bind] at h
              grind
          | ok d'' =>
              simp only [habove, bind, Except.bind] at h
              have hlast : d''.ensure p.text mode = .ok d' := by grind
              exact trans (ih habove) (hensure hlast)

theorem onlyDirectoriesNew_makeDirectory {d d' : Disk} {name : String} {mode : Nat}
    (h : d.makeDirectory name mode = .ok d') : d.OnlyDirectoriesNew d' := by
  obtain ⟨place, -, -, -, rfl⟩ := eq_put_of_makeDirectory h
  intro q e hq
  rw [find?_put] at hq
  by_cases hplace : q = place
  · right
    simp only [hplace, if_true, Option.some.injEq] at hq
    simp [← hq, Entry.isDirectory]
  · left
    simpa [hplace] using hq

/-- Making a directory with all directories above it makes nothing else. -/
theorem onlyDirectoriesNew_ensureWithin {d d' : Disk} {above : Nat} {p : Path} {mode : Nat}
    (h : d.ensureWithin above p mode = .ok d') : d.OnlyDirectoriesNew d' :=
  of_ensureWithin OnlyDirectoriesNew.refl OnlyDirectoriesNew.trans onlyDirectoriesNew_makeDirectory h

end Disk

end WasmGauge.Storage
