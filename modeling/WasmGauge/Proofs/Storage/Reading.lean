import Mathlib.Data.List.Induction
import WasmGauge.Proofs.Storage.Entries

/-!
# Reading files

The bytes of a file are read if its name leads to the file and the user may read it. Everything else
is a refusal of the operating system, with one of few causes; only a name with the character that ends
names is refused before that.

## Main statements

- `Disk.read_eq_ok_iff`: when bytes are read.
- `Disk.read_eq_error_iff`: why nothing is read.
- `Disk.hindersReading_of_read`: the causes that there can be.
-/

namespace WasmGauge.Storage

/-- The causes for which a file cannot be read. -/
def Errno.hindersReading : Errno → Bool
  | .noEntry | .noPermission | .notDirectory | .isDirectory | .nameTooLong | .loop => true
  | .busy | .exists | .invalid | .notEmpty => false

namespace Disk

/-! ## §1 Names -/

/-- What is wrong with a name is that it holds the character that ends names, or the operating system
says so. -/
theorem checkName_cases (name : String) :
    (holdsNull name = true ∧ checkName name = .error .nullByte) ∨
      (holdsNull name = false ∧
        (checkName name = .ok () ∨ ∃ e, checkName name = .error (.os e name))) := by
  unfold checkName
  by_cases hnull : holdsNull name = true
  · exact .inl ⟨hnull, if_pos hnull⟩
  · refine .inr ⟨by simpa using hnull, ?_⟩
    rw [if_neg hnull]
    by_cases hempty : name = ""
    · exact .inr ⟨.noEntry, if_pos hempty⟩
    · rw [if_neg hempty]
      by_cases hlong : name.utf8ByteSize > nameLimit
      · exact .inr ⟨.nameTooLong, if_pos hlong⟩
      · exact .inl (if_neg hlong)

/-- A name that is refused leads nowhere, for the same reason. -/
theorem resolve_of_checkName_error {name : String} {fault : DiskFault}
    (hcheck : checkName name = .error fault) (d : Disk) (final : Final) :
    d.resolve final name = .error fault := by
  unfold resolve
  rw [hcheck]
  rfl

theorem status_of_resolve_error {d : Disk} {name : String} {fault : DiskFault}
    (hresolve : d.resolve .follow name = .error fault) : d.status name = .error fault := by
  unfold status
  rw [hresolve]
  rfl

theorem read_of_status_error {d : Disk} {name : String} {fault : DiskFault}
    (hstatus : d.status name = .error fault) : d.read name = .error fault := by
  unfold Disk.read
  rw [hstatus]
  rfl

theorem status_cases (d : Disk) (name : String) :
    (holdsNull name = true ∧ d.status name = .error .nullByte) ∨
      (holdsNull name = false ∧
        ((∃ e, d.status name = .ok e) ∨ ∃ e, d.status name = .error (.os e name))) := by
  rcases checkName_cases name with ⟨hnull, hcheck⟩ | ⟨hnull, hcheck | ⟨e, hcheck⟩⟩
  · exact .inl ⟨hnull, status_of_resolve_error (resolve_of_checkName_error hcheck d .follow)⟩
  · refine .inr ⟨hnull, ?_⟩
    unfold status
    -- the name is accepted, and so what refuses it from here on is the operating system
    rw [resolve_of_checkName hcheck]
    cases d.walk .follow linkLimit (d.start (Route.ofText name)) (Route.ofText name).steps with
    | error e => exact .inr ⟨e, rfl⟩
    | ok place =>
      cases place with
      | found p e => exact .inl ⟨e, rfl⟩
      | free p => exact .inr ⟨.noEntry, rfl⟩
  · have hresolve := resolve_of_checkName_error hcheck d .follow
    exact .inr ⟨hnull, .inr ⟨e, status_of_resolve_error hresolve⟩⟩

theorem read_cases (d : Disk) (name : String) :
    (holdsNull name = true ∧ d.read name = .error .nullByte) ∨
      (holdsNull name = false ∧
        ((∃ bytes, d.read name = .ok bytes) ∨ ∃ e, d.read name = .error (.os e name))) := by
  rcases d.status_cases name with ⟨hnull, hstatus⟩ | ⟨hnull, ⟨e, hstatus⟩ | ⟨e, hstatus⟩⟩
  · exact .inl ⟨hnull, read_of_status_error hstatus⟩
  · refine .inr ⟨hnull, ?_⟩
    unfold Disk.read
    rw [hstatus]
    simp only [bind, Except.bind]
    cases d.allows e 4 with
    | false => exact .inr ⟨.noPermission, rfl⟩
    | true =>
      cases e.node with
      | file bytes => exact .inl ⟨bytes, rfl⟩
      | directory => exact .inr ⟨.isDirectory, rfl⟩
      | link target => exact .inr ⟨.isDirectory, rfl⟩
  · exact .inr ⟨hnull, .inr ⟨e, read_of_status_error hstatus⟩⟩

/-! ## §2 What is read -/

variable {d : Disk} {name : String}

/-- Where a name leads decides what is read. -/
theorem read_eq (d : Disk) (name : String) :
    d.read name =
      match d.resolve .follow name with
      | .error fault => .error fault
      | .ok (.free _) => .error (.os .noEntry name)
      | .ok (.found _ e) =>
        if !d.allows e 4 then .error (.os .noPermission name)
        else
          match e.node with
          | .file bytes => .ok bytes
          | _ => .error (.os .isDirectory name) := by
  unfold read status
  -- on where the name leads, because all that is refused behind it depends on what is there
  cases d.resolve .follow name with
  | error fault => rfl
  | ok place =>
    cases place with
    | free place => rfl
    | found place e => rfl

/-- Bytes are read if the name leads to a file with them that the user may read. -/
theorem read_eq_ok_iff {bytes : List UInt8} :
    d.read name = .ok bytes ↔
      ∃ place e, d.resolve .follow name = .ok (.found place e) ∧ e.node = .file bytes ∧
        d.allows e 4 = true := by
  rw [read_eq]
  constructor
  · intro h
    split at h
    · cases h
    · cases h
    · next place e hresolve =>
      cases hallowed : d.allows e 4 with
      | false => simp [hallowed] at h
      | true =>
        cases hnode : e.node with
        | file bytes' =>
          simp only [hallowed, hnode, Bool.not_true, Bool.false_eq_true, if_false,
            Except.ok.injEq] at h
          exact ⟨place, e, hresolve, h ▸ hnode, hallowed⟩
        | directory => simp [hallowed, hnode] at h
        | link target => simp [hallowed, hnode] at h
  · rintro ⟨place, e, hresolve, hnode, hallowed⟩
    simp only [hresolve, hallowed, hnode, Bool.not_true, Bool.false_eq_true, if_false]

/-- Why the bytes of a file cannot be read. -/
inductive Unreadable (d : Disk) (name : String) : Errno → Prop where
  /-- The name does not lead anywhere: something on the way is missing, is no directory, may not be
  passed, or is a link too many. -/
  | lost {cause : Errno} (h : d.resolve .follow name = .error (.os cause name)) : Unreadable d name cause
  /-- The name leads to a place where nothing is. -/
  | missing {place : Location} (h : d.resolve .follow name = .ok (.free place)) :
    Unreadable d name .noEntry
  /-- The name leads to something that the user may not read. -/
  | forbidden {place : Location} {e : Entry} (h : d.resolve .follow name = .ok (.found place e))
    (hforbidden : d.allows e 4 = false) : Unreadable d name .noPermission
  /-- The name leads to something that the user may read, but that is no file. -/
  | notFile {place : Location} {e : Entry} (h : d.resolve .follow name = .ok (.found place e))
    (hallowed : d.allows e 4 = true) (hnode : ∀ bytes, e.node ≠ .file bytes) :
    Unreadable d name .isDirectory

/-- Nothing is read exactly if one of these is the case. -/
theorem read_eq_error_iff {cause : Errno} :
    d.read name = .error (.os cause name) ↔ d.Unreadable name cause := by
  rw [read_eq]
  constructor
  · intro h
    split at h
    · next fault hresolve =>
      cases h
      exact .lost hresolve
    · next place hresolve =>
      cases h
      exact .missing hresolve
    · next place e hresolve =>
      cases hallowed : d.allows e 4 with
      | false =>
        simp only [hallowed, Bool.not_false, if_true, Except.error.injEq, DiskFault.os.injEq,
          and_true] at h
        exact h ▸ .forbidden hresolve hallowed
      | true =>
        cases hnode : e.node with
        | file bytes => simp [hallowed, hnode] at h
        | _ =>
          simp only [hallowed, hnode, Bool.not_true, Bool.false_eq_true, if_false,
            Except.error.injEq, DiskFault.os.injEq, and_true] at h
          exact h ▸ .notFile hresolve hallowed (by simp [hnode])
  · intro h
    cases h with
    | lost h => rw [h]
    | missing h => rw [h]
    | forbidden h hforbidden => simp [h, hforbidden]
    | @notFile place e h hallowed hnode =>
      cases he : e.node with
      | file bytes => exact absurd he (hnode bytes)
      | _ => simp [h, hallowed, he]

/-! ## §3 Causes -/

/-- A step is refused for these causes only. -/
theorem hindersReading_of_aim {place : Location} {step : String} {barred : Bool} {cause : Errno}
    (h : d.aim place step barred = .error cause) : cause.hindersReading = true := by
  unfold aim at h
  grind [Errno.hindersReading]

/-- Following steps fails for these causes only, if going on at links does. -/
theorem hindersReading_of_follow {jump : Location → List String → Except Errno Place}
    (hjump : ∀ place steps cause, jump place steps = .error cause → cause.hindersReading = true)
    (place : Location) (steps : List String) {cause : Errno}
    (h : d.follow .follow jump place steps = .error cause) : cause.hindersReading = true := by
  -- on the steps, for every place, since each of them is followed from another one
  induction steps generalizing place with
  | nil =>
    unfold follow at h
    cases hfind : d.find? place with
    | none =>
      rw [hfind] at h
      cases h
      rfl
    | some e =>
      rw [hfind] at h
      cases h
  | cons step rest ih =>
    rw [follow_cons] at h
    cases haim : d.aim place step (isBarred .follow rest) with
    | error cause' =>
      rw [haim] at h
      cases h
      exact hindersReading_of_aim haim
    | ok a =>
      rw [haim] at h
      cases a with
      | known place' => exact ih place' h
      | named =>
        unfold arrive at h
        cases hchild : d.find? (place ++ [step]) with
        | none =>
          simp only [hchild] at h
          split at h
          · cases h
          · cases h
            rfl
        | some child =>
          obtain ⟨node, owner, mode⟩ := child
          simp only [hchild] at h
          cases node with
          | file bytes => exact ih _ h
          | directory => exact ih _ h
          | link target =>
            simp only [reduceCtorEq, and_false, if_false] at h
            exact hjump _ _ _ h

theorem hindersReading_of_walk (links : Nat) (place : Location) (steps : List String) (cause : Errno)
    (h : d.walk .follow links place steps = .error cause) : cause.hindersReading = true := by
  induction links generalizing place steps cause with
  | zero =>
    refine hindersReading_of_follow (fun place steps cause h => ?_) place steps h
    cases h
    rfl
  | succ links ih =>
    exact hindersReading_of_follow ih place steps h

/-- Whatever the disk, a file is not read for one of these causes. -/
theorem hindersReading_of_read {cause : Errno} (h : d.read name = .error (.os cause name)) :
    cause.hindersReading = true := by
  cases read_eq_error_iff.1 h with
  | missing h => rfl
  | forbidden h hforbidden => rfl
  | notFile h hallowed hnode => rfl
  | lost h =>
    -- a name that leads nowhere is refused as a name, or on the walk
    cases hcheck : checkName name with
    | ok _ =>
      rw [resolve_of_checkName hcheck] at h
      split at h
      · cases h
      · next cause' hwalk =>
        cases h
        exact hindersReading_of_walk _ _ _ _ hwalk
    | error fault =>
      rw [resolve_of_checkName_error hcheck] at h
      cases h
      unfold checkName at hcheck
      repeat' split at hcheck
      all_goals cases hcheck
      all_goals rfl

end Disk

/-! ## §4 Texts of paths -/

theorem mem_of_mem_pieces {cs piece : List Char} {c : Char} (hpiece : piece ∈ pieces cs)
    (hc : c ∈ piece) : c ∈ cs := by
  -- a character that is no slash goes to the first piece, and the other pieces are those of the rest
  induction cs generalizing piece with
  | nil =>
    rw [pieces, List.mem_singleton] at hpiece
    exact hpiece ▸ hc
  | cons x cs ih =>
    rw [pieces] at hpiece
    split at hpiece
    · rcases List.mem_cons.1 hpiece with rfl | hrest
      · cases hc
      · exact List.mem_cons_of_mem x (ih hrest hc)
    · split at hpiece
      · next first more hfirst =>
        rcases List.mem_cons.1 hpiece with rfl | hrest
        · rcases List.mem_cons.1 hc with rfl | hc
          · exact List.mem_cons_self
          · exact List.mem_cons_of_mem x (ih (hfirst ▸ List.mem_cons_self) hc)
        · exact List.mem_cons_of_mem x (ih (hfirst ▸ List.mem_cons_of_mem first hrest) hc)
      · rw [List.mem_singleton] at hpiece
        rw [hpiece, List.mem_singleton] at hc
        exact hc ▸ List.mem_cons_self

theorem mem_intercalate {parts : List String} {c : Char}
    (h : c ∈ ("/".intercalate parts).toList) : c = '/' ∨ ∃ p ∈ parts, c ∈ p.toList := by
  -- on the last part, which a slash separates from the others
  induction parts using List.reverseRecOn with
  | nil => cases h
  | append_singleton parts p ih =>
    by_cases hnone : parts = []
    · subst hnone
      rw [List.nil_append, String.intercalate_singleton] at h
      exact .inr ⟨p, List.mem_singleton_self p, h⟩
    · rw [intercalate_concat hnone, String.toList_append, String.toList_append, List.mem_append,
        List.mem_append] at h
      rcases h with (h | h) | h
      · rcases ih h with hslash | ⟨q, hq, hc⟩
        · exact .inl hslash
        · exact .inr ⟨q, List.mem_append_left _ hq, hc⟩
      · exact .inl (List.mem_singleton.1 h)
      · exact .inr ⟨p, List.mem_append_right _ (List.mem_singleton_self p), h⟩

/-- The text of the path that a text denotes has no characters but those of the text, slashes and a
dot. -/
theorem mem_text_ofText {s : String} {c : Char} (h : c ∈ (Path.ofText s).text.toList) :
    c ∈ s.toList ∨ c = '/' ∨ c = '.' := by
  unfold Path.text at h
  simp only at h
  split at h
  · exact .inr (.inr (List.mem_singleton.1 h))
  · rw [String.toList_append, List.mem_append] at h
    rcases h with hroot | hparts
    · right; left
      cases hr : (Path.ofText s).root <;> rw [hr] at hroot
      · cases hroot
      · exact List.mem_singleton.1 hroot
      · simpa [Root.text] using hroot
    · rcases mem_intercalate hparts with hslash | ⟨p, hp, hc⟩
      · exact .inr (.inl hslash)
      · obtain ⟨hmem, -⟩ := List.mem_filter.1 hp
        obtain ⟨piece, hpiece, rfl⟩ := List.mem_map.1 hmem
        rw [String.toList_ofList] at hc
        exact .inl (mem_of_mem_pieces hpiece hc)

/-- A text that can name a file denotes a path whose text can. -/
theorem Disk.holdsNull_text_ofText {s : String} (h : holdsNull s = false) :
    holdsNull (Path.ofText s).text = false := by
  unfold holdsNull at *
  simp only [List.contains_eq_mem, decide_eq_false_iff_not] at *
  intro hnull
  rcases mem_text_ofText hnull with hmem | hslash | hdot
  · exact h hmem
  · exact absurd hslash (by decide)
  · exact absurd hdot (by decide)

end WasmGauge.Storage
