import WasmGauge.Storage.Disk

/-!
# Single steps of a walk

A step is refused for what is known about the directory that it is taken in, or it leads back to a place
on the way, or it asks for the entry under its name. Only in the last case anything else is looked up.

## Main statements

- `Disk.follow_cons`, `Disk.follow_cons_cases`: following steps is one step, and the steps behind it.
- `Disk.passable_of_aim`: what a step needs that is taken.
- `Disk.aim_congr`, `Disk.aim_open`: what a step does not depend on.
-/

namespace WasmGauge.Storage

namespace Disk

/-- What a step comes to that is not refused. -/
inductive Aim where
  /-- The walk goes on from a place that is known. -/
  | known (place : Location)
  /-- The walk goes on with the entry that the step names. -/
  | named

/-- One step from a place. A step is barred if a file that may have to be made would have a slash behind
its name. -/
def aim (d : Disk) (place : Location) (step : String) (barred : Bool) : Except Errno Aim :=
  match d.find? place with
  | none => .error .noEntry
  | some e =>
    if !e.isDirectory then .error .notDirectory
    else if step = Route.closing then .ok (.known place)
    else if !d.allows e 1 then .error .noPermission
    else if step = Route.here then .ok (.known place)
    else if step = Route.above then .ok (.known place.dropLast)
    else if barred then .error .isDirectory
    else if step.utf8ByteSize > stepLimit then .error .nameTooLong
    else .ok .named

/-- Whether a step before others is barred. -/
def isBarred (final : Final) (rest : List String) : Bool :=
  final == .create && rest == [Route.closing]

/-- What becomes of a walk that has come to the name of an entry. -/
def arrive (d : Disk) (final : Final) (jump : Location → List String → Except Errno Place)
    (place : Location) (step : String) (rest : List String) : Except Errno Place :=
  match d.find? (place ++ [step]) with
  | none => if rest.isEmpty then .ok (.free (place ++ [step])) else .error .noEntry
  | some ⟨.link target, owner, mode⟩ =>
    if rest.isEmpty ∧ final = .keep then .ok (.found (place ++ [step]) ⟨.link target, owner, mode⟩)
    else
      jump (if (Route.ofText target).absolute then [] else place) ((Route.ofText target).steps ++ rest)
  | some _ => d.follow final jump (place ++ [step]) rest

variable {d d' : Disk} {final : Final} {place : Location} {step : String} {barred : Bool} {a : Aim}

/-- Following steps is one step, and the steps behind it. -/
theorem follow_cons (d : Disk) (final : Final) (jump : Location → List String → Except Errno Place)
    (place : Location) (step : String) (rest : List String) :
    d.follow final jump place (step :: rest) =
      match d.aim place step (isBarred final rest) with
      | .error cause => .error cause
      | .ok (.known place') => d.follow final jump place' rest
      | .ok .named => d.arrive final jump place step rest := by
  have hbarred : isBarred final rest = true ↔ final = .create ∧ rest = [Route.closing] := by
    simp [isBarred]
  rw [follow]
  unfold aim
  cases d.find? place with
  | none => rfl
  | some e =>
    dsimp only
    -- both sides ask the same in the same order
    by_cases hdir : (!e.isDirectory) = true
    · rw [if_pos hdir, if_pos hdir]
    rw [if_neg hdir, if_neg hdir]
    by_cases hclosing : step = Route.closing
    · rw [if_pos hclosing, if_pos hclosing]
    rw [if_neg hclosing, if_neg hclosing]
    by_cases hpass : (!d.allows e 1) = true
    · rw [if_pos hpass, if_pos hpass]
    rw [if_neg hpass, if_neg hpass]
    by_cases hhere : step = Route.here
    · rw [if_pos hhere, if_pos hhere]
    rw [if_neg hhere, if_neg hhere]
    by_cases habove : step = Route.above
    · rw [if_pos habove, if_pos habove]
    rw [if_neg habove, if_neg habove]
    by_cases hopen : final = .create ∧ rest = [Route.closing]
    · rw [if_pos hopen, if_pos (hbarred.2 hopen)]
    rw [if_neg hopen, if_neg (mt hbarred.1 hopen)]
    by_cases hlong : step.utf8ByteSize > stepLimit
    · rw [if_pos hlong, if_pos hlong]
    rw [if_neg hlong, if_neg hlong]
    rfl

/-- Steps that come to an end begin with one that is taken, and go on behind it. -/
theorem follow_cons_cases {jump : Location → List String → Except Errno Place} {rest : List String}
    {r : Place} (h : d.follow final jump place (step :: rest) = .ok r) :
    (∃ place', d.aim place step (isBarred final rest) = .ok (.known place') ∧
        d.follow final jump place' rest = .ok r) ∨
      (d.aim place step (isBarred final rest) = .ok .named ∧
        d.arrive final jump place step rest = .ok r) := by
  rw [follow_cons] at h
  cases haim : d.aim place step (isBarred final rest) with
  | error cause => simp [haim] at h
  | ok a =>
    rw [haim] at h
    cases a with
    | known place' => exact .inl ⟨place', rfl, h⟩
    | named => exact .inr ⟨rfl, h⟩

/-- A step is taken in a directory only, and unless it is the slash at the end, the user may pass through
there. -/
theorem passable_of_aim (h : d.aim place step barred = .ok a) :
    ∃ e, d.find? place = some e ∧ e.isDirectory = true ∧
      (step ≠ Route.closing → d.allows e 1 = true) := by
  unfold aim at h
  grind

/-- A step without a name of its own is the only one that leads to a known place. -/
theorem step_of_aim_known {place' : Location} (h : d.aim place step barred = .ok (.known place')) :
    step = Route.closing ∨ step = Route.here ∨ step = Route.above := by
  unfold aim at h
  grind

theorem size_of_aim_named (h : d.aim place step barred = .ok .named) :
    ¬ step.utf8ByteSize > stepLimit := by
  unfold aim at h
  grind

/-- A step that is taken although it is barred, or because it is not, is taken if it is not. -/
theorem aim_open (h : d.aim place step barred = .ok a) : d.aim place step false = .ok a := by
  unfold aim at h ⊢
  cases hfind : d.find? place with
  | none =>
    rw [hfind] at h
    cases h
  | some e =>
    simp only [hfind] at h ⊢
    grind

/-- A step depends on the directory that it is taken in, and on the user. -/
theorem aim_congr (hfind : d'.find? place = d.find? place) (huser : d'.user = d.user) (step : String)
    (barred : Bool) : d'.aim place step barred = d.aim place step barred := by
  have hallows : ∀ e, d'.allows e 1 = d.allows e 1 := by
    intro e
    unfold allows
    rw [huser]
  unfold aim
  simp only [hfind, hallows]

theorem aim_of_find?_eq_none (h : d.find? place = none) (step : String) (barred : Bool) :
    d.aim place step barred = .error .noEntry := by
  unfold aim
  rw [h]

end Disk

end WasmGauge.Storage
