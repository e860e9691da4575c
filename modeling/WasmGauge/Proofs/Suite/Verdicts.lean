import WasmGauge.Proofs.Comparison.Independence
import WasmGauge.Proofs.Handles.Exports
import WasmGauge.Proofs.Suite.Cases

/-!
# The verdict of a check

What a check comes to can be read off the load of its module and the answers of the one handle. The
verdict says how, as a function, without the lines that a check writes on its way. A check looks at
nothing but the disk and the bounds of calls, and leaves both as they were, so that no check makes a
difference to the next one.

## Main statements

- `check_eq_verdict`: a check comes to its verdict.
- `verdict_congr`: worlds with the same disk and the same bounds have the same verdict.
- `grounded_check`: a check leaves the disk and the bounds alone.
-/

namespace WasmGauge

/-! ## §1 Common ground -/

/-- Two worlds with the same disk, in which calls are bounded alike. -/
structure World.SameGround (w w' : World) : Prop where
  disk : w'.disk = w.disk
  bounds : w'.bounds = w.bounds

namespace World.SameGround

variable {u v w : World}

theorem refl (w : World) : w.SameGround w := ⟨rfl, rfl⟩

theorem trans (h : u.SameGround v) (h' : v.SameGround w) : u.SameGround w :=
  ⟨h'.disk.trans h.disk, h'.bounds.trans h.bounds⟩

theorem wrote (w : World) (text : String) : w.SameGround (w.wrote .out text) := ⟨rfl, rfl⟩

theorem of_calledOn {id : Nat} (h : w.CalledOn id v) : w.SameGround v :=
  ⟨by rw [h.rest], by rw [h.rest]⟩

end World.SameGround

/-- A step that leaves the ground alone. -/
abbrev Act.Grounded {α : Type} (act : Act α) : Prop := act.Moves World.SameGround

namespace Act.Grounded

variable {α β : Type} {act : Act α}

theorem bind {next : α → Act β} (first : act.Grounded) (second : ∀ a, (next a).Grounded) :
    (act >>= next).Grounded :=
  Act.Moves.bind (R := World.SameGround) World.SameGround.trans first second

theorem of_same (h : ∀ w, (act.outcome w).2 = w) : act.Grounded :=
  Act.Moves.of_same World.SameGround.refl h

theorem pure (a : α) : (Pure.pure a : Act α).Grounded := of_same fun _ => rfl

theorem ofValue (x : Except Fault α) : (Act.ofValue x).Grounded :=
  of_same fun w => by rw [Act.outcome_ofValue]

theorem attempt (h : act.Grounded) : act.attempt.Grounded := h

theorem write (text : String) : (Act.write .out text).Grounded := by
  intro w
  rw [World.outcome_write]
  exact World.SameGround.wrote w text

end Act.Grounded

section Loading

variable {w u : World}

namespace Source

theorem sameGround_load (s : Source) :
    (s.load Engine.shared false false).Moves World.SameGround :=
  fun w => ⟨disk_load s w, (s.looksLike_load Engine.shared false w).bounds⟩

theorem agree_compile (s : Source) (hground : w.SameGround u) :
    Act.Agree Executable.Matches ((s.compile Engine.shared false false).outcome w).1
      ((s.compile Engine.shared false false).outcome u).1 := by
  rw [s.outcome_compile, s.outcome_compile, hground.disk]
  -- the data is the same on the same disk, and so is what it compiles to
  cases s.dataOn w.disk with
  | error f => rfl
  | ok data =>
    have hgives := s.compiles_announced data Engine.shared false w
    have hgives' := s.compiles_announced data Engine.shared false u
    exact (Gives.agree hgives hgives').map fun m m' h => ⟨rfl, rfl, h.2, h.1⟩

/-- What is loaded on common ground is alike, whatever the clocks show. -/
theorem agree_load (s : Source) (hground : w.SameGround u) :
    Act.Agree
      (fun h g => h.Alike False ((s.load Engine.shared false false).outcome w).2 g
        ((s.load Engine.shared false false).outcome u).2)
      ((s.load Engine.shared false false).outcome w).1
      ((s.load Engine.shared false false).outcome u).1 :=
  agree_load_of_compile (s.agree_compile hground) hground.bounds False.elim

end Source

namespace Handle

variable {h g : Handle} {s : Source} {w₁ : World}

theorem named_of_load (hload : (s.load Engine.shared false false).outcome w = (.ok h, w₁)) :
    h.start.Named := by
  obtain ⟨x, w', -, hmade⟩ := Act.outcome_bind_eq_ok hload
  exact named_of_instantiate hmade

theorem contains_iff {name : String} :
    h.contains name = true ↔ ∃ signature, h.exports.lookup name = some signature := by
  rw [contains, List.contains_iff_mem, ← Option.isSome_iff_exists, Option.isSome_iff_ne_none, Ne,
    lookup_eq_none_iff, not_not]

/-- What a handle gives out is settled by how it began. -/
theorem Alike.exports_eq {clocked : Prop} (halike : h.Alike clocked w g u) : h.exports = g.exports := by
  unfold exports
  rw [halike.start]

end Handle

end Loading

/-! ## §2 What a check comes to -/

namespace Suite

section Verdict

variable {draw : Nat → Int} {s : Source} {count : Int} {w w₁ u : World} {h : Handle} {f : Failure}
  {signature : Signature}

/-- What a check writes before anything else. -/
def announcement (s : Source) (count : Int) : String :=
  Tint.blue.paint ("ℹ️  " ++ s!"Checking {s.name} ({toString count} cases)...") ++ "\n"

def announced (s : Source) (count : Int) (w : World) : World := w.wrote .out (announcement s count)

/-- A number of cases that cannot be written ends a check at once. -/
theorem outcome_check_of_long (hlong : tenPow digitLimit ≤ count.natAbs) (w : World) :
    (check draw s count).outcome w = (.error (.value .digitLimit), w) := by
  have hshown : (Act.ofValue (intText count)).outcome w = (.error (.value .digitLimit), w) := by
    rw [Act.outcome_ofValue, intText_eq_error_iff.2 ⟨rfl, hlong⟩]
    rfl
  unfold check
  exact Act.outcome_bind_of_error hshown

/-- What a check does when its module has been loaded, or has not. -/
def settle (draw : Nat → Int) (s : Source) (count : Int) : Except Failure Handle → Act Tally
  | .error f =>
    if f.isHarness then do
      sayError ("Load failed: " ++ f.message)
      pure ⟨0, (cases draw count).length⟩
    else Act.fail f
  | .ok h =>
    if h.contains standardExport then runCases h (cases draw count).length 0 (cases draw count)
    else do
      let names := ", ".intercalate h.names
      sayWarning s!"{s.name} has no fib export (exports: {names})"
      pure ⟨0, (cases draw count).length⟩

theorem outcome_check_of_short (hshort : count.natAbs < tenPow digitLimit) (w : World) :
    (check draw s count).outcome w =
      ((s.load Engine.shared false false).attempt >>= settle draw s count).outcome
        (announced s count w) := by
  have hshown : (Act.ofValue (intText count)).outcome w = (.ok (toString count), w) := by
    rw [Act.outcome_ofValue, intText_of_lt hshort]
    rfl
  unfold check
  rw [Act.outcome_bind_of_ok hshown]
  exact Act.outcome_bind_of_ok (outcome_say _ w)

theorem outcome_check_of_load (hshort : count.natAbs < tenPow digitLimit)
    {result : Except Failure Handle}
    (hload : (s.load Engine.shared false false).outcome (announced s count w) = (result, w₁)) :
    (check draw s count).outcome w = (settle draw s count result).outcome w₁ := by
  rw [outcome_check_of_short hshort, Act.outcome_bind, Act.outcome_attempt, hload]

/-- A module that cannot be loaded fails all cases; a fault that is none of the harness is passed on. -/
theorem outcome_settle_error (f : Failure) (w : World) :
    ((settle draw s count (.error f)).outcome w).1 =
      if f.isHarness then .ok ⟨0, (cases draw count).length⟩ else .error f := by
  unfold settle
  dsimp only
  cases f.isHarness <;> rfl

theorem outcome_settle_of_missing (hmissing : h.contains standardExport = false) (w : World) :
    ((settle draw s count (.ok h)).outcome w).1 = .ok ⟨0, (cases draw count).length⟩ := by
  unfold settle
  dsimp only
  rw [if_neg (by simp [hmissing])]
  rfl

theorem settle_of_contains (hcontains : h.contains standardExport = true) :
    settle draw s count (.ok h) =
      runCases h (cases draw count).length 0 (cases draw count) := by
  unfold settle
  exact if_pos hcontains

/-- What a check comes to, read off the load and the answers of the handle. -/
def verdict (draw : Nat → Int) (s : Source) (count : Int) (w : World) : Except Failure Tally :=
  if tenPow digitLimit ≤ count.natAbs then .error (.value .digitLimit)
  else
    match (s.load Engine.shared false false).outcome w with
    | (.error f, _) => if f.isHarness then .ok ⟨0, (cases draw count).length⟩ else .error f
    | (.ok h, w₁) =>
      match h.exports.lookup standardExport with
      | none => .ok ⟨0, (cases draw count).length⟩
      | some signature =>
        match signature.check [.int 0] with
        | .error fault => .error (.argument standardExport signature fault)
        | .ok _ =>
          .ok (tallyOf (cases draw count) (h.replay ((cases draw count).map request) w₁).1)

/-- A handle takes numbers if its function does. -/
theorem takesNumbers_of_lookup (hnamed : h.start.Named)
    (hlookup : h.exports.lookup standardExport = some signature) (htakes : signature.TakesNumber) :
    TakesNumbers h := by
  intro n hleast hgreatest
  obtain ⟨checked, hcheck⟩ := Signature.exists_check_of_takesNumber htakes hleast hgreatest
  have haccept : h.accept standardExport [.int n] = .ok checked := by
    rw [Handle.accept_of_lookup h hlookup, hcheck]
    rfl
  exact ⟨checked, Handle.takes_of_accept hnamed haccept⟩

/-- The check of the first number says whether the function takes numbers at all. -/
theorem takesNumber_of_check {checked : List Value}
    (hcheck : signature.check [.int 0] = .ok checked) : signature.TakesNumber := by
  by_contra hnot
  obtain ⟨fault, hfault, -⟩ := Signature.exists_mismatch_of_not_takesNumber hnot 0
  rw [hcheck] at hfault
  cases hfault

/-- The cases of a loaded module come to a tally, or to the mismatch of the first one. -/
theorem outcome_settle_of_lookup (hdraw : ∀ k, 3 ≤ draw k ∧ draw k ≤ 25)
    (hnamed : h.start.Named) (hlookup : h.exports.lookup standardExport = some signature) (w : World) :
    ((settle draw s count (.ok h)).outcome w).1 =
      match signature.check [.int 0] with
      | .error fault => .error (.argument standardExport signature fault)
      | .ok _ =>
        .ok (tallyOf (cases draw count) (h.replay ((cases draw count).map request) w).1) := by
  rw [settle_of_contains (Handle.contains_iff.2 ⟨signature, hlookup⟩)]
  cases hcheck : signature.check [.int 0] with
  | error fault =>
    -- zero is the first number of every check
    obtain ⟨rest, hcases⟩ := cases_eq draw count
    have hrefused := Handle.accept_of_lookup h hlookup [.int 0]
    rw [hcheck] at hrefused
    rw [hcases, outcome_runCases_of_refused hrefused rfl (by decide) (by decide)]
  | ok checked =>
    have htakes := takesNumbers_of_lookup hnamed hlookup (takesNumber_of_check hcheck)
    obtain ⟨w', hcases⟩ :=
      outcome_runCases htakes (fun n hn => mem_cases hdraw hn) (cases draw count).length 0 w
    rw [hcases]

theorem check_eq_verdict_announced (hdraw : ∀ k, 3 ≤ draw k ∧ draw k ≤ 25)
    (hshort : count.natAbs < tenPow digitLimit) (s : Source) (w : World) :
    ((check draw s count).outcome w).1 = verdict draw s count (announced s count w) := by
  unfold verdict
  rw [if_neg (not_le.2 hshort)]
  rcases hload : (s.load Engine.shared false false).outcome (announced s count w) with ⟨result, w₁⟩
  rw [outcome_check_of_load hshort hload]
  cases result with
  | error f => exact outcome_settle_error f w₁
  | ok h =>
    dsimp only
    cases hlookup : h.exports.lookup standardExport with
    | none =>
      have hmissing : h.contains standardExport = false := by
        rw [← Bool.not_eq_true, Handle.contains_iff, hlookup]
        simp
      exact outcome_settle_of_missing hmissing w₁
    | some signature => exact outcome_settle_of_lookup hdraw (Handle.named_of_load hload) hlookup w₁

/-- The verdict on a module that has been loaded and has the function. -/
theorem verdict_of_lookup (hshort : count.natAbs < tenPow digitLimit)
    (hload : (s.load Engine.shared false false).outcome w = (.ok h, w₁))
    (hlookup : h.exports.lookup standardExport = some signature) :
    verdict draw s count w =
      match signature.check [.int 0] with
      | .error fault => .error (.argument standardExport signature fault)
      | .ok _ =>
        .ok (tallyOf (cases draw count) (h.replay ((cases draw count).map request) w₁).1) := by
  unfold verdict
  rw [if_neg (not_le.2 hshort), hload]
  simp only [hlookup]

theorem verdict_congr (hground : w.SameGround u) (draw : Nat → Int) (s : Source) (count : Int) :
    verdict draw s count w = verdict draw s count u := by
  have hagree := s.agree_load hground
  unfold verdict
  rcases hload : (s.load Engine.shared false false).outcome w with ⟨result, w₁⟩
  rcases hload' : (s.load Engine.shared false false).outcome u with ⟨result', u₁⟩
  rw [hload, hload'] at hagree
  rcases hagree.cases with ⟨f, rfl, rfl⟩ | ⟨h, g, rfl, rfl, halike⟩
  · rfl
  · -- alike handles give out the same functions and answer alike
    simp only [halike.exports_eq, Handle.replay_congr halike]

/-- What a check comes to. The announcement makes no difference to it. -/
theorem check_eq_verdict (hdraw : ∀ k, 3 ≤ draw k ∧ draw k ≤ 25) (s : Source) (count : Int)
    (w : World) : ((check draw s count).outcome w).1 = verdict draw s count w := by
  -- the number of cases is written first, and that may be refused
  by_cases hlong : tenPow digitLimit ≤ count.natAbs
  · unfold verdict
    rw [if_pos hlong, outcome_check_of_long hlong]
  · rw [check_eq_verdict_announced hdraw (not_le.1 hlong)]
    exact (verdict_congr (World.SameGround.wrote w _) draw s count).symm

end Verdict

/-! ## §3 Checks leave the ground alone -/

section Ground

open Act (Grounded)

theorem grounded_judge (m : Measurement) (wanted : Value) : (judge m wanted).Grounded := by
  unfold judge
  by_cases hagrees : agrees m.value wanted = true
  · rw [if_pos hagrees]
    exact .bind (.ofValue _) fun _ => .bind (.write _) fun _ => .pure true
  · rw [if_neg hagrees]
    refine .bind (.write _) fun _ => .bind (.ofValue _) fun _ => .bind (.ofValue _) fun _ => ?_
    exact .bind (.write _) fun _ => .pure false

theorem grounded_runCase (h : Handle) (total index : Nat) (n : Int) :
    (runCase h total index n).Grounded := by
  refine .bind (.ofValue _) fun wanted => .bind (.write _) fun _ => ?_
  -- what a call can change is the clock, the log and the instance
  have hinvoke : (h.invoke standardExport [.int n] .none).Grounded :=
    fun w => .of_calledOn (Handle.framed_invoke standardExport [.int n] .none w)
  refine .bind hinvoke.attempt fun result => ?_
  cases result with
  | ok m => exact grounded_judge m wanted
  | error f =>
    cases hf : f.isHarness with
    | true =>
      simp only [hf, if_true]
      exact .bind (.write _) fun _ => .bind (.write _) fun _ => .pure false
    | false =>
      simp only [hf, Bool.false_eq_true, if_false]
      exact .of_same fun _ => rfl

theorem grounded_runCases (h : Handle) (total : Nat) (numbers : List Int) (index : Nat) :
    (runCases h total index numbers).Grounded := by
  -- on the numbers, each of which is one call
  induction numbers generalizing index with
  | nil => exact .pure _
  | cons n rest ih =>
    exact .bind (grounded_runCase h total index n) fun _ => .bind (ih (index + 1)) fun _ => .pure _

/-- A check leaves the ground alone, whatever the module does in its cases. -/
theorem grounded_check (draw : Nat → Int) (s : Source) (count : Int) :
    (check draw s count).Grounded := by
  refine .bind (.ofValue _) fun _ => .bind (.write _) fun _ => ?_
  refine .bind (Act.Grounded.attempt s.sameGround_load) fun result => ?_
  cases result with
  | error f =>
    cases hf : f.isHarness with
    | true =>
      simp only [hf, if_true]
      exact .bind (.write _) fun _ => .pure _
    | false =>
      simp only [hf, Bool.false_eq_true, if_false]
      exact .of_same fun _ => rfl
  | ok h =>
    cases hcontains : h.contains standardExport with
    | true =>
      simp only [hcontains, if_true]
      exact grounded_runCases h _ _ 0
    | false =>
      simp only [hcontains, Bool.false_eq_true, if_false]
      exact .bind (.write _) fun _ => .pure _

end Ground

end Suite

end WasmGauge
