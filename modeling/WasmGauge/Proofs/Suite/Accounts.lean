import Mathlib.Data.List.GetD
import WasmGauge.Proofs.Comparison.Failures
import WasmGauge.Proofs.Suite.Verdicts

/-!
# Accounts of the validation suite

A check of a module has three ways out before its first case: the module cannot be loaded, it has no
function to ask, or its function takes no number. Only the last one is a failure of the check. In all
other cases, the tally accounts for every number, and a number counts as passed only if the one handle,
asked for one number after another, has answered with the value of the host function. A check of a module
whose start function never ends does not end either.

A run adds up the tallies of its checks, and ends well if it has checked something and nothing failed.

## Main statements

- `accounted`: the account of a check.
- `outcome_run`: the status of a run and the summary that it writes.
- `accounts_for_every_case`: both together.
-/

namespace WasmGauge

namespace Suite

open Storage (Path)

/-! ## §1 Accounts -/

/-- Why a check fails itself, instead of counting cases that fail: the number of cases cannot be written,
the name of the module is none that a file can have, or the function of the module takes no number. A
check that waits for a start function forever is no failure, but has no tally either. -/
inductive Stops (s : Source) (count : Int) (w : World) : Failure → Prop where
  | unwritten (hlong : tenPow digitLimit ≤ count.natAbs) : Stops s count w (.value .digitLimit)
  | unnamed (hshort : count.natAbs < tenPow digitLimit)
      (hnull : Storage.Disk.holdsNull s.text = true) : Stops s count w (.disk .nullByte)
  | endless {source : Path} (hshort : count.natAbs < tenPow digitLimit)
      (hload : ((s.load Engine.shared false false).outcome w).1 = .error (.endless source)) :
      Stops s count w (.endless source)
  | mismatch {h : Handle} {w₁ : World} {signature : Signature} {fault : ArgumentFault}
      (hshort : count.natAbs < tenPow digitLimit)
      (hload : (s.load Engine.shared false false).outcome w = (.ok h, w₁))
      (hlookup : h.exports.lookup standardExport = some signature)
      (hnumber : ¬ signature.TakesNumber) (hcheck : signature.check [.int 0] = .error fault) :
      Stops s count w (.argument standardExport signature fault)

/-- The account of a check. -/
structure Accounted (draw : Nat → Int) (s : Source) (count : Int) (w : World) : Prop where
  /-- The check fails for these reasons and for no others. -/
  stops (f : Failure) : ((check draw s count).outcome w).1 = .error f ↔ Stops s count w f
  /-- A function that takes no number is found out by the first case, before any call is timed. -/
  atFirstCase {name : String} {signature : Signature} {fault : ArgumentFault} {w' : World} :
    (check draw s count).outcome w = (.error (.argument name signature fault), w') →
      fault.IsMismatch ∧ w'.clock = w.clock ∧
        w'.out = w.out ++ announcement s count ++ prompt (cases draw count).length 0 0
  /-- Every case has passed or failed. -/
  total {t : Tally} : ((check draw s count).outcome w).1 = .ok t →
    (t.passed + t.failed : Int) = max 4 count
  /-- Without a module, none has passed. -/
  unloaded {t : Tally} {f : Failure} : ((check draw s count).outcome w).1 = .ok t →
    ((s.load Engine.shared false false).outcome w).1 = .error f → t.passed = 0
  /-- Without a function, none has passed. -/
  missing {t : Tally} {h : Handle} : ((check draw s count).outcome w).1 = .ok t →
    ((s.load Engine.shared false false).outcome w).1 = .ok h →
    h.exports.lookup standardExport = none → t.passed = 0
  /-- Otherwise those have passed that the one handle, asked for one number after another, has
  answered with the value of the host function. -/
  passed {t : Tally} {h : Handle} {w₁ : World} {signature : Signature} :
    ((check draw s count).outcome w).1 = .ok t →
    (s.load Engine.shared false false).outcome w = (.ok h, w₁) →
    h.exports.lookup standardExport = some signature →
    t.passed = ((cases draw count).zip (h.replay ((cases draw count).map request) w₁).1).countP
      fun case => passes case.1 case.2

section Accounts

variable {draw : Nat → Int} {s : Source} {count : Int} {w w' w₁ : World} {h : Handle} {f : Failure}
  {t : Tally} {signature : Signature}

theorem fault?_uncached (s : Source) (w : World) :
    s.fault? false w = if Storage.Disk.holdsNull s.text then some .nullByte else none := by
  unfold Source.fault?
  cases s.dataOn w.disk <;> rfl

theorem not_isHarness_of_load (hload : ((s.load Engine.shared false false).outcome w).1 = .error f)
    (hf : f.isHarness = false) :
    (Storage.Disk.holdsNull s.text = true ∧ f = .disk .nullByte) ∨ ∃ source, f = .endless source := by
  have hpasses := s.passesOn_load false w
  rw [fault?_uncached] at hpasses
  by_cases hnull : Storage.Disk.holdsNull s.text = true
  · rw [if_pos hnull] at hpasses
    have hdisk := hpasses.disk _ rfl
    rw [hload] at hdisk
    exact .inl ⟨hnull, Except.error.inj hdisk⟩
  · rw [if_neg hnull] at hpasses
    rcases hpasses.harness rfl f hload with hharness | hendless
    · rw [hharness] at hf
      cases hf
    · exact .inr hendless

theorem load_of_null (hnull : Storage.Disk.holdsNull s.text = true) (w : World) :
    ((s.load Engine.shared false false).outcome w).1 = .error (.disk .nullByte) := by
  refine (s.passesOn_load false w).disk _ ?_
  rw [fault?_uncached, if_pos hnull]

theorem mismatch_of_check {fault : ArgumentFault} (hcheck : signature.check [.int 0] = .error fault) :
    ¬ signature.TakesNumber ∧ fault.IsMismatch := by
  have hnumber : ¬ signature.TakesNumber := by
    intro htakes
    obtain ⟨checked, hchecked⟩ :=
      Signature.exists_check_of_takesNumber htakes (by decide : (0 : Int) ≤ 0) (by decide)
    rw [hcheck] at hchecked
    cases hchecked
  obtain ⟨fault', hfault', hmismatch⟩ := Signature.exists_mismatch_of_not_takesNumber hnumber 0
  rw [hcheck, Except.error.injEq] at hfault'
  exact ⟨hnumber, hfault' ▸ hmismatch⟩

/-- A verdict that is a failure stops the check for one of the reasons. -/
theorem stops_of_verdict (hverdict : verdict draw s count w = .error f) : Stops s count w f := by
  unfold verdict at hverdict
  -- the number of cases is written before anything is loaded
  by_cases hlong : tenPow digitLimit ≤ count.natAbs
  · rw [if_pos hlong] at hverdict
    exact Except.error.inj hverdict ▸ .unwritten hlong
  rw [if_neg hlong] at hverdict
  rcases hload : (s.load Engine.shared false false).outcome w with ⟨result, w₁⟩
  rw [hload] at hverdict
  cases result with
  | error f' =>
    -- a failure of the harness would have been counted
    cases hf : f'.isHarness with
    | true => simp [hf] at hverdict
    | false =>
      obtain rfl : f' = f := by simpa [hf] using hverdict
      rcases not_isHarness_of_load (congrArg Prod.fst hload) hf with
        ⟨hnull, rfl⟩ | ⟨source, rfl⟩
      · exact .unnamed (not_le.1 hlong) hnull
      · exact .endless (not_le.1 hlong) (congrArg Prod.fst hload)
  | ok h =>
    cases hlookup : h.exports.lookup standardExport with
    | none => simp [hlookup] at hverdict
    | some signature =>
      cases hcheck : signature.check [.int 0] with
      | ok checked => simp [hlookup, hcheck] at hverdict
      | error fault =>
        simp only [hlookup, hcheck, Except.error.injEq] at hverdict
        exact hverdict ▸ .mismatch (not_le.1 hlong) hload hlookup (mismatch_of_check hcheck).1 hcheck

/-- What is no failure of the harness is not counted. -/
theorem verdict_of_load_error (hshort : count.natAbs < tenPow digitLimit)
    (hload : ((s.load Engine.shared false false).outcome w).1 = .error f)
    (hf : f.isHarness = false) : verdict draw s count w = .error f := by
  unfold verdict
  rw [if_neg (not_le.2 hshort)]
  rcases hout : (s.load Engine.shared false false).outcome w with ⟨result, w₁⟩
  rw [hout] at hload
  subst hload
  simp [hf]

theorem Stops.verdict (hstops : Stops s count w f) : verdict draw s count w = .error f := by
  cases hstops with
  | unwritten hlong => exact if_pos hlong
  | unnamed hshort hnull => exact verdict_of_load_error hshort (load_of_null hnull w) rfl
  | endless hshort hload => exact verdict_of_load_error hshort hload rfl
  | mismatch hshort hload hlookup _ hcheck => rw [verdict_of_lookup hshort hload hlookup, hcheck]

/-- How a check that does not fail counts. -/
inductive Counts (draw : Nat → Int) (s : Source) (count : Int) (w : World) : Tally → Prop where
  | unloaded {f : Failure} (hload : ((s.load Engine.shared false false).outcome w).1 = .error f) :
      Counts draw s count w ⟨0, (cases draw count).length⟩
  | missing {h : Handle} (hload : ((s.load Engine.shared false false).outcome w).1 = .ok h)
      (hlookup : h.exports.lookup standardExport = none) :
      Counts draw s count w ⟨0, (cases draw count).length⟩
  | judged {h : Handle} {w₁ : World} {signature : Signature}
      (hload : (s.load Engine.shared false false).outcome w = (.ok h, w₁))
      (hlookup : h.exports.lookup standardExport = some signature) :
      Counts draw s count w
        (tallyOf (cases draw count) (h.replay ((cases draw count).map request) w₁).1)

theorem counts_of_verdict (hverdict : verdict draw s count w = .ok t) : Counts draw s count w t := by
  unfold verdict at hverdict
  by_cases hlong : tenPow digitLimit ≤ count.natAbs
  · rw [if_pos hlong] at hverdict
    cases hverdict
  rw [if_neg hlong] at hverdict
  rcases hload : (s.load Engine.shared false false).outcome w with ⟨result, w₁⟩
  rw [hload] at hverdict
  cases result with
  | error f =>
    cases hf : f.isHarness with
    | false => simp [hf] at hverdict
    | true =>
      obtain rfl : ⟨0, (cases draw count).length⟩ = t := by simpa [hf] using hverdict
      exact .unloaded (congrArg Prod.fst hload)
  | ok h =>
    cases hlookup : h.exports.lookup standardExport with
    | none =>
      obtain rfl : ⟨0, (cases draw count).length⟩ = t := by simpa [hlookup] using hverdict
      exact .missing (congrArg Prod.fst hload) hlookup
    | some signature =>
      cases hcheck : signature.check [.int 0] with
      | error fault => simp [hlookup, hcheck] at hverdict
      | ok checked =>
        simp only [hlookup, hcheck, Except.ok.injEq] at hverdict
        exact hverdict ▸ .judged hload hlookup

/-- Both counts together are the number of cases. -/
theorem Counts.total (hcounts : Counts draw s count w t) :
    (t.passed + t.failed : Int) = max 4 count := by
  rw [← length_cases draw count]
  cases hcounts with
  | unloaded | missing => simp
  | @judged h w₁ =>
    have hlength : (h.replay ((cases draw count).map request) w₁).1.length =
        (cases draw count).length := by
      rw [length_replay, List.length_map]
    exact_mod_cast passed_add_failed_tallyOf hlength

theorem Counts.passed_of_unloaded (hcounts : Counts draw s count w t)
    (hload : ((s.load Engine.shared false false).outcome w).1 = .error f) : t.passed = 0 := by
  cases hcounts with
  | unloaded | missing => rfl
  | judged hloaded =>
    rw [hloaded] at hload
    cases hload

theorem Counts.passed_of_missing (hcounts : Counts draw s count w t)
    (hload : ((s.load Engine.shared false false).outcome w).1 = .ok h)
    (hlookup : h.exports.lookup standardExport = none) : t.passed = 0 := by
  cases hcounts with
  | unloaded | missing => rfl
  | judged hloaded hfound =>
    rw [hloaded, Except.ok.injEq] at hload
    rw [hload, hlookup] at hfound
    cases hfound

theorem Counts.eq_tallyOf (hcounts : Counts draw s count w t)
    (hload : (s.load Engine.shared false false).outcome w = (.ok h, w₁))
    (hlookup : h.exports.lookup standardExport = some signature) :
    t = tallyOf (cases draw count) (h.replay ((cases draw count).map request) w₁).1 := by
  cases hcounts with
  | unloaded hfailed =>
    rw [hload] at hfailed
    cases hfailed
  | missing hloaded hmissing =>
    rw [hload, Except.ok.injEq] at hloaded
    rw [← hloaded, hlookup] at hmissing
    cases hmissing
  | judged hloaded =>
    rw [hload, Prod.mk.injEq, Except.ok.injEq] at hloaded
    obtain ⟨rfl, rfl⟩ := hloaded
    rfl

/-- A mismatch is found by the first case: after the load, only its prompt is written. -/
theorem outcome_check_of_mismatch (draw : Nat → Int) {fault : ArgumentFault}
    (hshort : count.natAbs < tenPow digitLimit)
    (hload : (s.load Engine.shared false false).outcome w = (.ok h, w₁))
    (hlookup : h.exports.lookup standardExport = some signature)
    (hcheck : signature.check [.int 0] = .error fault) :
    ∃ w', (check draw s count).outcome w =
        (.error (.argument standardExport signature fault), w') ∧ w'.clock = w.clock ∧
      w'.out = w.out ++ announcement s count ++ prompt (cases draw count).length 0 0 := by
  -- the load takes place after the announcement, which it does not notice
  have hagree := s.agree_load (World.SameGround.wrote w (announcement s count))
  have hlooks := s.looksLike_load Engine.shared false (announced s count w)
  rcases hload' : (s.load Engine.shared false false).outcome (announced s count w) with
    ⟨result', u₁⟩
  rw [hload'] at hlooks
  have hout : (check draw s count).outcome w = _ := outcome_check_of_load hshort hload'
  unfold announced at hload'
  rw [hload, hload'] at hagree
  cases result' with
  | error f => exact hagree.elim
  | ok g =>
    have halike : h.Alike False w₁ g u₁ := hagree
    have hexports := halike.exports_eq
    -- zero is the first number of every check, and it is refused before the clock is read
    obtain ⟨rest, hcases⟩ := cases_eq draw count
    have hrefused := Handle.accept_of_lookup g (hexports ▸ hlookup) [.int 0]
    rw [hcheck] at hrefused
    rw [settle_of_contains (Handle.contains_iff.2 ⟨signature, hexports ▸ hlookup⟩), hcases,
      outcome_runCases_of_refused hrefused rfl (by decide) (by decide), ← hcases] at hout
    refine ⟨_, hout, hlooks.clock, ?_⟩
    exact congrArg (· ++ prompt (cases draw count).length 0 0) hlooks.out

/-- Every check has its account. -/
theorem accounted (hdraw : ∀ k, 3 ≤ draw k ∧ draw k ≤ 25) (s : Source) (count : Int) (w : World) :
    Accounted draw s count w := by
  have hverdict := check_eq_verdict hdraw s count w
  have hcounts {t : Tally} (ht : ((check draw s count).outcome w).1 = .ok t) :
      Counts draw s count w t := counts_of_verdict (hverdict.symm.trans ht)
  refine ⟨fun f => ?_, ?_, fun ht => (hcounts ht).total,
    fun ht hload => (hcounts ht).passed_of_unloaded hload,
    fun ht hload hlookup => (hcounts ht).passed_of_missing hload hlookup,
    fun ht hload hlookup => congrArg Tally.passed ((hcounts ht).eq_tallyOf hload hlookup)⟩
  · rw [hverdict]
    exact ⟨stops_of_verdict, Stops.verdict⟩
  · intro name signature fault w' hout
    have hstops := stops_of_verdict (hverdict.symm.trans (congrArg Prod.fst hout))
    cases hstops with
    | mismatch hshort hload hlookup _ hcheck =>
      obtain ⟨w'', hout', hclock, htext⟩ :=
        outcome_check_of_mismatch draw hshort hload hlookup hcheck
      rw [hout, Prod.mk.injEq] at hout'
      obtain ⟨-, rfl⟩ := hout'
      exact ⟨(mismatch_of_check hcheck).2, hclock, htext⟩

end Accounts

/-! ## §2 Runs -/

section Runs

variable {draw : Nat → Int} {w u : World} {sources : List Source} {tallies : List Tally}

/-- What a heading looks like. -/
def headingText (title : String) : String :=
  let rule := Tint.blue.paint (String.ofList (List.replicate 60 '=')) ++ "\n"
  rule ++ (Tint.blue.paint ("  " ++ title) ++ "\n") ++ rule ++ "\n"

/-- How the counts of a run are shown. -/
def countsText (t : Tally) : String :=
  s!"  Total tests: {t.passed + t.failed}" ++ "\n" ++
    ("  " ++ Tint.green.paint s!"Passed: {t.passed}" ++ "\n") ++
    ("  " ++ Tint.red.paint s!"Failed: {t.failed}" ++ "\n") ++ "\n"

/-- The last line of a run. -/
def concludingText (t : Tally) : String :=
  if t.failed = 0 then Tint.green.paint ("✅ " ++ "ALL TESTS PASSED! 🎉") ++ "\n"
  else Tint.red.paint ("❌ " ++ s!"{t.failed} tests failed") ++ "\n"

/-- The summary of a run. -/
def summaryText (t : Tally) : String := headingText "Summary" ++ countsText t ++ concludingText t

theorem wrote_wrote (w : World) (text text' : String) :
    (w.wrote .out text).wrote .out text' = w.wrote .out (text ++ text') := by
  simp [World.wrote, String.append_assoc]

/-- What is said first stands before what comes next. -/
theorem outcome_say_bind {α : Type} (line : String) (next : Unit → Act α) (w : World) :
    (Act.say line >>= next).outcome w = (next ⟨⟩).outcome (w.wrote .out (line ++ "\n")) :=
  Act.outcome_bind_of_ok (outcome_say line w)

theorem outcome_sayHeading (title : String) (w : World) :
    (sayHeading title).outcome w = (.ok ⟨⟩, w.wrote .out (headingText title)) := by
  unfold sayHeading sayNothing
  simp only [outcome_say_bind, outcome_say, wrote_wrote, headingText, String.append_assoc,
    String.empty_append]

/-- A run with this tally says so, and its status is zero if nothing has failed. -/
theorem outcome_summarize (t : Tally) (w : World) :
    (summarize t).outcome w =
      (.ok (if t.failed = 0 then 0 else 1), w.wrote .out (summaryText t)) := by
  unfold summarize sayNothing saySuccess sayError
  rw [Act.outcome_bind_of_ok (outcome_sayHeading _ _)]
  simp only [outcome_say_bind]
  unfold summaryText countsText concludingText
  by_cases hfailed : t.failed = 0
  · rw [if_pos hfailed, if_pos hfailed, if_pos hfailed]
    simp only [outcome_say_bind, Act.outcome_pure, wrote_wrote, String.append_assoc,
      String.empty_append]
  · rw [if_neg hfailed, if_neg hfailed, if_neg hfailed]
    simp only [outcome_say_bind, Act.outcome_pure, wrote_wrote, String.append_assoc,
      String.empty_append]

/-- All tallies added up. -/
def totalOf (tallies : List Tally) : Tally :=
  ⟨(tallies.map (·.passed)).sum, (tallies.map (·.failed)).sum⟩

/-- Checks come one after another to the tallies that each of them comes to alone. -/
theorem outcome_checkAll (hdraw : ∀ k, 3 ≤ draw k ∧ draw k ≤ 25) (hground : w.SameGround u)
    (hchecks : List.Forall₂ (fun s t => ((check draw s standardCount).outcome w).1 = .ok t)
      sources tallies) :
    ∃ u', (checkAll draw sources).outcome u = (.ok (totalOf tallies), u') := by
  induction hchecks generalizing u with
  | nil => exact ⟨u, rfl⟩
  | @cons s t sources tallies hcheck _ ih =>
    rw [check_eq_verdict hdraw, verdict_congr hground, ← check_eq_verdict hdraw] at hcheck
    have hgrounded := grounded_check draw s standardCount u
    rcases hout : (check draw s standardCount).outcome u with ⟨result, u₁⟩
    rw [hout] at hcheck hgrounded
    subst hcheck
    -- the next check finds the ground as this one has
    obtain ⟨u', hrest⟩ := ih ((hground.trans hgrounded).trans (World.SameGround.wrote u₁ _))
    refine ⟨u', ?_⟩
    unfold checkAll sayNothing
    rw [Act.outcome_bind_of_ok hout, Act.outcome_bind_of_ok (outcome_say _ _),
      Act.outcome_bind_of_ok hrest]
    rfl

/-- The modules with these names in a directory, in the order in which a run takes them. -/
def sourcesIn (directory : Path) (names : List String) : List Source :=
  (names.mergeSort fun a b => a ≤ b).map fun n => Source.mk (directory.child n)

/-- Which names there are does not depend on what has been written. -/
theorem outcome_namesWith {ending : String} {directory : Path} {names : List String}
    (hnames : ((Cache.namesWith ending directory).outcome w).1 = .ok names) (hground : w.SameGround u) :
    (Cache.namesWith ending directory).outcome u = (.ok names, u) := by
  unfold Cache.namesWith at hnames ⊢
  rw [Act.outcome_bind, Act.outcome_see] at hnames ⊢
  rw [hground.disk]
  cases hthere : w.disk.isDirectory? directory.text with
  | error fault =>
    rw [hthere] at hnames
    cases hnames
  | ok there =>
    rw [hthere] at hnames
    cases there with
    | false =>
      obtain rfl := Except.ok.inj hnames
      rfl
    | true =>
      simp only [Except.mapError, if_true] at hnames ⊢
      rw [Act.outcome_bind, Act.outcome_see] at hnames ⊢
      rw [hground.disk]
      cases hlist : w.disk.listIfAllowed directory.text with
      | error fault =>
        rw [hlist] at hnames
        cases hnames
      | ok all =>
        rw [hlist] at hnames
        obtain rfl := Except.ok.inj hnames
        rfl

/-- The end of a run that has come to these tallies. -/
structure Concluded (draw : Nat → Int) (directory : Path) (w : World) (tallies : List Tally) :
    Prop where
  /-- The status is zero if there was something to check and nothing has failed, and one otherwise. -/
  status : ((run draw directory).outcome w).1 =
    .ok (if tallies ≠ [] ∧ ∀ t ∈ tallies, t.failed = 0 then 0 else 1)
  /-- The summary shows the counts of all modules added up. -/
  summary : tallies ≠ [] →
    ∃ front, ((run draw directory).outcome w).2.out = front ++ summaryText (totalOf tallies)

theorem failed_totalOf_eq_zero_iff : (totalOf tallies).failed = 0 ↔ ∀ t ∈ tallies, t.failed = 0 := by
  induction tallies with
  | nil => simp [totalOf]
  | cons t rest ih =>
    have hcons : (totalOf (t :: rest)).failed = t.failed + (totalOf rest).failed := rfl
    rw [hcons, Nat.add_eq_zero_iff, ih, List.forall_mem_cons]

/-- What a run does with the modules that it has found. -/
def proceed (draw : Nat → Int) (directory : Path) (sources : List Source) : Act Nat :=
  if sources.isEmpty then do
    sayError ("No modules found in " ++ directory.text)
    pure 1
  else do
    saySuccess s!"Found {sources.length} module(s)"
    sayNothing
    summarize (← checkAll draw sources)

theorem outcome_run (draw : Nat → Int) {directory : Path} {names : List String}
    (hnames : ((Cache.namesWith ".wasm" directory).outcome w).1 = .ok names) :
    ∃ u, w.SameGround u ∧ (run draw directory).outcome w =
      (proceed draw directory (sourcesIn directory names)).outcome u := by
  have hfound (text : String) := outcome_namesWith hnames (World.SameGround.wrote w text)
  unfold run sayInfo sayNothing
  rw [Act.outcome_bind_of_ok (outcome_sayHeading _ _), outcome_say_bind, outcome_say_bind]
  rw [wrote_wrote, wrote_wrote, Act.outcome_bind_of_ok (hfound _)]
  exact ⟨_, World.SameGround.wrote w _, rfl⟩

theorem outcome_proceed_nil (draw : Nat → Int) (directory : Path) (w : World) :
    ((proceed draw directory []).outcome w).1 = .ok 1 := rfl

/-- A run with modules ends with the summary of all their checks. -/
theorem outcome_proceed (hdraw : ∀ k, 3 ≤ draw k ∧ draw k ≤ 25) (hground : w.SameGround u)
    (hchecks : List.Forall₂ (fun s t => ((check draw s standardCount).outcome w).1 = .ok t)
      sources tallies) (hsome : sources ≠ []) (directory : Path) :
    ∃ u' : World, (proceed draw directory sources).outcome u =
      (.ok (if (totalOf tallies).failed = 0 then 0 else 1),
        u'.wrote .out (summaryText (totalOf tallies))) := by
  unfold proceed saySuccess sayNothing
  rw [if_neg (by simpa using hsome), outcome_say_bind, outcome_say_bind, wrote_wrote]
  obtain ⟨u', hall⟩ :=
    outcome_checkAll hdraw (hground.trans (World.SameGround.wrote u _)) hchecks
  rw [Act.outcome_bind_of_ok hall, outcome_summarize]
  exact ⟨u', rfl⟩

/-- A run whose checks come to tallies adds them up. -/
theorem concluded (hdraw : ∀ k, 3 ≤ draw k ∧ draw k ≤ 25) {directory : Path} {names : List String}
    (hnames : ((Cache.namesWith ".wasm" directory).outcome w).1 = .ok names)
    (hchecks : List.Forall₂ (fun s t => ((check draw s standardCount).outcome w).1 = .ok t)
      (sourcesIn directory names) tallies) :
    Concluded draw directory w tallies := by
  obtain ⟨u, hground, hrun⟩ := outcome_run draw hnames
  -- without modules there is no tally, and the status is one all the same
  by_cases hsome : sourcesIn directory names = []
  · rw [hsome] at hrun hchecks
    obtain rfl := List.forall₂_nil_left_iff.1 hchecks
    refine ⟨?_, fun hne => absurd rfl hne⟩
    rw [hrun, outcome_proceed_nil]
    rfl
  · obtain ⟨u', hproceed⟩ := outcome_proceed hdraw hground hchecks hsome directory
    have hne : tallies ≠ [] := by
      rintro rfl
      exact hsome (List.forall₂_nil_right_iff.1 hchecks)
    rw [hproceed] at hrun
    refine ⟨?_, fun _ => ⟨u'.out, ?_⟩⟩
    · simp only [hrun, failed_totalOf_eq_zero_iff, ne_eq, hne, not_false_eq_true, true_and]
    · rw [hrun]
      rfl

end Runs

/-! ## §3 Every case -/

/-- The validation suite accounts for every case, whatever numbers are drawn from 3 to 25: each check has
its account, and a run whose checks come to tallies ends with their sums, and well if and only if there
was something to check and nothing has failed. -/
theorem accounts_for_every_case {draw : Nat → Int} (hdraw : ∀ k, 3 ≤ draw k ∧ draw k ≤ 25) :
    (∀ (s : Source) (count : Int) (w : World), Accounted draw s count w) ∧
    ∀ (directory : Path) (names : List String) (tallies : List Tally) (w : World),
      ((Cache.namesWith ".wasm" directory).outcome w).1 = .ok names →
      List.Forall₂ (fun s t => ((check draw s standardCount).outcome w).1 = .ok t)
        (sourcesIn directory names) tallies →
      Concluded draw directory w tallies :=
  ⟨accounted hdraw, fun _ _ _ _ hnames hchecks => concluded hdraw hnames hchecks⟩

theorem standardDraw_bounds (k : Nat) : 3 ≤ standardDraw k ∧ standardDraw k ≤ 25 := by
  have hindex : k % drawn.length < drawn.length := Nat.mod_lt k (by decide)
  have hall : ∀ n ∈ drawn, (decide (3 ≤ n ∧ n ≤ 25)) = true := List.all_eq_true.1 (by decide)
  have hdrawn : standardDraw k = drawn[k % drawn.length] := List.getD_eq_getElem drawn 0 hindex
  rw [hdrawn]
  exact of_decide_eq_true (hall _ (List.getElem_mem hindex))

theorem exists_tally {draw : Nat → Int} {s : Source} {count : Int} {w w₁ : World} {h : Handle}
    {signature : Signature} (hdraw : ∀ k, 3 ≤ draw k ∧ draw k ≤ 25)
    (hshort : count.natAbs < tenPow digitLimit)
    (hload : (s.load Engine.shared false false).outcome w = (.ok h, w₁))
    (hlookup : h.exports.lookup standardExport = some signature) (htakes : signature.TakesNumber) :
    ∃ t, ((check draw s count).outcome w).1 = .ok t := by
  obtain ⟨checked, hcheck⟩ :=
    Signature.exists_check_of_takesNumber htakes (by decide : (0 : Int) ≤ 0) (by decide)
  rw [check_eq_verdict hdraw, verdict_of_lookup hshort hload hlookup, hcheck]
  exact ⟨_, rfl⟩

theorem exists_tally_bundled {s : Source}
    (hexports : ((s.load Engine.shared false false).outcome (World.start [])).1.toOption.map
      Handle.exports = some [("fib", ⟨["i32"], ["i32"]⟩)]) :
    ∃ t, ((check standardDraw s standardCount).outcome (World.start [])).1 = .ok t := by
  rcases hload : (s.load Engine.shared false false).outcome (World.start []) with ⟨result, w⟩
  rw [hload] at hexports
  cases result with
  | error f => cases hexports
  | ok h =>
    have hfib : h.exports.lookup standardExport = some ⟨["i32"], ["i32"]⟩ := by
      rw [Option.some.inj hexports]
      rfl
    exact exists_tally standardDraw_bounds (by decide +kernel) hload hfib (by simp [Signature.TakesNumber])

/-- The bundled modules: both are checked, with ten cases each. -/
theorem accounts_for_every_case_bundled : ∃ t t' : Tally,
    (t.passed + t.failed : Int) = 10 ∧ (t'.passed + t'.failed : Int) = 10 ∧
      Concluded standardDraw Bundle.directory (World.start []) [t, t'] := by
  obtain ⟨haccounts, hruns⟩ := accounts_for_every_case standardDraw_bounds
  obtain ⟨t, ht⟩ := exists_tally_bundled (s := Bundle.fib) (by decide +kernel)
  obtain ⟨t', ht'⟩ := exists_tally_bundled (s := Bundle.fibOpt) (by decide +kernel)
  have hsources : sourcesIn Bundle.directory ["fib.wasm", "fib_opt.wasm"] =
      [Bundle.fib, Bundle.fibOpt] := by
    unfold sourcesIn
    rw [List.mergeSort_of_pairwise (by decide +kernel)]
    rfl
  refine ⟨t, t', (haccounts _ _ _).total ht, (haccounts _ _ _).total ht', ?_⟩
  refine hruns Bundle.directory ["fib.wasm", "fib_opt.wasm"] [t, t'] (World.start []) ?_ ?_
  · have hnames : ((Cache.namesWith ".wasm" Bundle.directory).outcome (World.start [])).1.toOption =
        some ["fib.wasm", "fib_opt.wasm"] := by decide +kernel
    rcases hout : ((Cache.namesWith ".wasm" Bundle.directory).outcome (World.start [])).1 with f | names
    · rw [hout] at hnames
      cases hnames
    · rw [hout] at hnames
      exact congrArg Except.ok (Option.some.inj hnames)
  · rw [hsources]
    exact .cons ht (.cons ht' .nil)

/-- A module that is not loaded can make a check fail: a path with a null character is not read, and the
fault is none of the harness. -/
theorem check_unnamed :
    ((Source.load ⟨Path.ofText "a\x00b"⟩ Engine.shared false false).outcome (World.start [])).1 =
        .error (.disk .nullByte) ∧
      ((check standardDraw ⟨Path.ofText "a\x00b"⟩ standardCount).outcome (World.start [])).1 =
        .error (.disk .nullByte) := by
  have hnull : Storage.Disk.holdsNull (Source.text ⟨Path.ofText "a\x00b"⟩) = true := by decide +kernel
  refine ⟨load_of_null hnull _, ?_⟩
  rw [check_eq_verdict standardDraw_bounds]
  exact (Stops.unnamed (by decide +kernel) hnull).verdict

end Suite

end WasmGauge
