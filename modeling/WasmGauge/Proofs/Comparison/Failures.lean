import WasmGauge.Proofs.Comparison.Lines
import WasmGauge.Proofs.Handles.Boundary
import WasmGauge.Proofs.Storage.Reading

/-!
# Failures of a comparison

Nearly every failure of a comparison of modules is one of the harness, with a class and words of its
own. What is not, is a fault of the disk that is passed on as it is, and there are four places for it:
a source whose name no file can have, the directory of the cache, an entry of which the disk does not
say whether it is there, and an entry that cannot be used and cannot be removed either. Without a cache
only the first one is left.

A comparison of a module whose start function never ends does not end itself. `Failure.endless` stands
for this; it is told apart from what fails.

## Main statements

- `Source.report_failure`: what the failure of a single report is.
- `compare_failure`: a comparison fails with a fault of the disk exactly if one of these places is met
  on the way, and every other failure is one of the harness.
-/

namespace WasmGauge

open Storage (Path Disk DiskFault Errno)
open Wasm (Bytes Unready)

/-! ## §1 Faults that are passed on -/

namespace Cache

/-- The fault of the disk that opening the cache for all passes on: its directory can neither be made
nor looked at. A cache that is open has none. -/
def openingFault? (w : World) : Option DiskFault :=
  match w.sharedCache with
  | some _ => none
  | none =>
    match w.disk.ensureDirectory w.settings.cacheDirectory directoryMode with
    | .error fault => some fault
    | .ok d =>
      match d.status w.settings.cacheDirectory.text with
      | .error fault => some fault
      | .ok _ => none

/-- The fault of the disk that looking for an entry passes on: the disk does not say whether it is
there, or it cannot be used and cannot be removed. -/
def entryFault? (c : Cache) (d : Disk) (key : String) : Option DiskFault :=
  match d.exists? (c.file key).text with
  | .error fault => some fault
  | .ok false => none
  | .ok true =>
    match artifactAt d (c.file key), d.unlinkIfThere (c.file key).text with
    | .error _, .error fault => some fault
    | _, _ => none

/-- The fault of the disk that getting the module for data passes on. A module that is remembered for
the engine is given without a look at the disk. -/
def gettingFault? (c : Cache) (w : World) (data : Bytes) (engine : Engine) : Option DiskFault :=
  if (c.lookup? w (keyOf data)).any fun r => r.engine = engine then none
  else c.entryFault? w.disk (keyOf data)

end Cache

def Source.fault? (s : Source) (useCache : Bool) (w : World) : Option DiskFault :=
  if Disk.holdsNull s.text then some .nullByte
  else
    match useCache, s.dataOn w.disk with
    | true, .ok data =>
      match Cache.openingFault? w, Cache.shared.outcome w with
      | some fault, _ => some fault
      | none, (.ok c, w₁) => c.gettingFault? w₁ data Engine.shared
      | none, (.error _, _) => none
    | _, _ => none

/-- A failure of the harness, or what stands for a start function that never ends. -/
def Failure.Told (f : Failure) : Prop := f.isHarness = true ∨ ∃ source, f = .endless source

theorem Wasm.Unready.told_failure (source : Path) (unready : Unready CompileCause) :
    (unready.failure source).Told := by
  cases unready with
  | refused cause => exact .inl rfl
  | endless => exact .inr ⟨source, rfl⟩

/-- What a result must be, given the fault that is passed on. -/
structure PassesOn {α : Type} (fault? : Option DiskFault) (result : Except Failure α) : Prop where
  /-- The fault that there is, is the failure. -/
  disk : ∀ fault, fault? = some fault → result = .error (.disk fault)
  /-- If there is none, nothing fails but the harness. -/
  harness : fault? = none → ∀ f, result = .error f → f.Told

namespace PassesOn

variable {α β : Type} {fault? : Option DiskFault}

theorem of_disk (fault : DiskFault) :
    PassesOn (some fault) (.error (.disk fault) : Except Failure α) where
  disk fault' h := by cases h; rfl
  harness h := by cases h

theorem of_ok (a : α) : PassesOn none (.ok a : Except Failure α) where
  disk fault h := by cases h
  harness _ f hf := by cases hf

theorem of_told {f : Failure} (h : f.Told) : PassesOn none (.error f : Except Failure α) where
  disk fault h := by cases h
  harness _ f' hf := by cases hf; exact h

theorem of_harness {f : Failure} (h : f.isHarness = true) :
    PassesOn none (.error f : Except Failure α) := of_told (.inl h)

theorem of_error {f : Failure} (h : PassesOn fault? (.error f : Except Failure α)) :
    PassesOn fault? (.error f : Except Failure β) where
  disk fault hfault := congrArg Except.error (Except.error.inj (h.disk fault hfault))
  harness hnone f' hf := h.harness hnone f' (congrArg Except.error (Except.error.inj hf))

theorem eq_none {a : α} (h : PassesOn fault? (.ok a : Except Failure α)) : fault? = none := by
  cases fault? with
  | none => rfl
  | some fault => cases h.disk fault rfl

theorem map {result : Except Failure α} (h : PassesOn fault? result) (g : α → β) :
    PassesOn fault? (result.map g) := by
  cases result with
  | ok a => exact h.eq_none ▸ of_ok (g a)
  | error f => exact h.of_error

/-- A second step that fails as a failure of the harness only does not change which fault is passed
on. -/
theorem bind {act : Act α} {next : α → Act β} {w : World}
    (first : PassesOn fault? (act.outcome w).1)
    (second : ∀ a w', act.outcome w = (.ok a, w') → PassesOn none ((next a).outcome w').1) :
    PassesOn fault? ((act >>= next).outcome w).1 := by
  rw [Act.outcome_bind]
  -- if the first step fails, the second one is not taken
  rcases hact : act.outcome w with ⟨result, w'⟩
  rw [hact] at first
  cases result with
  | error f => exact first.of_error
  | ok a => exact first.eq_none ▸ second a w' hact

/-- After a first step that succeeds, the fault that the second one passes on counts. -/
theorem bind_of_ok {act : Act α} {next : α → Act β} {w w' : World} {a : α}
    (hact : act.outcome w = (.ok a, w')) (second : PassesOn fault? ((next a).outcome w').1) :
    PassesOn fault? ((act >>= next).outcome w).1 := by
  rw [Act.outcome_bind_of_ok hact]
  exact second

end PassesOn

/-! ## §2 Loading -/

namespace Cache

theorem harness_of_checkDirectory {directory : String} {owner user mode : Nat} {f : Failure}
    (h : checkDirectory directory owner user mode = .error f) : f.isHarness = true := by
  unfold checkDirectory at h
  cases hfault : privacyFault? owner user mode with
  | none => simp [hfault] at h
  | some fault =>
    simp only [hfault, Except.error.injEq] at h
    rw [← h]
    rfl

theorem passesOn_shared (w : World) : PassesOn (openingFault? w) (shared.outcome w).1 := by
  rw [outcome_shared]
  unfold openingFault?
  cases w.sharedCache with
  | some c => exact PassesOn.of_ok c
  | none =>
    simp only [outcome_openAt]
    cases w.disk.ensureDirectory w.settings.cacheDirectory directoryMode with
    | error fault => exact PassesOn.of_disk fault
    | ok d =>
      simp only
      cases d.status w.settings.cacheDirectory.text with
      | error fault => exact PassesOn.of_disk fault
      | ok e =>
        simp only
        cases hcheck : checkDirectory w.settings.cacheDirectory.text e.owner d.user e.mode with
        | ok _ => exact PassesOn.of_ok _
        | error f => exact PassesOn.of_harness (harness_of_checkDirectory hcheck)

theorem passesOn_takeUp (c : Cache) (key : String) (engine : Engine) (w : World) :
    PassesOn (c.entryFault? w.disk key) ((c.takeUp key engine).outcome w).1 := by
  unfold takeUp entryFault?
  rw [Act.outcome_bind, Act.outcome_see]
  cases w.disk.exists? (c.file key).text with
  | error fault => exact PassesOn.of_disk fault
  | ok there =>
    cases there with
    | false => exact PassesOn.of_ok none
    | true =>
      refine PassesOn.bind_of_ok (Act.outcome_get w) ?_
      cases artifactAt w.disk (c.file key) with
      | ok a => exact PassesOn.of_ok _
      | error reason =>
        refine PassesOn.bind_of_ok (Act.outcome_debug _ _ w) ?_
        rw [Act.outcome_bind, Act.outcome_change]
        -- an artifact that cannot be used is to be removed, and the disk may refuse that
        cases w.disk.unlinkIfThere (c.file key).text with
        | error fault => exact PassesOn.of_disk fault
        | ok d => exact PassesOn.of_ok none

theorem passesOn_get (c : Cache) (data : Bytes) (engine : Engine) (w : World) :
    PassesOn (c.gettingFault? w data engine) ((c.get data engine).outcome w).1 := by
  unfold gettingFault? lookup?
  rcases c.outcome_get_cases data engine w with ⟨m, hm, hget⟩ | ⟨hother, hget⟩
  · rw [hm, if_pos (by simp), hget]
    exact PassesOn.of_ok _
  · -- what is remembered for another engine counts as not remembered
    have hmiss : ¬ ((w.memory.lookup (c.id, keyOf data)).any fun r => r.engine = engine) = true := by
      cases hlookup : w.memory.lookup (c.id, keyOf data) with
      | none => simp
      | some r => simpa using hother r hlookup
    rw [if_neg hmiss, hget]
    exact c.passesOn_takeUp _ engine w

end Cache

namespace Source

variable {w : World}

/-- Reading a source fails with the fault of its name, or as the harness does. -/
theorem passesOn_dataOn (s : Source) (d : Disk) :
    PassesOn (if Disk.holdsNull s.text then some .nullByte else none) (s.dataOn d) := by
  unfold dataOn
  -- a character that no name may hold is a fault of the disk; every other cause is put into words
  rcases d.read_cases s.text with ⟨hnull, hread⟩ | ⟨hnull, ⟨bytes, hread⟩ | ⟨e, hread⟩⟩
  · rw [hread, if_pos hnull]
    exact PassesOn.of_disk .nullByte
  · rw [hread, if_neg (by simp [hnull])]
    show PassesOn none ((s.assemble bytes).mapError (Failure.compile s.path))
    cases s.assemble bytes with
    | ok data => exact PassesOn.of_ok data
    | error cause => exact PassesOn.of_harness (f := .compile s.path cause) rfl
  · rw [hread, if_neg (by simp [hnull])]
    exact PassesOn.of_harness (f := .load s.path e) rfl

/-- Data that has been got past opening and asking the cache is compiled, or is no module. -/
theorem passesOn_compileCached (s : Source) {data : Bytes} {c : Cache} {w₁ w₂ : World}
    {result : Option Compiled} (hopen : Cache.shared.outcome w = (.ok c, w₁))
    (hget : (c.get data Engine.shared).outcome w₁ = (.ok result, w₂)) :
    PassesOn none ((s.compileCached data Engine.shared false).outcome w).1 := by
  have hshared : w₂.sharedCache = some c :=
    (Cache.sharedCache_of_get hget).trans (Cache.sharedCache_of_shared hopen)
  have hcases := s.compileCached_cases false hopen hget hshared
  cases result with
  | some m =>
    obtain ⟨out, logger, hout⟩ := hcases
    rw [hout]
    exact PassesOn.of_ok m
  | none =>
    cases ha : Artifact.ofData? data with
    | none =>
      rw [ha] at hcases
      obtain ⟨out, hout⟩ := hcases
      rw [hout]
      exact PassesOn.of_harness rfl
    | some a =>
      rw [ha] at hcases
      obtain ⟨out, logger, hout⟩ := hcases
      obtain ⟨disk, logger', hput⟩ := c.outcome_put data ⟨w₂.made, Engine.shared, a⟩ Engine.shared
        { w₂ with out := out, made := w₂.made + 1, logger := logger }
      rw [hout _ hput]
      exact PassesOn.of_ok _

/-- Obtaining the module for data that has been read fails with the fault of the cache, or because the
data is no module. -/
theorem passesOn_obtain (s : Source) (useCache : Bool) {data : Bytes}
    (hnull : Disk.holdsNull s.text = false) (hdata : s.dataOn w.disk = .ok data) :
    PassesOn (s.fault? useCache w) ((s.obtain data Engine.shared useCache false).outcome w).1 := by
  unfold fault?
  rw [if_neg (by simp [hnull]), hdata]
  cases useCache with
  | false =>
    show PassesOn none ((s.compileData data Engine.shared).outcome w).1
    cases ha : Artifact.ofData? data with
    | none =>
      rw [outcome_compileData_of_none s Engine.shared w ha]
      exact PassesOn.of_harness rfl
    | some a =>
      obtain ⟨logger, hout⟩ := outcome_compileData_of_some s Engine.shared w ha
      rw [hout]
      exact PassesOn.of_ok _
  | true =>
    show PassesOn _ ((s.compileCached data Engine.shared false).outcome w).1
    have hopening := Cache.passesOn_shared w
    -- the cache is opened, then asked; each of the two may be refused by the disk
    rcases hopen : Cache.shared.outcome w with ⟨opened, w₁⟩
    rw [hopen] at hopening
    cases opened with
    | error f =>
      have hfail : ((s.compileCached data Engine.shared false).outcome w).1 = .error f := by
        unfold compileCached
        rw [Act.outcome_bind_of_error hopen]
      rw [hfail]
      cases hfault : Cache.openingFault? w with
      | some fault => exact (hfault ▸ hopening).of_error
      | none => exact (hfault ▸ hopening).of_error
    | ok c =>
      rw [hopening.eq_none]
      have hgetting := c.passesOn_get data Engine.shared w₁
      rcases hget : (c.get data Engine.shared).outcome w₁ with ⟨got, w₂⟩
      rw [hget] at hgetting
      cases got with
      | error f =>
        have hfail : ((s.compileCached data Engine.shared false).outcome w).1 = .error f := by
          unfold compileCached
          rw [Act.outcome_bind_of_ok hopen, Act.outcome_bind_of_error hget]
        rw [hfail]
        exact hgetting.of_error
      | ok result =>
        simp only [hgetting.eq_none]
        exact s.passesOn_compileCached hopen hget

theorem passesOn_load (s : Source) (useCache : Bool) (w : World) :
    PassesOn (s.fault? useCache w) ((s.load Engine.shared useCache false).outcome w).1 := by
  have hcompile : PassesOn (s.fault? useCache w)
      ((s.compile Engine.shared useCache false).outcome w).1 := by
    have hread := s.passesOn_dataOn w.disk
    rw [s.outcome_compile]
    cases hdata : s.dataOn w.disk with
    | error f =>
      have hfault : s.fault? useCache w =
          if Disk.holdsNull s.text then some .nullByte else none := by
        unfold fault?
        rw [hdata]
        cases useCache <;> rfl
      rw [hfault]
      exact (hdata ▸ hread).of_error
    | ok data =>
      have hnone := (hdata ▸ hread).eq_none
      have hnull : Disk.holdsNull s.text = false := by
        cases h : Disk.holdsNull s.text with
        | false => rfl
        | true => simp [h] at hnone
      exact (s.passesOn_obtain useCache hnull hdata).map _
  refine hcompile.bind fun x w' _ => ?_
  -- making the instance has nothing to do with the disk, and a trap is a failure of the harness
  cases hi : x.instance? w'.bounds with
  | error unready =>
    rw [Executable.outcome_instantiate_of_error hi]
    exact PassesOn.of_told (unready.told_failure x.source.path)
  | ok i =>
    obtain ⟨logger, hout⟩ := Executable.outcome_instantiate_of_ok hi
    rw [hout]
    exact PassesOn.of_ok _

end Source

/-! ## §3 Reports -/

/-- Wherever a candidate is loaded and its handle gives out the function, its arguments go with it. -/
def Candidate.Accepts (c : Candidate) (name : String) (args : List Value) (useCache : Bool)
    (w : World) : Prop :=
  ∀ s h w' signature, c.subject = .source s →
    (s.load Engine.shared useCache false).outcome w = (.ok h, w') →
    h.exports.lookup name = some signature → ∃ checked, signature.check args = .ok checked

/-- A report of a module under a text fails with the fault that is passed on, or as the harness does:
the function is looked up and called by the harness, and its line can always be written. -/
theorem Source.report_failure (s : Source) (label : String) (sink : Sink) {name : String}
    {args : List Value} {useCache : Bool} {w : World}
    (haccepts : Candidate.Accepts ⟨.str label, .source s⟩ name args useCache w) :
    PassesOn (s.fault? useCache w)
      ((Candidate.report ⟨.str label, .source s⟩ name args sink useCache).outcome w).1 := by
  unfold Candidate.report Candidate.measure
  simp only [bind_assoc]
  refine (s.passesOn_load useCache w).bind fun h w₁ hload => ?_
  obtain ⟨x, w₀, -, hmade⟩ := Act.outcome_bind_eq_ok hload
  rcases Handle.accept_cases (Handle.named_of_instantiate hmade) name args with
    ⟨-, hrefused⟩ | ⟨signature, fault, hlookup, hcheck, -⟩ | ⟨index, type, checked, vals, ht⟩
  · rw [Handle.invoke_of_refused hrefused]
    exact PassesOn.of_harness rfl
  · -- arguments that do not go with the function are excluded
    obtain ⟨checked, hok⟩ := haccepts s h w₁ signature rfl hload hlookup
    rw [hcheck] at hok
    cases hok
  · rcases hcall : (h.current w₁).call w₁.bounds index vals with ⟨result, i⟩
    cases result with
    | error trap =>
      obtain ⟨w₂, hinvoke, -⟩ := (ht.times (.str label)).trapped w₁ trap i hcall
      rw [Act.outcome_bind_of_error hinvoke]
      exact PassesOn.of_harness rfl
    | ok results =>
      obtain ⟨w₂, logger, hinvoke, -⟩ := (ht.times (.str label)).returned w₁ results i hcall
      obtain ⟨line, hline⟩ := ht.line results
        ((w₁.clock.reading (w₁.clock.reads + 1) - w₁.clock.reading w₁.clock.reads) * 1000) label
      rw [Act.outcome_bind_of_ok hinvoke, hline]
      refine PassesOn.bind_of_ok (Act.outcome_pure line w₂) ?_
      exact PassesOn.bind_of_ok (World.outcome_write sink (line ++ "\n") w₂) (PassesOn.of_ok _)

/-! ## §4 Comparisons -/

/-- A comparison that begins in a world reaches a candidate in another one: all candidates before it
have been reported. -/
def Reaches (cs : List Candidate) (name : String) (args : List Value) (sink : Sink) (useCache : Bool)
    (w : World) (c : Candidate) (w' : World) : Prop :=
  ∃ before after r, cs = before ++ c :: after ∧
    (compare before name args sink useCache).outcome w = (.ok r, w')

section Comparison

variable {c c' : Candidate} {cs : List Candidate} {name : String} {args : List Value} {sink : Sink}
  {useCache : Bool} {w w' : World}

/-- The first candidate is reached at once, and the others after its report. -/
theorem reaches_cons : Reaches (c :: cs) name args sink useCache w c' w' ↔
    (c' = c ∧ w' = w) ∨ ∃ m w₁, (c.report name args sink useCache).outcome w = (.ok m, w₁) ∧
      Reaches cs name args sink useCache w₁ c' w' := by
  constructor
  · rintro ⟨before, after, r, hsplit, hbefore⟩
    -- no candidate before means that this is the first one
    cases before with
    | nil =>
      rw [List.nil_append, List.cons.injEq] at hsplit
      rw [outcome_compare_nil, Prod.mk.injEq] at hbefore
      exact .inl ⟨hsplit.1.symm, hbefore.2.symm⟩
    | cons b before =>
      rw [List.cons_append, List.cons.injEq] at hsplit
      obtain ⟨rfl, hrest⟩ := hsplit
      rw [compare_cons] at hbefore
      obtain ⟨m, w₁, hreport, hothers⟩ := Act.outcome_bind_eq_ok hbefore
      obtain ⟨ms, w₂, hcompare, hpure⟩ := Act.outcome_bind_eq_ok hothers
      rw [Act.outcome_pure, Prod.mk.injEq] at hpure
      exact .inr ⟨m, w₁, hreport, before, after, ms, hrest, hpure.2 ▸ hcompare⟩
  · rintro (⟨rfl, rfl⟩ | ⟨m, w₁, hreport, before, after, r, rfl, hbefore⟩)
    · exact ⟨[], cs, [], rfl, outcome_compare_nil w'⟩
    · refine ⟨c :: before, after, m :: r, rfl, ?_⟩
      rw [compare_cons, Act.outcome_bind_of_ok hreport, Act.outcome_bind_of_ok hbefore]
      rfl

/-- A fault of the disk is met on the way of a comparison. -/
def Meets (cs : List Candidate) (name : String) (args : List Value) (sink : Sink) (useCache : Bool)
    (w : World) (fault : DiskFault) : Prop :=
  ∃ c s w', Reaches cs name args sink useCache w c w' ∧ c.subject = .source s ∧
    s.fault? useCache w' = some fault

/-- What a comparison of modules passes on is the fault that is met first. -/
theorem passesOn_compare (cs : List Candidate) (w : World)
    (hmodules : ∀ c ∈ cs, ∃ label s, c = ⟨.str label, .source s⟩)
    (haccepts : ∀ c w', Reaches cs name args sink useCache w c w' → c.Accepts name args useCache w') :
    ∃ fault?, PassesOn fault? ((compare cs name args sink useCache).outcome w).1 ∧
      ∀ fault, fault? = some fault ↔ Meets cs name args sink useCache w fault := by
  -- on the candidates: the first one to meet a fault is the last one that is reported
  induction cs generalizing w with
  | nil =>
    refine ⟨none, PassesOn.of_ok _, fun fault => ⟨fun h => (nomatch h), ?_⟩⟩
    rintro ⟨c, s, w', ⟨before, after, r, hsplit, -⟩, -⟩
    simp at hsplit
  | cons c cs ih =>
    obtain ⟨label, s, rfl⟩ := hmodules _ (List.mem_cons_self ..)
    have hfirst := s.report_failure label sink
      (haccepts _ w (reaches_cons.2 (.inl ⟨rfl, rfl⟩)))
    rw [compare_cons, Act.outcome_bind]
    rcases hreport : (Candidate.report ⟨.str label, .source s⟩ name args sink useCache).outcome w with
      ⟨result, w₁⟩
    rw [hreport] at hfirst
    cases result with
    | error f =>
      -- no other candidate is reached
      refine ⟨s.fault? useCache w, hfirst.of_error, fun fault => ⟨fun h => ?_, ?_⟩⟩
      · exact ⟨_, s, w, reaches_cons.2 (.inl ⟨rfl, rfl⟩), rfl, h⟩
      · rintro ⟨c', s', w', hreach, hsubject, hfault⟩
        rcases reaches_cons.1 hreach with ⟨rfl, rfl⟩ | ⟨m, w₂, hok, -⟩
        · cases hsubject
          exact hfault
        · rw [hreport] at hok
          cases hok
    | ok m =>
      obtain ⟨fault?, hrest, hmeets⟩ := ih w₁ (fun c hc => hmodules c (List.mem_cons_of_mem _ hc))
        fun c w' hreach => haccepts c w' (reaches_cons.2 (.inr ⟨m, w₁, hreport, hreach⟩))
      refine ⟨fault?, ?_, fun fault => (hmeets fault).trans ⟨?_, ?_⟩⟩
      · exact hrest.bind fun ms w₂ _ => PassesOn.of_ok _
      · rintro ⟨c', s', w', hreach, hsubject, hfault⟩
        exact ⟨c', s', w', reaches_cons.2 (.inr ⟨m, w₁, hreport, hreach⟩), hsubject, hfault⟩
      · rintro ⟨c', s', w', hreach, hsubject, hfault⟩
        rcases reaches_cons.1 hreach with ⟨rfl, rfl⟩ | ⟨m', w₂, hok, hreach⟩
        · -- the first candidate has been reported without a fault
          cases hsubject
          rw [hfirst.eq_none] at hfault
          cases hfault
        · rw [hreport, Prod.mk.injEq] at hok
          obtain ⟨-, rfl⟩ := hok
          exact ⟨c', s', w', hreach, hsubject, hfault⟩

/-- A comparison of modules under texts, whose arguments go with the functions that it reaches, fails
with a fault of the disk exactly if it meets the fault on its way. Every other failure is one of the
harness, unless a start function never ends and the comparison does not end either. Without a cache, and
with names that files can have, no fault is met. -/
theorem compare_failure (cs : List Candidate) (w : World)
    (hmodules : ∀ c ∈ cs, ∃ label s, c = ⟨.str label, .source s⟩)
    (haccepts : ∀ c w', Reaches cs name args sink useCache w c w' → c.Accepts name args useCache w') :
    (∀ fault, ((compare cs name args sink useCache).outcome w).1 = .error (.disk fault) ↔
      Meets cs name args sink useCache w fault) ∧
    (∀ f, ((compare cs name args sink useCache).outcome w).1 = .error f →
      f.isHarness = true ∨ (∃ fault, f = .disk fault) ∨ ∃ source, f = .endless source) ∧
    (useCache = false →
      (∀ c s, c ∈ cs → c.subject = .source s → Disk.holdsNull s.text = false) →
      ∀ f, ((compare cs name args sink useCache).outcome w).1 = .error f →
        f.isHarness = true ∨ ∃ source, f = .endless source) := by
  obtain ⟨fault?, hpasses, hmeets⟩ := passesOn_compare cs w hmodules haccepts
  refine ⟨fun fault => ?_, fun f hf => ?_, fun hcache hnames f hf => ?_⟩
  · rw [← hmeets fault]
    refine ⟨fun hfail => ?_, hpasses.disk fault⟩
    cases fault? with
    | none =>
      -- a fault of the disk is no failure of the harness
      rcases hpasses.harness rfl _ hfail with hharness | ⟨source, hendless⟩
      · cases hharness
      · cases hendless
    | some fault' =>
      have hsame := (hpasses.disk fault' rfl).symm.trans hfail
      cases hsame
      rfl
  · cases fault? with
    | none => exact (hpasses.harness rfl f hf).imp_right .inr
    | some fault =>
      have hsame := (hpasses.disk fault rfl).symm.trans hf
      cases hsame
      exact .inr (.inl ⟨fault, rfl⟩)
  · have hnone : fault? = none := by
      cases fault? with
      | none => rfl
      | some fault =>
        obtain ⟨c, s, w', ⟨before, after, r, hsplit, -⟩, hsubject, hfault⟩ := (hmeets fault).1 rfl
        have hname := hnames c s (by simp [hsplit]) hsubject
        unfold Source.fault? at hfault
        rw [if_neg (by simp [hname]), hcache] at hfault
        cases hfault
    exact hpasses.harness hnone f hf

end Comparison

theorem reaches_singleton {c c' : Candidate} {name : String} {args : List Value} {sink : Sink}
    {useCache : Bool} {w w' : World} (h : Reaches [c] name args sink useCache w c' w') :
    c' = c ∧ w' = w := by
  rcases reaches_cons.1 h with hfirst | ⟨m, w₁, -, before, after, r, hsplit, -⟩
  · exact hfirst
  · simp at hsplit

/-! ## §5 A file in place of the cache -/

/-- A world with a file where the directory of the cache should be. -/
def World.blocked : World :=
  { World.start [] with
    disk := Bundle.disk.put (Bundle.workplace ++ ["cache"]) ⟨.file [], 0, Disk.fileMode⟩ }

theorem fault_blocked : Bundle.fib.fault? true World.blocked = some (.os .exists "cache") := by
  decide +kernel

theorem accepts_blocked {c : Candidate} {w : World}
    (h : Reaches [⟨.str "a", .source Bundle.fib⟩] "fib" [.int 1] .stream true World.blocked c w) :
    c.Accepts "fib" [.int 1] true w := by
  obtain ⟨rfl, rfl⟩ := reaches_singleton h
  intro s g w' signature hsubject hload
  cases hsubject
  -- the module cannot be loaded at all
  have hfail := (Bundle.fib.passesOn_load true World.blocked).disk _ fault_blocked
  rw [hload] at hfail
  cases hfail

theorem compare_failure_blocked :
    ((compare [⟨.str "a", .source Bundle.fib⟩] "fib" [.int 1] .stream true).outcome
      World.blocked).1 = .error (.disk (.os .exists "cache")) := by
  have hmodules : ∀ c ∈ [(⟨.str "a", .source Bundle.fib⟩ : Candidate)],
      ∃ label s, c = ⟨.str label, .source s⟩ := by
    intro c hc
    exact ⟨"a", Bundle.fib, List.mem_singleton.1 hc⟩
  refine ((compare_failure _ _ hmodules fun c w hreach => accepts_blocked hreach).1 _).2 ?_
  exact ⟨_, Bundle.fib, World.blocked, reaches_cons.2 (.inl ⟨rfl, rfl⟩), rfl, fault_blocked⟩

/-- Not every failure is one of the harness: a file in place of the directory of the cache is met as it
is. -/
theorem exists_failure_passed_on : ∃ cs name args sink useCache w f,
    (∀ c ∈ cs, ∃ label s, c = (⟨.str label, .source s⟩ : Candidate)) ∧
      (∀ c w', Reaches cs name args sink useCache w c w' → c.Accepts name args useCache w') ∧
      ((compare cs name args sink useCache).outcome w).1 = .error f ∧ f.isHarness = false := by
  have haccepts := accepts_blocked (reaches_cons.2 (.inl ⟨rfl, rfl⟩))
  have hreport := (Bundle.fib.report_failure "a" .stream haccepts).disk _ fault_blocked
  refine ⟨[⟨.str "a", .source Bundle.fib⟩], "fib", [.int 1], .stream, true, World.blocked,
    .disk (.os .exists "cache"), ?_, fun c w' hreach => accepts_blocked hreach, ?_, rfl⟩
  · intro c hc
    exact ⟨"a", Bundle.fib, List.mem_singleton.1 hc⟩
  · rw [outcome_compare_singleton, hreport]
    rfl

end WasmGauge
