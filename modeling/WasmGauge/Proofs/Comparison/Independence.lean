import Mathlib.Data.List.Forall2
import Mathlib.Data.List.Induction
import WasmGauge.Proofs.Cache.Beginning
import WasmGauge.Proofs.Cache.Yield
import WasmGauge.Proofs.Comparison.Reports

/-!
# Candidates do not influence each other

A candidate of a comparison is reported as if it were alone. Every source gets an instance of its own;
a module that the cache hands to a later candidate is the one that a compilation would give; and the
clock of a turn begins where the turns before it have left it.

The one way in which a candidate can be felt is the disk: opening the cache makes its directory, and
compiling leaves artifacts there. A source whose path leads through the directory may be there for a
later candidate and missing for the same candidate alone. A comparison through the cache is
undisturbed if each of its sources reads at its turn what it read at the beginning.

## Main statements

- `Candidate.report_eq`: a report in its turn is the report of the candidate alone.
- `compare_prefix`: a comparison has gone through all its candidates, or up to the first one that
  fails alone.
-/

namespace WasmGauge

open Wasm (Bytes)

variable {k : CacheScope} {w w' w'' u u' : World} {c : Candidate} {name : String} {args : List Value}
  {sink : Sink} {useCache : Bool}

/-! ## §1 Loading in a turn -/

/-- Two worlds for the same turn, the second of which comes about in a comparison. Calls are bounded
alike, the clocks show the same, and with a cache, the second world follows the first one. -/
structure Turn (k : CacheScope) (useCache : Bool) (w u : World) : Prop where
  bounds : u.bounds = w.bounds
  clock : u.clock = w.clock
  follows : useCache = true → k.Follows Engine.shared w u

/-- A source that reads in its turn what it reads alone. With a cache, it is ready for it as well. -/
structure Source.Unmoved (s : Source) (k : CacheScope) (useCache : Bool) (w u : World) : Prop where
  reads : s.dataOn u.disk = s.dataOn w.disk
  ready : useCache = true → k.Ready w s

theorem Turn.agree_compile (hturn : Turn k useCache w u) {s : Source}
    (hs : s.Unmoved k useCache w u) :
    Act.Agree Executable.Matches ((s.compile Engine.shared useCache false).outcome w).1
      ((s.compile Engine.shared useCache false).outcome u).1 := by
  rw [s.outcome_compile, s.outcome_compile, hs.reads]
  cases hdata : s.dataOn w.disk with
  | error f => rfl
  | ok data =>
      have hsame : Act.Agree Compiled.Same
          ((s.obtain data Engine.shared useCache false).outcome w).1
          ((s.obtain data Engine.shared useCache false).outcome u).1 := by
        cases useCache with
        | false =>
            exact Source.Gives.agree (s.compiles_announced data Engine.shared false w)
              (s.compiles_announced data Engine.shared false u)
        | true => exact ((hturn.follows rfl).obtain_cached (hs.ready rfl data hdata) s false).1
      exact hsame.map fun m m' h => ⟨rfl, rfl, h.2, h.1⟩

/-- Executables that match are made instances that are alike. -/
theorem Executable.Matches.agree_instantiate {clocked : Prop} {x y : Executable} (h : x.Matches y)
    (hbounds : u.bounds = w.bounds) (hclock : clocked → w.clock = u.clock) :
    Act.Agree
      (fun g g' => g.Alike clocked (x.instantiate.outcome w).2 g' (y.instantiate.outcome u).2)
      (x.instantiate.outcome w).1 (y.instantiate.outcome u).1 := by
  have hinstance : y.instance? u.bounds = x.instance? w.bounds := by rw [hbounds, h.instance?]
  -- making an instance looks at the code and the bounds, and the clock is not read
  cases hi : x.instance? w.bounds with
  | error cause =>
      rw [outcome_instantiate_of_error hi, outcome_instantiate_of_error (hinstance.trans hi), h.source]
      rfl
  | ok i =>
      obtain ⟨logger, hout⟩ := outcome_instantiate_of_ok hi
      obtain ⟨logger', hout'⟩ := outcome_instantiate_of_ok (hinstance.trans hi)
      have hcurrent := (birth_of_instantiate hout).1.current
      have hcurrent' := (birth_of_instantiate hout').1.current
      rw [hout, hout']
      exact ⟨rfl, hbounds.symm, hcurrent.trans hcurrent'.symm, hclock⟩

/-- A source that compiles alike in two worlds is loaded alike in them. -/
theorem Source.agree_load_of_compile {clocked : Prop} {s : Source} {engine : Engine}
    (hagree : Act.Agree Executable.Matches ((s.compile engine useCache false).outcome w).1
      ((s.compile engine useCache false).outcome u).1)
    (hbounds : u.bounds = w.bounds) (hclock : clocked → w.clock = u.clock) :
    Act.Agree
      (fun g g' => g.Alike clocked ((s.load engine useCache false).outcome w).2 g'
        ((s.load engine useCache false).outcome u).2)
      ((s.load engine useCache false).outcome w).1
      ((s.load engine useCache false).outcome u).1 := by
  have hfoot := World.LooksLike.of_footprint (s.footprint_compile engine useCache w)
  have hfoot' := World.LooksLike.of_footprint (s.footprint_compile engine useCache u)
  unfold Source.load
  rw [Act.outcome_bind, Act.outcome_bind]
  rcases hout : (s.compile engine useCache false).outcome w with ⟨result, w₁⟩
  rcases hout' : (s.compile engine useCache false).outcome u with ⟨result', u₁⟩
  rw [hout] at hagree hfoot
  rw [hout'] at hagree hfoot'
  rcases hagree.cases with ⟨f, rfl, rfl⟩ | ⟨x, y, rfl, rfl, hmatches⟩
  · rfl
  · -- compiling touches neither the bounds nor the clock, so the instances begin alike
    have hbounds₁ : u₁.bounds = w₁.bounds := by rw [hfoot'.bounds, hbounds, hfoot.bounds]
    have hclock₁ : clocked → w₁.clock = u₁.clock := fun hclocked => by
      rw [hfoot.clock, hclock hclocked, hfoot'.clock]
    exact hmatches.agree_instantiate hbounds₁ hclock₁

theorem Turn.agree_load (hturn : Turn k useCache w u) {s : Source}
    (hs : s.Unmoved k useCache w u) :
    Act.Agree
      (fun g g' => g.Alike True ((s.load Engine.shared useCache false).outcome w).2 g'
        ((s.load Engine.shared useCache false).outcome u).2)
      ((s.load Engine.shared useCache false).outcome w).1
      ((s.load Engine.shared useCache false).outcome u).1 :=
  Source.agree_load_of_compile (hturn.agree_compile hs) hturn.bounds fun _ => hturn.clock.symm

/-! ## §2 Reports in a turn -/

/-- The same call, timed by clocks that show the same, is the same measurement. -/
theorem Handle.SameCall.eq {m m' : Measurement} (h : Handle.SameCall True m m') : m = m' := by
  obtain ⟨hname, hargs, hvalue, hlabel, helapsed⟩ := h
  cases m
  cases m'
  simp_all

namespace Candidate

/-- A candidate that reads in its turn what it reads alone, if it is a module. -/
def Unmoved (c : Candidate) (k : CacheScope) (useCache : Bool) (w u : World) : Prop :=
  ∀ s, c.subject = .source s → s.Unmoved k useCache w u

theorem measure_eq (hturn : Turn k useCache w u) (hc : c.Unmoved k useCache w u) (name : String)
    (args : List Value) :
    ((c.measure name args useCache).outcome u).1 = ((c.measure name args useCache).outcome w).1 := by
  cases hsubject : c.subject with
  -- a host function is measured by the clock, and that shows the same
  | reference r =>
      rw [c.measure_of_reference hsubject, measured_ofExcept, measured_ofExcept, hturn.clock]
  | source s =>
      have hagree := hturn.agree_load (hc s hsubject)
      unfold measure
      simp only [hsubject]
      rw [Act.outcome_bind, Act.outcome_bind]
      rcases hout : (s.load Engine.shared useCache false).outcome w with ⟨result, w₁⟩
      rcases hout' : (s.load Engine.shared useCache false).outcome u with ⟨result', u₁⟩
      rw [hout, hout'] at hagree
      rcases hagree.cases with ⟨f, rfl, rfl⟩ | ⟨g, g', rfl, rfl, halike⟩
      · rfl
      · obtain ⟨-, hsame⟩ := Handle.together_invoke halike.start name args c.label w₁ u₁ halike
        exact (hsame.mono fun m m' h => h.eq).eq.symm

/-- A report in its turn is the report of the candidate alone. -/
theorem report_eq (hturn : Turn k useCache w u) (hc : c.Unmoved k useCache w u) (name : String)
    (args : List Value) (sink : Sink) :
    ((c.report name args sink useCache).outcome u).1 =
      ((c.report name args sink useCache).outcome w).1 := by
  have hmeasure := measure_eq hturn hc name args
  rw [outcome_report, outcome_report]
  rcases hout : (c.measure name args useCache).outcome u with ⟨result, u₁⟩
  rcases hout' : (c.measure name args useCache).outcome w with ⟨result', w₁⟩
  rw [hout, hout'] at hmeasure
  simp only at hmeasure
  subst hmeasure
  cases result with
  | error f => rfl
  | ok m =>
      simp only
      cases m.line <;> rfl

/-- How far a candidate gets in its turn is how far it gets alone. -/
theorem readings_eq (hturn : Turn k useCache w u) (hc : c.Unmoved k useCache w u) (name : String)
    (args : List Value) : c.readings name args useCache u = c.readings name args useCache w := by
  have hprepare : ((c.prepare name args useCache).outcome u).1 =
      ((c.prepare name args useCache).outcome w).1 := by
    unfold prepare
    -- preparing a host function is nothing; of a module it is loading and accepting
    cases hsubject : c.subject with
    | reference r => rfl
    | source s =>
        have hagree := hturn.agree_load (hc s hsubject)
        simp only
        rw [Act.outcome_bind, Act.outcome_bind]
        rcases hout : (s.load Engine.shared useCache false).outcome w with ⟨result, w₁⟩
        rcases hout' : (s.load Engine.shared useCache false).outcome u with ⟨result', u₁⟩
        rw [hout, hout'] at hagree
        rcases hagree.cases with ⟨f, rfl, rfl⟩ | ⟨g, g', rfl, rfl, halike⟩
        · rfl
        · simp only [← Handle.accept_eq halike.start]
          cases g.accept name args <;> rfl
  unfold readings
  rw [hprepare, measure_eq hturn hc]

end Candidate

/-! ## §3 What a turn leaves behind -/

namespace CacheScope.SameStore

theorem of_calledOn {id : Nat} (h : w.CalledOn id u) : SameStore w u := by
  have hrest := h.rest
  exact ⟨by rw [hrest], by rw [hrest], by rw [hrest], by rw [hrest], fun _ => by rw [hrest]⟩

theorem instantiate (x : Executable) (hopened : w.sharedCache ≠ none) :
    SameStore w (x.instantiate.outcome w).2 := by
  cases hi : x.instance? w.bounds with
  | error cause =>
      rw [Executable.outcome_instantiate_of_error hi]
      exact ⟨rfl, rfl, rfl, rfl, fun _ => rfl⟩
  | ok i =>
      obtain ⟨logger, hout⟩ := Executable.outcome_instantiate_of_ok hi
      rw [hout]
      exact ⟨rfl, rfl, rfl, rfl, fun hnone => absurd hnone hopened⟩

theorem wrote (w : World) (sink : Sink) (text : String) : SameStore w (w.wrote sink text) := by
  cases sink <;> exact ⟨rfl, rfl, rfl, rfl, fun _ => rfl⟩

theorem later (w : World) (n : Nat) : SameStore w (w.later n) := ⟨rfl, rfl, rfl, rfl, fun _ => rfl⟩

end CacheScope.SameStore

open CacheScope

/-- Two worlds with the same disk. -/
def SameDisk (w w' : World) : Prop := w'.disk = w.disk

theorem disk_load (s : Source) : (s.load Engine.shared false false).Moves SameDisk := by
  refine Act.Moves.bind (R := SameDisk) (fun h h' => Eq.trans h' h) (fun w => ?_) fun x w => ?_
  · rw [s.outcome_compile]
    cases s.dataOn w.disk with
    | error f => rfl
    | ok data =>
        cases ha : Artifact.ofData? data with
        | none =>
            have hfail : (s.obtain data Engine.shared false false).outcome w = _ :=
              s.outcome_compileData_of_none Engine.shared w ha
            simp only [hfail]
            rfl
        | some a =>
            obtain ⟨logger, hout⟩ := s.outcome_compileData_of_some Engine.shared w ha
            have hok : (s.obtain data Engine.shared false false).outcome w = _ := hout
            simp only [hok]
            rfl
  · cases hi : x.instance? w.bounds with
    | error cause =>
        rw [Executable.outcome_instantiate_of_error hi]
        rfl
    | ok i =>
        obtain ⟨logger, hout⟩ := Executable.outcome_instantiate_of_ok hi
        rw [hout]
        rfl

namespace Candidate

variable {m : Measurement}

/-- Measuring a host function makes no difference to a cache. -/
theorem sameStore_of_reference (c : Candidate) {r : Reference} (hsubject : c.subject = .reference r)
    (name : String) (args : List Value) (useCache : Bool) :
    (c.measure name args useCache).Moves SameStore := by
  intro w
  rw [c.measure_of_reference hsubject]
  have hcall := Act.outcome_ofExcept (r.call args) (w.later 1)
  cases hr : r.call args with
  | error f =>
      rw [hr] at hcall
      rw [outcome_measured_of_error _ _ hcall]
      exact SameStore.later w 1
  | ok value =>
      rw [hr] at hcall
      obtain ⟨logger, hmeasured⟩ := outcome_measured_of_ok _ _ hcall rfl
      rw [hmeasured]
      exact ⟨rfl, rfl, rfl, rfl, fun _ => rfl⟩

/-- A measurement that succeeds leaves what the cache yields. -/
theorem follows_measure (hfollows : k.Follows Engine.shared w u) (hc : c.Unmoved k true w u)
    (hout : (c.measure name args true).outcome u = (.ok m, u')) :
    k.Follows Engine.shared w u' := by
  cases hsubject : c.subject with
  -- nothing that a cache looks at has changed
  | reference r =>
      have hsame := c.sameStore_of_reference hsubject name args true u
      rw [hout] at hsame
      exact hfollows.trans (Follows.of_sameStore hsame)
  | source s =>
      obtain ⟨hreads, hready⟩ := hc s hsubject
      unfold measure at hout
      rw [hsubject] at hout
      obtain ⟨g, u₂, hload, hinvoke⟩ := Act.outcome_bind_eq_ok hout
      obtain ⟨x, u₁, hcompile, hinstantiate⟩ := Act.outcome_bind_eq_ok hload
      rw [s.outcome_compile, hreads] at hcompile
      cases hdata : s.dataOn w.disk with
      | error f =>
          rw [hdata] at hcompile
          cases hcompile
      | ok data =>
          rw [hdata] at hcompile
          obtain ⟨-, hafter⟩ := hfollows.obtain_cached (hready rfl data hdata) s false
          rcases hobtain : (s.obtain data Engine.shared true false).outcome u with ⟨result, u₁'⟩
          simp only [hobtain] at hcompile
          cases result with
          | error f => cases hcompile
          | ok compiled =>
              cases hcompile
              obtain ⟨hfollows₁, hopened⟩ := hafter compiled _ hobtain
              have hmade := SameStore.instantiate ⟨s, Engine.shared, compiled⟩ hopened
              rw [hinstantiate] at hmade
              have hcalled := SameStore.of_calledOn (g.framed_invoke name args c.label u₂)
              rw [hinvoke] at hcalled
              exact hfollows₁.trans (Follows.of_sameStore (hmade.trans hcalled))

theorem follows_report (hfollows : k.Follows Engine.shared w u) (hc : c.Unmoved k true w u)
    (hout : (c.report name args sink true).outcome u = (.ok m, u')) :
    k.Follows Engine.shared w u' := by
  rw [outcome_report] at hout
  rcases hmeasure : (c.measure name args true).outcome u with ⟨result, u₁⟩
  simp only [hmeasure] at hout
  cases result with
  | error f => cases hout
  | ok m₁ =>
      have hfollows₁ := follows_measure hfollows hc hmeasure
      simp only at hout
      -- writing the line is no matter to a cache
      cases hline : m₁.line with
      | error fault =>
          rw [hline] at hout
          cases hout
      | ok line =>
          rw [hline] at hout
          cases hout
          exact hfollows₁.trans (Follows.of_sameStore (SameStore.wrote _ _ _))

theorem disk_report (c : Candidate) (name : String) (args : List Value) (sink : Sink) :
    (c.report name args sink false).Moves SameDisk := by
  have trans : ∀ {u v w : World}, SameDisk u v → SameDisk v w → SameDisk u w :=
    fun h h' => Eq.trans h' h
  have hmeasure : (c.measure name args false).Moves SameDisk := by
    cases hsubject : c.subject with
    | reference r =>
        exact fun w => (c.sameStore_of_reference hsubject name args false w).disk
    | source s =>
        unfold measure
        simp only [hsubject]
        refine Act.Moves.bind (R := SameDisk) trans (disk_load s) fun g w => ?_
        exact (SameStore.of_calledOn (g.framed_invoke name args c.label w)).disk
  refine Act.Moves.bind (R := SameDisk) trans hmeasure fun m => ?_
  refine Act.Moves.bind (R := SameDisk) trans (fun w => by rw [Act.outcome_ofValue]; rfl) fun _ => ?_
  refine Act.Moves.bind (R := SameDisk) trans (fun w => ?_) fun _ => fun w => rfl
  rw [World.outcome_write]
  exact (SameStore.wrote w sink _).disk

end Candidate

/-! ## §4 Prefixes -/

/-- The candidates do not get into each other's way through the cache: each source reads in its turn
what it read at the beginning, and is ready for the cache at the beginning. -/
structure Undisturbed (k : CacheScope) (cs : List Candidate) (name : String) (args : List Value)
    (sink : Sink) (w : World) : Prop where
  reads : ∀ i c s r w', cs[i]? = some c → c.subject = .source s →
    (compare (cs.take i) name args sink true).outcome w = (.ok r, w') →
      s.dataOn w'.disk = s.dataOn w.disk
  ready : ∀ c ∈ cs, ∀ s, c.subject = .source s → k.Ready w s

/-- A comparison that has gone through all its candidates. -/
structure Completed (cs : List Candidate) (name : String) (args : List Value) (sink : Sink)
    (useCache : Bool) (w : World) (r : Report) (w' : World) : Prop where
  /-- There is one measurement for each candidate, in order. -/
  labels : r.labels = cs.map (·.label)
  /-- The clock has been read twice for each candidate. -/
  clock : w'.clock = (w.later (2 * cs.length)).clock
  /-- The lines of the report have been written, and nothing else. -/
  written : ∃ lines, r.lines = .ok lines ∧
    w'.writtenTo sink = w.writtenTo sink ++ String.join (lines.map (· ++ "\n"))
  /-- Each measurement is the one of the candidate alone, with the clock readings of its turn. -/
  alone : ∀ i c, cs[i]? = some c → ∃ m line v, r[i]? = some m ∧ m.line = .ok line ∧
    (compare [c] name args sink useCache).outcome (w.later (2 * i)) = (.ok [m], v) ∧
    v.writtenTo sink = w.writtenTo sink ++ (line ++ "\n") ∧
    v.clock = (w.later (2 * i + 2)).clock

/-- A comparison that has stopped at the candidate with an index. -/
structure Stopped (cs : List Candidate) (name : String) (args : List Value) (sink : Sink)
    (useCache : Bool) (w : World) (n : Nat) (f : Failure) (w' : World) : Prop where
  /-- All candidates before it have been gone through, and nothing has been written since. -/
  before : ∃ r w₁, (compare (cs.take n) name args sink useCache).outcome w = (.ok r, w₁) ∧
    Completed (cs.take n) name args sink useCache w r w₁ ∧ w'.writtenTo sink = w₁.writtenTo sink
  /-- The candidate fails for the same reason alone, with the clock readings of its turn. -/
  alone : ∃ c v, cs[n]? = some c ∧
    (compare [c] name args sink useCache).outcome (w.later (2 * n)) = (.error f, v) ∧
    v.writtenTo sink = w.writtenTo sink ∧ v.clock = w'.clock ∧
    w'.clock = (w.later (2 * n + c.readings name args useCache (w.later (2 * n)))).clock
  /-- Nothing is done for the candidates after it. -/
  untouched : (compare (cs.take (n + 1)) name args sink useCache).outcome w = (.error f, w')

theorem Report.lines_concat {r : Report} {m : Measurement} {lines : List String} {line : String}
    (hr : r.lines = .ok lines) (hm : m.line = .ok line) :
    Report.lines (r ++ [m]) = .ok (lines ++ [line]) := by
  unfold Report.lines at hr ⊢
  rw [List.mapM_append, hr, List.mapM_cons, hm]
  rfl

theorem Undisturbed.of_concat {cs : List Candidate}
    (h : Undisturbed k (cs ++ [c]) name args sink w) : Undisturbed k cs name args sink w where
  reads i c' s r w' hi hsubject hout := by
    have hlt : i < cs.length := (List.getElem?_eq_some_iff.1 hi).1
    refine h.reads i c' s r w' (by rw [List.getElem?_append_left hlt, hi]) hsubject ?_
    rwa [List.take_append_of_le_length (Nat.le_of_lt hlt)]
  ready c' hmem := h.ready c' (List.mem_append_left _ hmem)

theorem unmoved_of_undisturbed {cs : List Candidate} {r : Report}
    (hcache : useCache = true → Undisturbed k (cs ++ [c]) name args sink w)
    (hdisk : useCache = false → w'.disk = w.disk)
    (hout : (compare cs name args sink useCache).outcome w = (.ok r, w')) (n : Nat) :
    c.Unmoved k useCache (w.later n) w' := by
  intro s hsubject
  cases useCache with
  | false => exact ⟨congrArg s.dataOn (hdisk rfl), by simp⟩
  | true =>
      have h := hcache rfl
      refine ⟨h.reads cs.length c s r w' (by simp) hsubject (by simpa using hout), fun _ => ?_⟩
      exact (h.ready c (by simp) s hsubject).of_sameStore (SameStore.later w n)

/-- The world in which all candidates have had their turn is one for the next turn. -/
theorem Turn.next {n : Nat} {m : Measurement} (hturn : Turn k useCache (w.later n) w')
    (hc : c.Unmoved k useCache (w.later n) w')
    (hout : (c.report name args sink useCache).outcome w' = (.ok m, w'')) :
    Turn k useCache (w.later (n + 2)) w'' := by
  obtain ⟨-, hbounds, hclock, -⟩ := Candidate.report_of_ok hout
  refine ⟨hbounds.trans hturn.bounds, ?_, ?_⟩
  · rw [hclock]
    simp only [World.later, hturn.clock, Nat.add_assoc]
  · rintro rfl
    -- reading the clock is no matter to a cache, in either direction
    have hback : SameStore (w.later (n + 2)) (w.later n) := ⟨rfl, rfl, rfl, rfl, fun _ => rfl⟩
    exact (Follows.of_sameStore hback).trans (Candidate.follows_report (hturn.follows rfl) hc hout)

section Concat

variable {cs : List Candidate} {r : Report} {m : Measurement} {f : Failure} {n : Nat}

theorem Completed.length_eq (h : Completed cs name args sink useCache w r w') :
    r.length = cs.length := by
  have hlabels := congrArg List.length h.labels
  simpa [Report.labels] using hlabels

theorem Completed.concat (h : Completed cs name args sink useCache w r w')
    (hturn : Turn k useCache (w.later (2 * cs.length)) w')
    (hc : c.Unmoved k useCache (w.later (2 * cs.length)) w')
    (hout : (c.report name args sink useCache).outcome w' = (.ok m, w'')) :
    Completed (cs ++ [c]) name args sink useCache w (r ++ [m]) w'' := by
  obtain ⟨hlabel, -, hclock, line, hline, hwritten⟩ := Candidate.report_of_ok hout
  obtain ⟨lines, hlines, hbefore⟩ := h.written
  refine ⟨?_, ?_, ⟨lines ++ [line], Report.lines_concat hlines hline, ?_⟩, ?_⟩
  · have hlabels := h.labels
    simp only [Report.labels, List.map_append, List.map_cons, List.map_nil] at hlabels ⊢
    rw [hlabels, hlabel]
  · rw [hclock, List.length_append, List.length_singleton, Nat.mul_add]
    simp only [World.later, h.clock, Nat.add_assoc]
  · rw [hwritten, hbefore, List.map_append, String.join_append, String.append_assoc]
    simp
  · intro i c' hi
    by_cases hlt : i < cs.length
    · rw [List.getElem?_append_left hlt] at hi
      obtain ⟨m', line', v, hm', hrest⟩ := h.alone i c' hi
      exact ⟨m', line', v, by rw [List.getElem?_append_left (h.length_eq ▸ hlt), hm'], hrest⟩
    · -- the candidate that has just been reported
      obtain ⟨rfl, rfl⟩ : i = cs.length ∧ c' = c := by
        rw [List.getElem?_append_right (Nat.le_of_not_lt hlt)] at hi
        have hzero := (List.getElem?_eq_some_iff.1 hi).1
        simp only [List.length_singleton] at hzero
        have hi' : i - cs.length = 0 := by omega
        rw [hi'] at hi
        exact ⟨by omega, by simpa using hi.symm⟩
      have hsame := Candidate.report_eq hturn hc name args sink
      rw [hout] at hsame
      rcases halone : (c'.report name args sink useCache).outcome (w.later (2 * cs.length))
        with ⟨result, v⟩
      rw [halone] at hsame
      simp only at hsame
      subst hsame
      obtain ⟨-, -, hclock', line', hline', hwritten'⟩ := Candidate.report_of_ok halone
      have hlines' : line' = line := by
        rw [hline] at hline'
        exact (Except.ok.inj hline').symm
      refine ⟨m, line, v, ?_, hline, ?_, hlines' ▸ hwritten', hclock'⟩
      · rw [← h.length_eq]
        simp
      · rw [outcome_compare_singleton, halone]
        rfl

theorem Completed.stopped (h : Completed cs name args sink useCache w r w')
    (hcompare : (compare cs name args sink useCache).outcome w = (.ok r, w'))
    (hturn : Turn k useCache (w.later (2 * cs.length)) w')
    (hc : c.Unmoved k useCache (w.later (2 * cs.length)) w')
    (hout : (c.report name args sink useCache).outcome w' = (.error f, w'')) :
    Stopped (cs ++ [c]) name args sink useCache w cs.length f w'' := by
  obtain ⟨hclock, hwritten⟩ := Candidate.report_of_error hout
  refine ⟨⟨r, w', by simpa using hcompare, by simpa using h, hwritten⟩, ?_, ?_⟩
  · have hsame := Candidate.report_eq hturn hc name args sink
    rw [hout] at hsame
    rcases halone : (c.report name args sink useCache).outcome (w.later (2 * cs.length))
      with ⟨result, v⟩
    rw [halone] at hsame
    simp only at hsame
    subst hsame
    obtain ⟨hclock', hwritten'⟩ := Candidate.report_of_error halone
    have hnow : w''.clock = (w.later (2 * cs.length +
        c.readings name args useCache (w.later (2 * cs.length)))).clock := by
      rw [hclock, Candidate.readings_eq hturn hc]
      simp only [World.later, h.clock, Nat.add_assoc]
    rw [World.later_later] at hclock'
    refine ⟨c, v, by simp, ?_, hwritten', hclock'.trans hnow.symm, hnow⟩
    rw [outcome_compare_singleton, halone]
    rfl
  · have htake : (cs ++ [c]).take (cs.length + 1) = cs ++ [c] := List.take_of_length_le (by simp)
    rw [htake, outcome_compare_concat, hcompare]
    simp only [hout]
    rfl

/-- Nothing is done for a candidate behind the one that failed. -/
theorem Stopped.concat (h : Stopped cs name args sink useCache w n f w') (c : Candidate) :
    Stopped (cs ++ [c]) name args sink useCache w n f w' := by
  obtain ⟨c', v, hn, halone⟩ := h.alone
  -- the index of the candidate that failed, and all before it, are where they were
  have hlt : n < cs.length := (List.getElem?_eq_some_iff.1 hn).1
  have hbefore : (cs ++ [c]).take n = cs.take n := List.take_append_of_le_length (Nat.le_of_lt hlt)
  have hnow : (cs ++ [c]).take (n + 1) = cs.take (n + 1) := List.take_append_of_le_length hlt
  refine ⟨?_, ⟨c', v, by rw [List.getElem?_append_left hlt, hn], halone⟩, ?_⟩
  · rw [hbefore]
    exact h.before
  · rw [hnow]
    exact h.untouched

end Concat

/-- What holds while a comparison goes through its candidates: it has completed those so far, and the
world is one for the next turn. -/
theorem compare_invariant (cs : List Candidate) (name : String) (args : List Value) (sink : Sink)
    (useCache : Bool) (w : World)
    (hcache : useCache = true → Undisturbed k cs name args sink w) :
    match (compare cs name args sink useCache).outcome w with
    | (.ok r, w') =>
        Completed cs name args sink useCache w r w' ∧
          Turn k useCache (w.later (2 * cs.length)) w' ∧ (useCache = false → w'.disk = w.disk)
    | (.error f, w') => ∃ n, Stopped cs name args sink useCache w n f w' := by
  -- from the back: the last candidate is reported in the world that all the others leave
  induction cs using List.reverseRecOn with
  | nil =>
      refine ⟨⟨rfl, rfl, ⟨[], rfl, by simp⟩, by simp⟩, ⟨rfl, rfl, fun _ => ?_⟩, fun _ => rfl⟩
      exact Follows.of_sameStore (SameStore.later w 0)
  | append_singleton cs c ih =>
      have hprefix := ih fun huse => (hcache huse).of_concat
      rw [outcome_compare_concat]
      rcases hcompare : (compare cs name args sink useCache).outcome w with ⟨result, w'⟩
      rw [hcompare] at hprefix
      cases result with
      | error f =>
          obtain ⟨n, hstopped⟩ := hprefix
          exact ⟨n, hstopped.concat c⟩
      | ok r =>
          obtain ⟨hdone, hturn, hdisk⟩ := hprefix
          have hc := unmoved_of_undisturbed hcache hdisk hcompare (2 * cs.length)
          rcases hout : (c.report name args sink useCache).outcome w' with ⟨result', w''⟩
          simp only [hout]
          -- the last candidate is reported or fails; both are known from the candidate alone
          cases result' with
          | error f => exact ⟨cs.length, hdone.stopped hcompare hturn hc hout⟩
          | ok m =>
              refine ⟨hdone.concat hturn hc hout, ?_, ?_⟩
              · rw [List.length_append, List.length_singleton, Nat.mul_add]
                exact hturn.next hc hout
              · rintro rfl
                have hsame := c.disk_report name args sink w'
                rw [hout] at hsame
                exact Eq.trans hsame (hdisk rfl)

/-- If every candidate alone gives a value, whatever the clock shows, a comparison gives all of them. -/
theorem compare_of_reports {cs : List Candidate} {values : List Value}
    (hcache : useCache = true → Undisturbed k cs name args sink w)
    (hreports : List.Forall₂ (fun c value => ∀ n, ∃ m,
      ((c.report name args sink useCache).outcome (w.later n)).1 = .ok m ∧ m.value = value)
      cs values) :
    ∃ r w', (compare cs name args sink useCache).outcome w = (.ok r, w') ∧ r.values = values := by
  obtain ⟨hlength, hget⟩ := List.forall₂_iff_get.1 hreports
  have h := compare_invariant cs name args sink useCache w hcache
  rcases hout : (compare cs name args sink useCache).outcome w with ⟨result, w'⟩
  rw [hout] at h
  cases result with
  | error f =>
      -- the candidate at which it stopped fails alone, and gives a value alone
      obtain ⟨i, hstopped⟩ := h
      obtain ⟨c, v, hc, halone, -⟩ := hstopped.alone
      obtain ⟨hi, rfl⟩ := List.getElem?_eq_some_iff.1 hc
      obtain ⟨m, hm, -⟩ := hget i hi (hlength ▸ hi) (2 * i)
      have hfail : ((cs[i].report name args sink useCache).outcome (w.later (2 * i))).1 =
          .error f :=
        report_of_compare_singleton halone
      cases hm.symm.trans hfail
  | ok r =>
      have hdone := h.1
      refine ⟨r, w', rfl, List.ext_getElem? fun i => ?_⟩
      by_cases hi : i < cs.length
      · obtain ⟨m, line, v, hr, -, halone, -⟩ := hdone.alone i cs[i] (List.getElem?_eq_getElem hi)
        obtain ⟨m', hm', hvalue⟩ := hget i hi (hlength ▸ hi) (2 * i)
        have hsame : ((cs[i].report name args sink useCache).outcome (w.later (2 * i))).1 = .ok m :=
          report_of_compare_singleton halone
        cases hm'.symm.trans hsame
        simpa [Report.values, hr, List.getElem?_eq_getElem (hlength ▸ hi)] using hvalue
      · have hr : r.length ≤ i := hdone.length_eq ▸ Nat.le_of_not_lt hi
        have hvalues : values.length ≤ i := hlength ▸ Nat.le_of_not_lt hi
        simp [Report.values, hr, hvalues]

/-- The standard candidates do not get into each other's way, if the second one reads the same after
the first. -/
theorem Undisturbed.standard {directory : Storage.Path}
    (hfirst : k.Ready w ⟨directory.child "fib.wasm"⟩)
    (hsecond : k.Ready w ⟨directory.child "fib_opt.wasm"⟩)
    (hreads : Source.dataOn ⟨directory.child "fib_opt.wasm"⟩ ((compare
      ((Candidate.standard directory).take 1) name args sink true).outcome w).2.disk =
        Source.dataOn ⟨directory.child "fib_opt.wasm"⟩ w.disk) :
    Undisturbed k (Candidate.standard directory) name args sink w where
  reads i c s r w' hi hsubject hout := by
    match i with
    | 0 =>
        cases hout
        rfl
    | 1 =>
        cases hi
        cases hsubject
        rwa [hout] at hreads
    | 2 =>
        cases hi
        cases hsubject
    | i + 3 => cases hi
  ready c hc s hsubject := by
    simp only [Candidate.standard, List.mem_cons, List.not_mem_nil, or_false] at hc
    rcases hc with rfl | rfl | rfl
    · cases hsubject
      exact hfirst
    · cases hsubject
      exact hsecond
    · cases hsubject

/-- A comparison has gone through all its candidates, or up to the first one that fails. Whatever it
has measured and written, and the reason for which it has stopped, is what each candidate alone would
give with the clock readings of its turn; and nothing is done for a candidate after the one that
failed. -/
theorem compare_prefix (cs : List Candidate) (name : String) (args : List Value) (sink : Sink)
    (useCache : Bool) (w : World)
    (hcache : useCache = true → Undisturbed k cs name args sink w) :
    match (compare cs name args sink useCache).outcome w with
    | (.ok r, w') => Completed cs name args sink useCache w r w'
    | (.error f, w') => ∃ n, Stopped cs name args sink useCache w n f w' := by
  have h := compare_invariant cs name args sink useCache w hcache
  rcases hout : (compare cs name args sink useCache).outcome w with ⟨result, w'⟩
  rw [hout] at h
  cases result with
  | ok r => exact h.1
  | error f => exact h

/-- A comparison of the standard candidates through the cache. -/
theorem compare_prefix_standard : ∃ r w,
    Undisturbed bundled (Candidate.standard Bundle.directory) "fib" [.int 1] .stream
      (World.start []) ∧
    (compare (Candidate.standard Bundle.directory) "fib" [.int 1] .stream true).outcome
      (World.start []) = (.ok r, w) ∧
    Completed (Candidate.standard Bundle.directory) "fib" [.int 1] .stream true (World.start [])
      r w := by
  have hsecond : Bundle.fibOpt.dataOn ((compare ((Candidate.standard Bundle.directory).take 1) "fib"
      [.int 1] .stream true).outcome (World.start [])).2.disk = .ok Bundle.fibOptBinary := by
    decide +kernel
  have hok : ((compare (Candidate.standard Bundle.directory) "fib" [.int 1] .stream true).outcome
      (World.start [])).1.isOk = true := by
    decide +kernel
  have hundisturbed : Undisturbed bundled (Candidate.standard Bundle.directory) "fib" [.int 1]
      .stream (World.start []) :=
    Undisturbed.standard (ready_start Bundle.dataOn_fib (.head _))
      (ready_start Bundle.dataOn_fibOpt (.tail _ (.head _)))
      (hsecond.trans Bundle.dataOn_fibOpt.symm)
  generalize World.start [] = w₀ at *
  have hprefix := compare_prefix (Candidate.standard Bundle.directory) "fib" [.int 1] .stream true
    w₀ fun _ => hundisturbed
  rcases hout : (compare (Candidate.standard Bundle.directory) "fib" [.int 1] .stream true).outcome
    w₀ with ⟨result, w⟩
  rw [hout] at hok hprefix
  cases result with
  | error f => cases hok
  | ok r => exact ⟨r, w, hundisturbed, rfl, hprefix⟩

/-- Without this, the first candidate can make a way to the second one: the directory of the cache,
which is there only when the cache has been opened. -/
theorem not_forall_compare_prefix : ¬ ∀ (cs : List Candidate) (name : String) (args : List Value)
    (sink : Sink) (useCache : Bool) (w : World),
    match (compare cs name args sink useCache).outcome w with
    | (.ok r, w') => Completed cs name args sink useCache w r w'
    | (.error f, w') => ∃ n, Stopped cs name args sink useCache w n f w' := by
  intro hall
  have hboth : ((compare [⟨.str "a", .source (.ofText "m.wasm")⟩,
      ⟨.str "b", .source (.ofText "cache/../m.wasm")⟩] "fib" [.int 1] .stream true).outcome
      { World.start [] with
        disk := Bundle.disk.put (Bundle.workplace ++ ["m.wasm"])
          ⟨.file Bundle.fibBinary, 0, 0o644⟩ }).1.isOk = true := by
    decide +kernel
  have halone : ((compare [⟨.str "b", .source (.ofText "cache/../m.wasm")⟩] "fib" [.int 1] .stream
      true).outcome ({ World.start [] with
        disk := Bundle.disk.put (Bundle.workplace ++ ["m.wasm"])
          ⟨.file Bundle.fibBinary, 0, 0o644⟩ }.later 2)).1.isOk = false := by
    decide +kernel
  generalize { World.start [] with
    disk := Bundle.disk.put (Bundle.workplace ++ ["m.wasm"])
      ⟨.file Bundle.fibBinary, 0, 0o644⟩ } = w at hboth halone
  have hprefix := hall [⟨.str "a", .source (.ofText "m.wasm")⟩,
    ⟨.str "b", .source (.ofText "cache/../m.wasm")⟩] "fib" [.int 1] .stream true w
  rcases hout : (compare [⟨.str "a", .source (.ofText "m.wasm")⟩,
    ⟨.str "b", .source (.ofText "cache/../m.wasm")⟩] "fib" [.int 1] .stream true).outcome w
    with ⟨result, w'⟩
  rw [hout] at hboth hprefix
  cases result with
  | error f => cases hboth
  | ok r =>
      obtain ⟨m, line, v, -, -, hout', -⟩ := hprefix.alone 1 _ rfl
      rw [hout'] at halone
      cases halone

end WasmGauge
