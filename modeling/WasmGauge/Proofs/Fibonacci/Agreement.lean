import Mathlib.Tactic.NormNum.NatFib
import WasmGauge.Proofs.Comparison.Independence
import WasmGauge.Proofs.Comparison.Lines
import WasmGauge.Proofs.Fibonacci.Modules

/-!
# Agreement of the builds and the reference

Both builds of the Fibonacci function give the number that the host function gives, wrapped to 32 bits.
The host function works on integers without bounds; its calls may be nested only so deep.

## Main statements

- `fibWithin_int`: what the host function gives, and when it gives up.
- `builds_agree`: the builds and the host function agree, each alone and in a report.
-/

namespace WasmGauge.Fibonacci

open Wasm

/-! ## §1 The host function -/

/-- The host function gives the Fibonacci number for an integer, if calls may be nested as deep as the
integer says, but once at least. -/
theorem fibWithin_int (depth : Nat) (n : Int) :
    fibWithin depth (.int n) =
      if max 1 n ≤ depth then .ok (.int (exact n)) else .error .depth := by
  -- on the depth; below two no further call is made, so a depth of one is enough there
  induction depth generalizing n with
  | zero => rw [if_neg (by omega)]; rfl
  | succ depth ih =>
      by_cases hn : n < 2
      · have hbelow : Value.isBelowTwo (.int n) = .ok true := by simp [Value.isBelowTwo, hn]
        rw [if_pos (by omega), exact_of_lt hn]
        unfold fibWithin
        rw [hbelow]
        rfl
      · have hbelow : Value.isBelowTwo (.int n) = .ok false := by simp [Value.isBelowTwo, hn]
        have hone : Value.sub (.int n) (.int 1) = .ok (.int (n - 1)) := rfl
        have htwo : Value.sub (.int n) (.int 2) = .ok (.int (n - 2)) := rfl
        have hsum : Value.add (.int (exact (n - 1))) (.int (exact (n - 2))) =
            .ok (.int (exact (n - 1) + exact (n - 2))) := rfl
        have hfirst : max 1 n ≤ ((depth + 1 : Nat) : Int) ↔ max 1 (n - 1) ≤ (depth : Int) := by
          omega
        unfold fibWithin
        simp only [hbelow, hone, htwo, bind, Except.bind, Bool.false_eq_true, if_false, ih, hfirst]
        by_cases hdepth : max 1 (n - 1) ≤ (depth : Int)
        · have hsecond : max 1 (n - 2) ≤ (depth : Int) := by omega
          simp only [if_pos hdepth, if_pos hsecond, hsum]
          rw [← exact_add (by omega)]
        · simp only [if_neg hdepth]

/-! ## §2 The builds -/

/-- The Fibonacci number for an integer, wrapped to 32 bits with a sign. -/
def wrapped (n : Int) : Int := (exact n).bmod (2 ^ 32)

theorem toValue_word (n : Int) : (word n).toValue = .int (n.bmod (2 ^ 32)) := by
  have hnonneg : 0 ≤ n % 2 ^ 32 := Int.emod_nonneg n (by decide)
  -- the bits are those of the remainder, which is then read with a sign
  have hnat : ((UInt32.ofInt n).toNat : Int) = n % 2 ^ 32 := by
    unfold UInt32.ofInt
    rw [UInt32.toNat_ofNat']
    omega
  have hsize : twoPow 32 = 2 ^ 32 := rfl
  unfold word Val.toValue
  simp only [hsize, hnat]
  exact congrArg Value.int (Int.emod_bmod n (2 ^ 32))

theorem convertArguments_int (n : Int) : convertArguments [.i32] [.int n] = .ok [word n] := rfl

section Handles

variable {h : Handle} {code : Code} {u : World} {n : Int}

/-- A handle of a build that has not been changed gives the wrapped number. -/
theorem outcome_enter (hstart : h.start = instanceOf code) (hcurrent : h.current u = h.start)
    (htype : code.type = ⟨[.i32], [.i32]⟩) (hgives : ∀ k, GivesUpTo (program code) k)
    (hn : InRange n) (hdepth : max 1 n ≤ u.bounds.depth) (hfuel : cost n ≤ u.bounds.fuel) :
    ((h.enter "fib" [.int n]).outcome u).1 = .ok (.ok (.int (wrapped n))) := by
  have hfunction : h.start.function? "fib" = some (0, ⟨[.i32], [.i32]⟩) := by
    rw [hstart, ← htype]
    rfl
  have hcall : (h.current u).call u.bounds 0 [word n] = (.ok [word (exact n)], instanceOf code) := by
    have hdone := hgives n.toNat n u.bounds.fuel u.bounds.depth [] (instanceOf code).store hn
      (by omega) hfuel hdepth
    have hprogram : (instanceOf code).program = program code := rfl
    rw [hcurrent, hstart]
    unfold Wasm.Instance.call
    simp only [List.reverse_singleton, hprogram, hdone]
    rfl
  have hrun : ((h.run 0 [word n]).outcome u).1 = .ok (.ok [word (exact n)]) := by
    unfold Handle.run
    rw [Act.outcome_bind_of_ok (Act.outcome_get u), hcall]
    rfl
  unfold Handle.enter
  rw [hfunction]
  simp only [convertArguments_int]
  rw [Act.outcome_bind]
  rcases hout : (h.run 0 [word n]).outcome u with ⟨result, u'⟩
  rw [hout] at hrun
  simp only at hrun
  subst hrun
  exact congrArg (fun v => Except.ok (Except.ok v)) (toValue_word (exact n))

theorem outcome_callAccepted (hstart : h.start = instanceOf code) (hcurrent : h.current u = h.start)
    (htype : code.type = ⟨[.i32], [.i32]⟩) (hgives : ∀ k, GivesUpTo (program code) k)
    (hn : InRange n) (hdepth : max 1 n ≤ u.bounds.depth) (hfuel : cost n ≤ u.bounds.fuel) :
    ((h.callAccepted "fib" [.int n]).outcome u).1 = .ok (.int (wrapped n)) ∧
      ((h.call "fib" [.int n]).outcome u).1 = .ok (.int (wrapped n)) := by
  have henter := outcome_enter hstart hcurrent htype hgives hn hdepth hfuel
  rcases hout : (h.enter "fib" [.int n]).outcome u with ⟨result, u'⟩
  rw [hout] at henter
  simp only at henter
  subst henter
  unfold Handle.callAccepted Handle.call
  rw [Act.outcome_bind_of_ok hout, Act.outcome_bind_of_ok hout]
  exact ⟨rfl, rfl⟩

theorem accept_int (hstart : h.start = instanceOf code) (htype : code.type = ⟨[.i32], [.i32]⟩)
    (hn : InRange n) : h.accept "fib" [.int n] = .ok [.int n] := by
  have hexports : h.exports = [("fib", ⟨["i32"], ["i32"]⟩)] := by
    obtain ⟨type, locals, body⟩ := code
    cases htype
    unfold Handle.exports
    rw [hstart]
    rfl
  have hholds : IntKind.holds ⟨32, true⟩ n = true := by
    obtain ⟨hlow, hhigh⟩ := hn
    simp [IntKind.holds, IntKind.least, IntKind.greatest, twoPow]
    omega
  have hcheck : checkArgument 0 "i32" (.int n) = .ok (.int n) := by
    simp [checkArgument, ParameterKind.ofName?, Value.integer?, hholds]
  unfold Handle.accept Handle.lookup
  rw [hexports]
  simp [Signature.check, checkArguments, hcheck, bind, Except.bind]

end Handles

/-- The code of a build has the type of a function on 32-bit integers, and gives Fibonacci numbers. -/
theorem Build.gives {b : Build} (hb : b ∈ [unoptimized, optimized]) :
    b.code.type = ⟨[.i32], [.i32]⟩ ∧ ∀ k, GivesUpTo (program b.code) k := by
  rcases List.mem_cons.1 hb with rfl | hrest
  · exact ⟨rfl, givesUpTo_twice⟩
  · obtain rfl := List.mem_singleton.1 hrest
    exact ⟨rfl, givesUpTo_loop⟩

section Loading

variable {k : CacheScope} {b : Build} {s : Source} {w : World} {useCache : Bool}

/-- A source may be loaded: without a cache, or through a sound one that can be opened. -/
def MayLoad (k : CacheScope) (useCache : Bool) (w : World) (s : Source) : Prop :=
  useCache = true → k.Sound w ∧ k.Ready w s ∧ ∃ c w₁, Cache.shared.outcome w = (.ok c, w₁)

/-- A file of a build is loaded, and the handle is one of the build. -/
theorem load_build (hb : b ∈ [unoptimized, optimized]) (hlies : b.LiesAt s w.disk)
    (hcache : MayLoad k useCache w s) :
    ∃ h w', (s.load Engine.shared useCache false).outcome w = (.ok h, w') ∧
      h.start = instanceOf b.code ∧ h.current w' = h.start ∧ w'.bounds = w.bounds := by
  obtain ⟨data, hdata, a, ha, hcode⟩ := Build.holds hb hlies
  -- with a cache or without one, what comes out has the code of the build
  obtain ⟨result, hcompiles, hcompile⟩ :=
    CacheScope.compiles_compile (k := k) useCache hdata
      (fun huse => ⟨(hcache huse).1, (hcache huse).2.1 data hdata, (hcache huse).2.2⟩)
      Engine.shared false
  unfold Source.Compiles at hcompiles
  rw [ha] at hcompiles
  obtain ⟨m, rfl, hengine, rfl⟩ := hcompiles
  have hlooks := World.LooksLike.of_footprint (s.footprint_compile Engine.shared useCache w)
  rcases hout : (s.compile Engine.shared useCache false).outcome w with ⟨compiled, w₁⟩
  rw [hout] at hcompile hlooks
  simp only [Except.map] at hcompile
  subst hcompile
  have hinstance := instance?_eq (x := ⟨s, Engine.shared, m⟩) hcode (Build.gives hb).1 hengine
    w₁.bounds
  obtain ⟨h, w', hmade, hbirth, hstart⟩ := Executable.exists_birth hinstance
  exact ⟨h, w', (Act.outcome_bind_of_ok hout).trans hmade, hstart, hbirth.current,
    hbirth.spares.bounds.trans hlooks.bounds⟩

end Loading

/-! ## §3 Lines -/

theorem fib_le_two_pow (n : Nat) : Nat.fib n ≤ 2 ^ n := by
  -- two steps at once, as the numbers are defined
  induction n using Nat.twoStepInduction with
  | zero => decide
  | one => decide
  | more n ihn ihn' =>
      rw [Nat.fib_add_two, Nat.pow_succ, Nat.pow_succ] at *
      omega

theorem line_int {n i : Int} (hn : ∃ t, Value.text (.int n) = .ok t)
    (hi : ∃ t, Value.text (.int i) = .ok t) (name : String) (x : Float) (label : String) :
    ∃ line, Measurement.line ⟨name, [.int n], .int i, .float x, .str label⟩ = .ok line := by
  refine Measurement.line_of_written ?_ hi ⟨_, rfl⟩ ⟨_, rfl⟩
  intro v hv
  rw [List.mem_singleton.1 hv]
  exact hn

theorem text_of_inRange {n : Int} (hn : InRange n) : ∃ t, Value.text (.int n) = .ok t := by
  obtain ⟨hlow, hhigh⟩ := hn
  exact text_int (b := 31) (by omega) (by decide)

theorem inRange_wrapped (n : Int) : InRange (wrapped n) := by
  unfold InRange wrapped
  have hlow := Int.le_bmod (x := exact n) (m := 2 ^ 32) (by decide)
  have hhigh := Int.bmod_lt (x := exact n) (m := 2 ^ 32) (by decide)
  omega

theorem text_exact {n : Int} (hn : InRange n) (h : n ≤ 1000) :
    ∃ t, Value.text (.int (exact n)) = .ok t := by
  -- a Fibonacci number is below the power of two of its index, which is at most 1000
  by_cases hsmall : n < 2
  · rw [exact_of_lt hsmall]
    exact text_of_inRange hn
  · obtain ⟨m, rfl⟩ : ∃ m : Nat, n = m := ⟨n.toNat, by omega⟩
    rw [exact_natCast]
    exact text_int (fib_le_two_pow m) (by omega)

/-- The wrapped number is the exact one as long as that fits. -/
theorem wrapped_eq_exact_iff {n : Int} (hn : InRange n) : wrapped n = exact n ↔ n ≤ 46 := by
  have hrange := inRange_wrapped n
  obtain ⟨hlow, hhigh⟩ := hn
  -- below two the number is the argument, which is in the range
  by_cases hsmall : n < 2
  · refine ⟨fun _ => by omega, fun _ => ?_⟩
    unfold wrapped
    rw [exact_of_lt hsmall, Int.bmod_eq_of_le] <;> omega
  · obtain ⟨m, rfl⟩ : ∃ m : Nat, n = m := ⟨n.toNat, by omega⟩
    unfold wrapped at hrange ⊢
    rw [exact_natCast] at hrange ⊢
    constructor
    · intro heq
      -- from 47 on, the exact number is not in the range
      rw [heq] at hrange
      by_contra hmany
      have hmono : Nat.fib 47 ≤ Nat.fib m := Nat.fib_mono (by omega)
      have hlarge : Nat.fib 47 = 2971215073 := by norm_num
      have hfits := hrange.2
      omega
    · intro hfew
      -- up to 46 it is, and wrapping leaves it alone
      have hmono : Nat.fib m ≤ Nat.fib 46 := Nat.fib_mono (by omega)
      have hsize : Nat.fib 46 = 1836311903 := by norm_num
      rw [Int.bmod_eq_of_le] <;> omega

/-! ## §4 Reports -/

theorem cost_le_fuel {n : Int} (hn : InRange n) : cost n ≤ Bounds.standard.fuel := by
  have hfuel : Bounds.standard.fuel = 2 ^ 60 := rfl
  obtain ⟨hlow, hhigh⟩ := hn
  unfold cost
  -- the argument is below `2 ^ 31`, and the fuel is `2 ^ 60`
  omega

section Reports

variable {k : CacheScope} {b : Build} {s : Source} {w : World} {useCache : Bool} {n : Int}

theorem report_of_measure {c : Candidate} {name : String} {args : List Value} {w' : World}
    {m : Measurement} (hmeasure : (c.measure name args useCache).outcome w = (.ok m, w'))
    (hline : ∃ line, m.line = .ok line) (sink : Sink) :
    ((c.report name args sink useCache).outcome w).1 = .ok m := by
  obtain ⟨line, hline⟩ := hline
  rw [Candidate.outcome_report, hmeasure]
  simp only [hline]

theorem report_build (hb : b ∈ [unoptimized, optimized]) (hlies : b.LiesAt s w.disk)
    (hcache : MayLoad k useCache w s) (hn : InRange n) (hdepth : max 1 n ≤ w.bounds.depth)
    (hfuel : cost n ≤ w.bounds.fuel) (label : String) (sink : Sink) :
    ∃ m, ((Candidate.report ⟨.str label, .source s⟩ "fib" [.int n] sink useCache).outcome w).1 =
      .ok m ∧ m.value = .int (wrapped n) := by
  obtain ⟨htype, hgives⟩ := Build.gives hb
  obtain ⟨h, w₁, hload, hstart, hcurrent, hbounds⟩ := load_build hb hlies hcache
  have hlater : (w₁.later 1).bounds = w.bounds := hbounds
  -- the call is made right after the clock has been read once
  obtain ⟨hcall, -⟩ := outcome_callAccepted (u := w₁.later 1) hstart hcurrent htype hgives hn
    (by rwa [hlater]) (by rwa [hlater])
  have hclock := (World.LooksLike.of_entered (h.entered_callAccepted "fib" [.int n]
    (w₁.later 1))).clock
  rcases hout : (h.callAccepted "fib" [.int n]).outcome (w₁.later 1) with ⟨result, w₂⟩
  rw [hout] at hcall hclock
  simp only at hcall
  subst hcall
  obtain ⟨logger, hmeasured⟩ := outcome_measured_of_ok (⟨"fib", [.int n], ·, ·, .str label⟩)
    h.source.name hout hclock
  rw [← Handle.invoke_of_accepted (accept_int hstart htype hn)] at hmeasured
  have hmeasure : (Candidate.measure ⟨.str label, .source s⟩ "fib" [.int n] useCache).outcome w =
      _ := (Act.outcome_bind_of_ok hload).trans hmeasured
  have hline := line_int (text_of_inRange hn) (text_of_inRange (inRange_wrapped n)) "fib"
    (Clock.milliseconds (w₁.clock.reading w₁.clock.reads) (w₁.clock.reading (w₁.clock.reads + 1)))
    label
  exact ⟨_, report_of_measure hmeasure hline sink, rfl⟩

theorem reference_call (n : Int) :
    Reference.fib.call [.int n] =
      if max 1 n ≤ referenceDepth then .ok (.int (exact n)) else .error (.value .depth) := by
  have hcall : Reference.fib.call [.int n] = (fibWithin referenceDepth (.int n)).mapError .value :=
    rfl
  rw [hcall, fibWithin_int]
  split
  · rfl
  · rfl

/-- The host function reports the exact number, if its calls may be nested so deep. -/
theorem report_reference (hn : InRange n) (hfew : n ≤ referenceDepth) (label : String) (sink : Sink)
    (useCache : Bool) (w : World) :
    ∃ m, ((Candidate.report ⟨.str label, .reference .fib⟩ "fib" [.int n] sink useCache).outcome
      w).1 = .ok m ∧ m.value = .int (exact n) := by
  have hdepth : (referenceDepth : Int) = 1000 := rfl
  have hcall : Reference.fib.call [.int n] = .ok (.int (exact n)) := by
    rw [reference_call, if_pos (by omega)]
  have hact := Act.outcome_ofExcept (Reference.fib.call [.int n]) (w.later 1)
  rw [hcall] at hact
  obtain ⟨logger, hmeasured⟩ := outcome_measured_of_ok
    (⟨if "fib" = "" then Reference.fib.name else "fib", [.int n], ·, ·, .str label⟩) "host" hact rfl
  rw [← hcall, ← Candidate.measure_of_reference ⟨.str label, .reference .fib⟩ rfl] at hmeasured
  have hline := line_int (text_of_inRange hn) (text_exact hn (by omega)) "fib"
    (Clock.milliseconds (w.clock.reading w.clock.reads) (w.clock.reading (w.clock.reads + 1))) label
  exact ⟨_, report_of_measure hmeasured hline sink, rfl⟩

/-- Without enough depth, the host function reports nothing. -/
theorem le_of_report_reference {label : String} {sink : Sink} {m : Measurement}
    (h : ((Candidate.report ⟨.str label, .reference .fib⟩ "fib" [.int n] sink useCache).outcome
      w).1 = .ok m) : n ≤ referenceDepth := by
  by_contra hmany
  have hcall : Reference.fib.call [.int n] = .error (.value .depth) := by
    rw [reference_call, if_neg (by omega)]
  have hact := Act.outcome_ofExcept (Reference.fib.call [.int n]) (w.later 1)
  rw [hcall] at hact
  have hmeasured := outcome_measured_of_error
    (⟨if "fib" = "" then Reference.fib.name else "fib", [.int n], ·, ·, .str label⟩) "host" hact
  rw [← hcall, ← Candidate.measure_of_reference ⟨.str label, .reference .fib⟩ rfl] at hmeasured
  rw [Candidate.outcome_report, hmeasured] at h
  cases h

end Reports

section Standard

variable {k : CacheScope} {w : World} {useCache : Bool} {sink : Sink} {n : Int}

theorem MayLoad.later {s : Source} (h : MayLoad k useCache w s) (j : Nat) :
    MayLoad k useCache (w.later j) s := by
  intro huse
  obtain ⟨hsound, hready, c, w₁, hopen⟩ := h huse
  have hsame := CacheScope.SameStore.later w j
  refine ⟨hsound.of_eq rfl rfl rfl, hready.of_sameStore hsame, c,
    (Cache.shared.outcome (w.later j)).2, Prod.ext ?_ rfl⟩
  rw [hsame.shared.1, hopen]

/-- What a comparison of the standard candidates needs: the files of the builds lie where they come
with the harness, calls are not bounded too tightly, and a cache is sound and does not get into the
way. -/
structure Prepared (k : CacheScope) (useCache : Bool) (sink : Sink) (n : Int) (w : World) : Prop where
  unoptimized : unoptimized.LiesAt ⟨w.bundled.child "fib.wasm"⟩ w.disk
  optimized : optimized.LiesAt ⟨w.bundled.child "fib_opt.wasm"⟩ w.disk
  depth : max 1 n ≤ w.bounds.depth
  fuel : cost n ≤ w.bounds.fuel
  cache : useCache = true → k.Sound w ∧ (∃ c w₁, Cache.shared.outcome w = (.ok c, w₁)) ∧
    Undisturbed k (Candidate.standard w.bundled) "fib" [.int n] sink w

/-- Each of the standard candidates alone is reported, if calls of the host function may be nested so
deep. -/
theorem Prepared.reports (h : Prepared k useCache sink n w) (hn : InRange n)
    (hfew : n ≤ referenceDepth) :
    List.Forall₂ (fun c value => ∀ j, ∃ m,
      ((c.report "fib" [.int n] sink useCache).outcome (w.later j)).1 = .ok m ∧ m.value = value)
      (Candidate.standard w.bundled) [.int (wrapped n), .int (wrapped n), .int (exact n)] := by
  have hload : ∀ label s, ⟨label, .source s⟩ ∈ Candidate.standard w.bundled →
      MayLoad k useCache w s := by
    intro label s hs huse
    obtain ⟨hsound, hopen, hundisturbed⟩ := h.cache huse
    exact ⟨hsound, hundisturbed.ready _ hs s rfl, hopen⟩
  have hbuild : ∀ b ∈ [Fibonacci.unoptimized, Fibonacci.optimized], ∀ label s,
      ⟨.str label, .source s⟩ ∈ Candidate.standard w.bundled → b.LiesAt s w.disk → ∀ j, ∃ m,
        ((Candidate.report ⟨.str label, .source s⟩ "fib" [.int n] sink useCache).outcome
          (w.later j)).1 = .ok m ∧ m.value = .int (wrapped n) := by
    intro b hb label s hs hlies j
    have hlies' : b.LiesAt s (w.later j).disk := hlies
    have hdepth : max 1 n ≤ (w.later j).bounds.depth := h.depth
    have hfuel : cost n ≤ (w.later j).bounds.fuel := h.fuel
    exact report_build hb hlies' ((hload _ s hs).later j) hn hdepth hfuel label sink
  refine .cons ?_ (.cons ?_ (.cons (fun j => ?_) .nil))
  · exact hbuild _ (.head _) "Unoptimized" _ (.head _) h.unoptimized
  · exact hbuild _ (.tail _ (.head _)) "Optimized" _ (.tail _ (.head _)) h.optimized
  · exact report_reference hn hfew "Reference" sink useCache (w.later j)

/-- A comparison that ends well has asked the host function for no more than it can do. -/
theorem le_of_compare_standard {bundled : Storage.Path} {r : Report} {w' : World}
    (h : (compare (Candidate.standard bundled) "fib" [.int n] sink useCache).outcome w = (.ok r, w')) :
    n ≤ referenceDepth := by
  have hsplit : Candidate.standard bundled =
      (Candidate.standard bundled).take 2 ++ [⟨.str "Reference", .reference .fib⟩] := rfl
  rw [hsplit, outcome_compare_concat] at h
  rcases hout : (compare ((Candidate.standard bundled).take 2) "fib" [.int n] sink
    useCache).outcome w with ⟨result, w₁⟩
  rw [hout] at h
  -- the host function is the last candidate, so the comparison has come to it
  cases result with
  | error f => cases h
  | ok r₁ =>
      simp only at h
      cases hreport : ((Candidate.report ⟨.str "Reference", .reference .fib⟩ "fib" [.int n] sink
        useCache).outcome w₁).1 with
      | error f =>
          rw [hreport] at h
          cases h
      | ok m => exact le_of_report_reference hreport

end Standard

/-- For every integer of 32 bits with a sign, both builds give the number that the host function gives
without bounds, wrapped to 32 bits. In a report of the standard candidates, the values of the builds
are equal, and all three values are equal as long as the number fits. -/
theorem builds_agree (n : Int) (hn : InRange n) :
    (∀ depth, fibWithin depth (.int n) =
      if max 1 n ≤ depth then .ok (.int (exact n)) else .error .depth) ∧
    (n < 2 → wrapped n = n) ∧
    cost n ≤ Bounds.standard.fuel ∧
    (∀ k useCache w s, ∀ b ∈ [unoptimized, optimized], b.LiesAt s w.disk →
      MayLoad k useCache w s → max 1 n ≤ w.bounds.depth → cost n ≤ w.bounds.fuel →
      ∃ h w', (s.load Engine.shared useCache false).outcome w = (.ok h, w') ∧
        ((h.call "fib" [.int n]).outcome w').1 = .ok (.int (wrapped n))) ∧
    (∀ k useCache sink w, Prepared k useCache sink n w →
      (n ≤ referenceDepth → ∃ r w', (compare (Candidate.standard w.bundled) "fib" [.int n] sink
        useCache).outcome w = (.ok r, w')) ∧
      ∀ r w', (compare (Candidate.standard w.bundled) "fib" [.int n] sink useCache).outcome w =
          (.ok r, w') →
        r.values = [.int (wrapped n), .int (wrapped n), .int (exact n)] ∧
          ((∀ a ∈ r.values, ∀ b ∈ r.values, a = b) ↔ n ≤ 46)) := by
  refine ⟨fun depth => fibWithin_int depth n, fun hsmall => ?_, cost_le_fuel hn, ?_, ?_⟩
  · have hfits := (wrapped_eq_exact_iff hn).2 (by omega)
    rw [hfits, exact_of_lt hsmall]
  · intro k useCache w s b hb hlies hmay hdepth hfuel
    obtain ⟨htype, hgives⟩ := Build.gives hb
    obtain ⟨h, w', hload, hstart, hcurrent, hbounds⟩ := load_build hb hlies hmay
    refine ⟨h, w', hload, ?_⟩
    rw [← hbounds] at hdepth hfuel
    exact (outcome_callAccepted hstart hcurrent htype hgives hn hdepth hfuel).2
  · intro k useCache sink w hprepared
    have hreport : n ≤ referenceDepth → ∃ r w', (compare (Candidate.standard w.bundled) "fib"
        [.int n] sink useCache).outcome w = (.ok r, w') ∧
        r.values = [.int (wrapped n), .int (wrapped n), .int (exact n)] := fun hfew =>
      compare_of_reports (fun huse => (hprepared.cache huse).2.2) (hprepared.reports hn hfew)
    refine ⟨fun hfew => ?_, fun r w' hout => ?_⟩
    · obtain ⟨r, w', hout, -⟩ := hreport hfew
      exact ⟨r, w', hout⟩
    · obtain ⟨r', w'', hout', hvalues⟩ := hreport (le_of_compare_standard hout)
      cases hout.symm.trans hout'
      refine ⟨hvalues, ?_⟩
      rw [hvalues, ← wrapped_eq_exact_iff hn]
      simp [eq_comm]

/-- The first number that does not fit. -/
theorem builds_agree_fortySeven : InRange 47 ∧
    ∃ r w, (compare (Candidate.standard Bundle.directory) "fib" [.int 47] .stream false).outcome
      (World.start []) = (.ok r, w) ∧
      r.values = [.int (-1323752223), .int (-1323752223), .int 2971215073] := by
  have hn : InRange 47 := ⟨by decide, by decide⟩
  have hexact : exact 47 = 2971215073 := by
    rw [show (47 : Int) = (47 : Nat) from rfl, exact_natCast]
    norm_num
  have hwrapped : wrapped 47 = -1323752223 := by
    unfold wrapped
    rw [hexact]
    rfl
  have hprepared : Prepared CacheScope.bundled false .stream 47 (World.start []) := by
    refine ⟨?_, ?_, by decide, by decide, by simp⟩
    · unfold Build.LiesAt
      decide +kernel
    · unfold Build.LiesAt
      decide +kernel
  obtain ⟨-, -, -, -, hcompare⟩ := builds_agree 47 hn
  obtain ⟨hok, hvalues⟩ := hcompare CacheScope.bundled false .stream (World.start []) hprepared
  obtain ⟨r, w, hout⟩ := hok (by decide)
  have hall := (hvalues r w hout).1
  rw [hwrapped, hexact] at hall
  exact ⟨hn, r, w, hout, hall⟩

end WasmGauge.Fibonacci
