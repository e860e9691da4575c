import WasmGauge.Proofs.Handles.Boundary

/-!
# Three ways to call a function

A function can be called with its arguments checked and the call timed, checked and untimed right after
its module has been loaded, or directly. The three are one: what the check accepts is received the same
by all of them, they give the same value, and where one traps, so do the others, for the same reason and
with the same instance left behind.

## Main statements

- `Handle.Takes.dichotomy`: a call directly and a timed call both return or both trap.
- `Source.run_eq_invoke`: calling a function of a source is loading it and timing the call.
- `Handle.paths_agree`: both together.
-/

namespace WasmGauge

open Wasm (Val ValueType)

/-! ## §1 Directly and timed -/

/-- The function is called directly and timed from the same world, and both calls return the same. -/
structure Handle.BothReturn (h : Handle) (name : String) (args checked : List Value) (label : Value)
    (index : Nat) (vals : List Val) (w : World) (results : List Val) (i : Wasm.Instance) : Prop where
  received : (h.current w).call w.bounds index vals = (.ok results, i)
  direct : (h.call name checked).outcome w = (.ok (resultOf results), w.became h i)
  timed : ∃ m w', (h.invoke name args label).outcome w = (.ok m, w') ∧
    m.value = resultOf results ∧ m.args = checked ∧ h.current w' = i

/-- The function is called directly and timed from the same world, and both calls trap. -/
structure Handle.BothTrap (h : Handle) (name : String) (args checked : List Value) (label : Value)
    (index : Nat) (vals : List Val) (w : World) (trap : Wasm.Trap) (i : Wasm.Instance) : Prop where
  received : (h.current w).call w.bounds index vals = (.error trap, i)
  direct : (h.call name checked).outcome w = (.error (.trap trap), w.became h i)
  timed : ∃ w', (h.invoke name args label).outcome w = (.error (.invocation name trap), w') ∧
    h.current w' = i
  reason : (Failure.invocation name trap).message =
    FailureClass.invocation.sentence name (Failure.trap trap).message

section Takes

variable {h : Handle} {name : String} {args checked : List Value} {index : Nat}
  {type : Wasm.FuncType} {vals : List Val}

/-- A call directly and a timed call both return or both trap. -/
theorem Handle.Takes.dichotomy (ht : h.Takes name args checked index type vals) (label : Value)
    (w : World) :
    (∃ results i, h.BothReturn name args checked label index vals w results i) ∨
      (∃ trap i, h.BothTrap name args checked label index vals w trap i) := by
  have hdirect := ht.outcome_call w
  have htimes := ht.times label
  rcases hcall : (h.current w).call w.bounds index vals with ⟨result, i⟩
  rw [hcall] at hdirect
  -- both ways run the same function on the same values, so one case serves both
  cases result with
  | ok results =>
    obtain ⟨w', logger, hinvoke, -, -, hcurrent⟩ := htimes.returned w results i hcall
    exact .inl ⟨results, i, hcall, hdirect, _, w', hinvoke, rfl, rfl, hcurrent⟩
  | error trap =>
    obtain ⟨w', hinvoke, -, -, hcurrent⟩ := htimes.trapped w trap i hcall
    exact .inr ⟨trap, i, hcall, hdirect, ⟨w', hinvoke, hcurrent⟩, rfl⟩

/-- Timing an accepted call changes nothing about its value or its failure. -/
theorem Handle.Takes.invoke_value (ht : h.Takes name args checked index type vals) (label : Value)
    (w : World) :
    ((h.invoke name args label).outcome w).1.map (·.value) =
      ((h.callAccepted name checked).outcome w).1 := by
  rw [ht.outcome_callAccepted w]
  rcases ht.dichotomy label w with
    ⟨results, i, hcall, -, m, w', hinvoke, hvalue, -, -⟩ | ⟨trap, i, hcall, -, ⟨w', hinvoke, -⟩, -⟩
  · rw [hcall, hinvoke]
    exact congrArg Except.ok hvalue
  · rw [hcall, hinvoke]
    rfl

end Takes

/-! ## §2 From the source -/

/-- Calling a function of a source comes to the same as loading the source and timing the call, whether
it is loaded or not, and whether the call is refused, traps or returns. -/
theorem Source.run_eq_invoke (s : Source) (name : String) (args : List Value) (label : Value)
    (w : World) :
    ((s.run name args false).outcome w).1 =
      ((do
        let h ← s.load Engine.shared false false
        let m ← h.invoke name args label
        pure m.value : Act Value).outcome w).1 := by
  unfold Source.run
  rw [Act.outcome_bind, Act.outcome_bind]
  rcases hload : (s.load Engine.shared false false).outcome w with ⟨loaded, w₁⟩
  cases loaded with
  | error f => rfl
  | ok h =>
    obtain ⟨x, w₀, -, hmade⟩ := Act.outcome_bind_eq_ok hload
    simp only [Act.outcome_bind_pure]
    -- arguments that are refused are refused before the clock is read
    cases haccept : h.accept name args with
    | error f => rw [Handle.invoke_of_refused haccept]; rfl
    | ok checked =>
      obtain ⟨index, type, vals, ht⟩ :=
        Handle.takes_of_accept (Handle.named_of_instantiate hmade) haccept
      rw [ht.invoke_value label w₁]
      simp only [Bool.false_eq_true, if_false, bind_pure]

/-! ## §3 All three -/

/-- Calling a function of a source is loading it and timing the call. And on every handle, whatever its
instance has become, a direct call with the arguments that the check has made is never refused: the
function receives every integer as it was given, and the call returns or traps as the timed one does. -/
theorem Handle.paths_agree {x : Executable} {w₀ w₁ : World} {h : Handle}
    (hmade : x.instantiate.outcome w₀ = (.ok h, w₁)) :
    (∀ (s : Source) (name : String) (args : List Value) (label : Value) (w : World),
      ((s.run name args false).outcome w).1 =
        ((do
          let h ← s.load Engine.shared false false
          let m ← h.invoke name args label
          pure m.value : Act Value).outcome w).1) ∧
    (∀ (name : String) (args checked : List Value), h.accept name args = .ok checked →
      ∃ index type vals, h.start.function? name = some (index, type) ∧
        convertArguments type.params checked = .ok vals ∧
        (∀ (j : Nat) (t : ValueType), type.params[j]? = some t → t = .i32 ∨ t = .i64 →
          ∃ v x n, args[j]? = some v ∧ vals[j]? = some x ∧ v.integer? = some n ∧
            x.toValue = .int n) ∧
        ∀ (label : Value) (w : World),
          (∃ results i, h.BothReturn name args checked label index vals w results i) ∨
            (∃ trap i, h.BothTrap name args checked label index vals w trap i)) := by
  refine ⟨fun s => s.run_eq_invoke, ?_⟩
  intro name args checked haccept
  obtain ⟨index, type, vals, ht⟩ := takes_of_accept (named_of_instantiate hmade) haccept
  refine ⟨index, type, vals, ht.function, ht.taken.convertArguments, ?_, ht.dichotomy⟩
  intro j t hj ht'
  exact ht.taken.exact hj ht'

/-- The function of a bundled module receives a scalar of a small kind as the integer that it is,
and a direct call and a timed one both return or both trap. -/
theorem Handle.paths_agree_fib : ∃ h w,
    (Bundle.fib.load Engine.shared false false).outcome (World.start []) = (.ok h, w) ∧
      h.accept "fib" [.scalar (.int ⟨8, true⟩ 7)] = .ok [.int 7] ∧
      ∃ index vals, (∃ x, vals[0]? = some x ∧ x.toValue = .int 7) ∧ ∀ label u,
        (∃ results i, h.BothReturn "fib" [.scalar (.int ⟨8, true⟩ 7)] [.int 7] label index vals u
          results i) ∨
        (∃ trap i, h.BothTrap "fib" [.scalar (.int ⟨8, true⟩ 7)] [.int 7] label index vals u
          trap i) := by
  obtain ⟨h, w, hload, hexports⟩ := Bundle.exports_fib
  have hfib : h.exports.lookup "fib" = some ⟨["i32"], ["i32"]⟩ := by rw [hexports]; rfl
  have haccept : h.accept "fib" [.scalar (.int ⟨8, true⟩ 7)] = .ok [.int 7] := by
    rw [h.accept_of_lookup hfib]
    rfl
  obtain ⟨x, w₁, -, hmade⟩ := Act.outcome_bind_eq_ok hload
  obtain ⟨index, ⟨params, results⟩, vals, hfunction, -, hexact, hboth⟩ :=
    (paths_agree hmade).2 "fib" _ _ haccept
  -- the only word that stands for the parameter is the one for 32-bit integers
  have hwords : params.map ValueType.word = ["i32"] := by
    have hlookup := lookup_eq (named_of_instantiate hmade) "fib"
    rw [hfib, hfunction] at hlookup
    exact (congrArg Signature.params (Option.some.inj hlookup)).symm
  obtain ⟨t, rest, rfl, ht, -⟩ := List.map_eq_cons_iff.1 hwords
  have htype : t = .i32 := by cases t <;> first | rfl | exact absurd ht (by decide)
  obtain ⟨v, y, n, hv, hy, hn, hvalue⟩ := hexact 0 t rfl (.inl htype)
  cases hv
  cases hn
  exact ⟨h, w, hload, haccept, index, vals, ⟨y, hy, hvalue⟩, hboth⟩

end WasmGauge
