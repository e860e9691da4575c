import WasmGauge.Gauge.Suite
import WasmGauge.Proofs.Fibonacci.Agreement
import WasmGauge.Proofs.Handles.Boundary
import WasmGauge.Proofs.Signatures.Limits

/-!
# Cases of the validation suite

One case asks the handle for the value of one number, and passes if the answer is equal to the value of
the host function. Whatever else the answer is, the case has failed and the next one comes: only
arguments that do not go with the function end the check. So the cases of a check are the requests to
the handle, one after another, and their tally is a count over the answers.

## Main statements

- `outcome_runCase`: a case passes or fails as its answer says.
- `outcome_runCases`: the tally of a run counts the answers that pass.
- `outcome_runCases_of_refused`: a refused number ends the run at its first case.
-/

namespace WasmGauge

open Wasm (Val FuncType)

/-! ## §1 Numbers -/

/-- The function of a signature takes one number. -/
def Signature.TakesNumber (s : Signature) : Prop :=
  s.params ∈ [["i32"], ["i64"], ["f32"], ["f64"]]

namespace Signature

variable {s : Signature} {n : Int}

theorem takesNumber_iff : s.TakesNumber ↔
    ∃ type, s.params = [type] ∧ ((∃ width, IntegerType type width) ∨ FloatingType type) := by
  constructor
  · intro h
    simp only [TakesNumber, List.mem_cons, List.not_mem_nil, or_false] at h
    rcases h with h | h | h | h
    · exact ⟨_, h, .inl ⟨32, .i32⟩⟩
    · exact ⟨_, h, .inl ⟨64, .i64⟩⟩
    · exact ⟨_, h, .inr .f32⟩
    · exact ⟨_, h, .inr .f64⟩
  · rintro ⟨type, hparams, ⟨width, htype⟩ | htype⟩
    all_goals
      unfold TakesNumber
      rw [hparams]
      cases htype <;> simp

/-- A small number goes with every type of numbers. -/
theorem exists_check_of_takesNumber (h : s.TakesNumber) (hleast : 0 ≤ n) (hgreatest : n ≤ 25) :
    ∃ checked, s.check [.int n] = .ok checked := by
  obtain ⟨type, hparams, htype⟩ := takesNumber_iff.1 h
  have hfits : ∃ c, Fits type (.int n) c := by
    rcases htype with ⟨width, htype⟩ | htype
    · refine ⟨.int n, .integer htype (.plain n) ?_ ?_⟩ <;> cases htype <;> omega
    · cases hx : Float.ofInt? n with
      | some x => exact ⟨.float x, .number htype (.integer (.plain n) hx)⟩
      | none =>
        have hlarge : twoPow 1024 - twoPow 970 ≤ n.natAbs := Float.ofInt?_eq_none_iff.1 hx
        have hsmall : n.natAbs < twoPow 1024 - twoPow 970 := by
          have hnat : n.natAbs ≤ 25 := by omega
          exact lt_of_le_of_lt hnat (by decide +kernel)
        omega
  obtain ⟨c, hfits⟩ := hfits
  refine ⟨[c], ?_⟩
  rw [check_of_given (by simp [hparams]), hparams]
  exact (FitAll.cons hfits .nil).check

/-- If the function takes no number, the arguments do not match. -/
theorem exists_mismatch_of_not_takesNumber (h : ¬ s.TakesNumber) (n : Int) :
    ∃ fault, s.check [.int n] = .error fault ∧ fault.IsMismatch := by
  by_cases hcount : [Value.int n].length = s.params.length
  · obtain ⟨type, hparams⟩ := List.length_eq_one_iff.1 hcount.symm
    have htype := fun htype => h (takesNumber_iff.2 ⟨type, hparams, htype⟩)
    have hrefused : Refused 0 type (.int n) (.unsupported type) :=
      .unsupported _ (fun width hwidth => htype (.inl ⟨width, hwidth⟩)) fun hfloat => htype (.inr hfloat)
    refine ⟨.unsupported type, ?_, trivial⟩
    rw [check_of_given hcount, hparams]
    exact (RefusedFirst.here hrefused).check
  · exact ⟨_, check_of_count hcount, trivial⟩

end Signature

namespace Suite

section Numbers

variable {draw : Nat → Int}

theorem mem_cases (hdraw : ∀ k, 3 ≤ draw k ∧ draw k ≤ 25) {count n : Int} (hn : n ∈ cases draw count) :
    0 ≤ n ∧ n ≤ 25 := by
  rcases List.mem_append.1 hn with hfixed | hdrawn
  · simp only [fixedCases, List.mem_cons, List.not_mem_nil, or_false] at hfixed
    omega
  · obtain ⟨k, -, rfl⟩ := List.mem_map.1 hdrawn
    exact ⟨by have := hdraw k; omega, (hdraw k).2⟩

/-- The fixed numbers come first, and there are four of them. -/
theorem length_cases (draw : Nat → Int) (count : Int) :
    ((cases draw count).length : Int) = max 4 count := by
  have hfixed : fixedCases.length = 4 := rfl
  simp only [cases, List.length_append, List.length_map, List.length_range, hfixed]
  omega

theorem cases_eq (draw : Nat → Int) (count : Int) :
    ∃ rest, cases draw count = 0 :: rest := ⟨_, rfl⟩

theorem fib_of_small {n : Int} (hleast : 0 ≤ n) (hgreatest : n ≤ 25) :
    fib (.int n) = .ok (.int (Fibonacci.exact n)) ∧
      ∃ t, Value.text (.int (Fibonacci.exact n)) = .ok t := by
  constructor
  · unfold fib
    rw [Fibonacci.fibWithin_int, if_pos]
    show max 1 n ≤ 1000
    omega
  · exact Fibonacci.text_exact ⟨by omega, by omega⟩ (by omega)

end Numbers

/-! ## §2 Saying something -/

def Said (w w' : World) : Prop := ∃ text, w' = w.wrote .out text

namespace Said

variable {u v w : World}

theorem trans (h : Said u v) (h' : Said v w) : Said u w := by
  obtain ⟨text, rfl⟩ := h
  obtain ⟨text', rfl⟩ := h'
  exact ⟨text ++ text', by simp [World.wrote, String.append_assoc]⟩

theorem alike {clocked : Prop} {h g : Handle} (halike : h.Alike clocked u g v) (hsaid : Said v w) :
    h.Alike clocked u g w := by
  obtain ⟨text, rfl⟩ := hsaid
  exact ⟨halike.start, halike.bounds, halike.current, halike.clock⟩

end Said

theorem outcome_say (line : String) (w : World) :
    (Act.say line).outcome w = (.ok ⟨⟩, w.wrote .out (line ++ "\n")) :=
  World.outcome_write .out _ w

theorem said_say (line : String) : (Act.say line).Moves Said := fun w => ⟨_, by rw [outcome_say]⟩

/-! ## §3 One case -/

def request (n : Int) : Request := .invoke standardExport [.int n] .none

/-- Whether the answer to a case is a value equal to the one of the host function. -/
def passes (n : Int) (answer : Except Failure Value) : Bool :=
  match answer, fib (.int n) with
  | .ok value, .ok (.int i) => value.equalsInt i
  | _, _ => false

theorem outcome_judge {m : Measurement} {x : Float} {i : Int} (helapsed : m.elapsed = .float x)
    (hvalue : ∃ t, m.value.text = .ok t) (hwanted : ∃ t, Value.text (.int i) = .ok t) (w : World) :
    ∃ w', (judge m (.int i)).outcome w = (.ok (m.value.equalsInt i), w') ∧ Said w w' := by
  obtain ⟨got, hgot⟩ := hvalue
  obtain ⟨wanted, hwanted⟩ := hwanted
  have htime : m.elapsed.fixed 2 = .ok (Decimal.fixed 2 x) := by
    rw [helapsed]
    rfl
  have hagrees : agrees m.value (.int i) = m.value.equalsInt i := rfl
  unfold judge
  rw [hagrees]
  -- what is said differs, and that is all
  cases m.value.equalsInt i with
  | true =>
    simp only [if_true, htime]
    exact ⟨_, rfl, said_say _ w⟩
  | false =>
    simp only [Bool.false_eq_true, if_false, hgot, hwanted]
    exact ⟨_, rfl, (said_say _ w).trans (said_say _ _)⟩

/-- No value of a call is a scalar, so it is shown like in a sentence. -/
theorem text_resultOf (results : List Val) : ∃ t, (resultOf results).text = .ok t := by
  have hplain : (resultOf results).plainText = (resultOf results).text := by
    match results with
    | [] => rfl
    | [x] => cases x <;> rfl
    | _ :: _ :: _ => rfl
  rw [← hplain]
  exact plainText_resultOf results

/-- A handle takes numbers: the ones that a check asks it for go with its function. -/
def TakesNumbers (h : Handle) : Prop :=
  ∀ n, 0 ≤ n → n ≤ 25 → ∃ checked index type vals,
    h.Takes standardExport [.int n] checked index type vals

variable {h : Handle} {n : Int}

theorem outcome_request (h : Handle) (n : Int) (w : World) :
    ((request n).perform h).outcome w =
      (((h.invoke standardExport [.int n] .none).outcome w).1.map (·.value),
        ((h.invoke standardExport [.int n] .none).outcome w).2) :=
  Act.outcome_bind_pure _ _ w

/-- What is written before the case with an index is run. -/
def prompt (total index : Nat) (n : Int) : String := s!"  Test {index + 1}/{total}: fib({n}) "

/-- After the prompt, a case asks for the value of the number and goes on by the answer. -/
theorem runCase_eq (hleast : 0 ≤ n) (hgreatest : n ≤ 25) (total index : Nat) (w : World) :
    (runCase h total index n).outcome w =
      ((h.invoke standardExport [.int n] .none).attempt >>= fun
        | .ok m => judge m (.int (Fibonacci.exact n))
        | .error f =>
          if f.isHarness then do
            sayError "FAIL"
            Act.say ("    Error: " ++ f.message)
            pure false
          else Act.fail f).outcome (w.wrote .out (prompt total index n)) := by
  unfold runCase expected
  rw [(fib_of_small hleast hgreatest).1]
  rfl

theorem exists_outcome_runCase (htakes : TakesNumbers h) (hleast : 0 ≤ n) (hgreatest : n ≤ 25)
    (total index : Nat) {w w₀ : World} (hw₀ : w₀ = w.wrote .out (prompt total index n)) :
    ∃ w', (runCase h total index n).outcome w =
        (.ok (passes n (((request n).perform h).outcome w₀).1), w') ∧
      Said (((request n).perform h).outcome w₀).2 w' := by
  obtain ⟨checked, i, type, vals, ht⟩ := htakes n hleast hgreatest
  obtain ⟨hfib, hwanted⟩ := fib_of_small hleast hgreatest
  rw [runCase_eq hleast hgreatest, ← hw₀, outcome_request, Act.outcome_bind, Act.outcome_attempt]
  rcases hcall : (h.current w₀).call w₀.bounds i vals with ⟨result, j⟩
  -- a trap fails the case; results are judged by their value
  cases result with
  | error trap =>
    obtain ⟨w₁, hinvoke, -⟩ := (ht.times .none).trapped w₀ trap j hcall
    rw [hinvoke]
    exact ⟨_, rfl, (said_say _ w₁).trans (said_say _ _)⟩
  | ok results =>
    obtain ⟨w₁, logger, hinvoke, -⟩ := (ht.times .none).returned w₀ results j hcall
    rw [hinvoke]
    simp only [passes, Except.map, hfib]
    exact outcome_judge rfl (text_resultOf results) hwanted w₁

/-- A case of a function that takes the number passes or fails as its answer says, and leaves the handle
as the request alone would have left it. -/
theorem outcome_runCase (htakes : TakesNumbers h) (hleast : 0 ≤ n) (hgreatest : n ≤ 25)
    (total index : Nat) (w : World) :
    ∃ w', (runCase h total index n).outcome w =
        (.ok (passes n (((request n).perform h).outcome w).1), w') ∧
      h.Alike False (((request n).perform h).outcome w).2 h w' := by
  -- the handle does not feel what has been written before it is asked
  have halike : h.Alike False w h (w.wrote .out (prompt total index n)) :=
    Said.alike ⟨rfl, rfl, rfl, False.elim⟩ ⟨_, rfl⟩
  obtain ⟨hafter, hanswer⟩ := (request n).together rfl w _ halike
  obtain ⟨w', hcase, hsaid⟩ := exists_outcome_runCase htakes hleast hgreatest total index rfl
  rw [hanswer.eq]
  exact ⟨w', hcase, Said.alike hafter hsaid⟩

/-! ## §4 One case after another -/

def tallyOf (numbers : List Int) (answers : List (Except Failure Value)) : Tally where
  passed := (numbers.zip answers).countP fun case => passes case.1 case.2
  failed := (numbers.zip answers).countP fun case => !passes case.1 case.2

/-- No case gets lost between the two counts. -/
theorem passed_add_failed_tallyOf {numbers : List Int} {answers : List (Except Failure Value)}
    (h : answers.length = numbers.length) :
    (tallyOf numbers answers).passed + (tallyOf numbers answers).failed = numbers.length := by
  have hcount := List.length_eq_countP_add_countP (l := numbers.zip answers)
    fun case => passes case.1 case.2
  simp only [List.length_zip, h, min_self] at hcount
  simpa [tallyOf] using hcount.symm

theorem tallyOf_cons (n : Int) (numbers : List Int) (answer : Except Failure Value)
    (answers : List (Except Failure Value)) :
    tallyOf (n :: numbers) (answer :: answers) =
      Tally.add (if passes n answer then ⟨1, 0⟩ else ⟨0, 1⟩) (tallyOf numbers answers) := by
  cases h : passes n answer <;> simp [tallyOf, Tally.add, h, Nat.add_comm]

theorem length_replay (h : Handle) (rs : List Request) (w : World) :
    (h.replay rs w).1.length = rs.length := by
  induction rs generalizing w with
  | nil => rfl
  | cons r rs ih => simp [Handle.replay, ih]

/-- The tally of a run counts the answers that pass. -/
theorem outcome_runCases (htakes : TakesNumbers h) {numbers : List Int}
    (hnumbers : ∀ n ∈ numbers, 0 ≤ n ∧ n ≤ 25) (total index : Nat) (w : World) :
    ∃ w', (runCases h total index numbers).outcome w =
      (.ok (tallyOf numbers (h.replay (numbers.map request) w).1), w') := by
  -- on the numbers, with the index that is written before each
  induction numbers generalizing index w with
  | nil => exact ⟨w, rfl⟩
  | cons n rest ih =>
    obtain ⟨hleast, hgreatest⟩ := hnumbers n (List.mem_cons_self ..)
    obtain ⟨w₁, hcase, halike⟩ := outcome_runCase htakes hleast hgreatest total index w
    obtain ⟨w₂, hrest⟩ := ih (fun k hk => hnumbers k (List.mem_cons_of_mem n hk)) (index + 1) w₁
    -- the later answers are those that the requests alone would have got
    rw [← Handle.replay_congr halike] at hrest
    refine ⟨w₂, ?_⟩
    unfold runCases
    rw [Act.outcome_bind_of_ok hcase, Act.outcome_bind_of_ok hrest]
    simp only [List.map_cons, Handle.replay, tallyOf_cons, Act.outcome_pure]

/-- A number that the function does not take ends the run at its first case: the clock has not been
read, and nothing has been written but the prompt. -/
theorem outcome_runCases_of_refused {f : Failure} (hrefused : h.accept standardExport [.int n] = .error f)
    (hf : f.isHarness = false) (hleast : 0 ≤ n) (hgreatest : n ≤ 25) (total index : Nat)
    (rest : List Int) (w : World) :
    (runCases h total index (n :: rest)).outcome w =
      (.error f, w.wrote .out (prompt total index n)) := by
  unfold runCases
  apply Act.outcome_bind_of_error
  rw [runCase_eq hleast hgreatest, Handle.invoke_of_refused hrefused, Act.outcome_bind,
    Act.outcome_attempt, Act.outcome_fail]
  simp [hf]

end Suite

end WasmGauge
