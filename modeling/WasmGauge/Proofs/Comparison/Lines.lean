import WasmGauge.Proofs.Handles.Arguments
import WasmGauge.Proofs.Number.Range

/-!
# Lines of measurements

A line of a report can be written if each of its parts can: only an integer with very many digits, a
sequence that is nested very deep, and what is no number where a number is needed, cannot. What a
function is given and what it gives is never so: the integers have 64 bits at most, and several results
are one sequence.

## Main statements

- `Measurement.line_of_written`: a measurement whose parts are written has a line.
- `Handle.Takes.line`: a measurement of a function with a text as its label has a line.
-/

namespace WasmGauge

open Wasm (Val)

theorem text_int {i : Int} {b : Nat} (h : i.natAbs ≤ 2 ^ b) (hb : b ≤ 1000) :
    ∃ t, Value.text (.int i) = .ok t := by
  -- `2 ^ 1000` has far fewer than the 4300 digits that can be written
  have hshort : i.natAbs < tenPow digitLimit := calc
    i.natAbs ≤ 2 ^ b := h
    _ ≤ 10 ^ b := Nat.pow_le_pow_left (by decide) b
    _ < 10 ^ (b + 1) := Nat.pow_lt_pow_right (by decide) (Nat.lt_succ_self b)
    _ = tenPow (b + 1) := (tenPow_eq _).symm
    _ ≤ tenPow digitLimit := tenPow_le_tenPow (Nat.le_trans (Nat.succ_le_succ hb) (by decide))
  exact ⟨_, intText_of_lt hshort⟩

theorem argumentsText_of_written {args : List Value} (h : ∀ v ∈ args, ∃ t, v.text = .ok t) :
    ∃ t, argumentsText args = .ok t := by
  have htexts : ∃ ts, args.mapM (Value.textWithin nestingLimit) = .ok ts := by
    -- on the arguments, each of which has a text
    induction args with
    | nil => exact ⟨[], rfl⟩
    | cons v rest ih =>
      obtain ⟨t, ht⟩ : ∃ t, v.textWithin nestingLimit = .ok t := h v (List.mem_cons_self ..)
      obtain ⟨ts, hts⟩ := ih fun u hu => h u (List.mem_cons_of_mem v hu)
      refine ⟨t :: ts, ?_⟩
      rw [List.mapM_cons, ht, hts]
      rfl
  obtain ⟨ts, hts⟩ := htexts
  refine ⟨", ".intercalate ts, ?_⟩
  unfold argumentsText argumentsTextWithin
  rw [hts]
  rfl

/-- A measurement has a line if its arguments, its value, its time and its label are written. -/
theorem Measurement.line_of_written {m : Measurement} (hargs : ∀ v ∈ m.args, ∃ t, v.text = .ok t)
    (hvalue : ∃ t, m.value.plainText = .ok t) (helapsed : ∃ t, m.elapsed.fixed 2 = .ok t)
    (hlabel : ∃ t, m.label.plainText = .ok t) : ∃ line, m.line = .ok line := by
  obtain ⟨args, hargs⟩ := argumentsText_of_written hargs
  obtain ⟨value, hvalue⟩ := hvalue
  obtain ⟨elapsed, helapsed⟩ := helapsed
  obtain ⟨label, hlabel⟩ := hlabel
  unfold argumentsText at hargs
  unfold Value.plainText at hvalue hlabel
  unfold Measurement.line Measurement.lineWithin
  simp only [hargs, hvalue, helapsed, hlabel, bind, Except.bind]
  -- the label is written in front if it counts as something
  cases m.label.isTruthy with
  | true => exact ⟨_, rfl⟩
  | false => exact ⟨_, rfl⟩

/-! ## §1 What functions are given -/

theorem natAbs_of_holds {k : Nat} {n : Int} (h : IntKind.holds ⟨k + 1, true⟩ n = true) :
    n.natAbs ≤ 2 ^ k := by
  have hbounds : -(twoPow k : Int) ≤ n ∧ n < twoPow k := IntKind.holds_succ_iff.1 h
  have hpow : twoPow k = 2 ^ k := rfl
  omega

/-- Arguments that a function takes over are written. -/
theorem TakenAll.written {types : List Wasm.ValueType} {vs cs : List Value} {xs : List Val}
    (h : TakenAll types vs cs xs) : ∀ c ∈ cs, ∃ t, c.text = .ok t := by
  induction h with
  | nil => simp
  | cons first _ ih =>
    intro c hc
    rcases List.mem_cons.1 hc with rfl | hrest
    · -- integers lie in the range of their kind
      cases first with
      | i32 _ hholds => exact text_int (natAbs_of_holds hholds) (by decide)
      | i64 _ hholds => exact text_int (natAbs_of_holds hholds) (by decide)
      | f32 _ => exact ⟨_, rfl⟩
      | f64 _ => exact ⟨_, rfl⟩
    · exact ih c hrest

/-! ## §2 What functions give -/

theorem natAbs_bmod_le (n : Int) {b : Nat} (hb : 0 < b) : (n.bmod b).natAbs ≤ b := by
  have hlow := Int.le_bmod (x := n) hb
  have hhigh := Int.bmod_lt (x := n) hb
  omega

/-- A single result is written, alone and inside of a sequence. -/
theorem quoted_toValue (x : Val) (depth : Nat) :
    ∃ t, x.toValue.quotedWithin (depth + 1) = .ok t ∧ x.toValue.plainText = .ok t := by
  -- integers are bounded by their kind; the other results have no digits to count
  cases x with
  | i32 n =>
    obtain ⟨t, ht⟩ := text_int (b := 32) (natAbs_bmod_le (n.toNat : Int) (by decide)) (by decide)
    exact ⟨t, ht, ht⟩
  | i64 n =>
    obtain ⟨t, ht⟩ := text_int (b := 64) (natAbs_bmod_le (n.toNat : Int) (by decide)) (by decide)
    exact ⟨t, ht, ht⟩
  | f32 bits => exact ⟨_, rfl, rfl⟩
  | f64 bits => exact ⟨_, rfl, rfl⟩
  | null type => exact ⟨_, rfl, rfl⟩
  | func index => exact ⟨_, rfl, rfl⟩

theorem quoteds_toValue (xs : List Val) (depth : Nat) :
    ∃ ts, (xs.map (·.toValue)).mapM (Value.quotedWithin (depth + 1)) = .ok ts := by
  induction xs with
  | nil => exact ⟨[], rfl⟩
  | cons x rest ih =>
    obtain ⟨t, ht, -⟩ := quoted_toValue x depth
    obtain ⟨ts, hts⟩ := ih
    refine ⟨t :: ts, ?_⟩
    rw [List.map_cons, List.mapM_cons, ht, hts]
    rfl

theorem plainText_resultOf (results : List Val) : ∃ t, (resultOf results).plainText = .ok t := by
  match results with
  | [] => exact ⟨_, rfl⟩
  | [x] =>
    obtain ⟨t, -, ht⟩ := quoted_toValue x 0
    exact ⟨t, ht⟩
  -- several results are a sequence, whose items are quoted with one level less
  | x :: y :: rest =>
    obtain ⟨depth, hdepth⟩ : ∃ depth, nestingLimit = depth + 1 + 1 := ⟨998, rfl⟩
    obtain ⟨ts, hts⟩ := quoteds_toValue (x :: y :: rest) depth
    refine ⟨"[" ++ Value.separator.intercalate ts ++ "]", ?_⟩
    show Value.quotedWithin nestingLimit (.list ((x :: y :: rest).map (·.toValue))) = _
    rw [hdepth, Value.quotedWithin, hts]
    rfl

/-- A measurement of a call whose arguments are taken over has a line under every label that is a
text. -/
theorem Handle.Takes.line {h : Handle} {name : String} {args checked : List Value} {index : Nat}
    {type : Wasm.FuncType} {vals : List Val} (ht : h.Takes name args checked index type vals)
    (results : List Val) (elapsed : Float) (label : String) :
    ∃ line, Measurement.line ⟨name, checked, resultOf results, .float elapsed, .str label⟩ =
      .ok line :=
  Measurement.line_of_written ht.taken.written (plainText_resultOf results) ⟨_, rfl⟩ ⟨_, rfl⟩

end WasmGauge
