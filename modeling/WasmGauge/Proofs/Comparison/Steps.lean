import WasmGauge.Gauge.Comparison
import WasmGauge.Proofs.Outcome

/-!
# Steps of a comparison

A comparison is one report after another. This module unfolds it along the list of its candidates,
from the front and from the back; nothing else looks into the loop.

## Main statements

- `compare_cons`: a comparison reports its first candidate and goes on with the others.
- `outcome_compare_concat`: a comparison reports its last candidate in the world that the others
  leave, unless one of them failed.
-/

namespace WasmGauge

variable {name : String} {args : List Value} {sink : Sink} {useCache : Bool}

theorem compare_cons (c : Candidate) (cs : List Candidate) (name : String) (args : List Value)
    (sink : Sink) (useCache : Bool) :
    compare (c :: cs) name args sink useCache =
      (do
        let m ← c.report name args sink useCache
        let ms ← compare cs name args sink useCache
        pure (m :: ms)) :=
  List.mapM_cons

@[simp] theorem outcome_compare_nil (w : World) :
    (compare [] name args sink useCache).outcome w = (.ok [], w) := rfl

theorem outcome_compare_singleton (c : Candidate) (w : World) :
    (compare [c] name args sink useCache).outcome w =
      (((c.report name args sink useCache).outcome w).1.map ([·]),
        ((c.report name args sink useCache).outcome w).2) := by
  rw [compare_cons]
  exact Act.outcome_bind_pure _ _ w

theorem report_of_compare_singleton {c : Candidate} {w w' : World} {result : Except Failure Measurement}
    (h : (compare [c] name args sink useCache).outcome w = (result.map ([·]), w')) :
    ((c.report name args sink useCache).outcome w).1 = result := by
  rw [outcome_compare_singleton] at h
  have hmap := congrArg Prod.fst h
  cases result <;> cases hreport : ((c.report name args sink useCache).outcome w).1 <;>
    simp_all [Except.map]

/-- The last candidate is reported in the world that the others leave. -/
theorem outcome_compare_concat (cs : List Candidate) (c : Candidate) (w : World) :
    (compare (cs ++ [c]) name args sink useCache).outcome w =
      match (compare cs name args sink useCache).outcome w with
      | (.error f, w') => (.error f, w')
      | (.ok r, w') =>
        (((c.report name args sink useCache).outcome w').1.map (r ++ [·]),
          ((c.report name args sink useCache).outcome w').2) := by
  -- the reports of the first candidates are made once, then the last one
  have happend : compare (cs ++ [c]) name args sink useCache =
      (do
        let r ← compare cs name args sink useCache
        let ms ← compare [c] name args sink useCache
        pure (r ++ ms)) :=
    List.mapM_append
  rw [happend, Act.outcome_bind]
  rcases (compare cs name args sink useCache).outcome w with ⟨result, w'⟩
  cases result with
  | error f => rfl
  | ok r =>
      simp only
      rw [Act.outcome_bind_pure, outcome_compare_singleton]
      rcases (c.report name args sink useCache).outcome w' with ⟨result', w''⟩
      cases result' <;> rfl

end WasmGauge
