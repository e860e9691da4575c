import WasmGauge.Proofs.Number.Range
import WasmGauge.Proofs.Signatures.Acceptance

/-!
# Faults that are none of the arguments

A check of arguments is to say what is wrong with them: their count, a type that takes none, a value of
the wrong kind, an integer that does not fit. But it converts integers, and shows those that do not fit,
and neither can be done to every integer. What fails then is passed on as it is.

## Main statements

- `Signature.passes_on_iff`: which integers make the check fail for another reason.
- `Signature.not_forall_isMismatch`: there are such integers.
-/

namespace WasmGauge

/-- Whether a fault is one of type: a wrong count, a type that takes no argument, a value of the wrong
kind, or an integer that does not fit. Others come from an operation on an argument, and keep the class
they have there. -/
def ArgumentFault.IsMismatch : ArgumentFault → Prop
  | .value _ => False
  | _ => True

theorem plainText_eq_error_iff_of_isInteger {v : Value} {n : Int} {fault : Fault} (hv : v.IsInteger n) :
    v.plainText = .error fault ↔ v = .int n ∧ tenPow digitLimit ≤ n.natAbs ∧ fault = .digitLimit := by
  -- a scalar is written in full, however many digits it has
  cases hv with
  | plain =>
    show intText n = .error fault ↔ _
    rw [intText_eq_error_iff, and_comm, eq_self, true_and]
  | scalar k =>
    constructor
    · intro h
      cases h
    · rintro ⟨h, -⟩
      cases h

/-- An integer with so many digits does not fit a parameter. -/
theorem lt_of_tenPow_le {type : String} {width : Nat} {n : Int} (htype : IntegerType type width)
    (hn : tenPow digitLimit ≤ n.natAbs) : n < -2 ^ (width - 1) ∨ 2 ^ (width - 1) - 1 < n := by
  -- twenty digits are more than enough, and the limit itself is too large to be computed with
  have hpow : tenPow 20 ≤ tenPow digitLimit := tenPow_le_tenPow (by decide)
  have hsmall : tenPow 20 = 10 ^ 20 := rfl
  generalize tenPow digitLimit = limit at hn hpow
  cases htype with
  | i32 =>
    show n < -2 ^ 31 ∨ 2 ^ 31 - 1 < n
    omega
  | i64 =>
    show n < -2 ^ 63 ∨ 2 ^ 63 - 1 < n
    omega

theorem refused_value_iff {index : Nat} {type : String} {v : Value} {fault : Fault} :
    Refused index type v (.value fault) ↔ ∃ n, v.IsInteger n ∧
      ((∃ width, IntegerType type width) ∧ v = .int n ∧ tenPow digitLimit ≤ n.natAbs ∧
          fault = .digitLimit ∨
        FloatingType type ∧ twoPow 1024 - twoPow 970 ≤ n.natAbs ∧ fault = .floatRange) := by
  constructor
  · intro h
    cases h with
    | unshown htype hv _ hshown =>
      exact ⟨_, hv, .inl ⟨⟨_, htype⟩, (plainText_eq_error_iff_of_isInteger hv).1 hshown⟩⟩
    | tooLarge htype hv hx => exact ⟨_, hv, .inr ⟨htype, Float.ofInt?_eq_none_iff.1 hx, rfl⟩⟩
  · rintro ⟨n, hv, ⟨⟨width, htype⟩, hplain⟩ | ⟨htype, hlarge, rfl⟩⟩
    · have hshown := (plainText_eq_error_iff_of_isInteger hv).2 hplain
      exact .unshown htype hv (lt_of_tenPow_le htype hplain.2.1) hshown
    · exact .tooLarge htype hv (Float.ofInt?_eq_none_iff.2 hlarge)

namespace Signature

/-- The check of arguments fails for a reason other than those it is for exactly if it reaches one of two
integers: a plain one with more than 4300 digits for an integer parameter, which is to be shown, or one of
at least `2 ^ 1024 - 2 ^ 970` for a floating-point parameter, which is to be converted. -/
theorem passes_on_iff (s : Signature) (args : List Value) (fault : ArgumentFault) :
    s.check args = .error fault ∧ ¬ fault.IsMismatch ↔ ∃ i type v n, s.Reaches args i type v ∧
      v.IsInteger n ∧
      ((∃ width, IntegerType type width) ∧ v = .int n ∧ tenPow digitLimit ≤ n.natAbs ∧
          fault = .value .digitLimit ∨
        FloatingType type ∧ twoPow 1024 - twoPow 970 ≤ n.natAbs ∧ fault = .value .floatRange) := by
  constructor
  · rintro ⟨hcheck, hother⟩
    rcases check_eq_error_iff.1 hcheck with ⟨-, rfl⟩ | ⟨i, type, v, hreaches, hrefused⟩
    · exact absurd trivial hother
    · cases fault with
      | count | unsupported | notInteger | outOfRange | notNumber => exact absurd trivial hother
      | value f =>
        obtain ⟨n, hv, ⟨htype, hplain, hn, rfl⟩ | ⟨htype, hn, rfl⟩⟩ := refused_value_iff.1 hrefused
        · exact ⟨i, type, v, n, hreaches, hv, .inl ⟨htype, hplain, hn, rfl⟩⟩
        · exact ⟨i, type, v, n, hreaches, hv, .inr ⟨htype, hn, rfl⟩⟩
  · rintro ⟨i, type, v, n, hreaches, hv, ⟨htype, hplain, hn, rfl⟩ | ⟨htype, hn, rfl⟩⟩
    · have hrefused : Refused i type v (.value .digitLimit) :=
        refused_value_iff.2 ⟨n, hv, .inl ⟨htype, hplain, hn, rfl⟩⟩
      exact ⟨check_eq_error_iff.2 (.inr ⟨i, type, v, hreaches, hrefused⟩), fun h => h⟩
    · have hrefused : Refused i type v (.value .floatRange) :=
        refused_value_iff.2 ⟨n, hv, .inr ⟨htype, hn, rfl⟩⟩
      exact ⟨check_eq_error_iff.2 (.inr ⟨i, type, v, hreaches, hrefused⟩), fun h => h⟩

theorem reaches_only (type : String) (results : List String) (v : Value) :
    Signature.Reaches ⟨[type], results⟩ [v] 0 type v :=
  ⟨rfl, rfl, rfl, fun j _ _ hj => absurd hj (Nat.not_lt_zero j)⟩

/-- The integers `2 ^ 1024` and `10 ^ 4300` are refused for reasons of the conversion and of the text. -/
theorem not_forall_isMismatch :
    Signature.check ⟨["f64"], []⟩ [.int (twoPow 1024)] = .error (.value .floatRange) ∧
    Signature.check ⟨["i32"], []⟩ [.int (tenPow digitLimit)] = .error (.value .digitLimit) ∧
    ¬ ∀ (s : Signature) (args : List Value) (fault : ArgumentFault),
      s.check args = .error fault → fault.IsMismatch := by
  have hlarge : twoPow 1024 - twoPow 970 ≤ ((twoPow 1024 : Nat) : Int).natAbs := by
    rw [Int.natAbs_natCast]
    exact Nat.sub_le _ _
  have hlong : tenPow digitLimit ≤ ((tenPow digitLimit : Nat) : Int).natAbs := by
    rw [Int.natAbs_natCast]
  have hconverted : Refused 0 "f64" (.int (twoPow 1024)) (.value .floatRange) :=
    refused_value_iff.2 ⟨_, .plain _, .inr ⟨.f64, hlarge, rfl⟩⟩
  have hshown : Refused 0 "i32" (.int (tenPow digitLimit)) (.value .digitLimit) :=
    refused_value_iff.2 ⟨_, .plain _, .inl ⟨⟨32, .i32⟩, rfl, hlong, rfl⟩⟩
  have hfloat := check_eq_error_iff.2 (.inr ⟨0, "f64", _, reaches_only "f64" [] _, hconverted⟩)
  have hinteger := check_eq_error_iff.2 (.inr ⟨0, "i32", _, reaches_only "i32" [] _, hshown⟩)
  exact ⟨hfloat, hinteger, fun h => h _ _ _ hfloat⟩

end Signature

end WasmGauge
