import WasmGauge.Proofs.Number.Range
import WasmGauge.Proofs.Signatures.Acceptance

/-!
# Scalars as arguments

A scalar of a fixed kind stands for a plain value. It would be natural if the check of arguments did not
tell the two apart, and mostly it does not: it accepts both or refuses both, for the same reason, and
makes the same of them. The exception are complex scalars for floating-point parameters. A plain complex
number is refused there; a complex scalar is accepted, and its imaginary part is dropped.

## Main statements

- `Fits.plain`, `Refused.plain`: one argument and the plain value it stands for.
- `Signature.check_plain`: with plain values in place of scalars, the check comes to the same, or stops at
  the first complex scalar for a floating-point parameter.
- `Signature.drops_imaginary_part`: there it does not come to the same.
-/

namespace WasmGauge

/-- The plain value that a value stands for. -/
def Value.plain : Value → Value
  | .scalar (.bool b) => .bool b
  | .scalar (.int _ n) => .int n
  | .scalar (.float _ x) => .float x
  | .scalar (.complex _ re im) => .complex re im
  | v => v

/-- An integer scalar holds an integer of its kind, and the kind has no more than 64 bits. -/
def Value.IsProper : Value → Prop
  | .scalar (.int k n) => k.bits ≤ 64 ∧ k.holds n = true
  | _ => True

/-! ## §1 One argument -/

variable {index : Nat} {type : String} {v c : Value} {n : Int} {fault : ArgumentFault}

theorem plain_of_isInteger (h : v.IsInteger n) : v.plain = .int n := by
  cases h <;> rfl

theorem isInteger_plain_iff : v.plain.IsInteger n ↔ v.IsInteger n := by
  constructor
  · intro h
    cases v with
    | scalar s =>
      cases s with
      | int k m =>
        cases h
        exact .scalar k n
      | bool | float | complex => cases h
    | none | bool | int | float | complex | str | list | tuple => exact h
  · intro h
    rw [plain_of_isInteger h]
    exact .plain n

theorem not_isNumber_plain (h : ¬ v.IsNumber) : ¬ v.plain.IsNumber := by
  cases v with
  | scalar s =>
    cases s with
    | bool => exact fun h => h
    | int | float | complex => exact absurd trivial h
  | none | bool | int | float | complex | str | list | tuple => exact h

theorem hasDouble_plain {x : Float} (h : v.HasDouble x) :
    (∃ k re im, v = .scalar (.complex k re im)) ∨ v.plain.HasDouble x := by
  -- each scalar but a complex one stands for a plain number with the same double
  cases h with
  | integer hv hx => exact .inr (.integer (isInteger_plain_iff.2 hv) hx)
  | plain => exact .inr (.plain x)
  | scalar => exact .inr (.plain x)
  | complex k _ im => exact .inl ⟨k, x, im, rfl⟩

theorem natAbs_le_of_holds {k : IntKind} (hbits : k.bits ≤ 64) (hholds : k.holds n = true) :
    n.natAbs ≤ twoPow 64 := by
  have hbelow : twoPow (k.bits - 1) ≤ twoPow 64 := twoPow_le_twoPow (by omega)
  have hall : twoPow k.bits ≤ twoPow 64 := twoPow_le_twoPow hbits
  unfold IntKind.holds IntKind.least IntKind.greatest at hholds
  rw [Bool.and_eq_true, decide_eq_true_eq, decide_eq_true_eq] at hholds
  generalize twoPow 64 = largest at hbelow hall ⊢
  split at hholds <;> omega

theorem plainText_plain (hv : v.IsInteger n) (hproper : v.IsProper) :
    v.plain.plainText = v.plainText := by
  cases hv with
  | plain => rfl
  | scalar k =>
    -- at most 64 bits, hence far fewer digits than the limit
    have hshort : n.natAbs < tenPow digitLimit := calc
      n.natAbs ≤ twoPow 64 := natAbs_le_of_holds hproper.1 hproper.2
      _ < tenPow 20 := by decide
      _ ≤ tenPow digitLimit := tenPow_le_tenPow (by decide)
    exact intText_of_lt hshort

/-- The value that a complex scalar stands for is no number to a floating-point parameter. -/
theorem refused_plain_of_complex (htype : FloatingType type) (k : ComplexKind) (re im : Float) :
    Refused index type (Value.plain (.scalar (.complex k re im))) (.notNumber index type) :=
  .notNumber htype fun h => h

/-- What goes with a parameter and is no complex scalar for a floating-point one still goes with it, and
the same is made of it. -/
theorem Fits.plain (h : Fits type v c)
    (hcomplex : ∀ k re im, v = .scalar (.complex k re im) → ¬ FloatingType type) :
    Fits type v.plain c := by
  cases h with
  | integer htype hv hleast hgreatest =>
    exact .integer htype (isInteger_plain_iff.2 hv) hleast hgreatest
  | number htype hv =>
    rcases hasDouble_plain hv with ⟨k, re, im, hv⟩ | hv
    · exact absurd htype (hcomplex k re im hv)
    · exact .number htype hv

/-- What does not go with a parameter still does not, for the same reason. -/
theorem Refused.plain (h : Refused index type v fault) (hproper : v.IsProper) :
    Refused index type v.plain fault := by
  -- the reasons look at the integer or the number alone, and these are the same
  cases h with
  | unsupported _ hinteger hfloating => exact .unsupported _ hinteger hfloating
  | notInteger htype hv => exact .notInteger htype fun n => mt isInteger_plain_iff.1 (hv n)
  | outOfRange htype hv hrange hshown =>
    rw [← plainText_plain hv hproper] at hshown
    exact .outOfRange htype (isInteger_plain_iff.2 hv) hrange hshown
  | unshown htype hv hrange hshown =>
    rw [← plainText_plain hv hproper] at hshown
    exact .unshown htype (isInteger_plain_iff.2 hv) hrange hshown
  | notNumber htype hv => exact .notNumber htype (not_isNumber_plain hv)
  | tooLarge htype hv hx => exact .tooLarge htype (isInteger_plain_iff.2 hv) hx

/-! ## §2 All arguments -/

namespace Signature

variable {s : Signature} {args checked : List Value} {i : Nat}

def MeetsComplex (s : Signature) (args : List Value) (i : Nat) : Prop :=
  ∃ type k re im, s.Reaches args i type (.scalar (.complex k re im)) ∧ FloatingType type

theorem given_map_plain : (args.map Value.plain).length = s.params.length ↔
    args.length = s.params.length := by
  rw [List.length_map]

/-- Up to the first complex scalar for a floating-point parameter, plain values are reached as well. -/
theorem Reaches.plain (h : s.Reaches args i type v) (hbefore : ∀ j < i, ¬ s.MeetsComplex args j) :
    s.Reaches (args.map Value.plain) i type v.plain := by
  refine ⟨given_map_plain.2 h.given, h.param, ?_, fun j type u' hj htype hu' => ?_⟩
  · rw [List.getElem?_map, h.arg, Option.map_some]
  · rw [List.getElem?_map, Option.map_eq_some_iff] at hu'
    obtain ⟨u, hu, rfl⟩ := hu'
    obtain ⟨c, hfits⟩ := h.before j type u hj htype hu
    refine ⟨c, hfits.plain fun k re im hcomplex hfloating => ?_⟩
    exact hbefore j hj ⟨type, k, re, im, hcomplex ▸ h.of_lt hj htype hu, hfloating⟩

theorem Accepts.plain (h : s.Accepts args checked) (hnone : ∀ j, ¬ s.MeetsComplex args j) :
    s.Accepts (args.map Value.plain) checked := by
  refine ⟨given_map_plain.2 h.given, h.made, fun i type u' c htype hu' hc => ?_⟩
  rw [List.getElem?_map, Option.map_eq_some_iff] at hu'
  obtain ⟨u, hu, rfl⟩ := hu'
  refine (h.each i type u c htype hu hc).plain fun k re im hcomplex hfloating => ?_
  exact hnone i ⟨type, k, re, im, hcomplex ▸ h.reaches htype hu, hfloating⟩

/-- Where no complex scalar is met, the check comes to the same for plain values. -/
theorem check_plain_of_none (hproper : ∀ v ∈ args, v.IsProper)
    (hnone : ∀ j, ¬ s.MeetsComplex args j) : s.check (args.map Value.plain) = s.check args := by
  cases hcheck : s.check args with
  | ok checked => exact check_eq_ok_iff.2 ((check_eq_ok_iff.1 hcheck).plain hnone)
  | error fault =>
    rcases check_eq_error_iff.1 hcheck with ⟨hcount, rfl⟩ | ⟨i, type, v, hreaches, hrefused⟩
    · rw [check_of_count (mt given_map_plain.1 hcount), List.length_map]
    · have hv : v.IsProper := hproper v (List.mem_of_getElem? hreaches.arg)
      exact check_eq_error_iff.2 (.inr ⟨i, type, v.plain, hreaches.plain fun j _ => hnone j,
        hrefused.plain hv⟩)

/-- With plain values in place of scalars, the check of arguments comes to the same, unless it reaches a
complex scalar for a floating-point parameter. The plain values are refused at the first one of these;
the arguments themselves are accepted with its real part in its place, or refused later. -/
theorem check_plain (s : Signature) (args : List Value) (hproper : ∀ v ∈ args, v.IsProper) :
    (∀ i, ¬ s.MeetsComplex args i) ∧ s.check (args.map Value.plain) = s.check args ∨
    ∃ i type k re im, s.Reaches args i type (.scalar (.complex k re im)) ∧ FloatingType type ∧
      s.check (args.map Value.plain) = .error (.notNumber i type) ∧
      (∀ checked, s.check args = .ok checked → checked[i]? = some (.float re)) ∧
      ∀ fault, s.check args = .error fault → ∃ j type v, i < j ∧ s.Reaches args j type v ∧
        Refused j type v fault := by
  classical
  by_cases hnone : ∀ i, ¬ s.MeetsComplex args i
  · exact .inl ⟨hnone, check_plain_of_none hproper hnone⟩
  · rw [not_forall_not] at hnone
    -- the first one that is met, so that plain values are reached up to it
    obtain ⟨type, k, re, im, hreaches, htype⟩ := Nat.find_spec hnone
    have hfits : Fits type (.scalar (.complex k re im)) (.float re) := .number htype (.complex k re im)
    refine .inr ⟨Nat.find hnone, type, k, re, im, hreaches, htype, ?_, fun checked hchecked => ?_,
      fun fault hfault => ?_⟩
    · have hplain := hreaches.plain fun j hj => Nat.find_min hnone hj
      exact check_eq_error_iff.2 (.inr ⟨_, type, _, hplain, refused_plain_of_complex htype k re im⟩)
    · obtain ⟨c, hc, hmade⟩ := (check_eq_ok_iff.1 hchecked).fits hreaches.param hreaches.arg
      rw [hc, hmade.unique hfits]
    · rcases check_eq_error_iff.1 hfault with ⟨hcount, -⟩ | ⟨j, type', v, hlater, hrefused⟩
      · exact absurd hreaches.given hcount
      · refine ⟨j, type', v, ?_, hlater, hrefused⟩
        -- what is refused is neither the complex scalar nor one of the arguments before it
        rcases Nat.lt_trichotomy (Nat.find hnone) j with hlt | heq | hgt
        · exact hlt
        · have htypes := hreaches.param.symm.trans (heq ▸ hlater.param)
          have hargs := hreaches.arg.symm.trans (heq ▸ hlater.arg)
          cases htypes
          cases hargs
          exact absurd hfits (hrefused.not_fits _)
        · obtain ⟨c, hbefore⟩ := hreaches.before j type' v hgt hlater.param hlater.arg
          exact absurd hbefore (hrefused.not_fits c)

/-- An integer of 8 bits, and a complex scalar for a parameter of 64 bits. -/
theorem check_plain_int8 :
    (∀ v ∈ [Value.scalar (.int ⟨8, true⟩ 5), .scalar (.complex .double 1 2)], v.IsProper) ∧
      Signature.check ⟨["i32", "f64"], []⟩ ([Value.scalar (.int ⟨8, true⟩ 5),
        .scalar (.complex .double 1 2)].map Value.plain) = .error (.notNumber 1 "f64") := by
  have hproper : ∀ v ∈ [Value.scalar (.int ⟨8, true⟩ 5), .scalar (.complex .double 1 2)],
      v.IsProper := by
    intro v hv
    simp only [List.mem_cons, List.not_mem_nil, or_false] at hv
    rcases hv with rfl | rfl
    · exact ⟨by decide, by decide⟩
    · trivial
  refine ⟨hproper, ?_⟩
  have hmeets : Signature.MeetsComplex ⟨["i32", "f64"], []⟩ [.scalar (.int ⟨8, true⟩ 5),
      .scalar (.complex .double 1 2)] 1 := by
    refine ⟨"f64", .double, 1, 2, ⟨rfl, rfl, rfl, fun j type v hj htype hv => ?_⟩, .f64⟩
    obtain rfl : j = 0 := by omega
    cases htype
    cases hv
    exact ⟨.int 5, .integer .i32 (.scalar _ 5) (by decide) (by decide)⟩
  rcases check_plain ⟨["i32", "f64"], []⟩ _ hproper with
    ⟨hnone, -⟩ | ⟨i, type, k, re, im, hreaches, -, hplain, -⟩
  · exact absurd hmeets (hnone 1)
  · -- the first argument is no complex scalar, and there are only two
    match i, hreaches.param, hreaches.arg, hplain with
    | 1, hparam, _, hplain =>
      cases hparam
      exact hplain

/-- A complex scalar is accepted for a floating-point parameter, and its imaginary part is dropped; the
complex number that it stands for is refused. -/
theorem drops_imaginary_part :
    Signature.check ⟨["f64"], []⟩ [.scalar (.complex .double 1 2)] = .ok [.float 1] ∧
      Signature.check ⟨["f64"], []⟩ ([.scalar (.complex .double 1 2)].map Value.plain) =
        .error (.notNumber 0 "f64") :=
  ⟨rfl, rfl⟩

end Signature

end WasmGauge
