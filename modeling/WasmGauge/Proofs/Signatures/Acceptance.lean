import Mathlib.Algebra.Ring.Int.Defs
import Mathlib.Data.Nat.Cast.Basic
import WasmGauge.Gauge.Signature

/-!
# Arguments that go with a signature

The check of arguments is described without the check: `Fits` says which argument goes with a parameter
and what is made of it, `Refused` says why one does not. Each argument does one or the other, so that the
two relations are what the check of one argument decides; and the check of all of them is the walk up to
the first one that is refused.

## Main statements

- `checkArgument_eq_ok_iff`, `checkArgument_eq_error_iff`: the check of one argument.
- `checkArguments_eq_ok_iff`, `checkArguments_eq_error_iff`: the check of all arguments.
- `Signature.check_exact`: the check of arguments against a signature, index by index.
-/

namespace WasmGauge

/-! ## §1 One argument -/

/-- A value is an integer, plain or of a fixed kind. Truth values are none. -/
inductive Value.IsInteger : Value → Int → Prop where
  | plain (n : Int) : IsInteger (.int n) n
  | scalar (k : IntKind) (n : Int) : IsInteger (.scalar (.int k n)) n

/-- The double that a number is made. Of a complex scalar the real part counts; plain complex numbers
and truth values are made none, and integers only if they are not too large. -/
inductive Value.HasDouble : Value → Float → Prop where
  | integer {v : Value} {n : Int} {x : Float} (hv : v.IsInteger n) (hx : Float.ofInt? n = some x) :
      HasDouble v x
  | plain (x : Float) : HasDouble (.float x) x
  | scalar (k : FloatKind) (x : Float) : HasDouble (.scalar (.float k x)) x
  | complex (k : ComplexKind) (re im : Float) : HasDouble (.scalar (.complex k re im)) re

/-- Whether a value is a number: an integer, a floating-point number, or a scalar of these kinds or of a
complex one. -/
def Value.IsNumber : Value → Prop
  | .int _ | .float _ | .scalar (.int _ _) | .scalar (.float _ _) | .scalar (.complex _ _ _) => True
  | _ => False

/-- The types of integers with their widths. -/
inductive IntegerType : String → Nat → Prop where
  | i32 : IntegerType "i32" 32
  | i64 : IntegerType "i64" 64

/-- The types of floating-point numbers. -/
inductive FloatingType : String → Prop where
  | f32 : FloatingType "f32"
  | f64 : FloatingType "f64"

/-- An argument goes with a parameter of a type, and this is made of it. -/
inductive Fits : String → Value → Value → Prop where
  | integer {type : String} {width : Nat} {v : Value} {n : Int} (htype : IntegerType type width)
      (hv : v.IsInteger n) (hleast : -2 ^ (width - 1) ≤ n) (hgreatest : n ≤ 2 ^ (width - 1) - 1) :
      Fits type v (.int n)
  | number {type : String} {v : Value} {x : Float} (htype : FloatingType type)
      (hv : v.HasDouble x) : Fits type v (.float x)

/-- An argument with an index does not go with a parameter of a type, for this reason. -/
inductive Refused (index : Nat) : String → Value → ArgumentFault → Prop where
  /-- No argument does. -/
  | unsupported {type : String} (v : Value) (hinteger : ∀ width, ¬ IntegerType type width)
      (hfloating : ¬ FloatingType type) : Refused index type v (.unsupported type)
  | notInteger {type : String} {width : Nat} {v : Value} (htype : IntegerType type width)
      (hv : ∀ n, ¬ v.IsInteger n) : Refused index type v (.notInteger index type)
  | outOfRange {type : String} {width : Nat} {v : Value} {n : Int} {shown : String}
      (htype : IntegerType type width) (hv : v.IsInteger n)
      (hrange : n < -2 ^ (width - 1) ∨ 2 ^ (width - 1) - 1 < n) (hshown : v.plainText = .ok shown) :
      Refused index type v (.outOfRange index shown type)
  /-- An integer is out of range, and cannot be shown. -/
  | unshown {type : String} {width : Nat} {v : Value} {n : Int} {fault : Fault}
      (htype : IntegerType type width) (hv : v.IsInteger n)
      (hrange : n < -2 ^ (width - 1) ∨ 2 ^ (width - 1) - 1 < n) (hshown : v.plainText = .error fault) :
      Refused index type v (.value fault)
  | notNumber {type : String} {v : Value} (htype : FloatingType type) (hv : ¬ v.IsNumber) :
      Refused index type v (.notNumber index type)
  /-- An integer is too large for a double. -/
  | tooLarge {type : String} {v : Value} {n : Int} (htype : FloatingType type) (hv : v.IsInteger n)
      (hx : Float.ofInt? n = none) : Refused index type v (.value .floatRange)

variable {index : Nat} {type : String} {types : List String} {v c : Value} {vs cs : List Value}
  {fault : ArgumentFault}

theorem integer?_eq_some_iff {n : Int} : v.integer? = some n ↔ v.IsInteger n := by
  constructor
  · intro h
    unfold Value.integer? at h
    split at h
    · cases h
      exact .plain n
    · cases h
      exact .scalar _ n
    · cases h
  · intro h
    cases h <;> rfl

theorem integer?_eq_none_iff : v.integer? = none ↔ ∀ n, ¬ v.IsInteger n := by
  simp only [← integer?_eq_some_iff, Option.eq_none_iff_forall_ne_some, ne_eq]

theorem floating?_of_isInteger {n : Int} (h : v.IsInteger n) :
    v.floating? = some (match Float.ofInt? n with
      | some x => .ok x
      | none => .error .floatRange) := by
  cases h <;> rfl

theorem Value.HasDouble.floating? {x : Float} (h : v.HasDouble x) : v.floating? = some (.ok x) := by
  cases h with
  | integer hv hx => rw [floating?_of_isInteger hv, hx]
  | plain | scalar | complex => rfl

/-- Numbers are made doubles, unless they are integers that are too large. -/
theorem exists_double_of_isNumber (h : v.IsNumber) :
    (∃ x, v.HasDouble x) ∨ ∃ n, v.IsInteger n ∧ Float.ofInt? n = none := by
  have hinteger : ∀ {v n}, Value.IsInteger v n →
      (∃ x, v.HasDouble x) ∨ ∃ n, v.IsInteger n ∧ Float.ofInt? n = none := by
    intro v n hv
    cases hx : Float.ofInt? n with
    | some x => exact .inl ⟨x, .integer hv hx⟩
    | none => exact .inr ⟨n, hv, hx⟩
  unfold Value.IsNumber at h
  split at h
  · exact hinteger (.plain _)
  · exact .inl ⟨_, .plain _⟩
  · exact hinteger (.scalar _ _)
  · exact .inl ⟨_, .scalar _ _⟩
  · exact .inl ⟨_, .complex _ _ _⟩
  · exact h.elim

theorem floating?_of_not_isNumber (h : ¬ v.IsNumber) : v.floating? = none := by
  cases v with
  | none | bool | complex | str | list | tuple => rfl
  | int | float => exact absurd trivial h
  | scalar s =>
    cases s with
    | bool => rfl
    | int | float | complex => exact absurd trivial h

theorem IntegerType.ofName? {width : Nat} (h : IntegerType type width) :
    ParameterKind.ofName? type = some (.integer ⟨width, true⟩) := by
  cases h <;> rfl

theorem FloatingType.ofName? (h : FloatingType type) :
    ParameterKind.ofName? type = some .number := by
  cases h <;> rfl

theorem type_cases (type : String) : (∃ width, IntegerType type width) ∨ FloatingType type ∨
    ((∀ width, ¬ IntegerType type width) ∧ ¬ FloatingType type) := by
  by_cases hinteger : ∃ width, IntegerType type width
  · exact .inl hinteger
  · by_cases hfloating : FloatingType type
    · exact .inr (.inl hfloating)
    · exact .inr (.inr ⟨not_exists.1 hinteger, hfloating⟩)

theorem ofName?_eq_none (hinteger : ∀ width, ¬ IntegerType type width) (hfloating : ¬ FloatingType type) :
    ParameterKind.ofName? type = none := by
  unfold ParameterKind.ofName?
  split
  · exact absurd .i32 (hinteger 32)
  · exact absurd .i64 (hinteger 64)
  · exact absurd .f32 hfloating
  · exact absurd .f64 hfloating
  · rfl

theorem holds_iff {width : Nat} {n : Int} : IntKind.holds ⟨width, true⟩ n = true ↔
    -2 ^ (width - 1) ≤ n ∧ n ≤ 2 ^ (width - 1) - 1 := by
  have hcast : ((twoPow (width - 1) : Nat) : Int) = 2 ^ (width - 1) := by
    show ((2 ^ (width - 1) : Nat) : Int) = 2 ^ (width - 1)
    push_cast
    rfl
  simp only [IntKind.holds, IntKind.least, IntKind.greatest, if_true, hcast, Bool.and_eq_true,
    decide_eq_true_eq]

theorem Fits.check (h : Fits type v c) : checkArgument index type v = .ok c := by
  unfold checkArgument
  cases h with
  | integer htype hv hleast hgreatest =>
    simp only [htype.ofName?, integer?_eq_some_iff.2 hv, holds_iff.2 ⟨hleast, hgreatest⟩, if_true]
  | number htype hv => simp only [htype.ofName?, hv.floating?]

theorem not_holds {width : Nat} {n : Int} (h : n < -2 ^ (width - 1) ∨ 2 ^ (width - 1) - 1 < n) :
    ¬ IntKind.holds ⟨width, true⟩ n = true := by
  rw [holds_iff]
  omega

theorem Refused.check (h : Refused index type v fault) :
    checkArgument index type v = .error fault := by
  unfold checkArgument
  cases h with
  | unsupported _ hinteger hfloating => simp only [ofName?_eq_none hinteger hfloating]
  | notInteger htype hv => simp only [htype.ofName?, integer?_eq_none_iff.2 hv]
  | outOfRange htype hv hrange hshown =>
    simp only [htype.ofName?, integer?_eq_some_iff.2 hv]
    rw [if_neg (not_holds hrange), hshown]
  | unshown htype hv hrange hshown =>
    simp only [htype.ofName?, integer?_eq_some_iff.2 hv]
    rw [if_neg (not_holds hrange), hshown]
  | notNumber htype hv => simp only [htype.ofName?, floating?_of_not_isNumber hv]
  | tooLarge htype hv hx => simp only [htype.ofName?, floating?_of_isInteger hv, hx]

/-- An argument goes with a parameter, or there is a reason why it does not. -/
theorem fits_or_refused (index : Nat) (type : String) (v : Value) :
    (∃ c, Fits type v c) ∨ ∃ fault, Refused index type v fault := by
  rcases type_cases type with ⟨width, htype⟩ | htype | ⟨hinteger, hfloating⟩
  · by_cases hv : ∃ n, v.IsInteger n
    · obtain ⟨n, hv⟩ := hv
      by_cases hrange : -2 ^ (width - 1) ≤ n ∧ n ≤ 2 ^ (width - 1) - 1
      · exact .inl ⟨.int n, .integer htype hv hrange.1 hrange.2⟩
      · have hbeyond : n < -2 ^ (width - 1) ∨ 2 ^ (width - 1) - 1 < n := by omega
        cases hshown : v.plainText with
        | ok shown => exact .inr ⟨_, .outOfRange htype hv hbeyond hshown⟩
        | error fault => exact .inr ⟨_, .unshown htype hv hbeyond hshown⟩
    · exact .inr ⟨_, .notInteger htype (not_exists.1 hv)⟩
  · by_cases hv : v.IsNumber
    · rcases exists_double_of_isNumber hv with ⟨x, hx⟩ | ⟨n, hn, hx⟩
      · exact .inl ⟨.float x, .number htype hx⟩
      · exact .inr ⟨_, .tooLarge htype hn hx⟩
    · exact .inr ⟨_, .notNumber htype hv⟩
  · exact .inr ⟨_, .unsupported v hinteger hfloating⟩

theorem checkArgument_eq_ok_iff : checkArgument index type v = .ok c ↔ Fits type v c := by
  constructor
  · intro h
    -- either relation fixes what the check comes to, and one of them holds
    rcases fits_or_refused index type v with ⟨c', hfits⟩ | ⟨fault, hrefused⟩
    · obtain rfl : c' = c := Except.ok.inj (hfits.check.symm.trans h)
      exact hfits
    · rw [hrefused.check] at h
      cases h
  · exact Fits.check

theorem checkArgument_eq_error_iff :
    checkArgument index type v = .error fault ↔ Refused index type v fault := by
  constructor
  · intro h
    rcases fits_or_refused index type v with ⟨c, hfits⟩ | ⟨fault', hrefused⟩
    · rw [hfits.check] at h
      cases h
    · obtain rfl : fault' = fault := Except.error.inj (hrefused.check.symm.trans h)
      exact hrefused
  · exact Refused.check

theorem Refused.not_fits (h : Refused index type v fault) (c : Value) : ¬ Fits type v c := by
  intro hfits
  cases hfits.check.symm.trans h.check

theorem Fits.unique {c' : Value} (h : Fits type v c) (h' : Fits type v c') : c = c' := by
  have hcheck : checkArgument 0 type v = .ok c := h.check
  exact Except.ok.inj (hcheck.symm.trans h'.check)

theorem Fits.of_integer {kind : IntKind} (h : Fits type v c)
    (hkind : ParameterKind.ofName? type = some (.integer kind)) :
    ∃ n, v.integer? = some n ∧ kind.holds n = true ∧ c = .int n := by
  cases h with
  | integer htype hv hleast hgreatest =>
    rw [htype.ofName?] at hkind
    cases hkind
    exact ⟨_, integer?_eq_some_iff.2 hv, holds_iff.2 ⟨hleast, hgreatest⟩, rfl⟩
  | number htype =>
    rw [htype.ofName?] at hkind
    cases hkind

theorem Fits.of_number (h : Fits type v c) (hkind : ParameterKind.ofName? type = some .number) :
    ∃ x, v.floating? = some (.ok x) ∧ c = .float x := by
  cases h with
  | integer htype =>
    rw [htype.ofName?] at hkind
    cases hkind
  | number htype hv => exact ⟨_, hv.floating?, rfl⟩

theorem Fits.not_unsupported (h : Fits type v c) : ParameterKind.ofName? type ≠ none := by
  cases h with
  | integer htype => simp [htype.ofName?]
  | number htype => simp [htype.ofName?]

/-- What is made of an argument goes with the parameter as it is. -/
theorem Fits.again (h : Fits type v c) : Fits type c c := by
  cases h with
  | integer htype hv hleast hgreatest => exact .integer htype (.plain _) hleast hgreatest
  | number htype hv => exact .number htype (.plain _)

/-! ## §2 All arguments -/

/-- Arguments go with parameters, one by one. -/
inductive FitAll : List String → List Value → List Value → Prop where
  | nil : FitAll [] [] []
  | cons {type : String} {types : List String} {v c : Value} {vs cs : List Value}
      (first : Fits type v c) (rest : FitAll types vs cs) :
      FitAll (type :: types) (v :: vs) (c :: cs)

/-- An argument is refused, and those before it are not. The index is that of the first one. -/
inductive RefusedFirst : Nat → List String → List Value → ArgumentFault → Prop where
  | here {index : Nat} {type : String} {types : List String} {v : Value} {vs : List Value}
      {fault : ArgumentFault} (refused : Refused index type v fault) :
      RefusedFirst index (type :: types) (v :: vs) fault
  | later {index : Nat} {type : String} {types : List String} {v c : Value} {vs : List Value}
      {fault : ArgumentFault} (first : Fits type v c) (rest : RefusedFirst (index + 1) types vs fault) :
      RefusedFirst index (type :: types) (v :: vs) fault

theorem FitAll.check (h : FitAll types vs cs) : checkArguments index types vs = .ok cs := by
  -- on the arguments, with the index that the check counts
  induction h generalizing index with
  | nil => rfl
  | cons first _ ih =>
    rw [checkArguments, first.check, ih]
    rfl

theorem RefusedFirst.check (h : RefusedFirst index types vs fault) :
    checkArguments index types vs = .error fault := by
  induction h with
  | here refused =>
    rw [checkArguments, refused.check]
    rfl
  | later first _ ih =>
    rw [checkArguments, first.check, ih]
    rfl

theorem fitAll_or_refusedFirst (index : Nat) (types : List String) (vs : List Value)
    (hcount : vs.length = types.length) :
    (∃ cs, FitAll types vs cs) ∨ ∃ fault, RefusedFirst index types vs fault := by
  -- on the types, of which there are as many as arguments
  induction types generalizing index vs with
  | nil =>
    obtain rfl := List.eq_nil_of_length_eq_zero hcount
    exact .inl ⟨[], .nil⟩
  | cons type types ih =>
    cases vs with
    | nil => cases hcount
    | cons v vs =>
      -- the walk stops here, or goes on with the next index
      rcases fits_or_refused index type v with ⟨c, hfits⟩ | ⟨fault, hrefused⟩
      · rcases ih (index + 1) vs (Nat.succ.inj hcount) with ⟨cs, hall⟩ | ⟨fault, hlater⟩
        · exact .inl ⟨c :: cs, .cons hfits hall⟩
        · exact .inr ⟨fault, .later hfits hlater⟩
      · exact .inr ⟨fault, .here hrefused⟩

theorem checkArguments_eq_ok_iff (hcount : vs.length = types.length) :
    checkArguments index types vs = .ok cs ↔ FitAll types vs cs := by
  constructor
  · intro h
    rcases fitAll_or_refusedFirst index types vs hcount with ⟨cs', hall⟩ | ⟨fault, hrefused⟩
    · obtain rfl : cs' = cs := Except.ok.inj (hall.check.symm.trans h)
      exact hall
    · rw [hrefused.check] at h
      cases h
  · exact FitAll.check

theorem checkArguments_eq_error_iff (hcount : vs.length = types.length) :
    checkArguments index types vs = .error fault ↔ RefusedFirst index types vs fault := by
  constructor
  · intro h
    rcases fitAll_or_refusedFirst index types vs hcount with ⟨cs, hall⟩ | ⟨fault', hrefused⟩
    · rw [hall.check] at h
      cases h
    · obtain rfl : fault' = fault := Except.error.inj (hrefused.check.symm.trans h)
      exact hrefused
  · exact RefusedFirst.check

theorem FitAll.again (h : FitAll types vs cs) : FitAll types cs cs := by
  induction h with
  | nil => exact .nil
  | cons first _ ih => exact .cons first.again ih

/-! ## §3 Indices -/

/-- Arguments go with a signature, and this is made of them. -/
structure Signature.Accepts (s : Signature) (args checked : List Value) : Prop where
  given : args.length = s.params.length
  made : checked.length = s.params.length
  each (i : Nat) (type : String) (v c : Value) : s.params[i]? = some type → args[i]? = some v →
    checked[i]? = some c → Fits type v c

/-- The check of arguments gets as far as the one with an index: there are as many as parameters, and
those before it go with theirs. -/
structure Signature.Reaches (s : Signature) (args : List Value) (i : Nat) (type : String) (v : Value) :
    Prop where
  given : args.length = s.params.length
  param : s.params[i]? = some type
  arg : args[i]? = some v
  before (j : Nat) (type : String) (v : Value) : j < i → s.params[j]? = some type →
    args[j]? = some v → ∃ c, Fits type v c

theorem fitAll_iff : FitAll types vs cs ↔ Signature.Accepts ⟨types, []⟩ vs cs := by
  constructor
  · intro h
    induction h with
    | nil => exact ⟨rfl, rfl, fun i type v c htype => nomatch htype⟩
    | cons first _ ih =>
      refine ⟨congrArg (· + 1) ih.given, congrArg (· + 1) ih.made, fun i type v c htype hv hc => ?_⟩
      cases i with
      | zero =>
        cases htype
        cases hv
        cases hc
        exact first
      | succ i => exact ih.each i type v c htype hv hc
  · rintro ⟨hgiven, hmade, heach⟩
    induction types generalizing vs cs with
    | nil =>
      obtain rfl := List.eq_nil_of_length_eq_zero hgiven
      obtain rfl := List.eq_nil_of_length_eq_zero hmade
      exact .nil
    | cons type types ih =>
      cases vs with
      | nil => cases hgiven
      | cons v vs =>
        cases cs with
        | nil => cases hmade
        | cons c cs =>
          refine .cons (heach 0 type v c rfl rfl rfl) ?_
          exact ih (Nat.succ.inj hgiven) (Nat.succ.inj hmade) fun i => heach (i + 1)

theorem refusedFirst_iff : RefusedFirst index types vs fault ↔
    ∃ i type v, types[i]? = some type ∧ vs[i]? = some v ∧ Refused (index + i) type v fault ∧
      ∀ j type v, j < i → types[j]? = some type → vs[j]? = some v → ∃ c, Fits type v c := by
  constructor
  · intro h
    -- the walk counts upwards from `index`, and `i` is how far it gets from there
    induction h with
    | @here index type types v vs fault refused =>
      exact ⟨0, type, v, rfl, rfl, refused, fun j _ _ hj => absurd hj (Nat.not_lt_zero j)⟩
    | later first _ ih =>
      obtain ⟨i, type, v, htype, hv, hrefused, hbefore⟩ := ih
      refine ⟨i + 1, type, v, htype, hv, ?_, fun j type v hj htype hv => ?_⟩
      · rwa [Nat.add_right_comm] at hrefused
      · cases j with
        | zero =>
          cases htype
          cases hv
          exact ⟨_, first⟩
        | succ j => exact hbefore j type v (Nat.lt_of_succ_lt_succ hj) htype hv
  · rintro ⟨i, type, v, htype, hv, hrefused, hbefore⟩
    induction i generalizing index types vs with
    | zero =>
      obtain ⟨types, rfl⟩ := List.head?_eq_some_iff.1 (List.head?_eq_getElem? ▸ htype)
      obtain ⟨vs, rfl⟩ := List.head?_eq_some_iff.1 (List.head?_eq_getElem? ▸ hv)
      exact .here hrefused
    | succ i ih =>
      cases types with
      | nil => cases htype
      | cons type₀ types =>
        cases vs with
        | nil => cases hv
        | cons v₀ vs =>
          obtain ⟨c, hfirst⟩ := hbefore 0 type₀ v₀ (Nat.succ_pos i) rfl rfl
          refine .later hfirst (ih htype hv ?_ fun j type v hj => ?_)
          · rwa [Nat.add_right_comm]
          · exact hbefore (j + 1) type v (Nat.succ_lt_succ hj)

namespace Signature

variable {s : Signature} {args checked : List Value}

theorem check_of_count (h : args.length ≠ s.params.length) :
    s.check args = .error (.count s.params.length args.length) := by
  unfold check
  rw [if_pos (by simpa using h)]

theorem check_of_given (h : args.length = s.params.length) :
    s.check args = checkArguments 0 s.params args := by
  unfold check
  rw [if_neg (by simpa using h)]

theorem check_eq_ok_iff : s.check args = .ok checked ↔ s.Accepts args checked := by
  -- the count comes first, and only then each argument
  by_cases hgiven : args.length = s.params.length
  · rw [check_of_given hgiven, checkArguments_eq_ok_iff hgiven, fitAll_iff]
    exact ⟨fun h => ⟨h.given, h.made, h.each⟩, fun h => ⟨h.given, h.made, h.each⟩⟩
  · rw [check_of_count hgiven]
    constructor
    · intro h
      cases h
    · intro h
      exact absurd h.given hgiven

theorem check_eq_error_iff {fault : ArgumentFault} : s.check args = .error fault ↔
    (args.length ≠ s.params.length ∧ fault = .count s.params.length args.length) ∨
      ∃ i type v, s.Reaches args i type v ∧ Refused i type v fault := by
  by_cases hgiven : args.length = s.params.length
  · rw [check_of_given hgiven, checkArguments_eq_error_iff hgiven, refusedFirst_iff]
    constructor
    · rintro ⟨i, type, v, htype, hv, hrefused, hbefore⟩
      rw [Nat.zero_add] at hrefused
      exact .inr ⟨i, type, v, ⟨hgiven, htype, hv, hbefore⟩, hrefused⟩
    · rintro (⟨hcount, -⟩ | ⟨i, type, v, hreaches, hrefused⟩)
      · exact absurd hgiven hcount
      · rw [← Nat.zero_add i] at hrefused
        exact ⟨i, type, v, hreaches.param, hreaches.arg, hrefused, hreaches.before⟩
  · rw [check_of_count hgiven, Except.error.injEq]
    constructor
    · intro h
      exact .inl ⟨hgiven, h.symm⟩
    · rintro (⟨-, hfault⟩ | ⟨i, type, v, hreaches, -⟩)
      · exact hfault.symm
      · exact absurd hreaches.given hgiven

theorem Accepts.again (h : s.Accepts args checked) : s.Accepts checked checked := by
  -- by way of the lists, where this is an induction
  have hall : FitAll s.params args checked := fitAll_iff.2 ⟨h.given, h.made, h.each⟩
  obtain ⟨hgiven, hmade, heach⟩ := fitAll_iff.1 hall.again
  exact ⟨hgiven, hmade, heach⟩

theorem Accepts.fits (h : s.Accepts args checked) {i : Nat} {type : String} {v : Value}
    (htype : s.params[i]? = some type) (hv : args[i]? = some v) :
    ∃ c, checked[i]? = some c ∧ Fits type v c := by
  have hi : i < checked.length := h.made ▸ (List.getElem?_eq_some_iff.1 htype).1
  have hc : checked[i]? = some checked[i] := List.getElem?_eq_getElem hi
  exact ⟨_, hc, h.each i type v _ htype hv hc⟩

theorem Accepts.reaches (h : s.Accepts args checked) {i : Nat} {type : String} {v : Value}
    (htype : s.params[i]? = some type) (hv : args[i]? = some v) : s.Reaches args i type v := by
  refine ⟨h.given, htype, hv, fun j type v _ htype hv => ?_⟩
  obtain ⟨c, -, hfits⟩ := h.fits htype hv
  exact ⟨c, hfits⟩

theorem Reaches.of_lt {i j : Nat} {type type' : String} {v v' : Value} (h : s.Reaches args i type v)
    (hj : j < i) (htype : s.params[j]? = some type') (hv : args[j]? = some v') :
    s.Reaches args j type' v' :=
  ⟨h.given, htype, hv, fun k type v hk => h.before k type v (Nat.lt_trans hk hj)⟩

/-- Arguments are accepted exactly if there is one for each parameter and each goes with its parameter.
What is made of them is accepted again, and not changed. If they are not accepted, the count of them is
wrong, or the fault is that of the first one that does not go with its parameter. -/
theorem check_exact (s : Signature) (args : List Value) :
    (∀ checked, s.check args = .ok checked ↔ s.Accepts args checked) ∧
    ((∃ checked, s.check args = .ok checked) ↔ args.length = s.params.length ∧
      ∀ (i : Nat) (type : String) (v : Value), s.params[i]? = some type → args[i]? = some v →
        ∃ c, Fits type v c) ∧
    (∀ checked, s.check args = .ok checked → s.check checked = .ok checked) ∧
    (∀ fault, s.check args = .error fault ↔
      (args.length ≠ s.params.length ∧ fault = .count s.params.length args.length) ∨
        ∃ i type v, s.Reaches args i type v ∧ (∀ c, ¬ Fits type v c) ∧ Refused i type v fault) := by
  refine ⟨fun checked => check_eq_ok_iff, ⟨?_, ?_⟩, fun checked h => ?_, fun fault => ?_⟩
  · rintro ⟨checked, h⟩
    have haccepts := check_eq_ok_iff.1 h
    refine ⟨haccepts.given, fun i type v htype hv => ?_⟩
    obtain ⟨c, -, hfits⟩ := haccepts.fits htype hv
    exact ⟨c, hfits⟩
  · rintro ⟨hgiven, heach⟩
    cases hcheck : s.check args with
    | ok checked => exact ⟨checked, rfl⟩
    | error fault =>
      -- the argument that is refused is none that goes with its parameter
      rcases check_eq_error_iff.1 hcheck with ⟨hcount, -⟩ | ⟨i, type, v, hreaches, hrefused⟩
      · exact absurd hgiven hcount
      · obtain ⟨c, hfits⟩ := heach i type v hreaches.param hreaches.arg
        exact absurd hfits (hrefused.not_fits c)
  · exact check_eq_ok_iff.2 (check_eq_ok_iff.1 h).again
  · rw [check_eq_error_iff]
    refine or_congr_right ⟨?_, ?_⟩
    · rintro ⟨i, type, v, hreaches, hrefused⟩
      exact ⟨i, type, v, hreaches, hrefused.not_fits, hrefused⟩
    · rintro ⟨i, type, v, hreaches, -, hrefused⟩
      exact ⟨i, type, v, hreaches, hrefused⟩

end Signature

end WasmGauge
