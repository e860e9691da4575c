import WasmGauge.Proofs.Handles.Instantiation
import WasmGauge.Proofs.Number.Kinds
import WasmGauge.Proofs.Signatures.Acceptance

/-!
# Arguments at the boundary

Two descriptions of the exported functions have to agree: the table of names with signatures, in which
a function is looked up and against which its arguments are checked, and the instance itself, which is
called. They do because a valid module gives every name out once. And the check leaves nothing for the
conversion to refuse or to change: what it accepts is converted, and an integer that it accepts is
received as it is.

## Main statements

- `Handle.lookup_eq`: looking a name up finds the type of the function that a call enters.
- `Taken.exact`: an accepted integer is received as it is.
- `Handle.accept_cases`: arguments are refused, for one of two reasons, or taken over.
-/

namespace WasmGauge

open Wasm (Val ValueType FuncType Export Instance)

/-! ## §1 Names -/

theorem Wasm.Validation.nodup_of_distinct {names : List String}
    (h : Wasm.Validation.distinct names = true) : names.Nodup := by
  induction names with
  | nil => exact List.nodup_nil
  | cons name rest ih =>
    unfold Wasm.Validation.distinct at h
    simp only [Bool.and_eq_true, Bool.not_eq_true', List.contains_eq_mem, decide_eq_false_iff_not] at h
    exact List.nodup_cons.2 ⟨h.1, ih h.2⟩

theorem Wasm.ValidModule.nodup_exports (v : Wasm.ValidModule) :
    (v.module.exports.map (·.name)).Nodup := by
  apply Wasm.Validation.nodup_of_distinct
  have hvalid := v.valid
  unfold Wasm.Validation.isValid at hvalid
  cases hc : Wasm.Validation.context? v.module with
  | none => simp [hc] at hvalid
  | some c =>
    simp only [hc, Bool.and_eq_true] at hvalid
    -- the names are the fourth condition from the end
    exact hvalid.1.1.1.1.2

/-- An instance has the code of its module and gives out what the module says. -/
theorem Wasm.ValidModule.eq_of_instantiate {v : Wasm.ValidModule} {bounds : Wasm.Bounds}
    {i : Instance} (h : v.instantiate bounds = .ok i) :
    i = ⟨v.program, v.module.exports, i.store⟩ := by
  unfold Wasm.ValidModule.instantiate at h
  -- there is a store to begin with, and the start function comes to an end
  cases hinitial : v.initialStore with
  | error t => simp [hinitial, Except.mapError, bind, Except.bind] at h
  | ok s =>
    cases hstart : v.program.start bounds s v.module.starts.head? with
    | error unready => simp [hinitial, hstart, Except.mapError, bind, Except.bind] at h
    | ok s' =>
      simp only [hinitial, hstart, Except.mapError, bind, Except.bind, Except.ok.injEq] at h
      rw [← h]

theorem Wasm.ValidModule.exports_of_instantiate {v : Wasm.ValidModule} {bounds : Wasm.Bounds}
    {i : Instance} (h : v.instantiate bounds = .ok i) : i.exports = v.module.exports := by
  rw [eq_of_instantiate h]

def Wasm.Instance.Named (i : Instance) : Prop := (i.exports.map (·.name)).Nodup

theorem Executable.instantiate_of_instance? {x : Executable} {bounds : Wasm.Bounds} {i : Instance}
    (h : x.instance? bounds = .ok i) : x.compiled.artifact.code.instantiate bounds = .ok i := by
  unfold Executable.instance? at h
  dsimp only at h
  -- what is needed is asked about first, then the engine
  by_cases himports : (!x.compiled.importNames.isEmpty) = true
  · rw [if_pos himports] at h
    cases h
  · rw [if_neg himports] at h
    by_cases hengine : x.compiled.engine ≠ x.engine
    · rw [if_pos hengine] at h
      cases h
    · rw [if_neg hengine] at h
      cases hmade : x.compiled.artifact.code.instantiate bounds with
      | error t =>
        rw [hmade] at h
        cases h
      | ok j =>
        rw [hmade] at h
        cases h
        rfl

/-- Handles are made of instances that give every name out once. -/
theorem Handle.named_of_instantiate {x : Executable} {w w' : World} {h : Handle}
    (hmade : x.instantiate.outcome w = (.ok h, w')) : h.start.Named := by
  have hstart := Executable.instantiate_of_instance? (Executable.birth_of_instantiate hmade).1.start
  show (h.start.exports.map (·.name)).Nodup
  rw [Wasm.ValidModule.exports_of_instantiate hstart]
  exact x.compiled.artifact.code.nodup_exports

section Names

variable {i : Instance} {name : String}

/-- The name and the type under which an instance gives out a function. -/
def Wasm.Instance.given? (i : Instance) (e : Export) : Option (String × FuncType) :=
  match e.kind with
  | .func => (i.program.funcs[e.index]?).map fun f => (e.name, f.type)
  | _ => none

theorem Wasm.Instance.name_of_given? {e : Export} {n : String} {type : FuncType}
    (h : i.given? e = some (n, type)) : n = e.name := by
  unfold Wasm.Instance.given? at h
  cases hkind : e.kind <;> simp only [hkind] at h <;> try cases h
  obtain ⟨f, -, hf⟩ := Option.map_eq_some_iff.1 h
  exact (congrArg Prod.fst hf).symm

/-- A name that is not among the names of exports is none under which a function is given out. -/
theorem Wasm.Instance.lookup_given_of_not_mem {es : List Export}
    (h : name ∉ es.map (·.name)) : (es.filterMap i.given?).lookup name = none := by
  refine List.lookup_eq_none_iff.2 fun x hx => bne_iff_ne.2 fun heq => h ?_
  obtain ⟨e, he, hgiven⟩ := List.mem_filterMap.1 hx
  obtain ⟨n, type⟩ := x
  rw [heq, Wasm.Instance.name_of_given? hgiven]
  exact List.mem_map_of_mem he

/-- Among names of their own, the first export with a name decides under which type the name is
looked up. -/
theorem Wasm.Instance.lookup_given {es : List Export} (h : (es.map (·.name)).Nodup) :
    (es.filterMap i.given?).lookup name =
      ((es.find? (·.name == name)).bind i.given?).map (·.2) := by
  induction es with
  | nil => rfl
  | cons e rest ih =>
    rw [List.map_cons, List.nodup_cons] at h
    rw [List.filterMap_cons, List.find?_cons]
    by_cases hname : e.name = name
    · -- no later export has the name
      have hrest := Wasm.Instance.lookup_given_of_not_mem (i := i) (hname ▸ h.1)
      simp only [hname, beq_self_eq_true]
      cases hgiven : i.given? e with
      | none => simpa [hgiven] using hrest
      | some x =>
        obtain ⟨n, type⟩ := x
        obtain rfl := Wasm.Instance.name_of_given? hgiven
        simp [hgiven, hname]
    · have hne : (e.name == name) = false := by simpa using hname
      simp only [hne]
      cases hgiven : i.given? e with
      | none => exact ih h.2
      | some x =>
        obtain ⟨n, type⟩ := x
        obtain rfl := Wasm.Instance.name_of_given? hgiven
        have hne' : (name == e.name) = false := by simpa using fun heq : name = e.name => hname heq.symm
        simp only [List.lookup_cons, hne']
        exact ih h.2

/-- The table of functions has the type of the function that a call of the name enters. -/
theorem Wasm.Instance.lookup_functions (h : i.Named) (name : String) :
    i.functions.lookup name = (i.function? name).map (·.2) := by
  have hgiven : i.functions = i.exports.filterMap i.given? := rfl
  rw [hgiven, Wasm.Instance.lookup_given h]
  unfold Wasm.Instance.function?
  cases i.exports.find? (·.name == name) with
  | none => rfl
  | some e =>
    obtain ⟨n, kind, index⟩ := e
    -- an export that is no function is not in the table, and no call enters it
    cases kind with
    | func => simp only [Option.bind_some, Wasm.Instance.given?, Option.map_map]; rfl
    | table => rfl
    | memory => rfl
    | global => rfl

end Names

/-- Looking a name up finds the signature of the function that a call enters, or nothing if it
enters none. -/
theorem Handle.lookup_eq {h : Handle} (hnamed : h.start.Named) (name : String) :
    h.exports.lookup name = (h.start.function? name).map fun f => Signature.ofType f.2 := by
  have hmap : ∀ l : List (String × FuncType),
      (l.map fun f => (f.1, Signature.ofType f.2)).lookup name =
        (l.lookup name).map Signature.ofType := by
    intro l
    -- on the table, which is looked through in the same order before and after
    induction l with
    | nil => rfl
    | cons f rest ih =>
      obtain ⟨n, type⟩ := f
      simp only [List.map_cons, List.lookup_cons]
      cases name == n with
      | true => rfl
      | false => exact ih
  show (h.start.functions.map fun f => (f.1, Signature.ofType f.2)).lookup name = _
  rw [hmap, Wasm.Instance.lookup_functions hnamed, Option.map_map]
  rfl

/-! ## §2 Arguments -/

/-- How one argument is taken over by a parameter of a type: what is given, what the check makes of it,
and the value that the function receives. -/
inductive Taken : ValueType → Value → Value → Val → Prop where
  | i32 {v : Value} {n : Int} (hv : v.integer? = some n)
      (hholds : IntKind.holds ⟨32, true⟩ n = true) :
      Taken .i32 v (.int n) (.i32 (n % twoPow 32).toNat.toUInt32)
  | i64 {v : Value} {n : Int} (hv : v.integer? = some n)
      (hholds : IntKind.holds ⟨64, true⟩ n = true) :
      Taken .i64 v (.int n) (.i64 (n % twoPow 64).toNat.toUInt64)
  | f32 {v : Value} {x : Float} (hv : v.floating? = some (.ok x)) :
      Taken .f32 v (.float x) (.f32 (Wasm.Numeric.demote x.toBits))
  | f64 {v : Value} {x : Float} (hv : v.floating? = some (.ok x)) :
      Taken .f64 v (.float x) (.f64 x.toBits)

/-- How all arguments are taken over, one for each parameter. -/
inductive TakenAll : List ValueType → List Value → List Value → List Val → Prop where
  | nil : TakenAll [] [] [] []
  | cons {type : ValueType} {types : List ValueType} {v c : Value} {vs cs : List Value} {x : Val}
      {xs : List Val} (first : Taken type v c x) (rest : TakenAll types vs cs xs) :
      TakenAll (type :: types) (v :: vs) (c :: cs) (x :: xs)

section Conversion

variable {type : ValueType} {types : List ValueType} {v c : Value} {vs cs : List Value} {x : Val}
  {xs : List Val}

theorem bmod_of_holds {k : Nat} {n : Int} (h : IntKind.holds ⟨k + 1, true⟩ n = true) :
    (n % twoPow (k + 1)).bmod (twoPow (k + 1)) = n := by
  rw [Int.emod_bmod]
  exact IntKind.wrap_of_holds (Nat.succ_pos k) h

theorem natCast_toNat_emod (n : Int) {size : Nat} (hsize : 0 < size) :
    (((n % size).toNat % size : Nat) : Int) = n % size := by
  have hnonneg : 0 ≤ n % size := Int.emod_nonneg n (by omega)
  have hlt : n % size < size := Int.emod_lt_of_pos n (by omega)
  rw [Nat.mod_eq_of_lt (by omega), Int.toNat_of_nonneg hnonneg]

/-- An accepted integer is received as it is: reading the value back gives the same integer. -/
theorem Taken.exact (h : Taken type v c x) (htype : type = .i32 ∨ type = .i64) :
    ∃ n, v.integer? = some n ∧ c = .int n ∧ x.toValue = .int n := by
  cases h with
  | @i32 _ n hv hholds =>
    refine ⟨n, hv, rfl, congrArg Value.int ?_⟩
    have hheld : ((n % twoPow 32).toNat.toUInt32.toNat : Int) = n % twoPow 32 := by
      rw [UInt32.toNat_ofNat']
      exact natCast_toNat_emod n (by decide)
    rw [hheld]
    exact bmod_of_holds hholds
  | @i64 _ n hv hholds =>
    refine ⟨n, hv, rfl, congrArg Value.int ?_⟩
    have hheld : ((n % twoPow 64).toNat.toUInt64.toNat : Int) = n % twoPow 64 := by
      rw [UInt64.toNat_ofNat']
      exact natCast_toNat_emod n (by decide)
    rw [hheld]
    exact bmod_of_holds hholds
  -- floating-point parameters are excluded
  | f32 hv => rcases htype with htype | htype <;> cases htype
  | f64 hv => rcases htype with htype | htype <;> cases htype

/-- What the check accepts, the conversion takes. -/
theorem Taken.ofValue? (h : Taken type v c x) : Val.ofValue? type c = some x := by
  cases h <;> rfl

/-- An argument that goes with a parameter is taken over by it. There is none for a parameter that takes
a reference. -/
theorem Taken.of_fits (h : Fits type.word v c) : ∃ x, Taken type v c x := by
  -- a parameter of one of the four number types takes over what goes with its word
  cases type with
  | i32 =>
    obtain ⟨n, hv, hholds, rfl⟩ := h.of_integer rfl
    exact ⟨_, .i32 hv hholds⟩
  | i64 =>
    obtain ⟨n, hv, hholds, rfl⟩ := h.of_integer rfl
    exact ⟨_, .i64 hv hholds⟩
  | f32 =>
    obtain ⟨y, hv, rfl⟩ := h.of_number rfl
    exact ⟨_, .f32 hv⟩
  | f64 =>
    obtain ⟨y, hv, rfl⟩ := h.of_number rfl
    exact ⟨_, .f64 hv⟩
  | funcref => exact absurd rfl h.not_unsupported
  | externref => exact absurd rfl h.not_unsupported

theorem TakenAll.of_fitAll {types : List ValueType} {vs cs : List Value}
    (h : FitAll (types.map ValueType.word) vs cs) : ∃ xs, TakenAll types vs cs xs := by
  -- on the types of the parameters, each with the argument in its place
  induction types generalizing vs cs with
  | nil =>
    cases h
    exact ⟨[], .nil⟩
  | cons type types ih =>
    cases h with
    | cons first rest =>
      obtain ⟨x, hx⟩ := Taken.of_fits first
      obtain ⟨xs, hxs⟩ := ih rest
      exact ⟨x :: xs, .cons hx hxs⟩

theorem TakenAll.of_check {type : FuncType} (h : (Signature.ofType type).check vs = .ok cs) :
    ∃ xs, TakenAll type.params vs cs xs := by
  have haccepts := Signature.check_eq_ok_iff.1 h
  exact TakenAll.of_fitAll (fitAll_iff.2 ⟨haccepts.given, haccepts.made, haccepts.each⟩)

namespace TakenAll

theorem length_eq (h : TakenAll types vs cs xs) : cs.length = types.length := by
  induction h with
  | nil => rfl
  | cons _ _ ih => rw [List.length_cons, List.length_cons, ih]

theorem convertAll (h : TakenAll types vs cs xs) : WasmGauge.convertAll types cs = .ok xs := by
  induction h with
  | nil => rfl
  | cons first _ ih =>
    unfold WasmGauge.convertAll
    rw [first.ofValue?, ih]
    rfl

theorem convertArguments (h : TakenAll types vs cs xs) :
    WasmGauge.convertArguments types cs = .ok xs := by
  unfold WasmGauge.convertArguments
  rw [if_neg (by simpa using h.length_eq)]
  exact h.convertAll

theorem exact (h : TakenAll types vs cs xs) {j : Nat} {type : ValueType}
    (hj : types[j]? = some type) (htype : type = .i32 ∨ type = .i64) :
    ∃ v x n, vs[j]? = some v ∧ xs[j]? = some x ∧ v.integer? = some n ∧ x.toValue = .int n := by
  induction h generalizing j with
  | nil => cases hj
  | @cons type' _ v _ _ _ x _ first _ ih =>
    cases j with
    | succ j => exact ih hj
    | zero =>
      cases hj
      obtain ⟨n, hv, -, hx⟩ := first.exact htype
      exact ⟨v, x, n, rfl, rfl, hv, hx⟩

end TakenAll

end Conversion

/-! ## §3 Acceptance -/

namespace Handle

variable {h : Handle} {name : String} {args checked : List Value}

/-- A handle takes the arguments of a call over: what is looked up, the check, and what the function
that is entered receives. -/
structure Takes (h : Handle) (name : String) (args checked : List Value) (index : Nat)
    (type : FuncType) (vals : List Val) : Prop where
  function : h.start.function? name = some (index, type)
  lookup : h.exports.lookup name = some (Signature.ofType type)
  check : (Signature.ofType type).check args = .ok checked
  accept : h.accept name args = .ok checked
  taken : TakenAll type.params args checked vals

theorem accept_of_lookup (h : Handle) {name : String} {s : Signature}
    (hlookup : h.exports.lookup name = some s) (args : List Value) :
    h.accept name args = (s.check args).mapError (.argument name s) := by
  unfold accept lookup
  rw [hlookup]
  simp only [bind, Except.bind]
  cases s.check args <;> rfl

/-- What is asked of a handle goes one of three ways: there is no function with the name, its
arguments are refused, or they are taken over. -/
theorem accept_cases (hnamed : h.start.Named) (name : String) (args : List Value) :
    (h.exports.lookup name = none ∧ h.accept name args = .error (.exportNotFound name h.names)) ∨
    (∃ s fault, h.exports.lookup name = some s ∧ s.check args = .error fault ∧
      h.accept name args = .error (.argument name s fault)) ∨
    (∃ index type checked vals, h.Takes name args checked index type vals) := by
  have hlookup := lookup_eq hnamed name
  cases hf : h.start.function? name with
  | none =>
    rw [hf] at hlookup
    refine .inl ⟨hlookup, ?_⟩
    unfold accept lookup
    rw [hlookup]
    rfl
  | some found =>
    obtain ⟨index, type⟩ := found
    rw [hf] at hlookup
    have haccept := h.accept_of_lookup hlookup args
    -- what the check accepts, the conversion takes
    cases hcheck : (Signature.ofType type).check args with
    | error fault =>
      rw [hcheck] at haccept
      exact .inr (.inl ⟨_, fault, hlookup, hcheck, haccept⟩)
    | ok checked =>
      rw [hcheck] at haccept
      obtain ⟨vals, htaken⟩ := TakenAll.of_check hcheck
      exact .inr (.inr ⟨index, type, checked, vals, hf, hlookup, hcheck, haccept, htaken⟩)

theorem takes_of_accept (hnamed : h.start.Named) (haccept : h.accept name args = .ok checked) :
    ∃ index type vals, h.Takes name args checked index type vals := by
  rcases accept_cases hnamed name args with
    ⟨-, hrefused⟩ | ⟨s, fault, -, -, hrefused⟩ | ⟨index, type, checked', vals, htakes⟩
  · rw [hrefused] at haccept
    cases haccept
  · rw [hrefused] at haccept
    cases haccept
  · obtain rfl : checked' = checked := Except.ok.inj (htakes.accept.symm.trans haccept)
    exact ⟨index, type, vals, htakes⟩

end Handle

/-! ## §4 Entering a function -/

/-- The world in which the instance of a handle has become another one. -/
def World.became (w : World) (h : Handle) (i : Instance) : World := ((h.become i).outcome w).2

theorem World.current_became (w : World) (h : Handle) (i : Instance) :
    h.current (w.became h i) = i := h.current_become i w

namespace Handle

variable {h : Handle} {name : String} {args checked : List Value} {index : Nat} {type : FuncType}
  {vals : List Val}

theorem outcome_run (h : Handle) (index : Nat) (vals : List Val) (w : World) :
    (h.run index vals).outcome w =
      (.ok ((h.current w).call w.bounds index vals).1,
        w.became h ((h.current w).call w.bounds index vals).2) := rfl

/-- Once the arguments are taken over, entering a function is running it. -/
theorem Takes.enter (ht : h.Takes name args checked index type vals) :
    h.enter name checked = Except.map resultOf <$> h.run index vals := by
  unfold Handle.enter
  rw [ht.function, ← bind_pure_comp]
  simp only [ht.taken.convertArguments]
  refine bind_congr fun result => ?_
  cases result <;> rfl

/-- Calling it directly passes a trap on as it is. -/
theorem Takes.outcome_call (ht : h.Takes name args checked index type vals) (w : World) :
    (h.call name checked).outcome w =
      ((((h.current w).call w.bounds index vals).1.map resultOf).mapError .trap,
        w.became h ((h.current w).call w.bounds index vals).2) := by
  unfold Handle.call
  rw [ht.enter, bind_map_left, Act.outcome_bind_of_ok (h.outcome_run index vals w)]
  cases ((h.current w).call w.bounds index vals).1 <;> rfl

/-- Calling it after the check says in which function it has trapped. -/
theorem Takes.outcome_callAccepted (ht : h.Takes name args checked index type vals) (w : World) :
    (h.callAccepted name checked).outcome w =
      ((((h.current w).call w.bounds index vals).1.map resultOf).mapError (.invocation name),
        w.became h ((h.current w).call w.bounds index vals).2) := by
  unfold Handle.callAccepted
  rw [ht.enter, bind_map_left, Act.outcome_bind_of_ok (h.outcome_run index vals w)]
  cases ((h.current w).call w.bounds index vals).1 <;> rfl

end Handle

end WasmGauge
