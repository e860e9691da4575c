import WasmGauge.Proofs.Running

/-!
# Fuel

Fuel decides how long code is run, and nothing else: code that has come to an end comes to the same end
with more fuel. So what a start function that returns or traps leaves behind does not depend on the fuel,
and a start function that is still running when the fuel is gone has done neither yet.

## Main statements

- `steady`: every run that comes to an end, of code, of a block, of a loop and of a call.
- `Program.start_cases`: what calling a start function comes to.
- `Program.start_of_fuel_le`: a start function that comes to an end, with more fuel.
- `ValidModule.fuelless_initialStore`: no fuel is missing before the start function is called.
-/

namespace WasmGauge.Wasm

/-! ## §1 Runs that come to an end -/

/-- The fuel was enough. -/
def Outcome.Ends (o : Outcome) : Prop := ∀ store, o ≠ .trap .outOfFuel store

/-- The fuel was enough. -/
def CallOutcome.Ends (o : CallOutcome) : Prop := ∀ store, o ≠ .trap .outOfFuel store

variable {p : Program} {arity fuel depth : Nat} {outer : List Val} {rest : List Instr}

theorem Outcome.Ends.of_leave {o : Outcome} (h : (o.leave arity outer).Ends) : o.Ends := by
  rintro store rfl
  exact h store rfl

theorem CallOutcome.Ends.of_toCall {o : Outcome} (h : (o.toCall arity outer).Ends) : o.Ends := by
  rintro store rfl
  exact h store rfl

theorem Outcome.Ends.of_resume {o : CallOutcome} {locals : Array Val}
    (h : (o.resume locals).Ends) : o.Ends := by
  rintro store rfl
  exact h store rfl

theorem Outcome.Ends.of_andThen {o : Outcome} (h : (o.andThen p fuel depth rest).Ends) : o.Ends := by
  rintro store rfl
  exact h store rfl

/-! ## §2 More fuel -/

/-- With `fuel'`, everything that comes to an end with `fuel` comes to the same end. -/
structure Steady (p : Program) (fuel fuel' : Nat) : Prop where
  call {depth f : Nat} {stack : List Val} {store : Store}
    (h : (Wasm.call p fuel depth f stack store).Ends) :
    Wasm.call p fuel' depth f stack store = Wasm.call p fuel depth f stack store
  jump {depth : Nat} {b : Basic} {c : Config} (h : (execJump p fuel depth b c).Ends) :
    execJump p fuel' depth b c = execJump p fuel depth b c
  block {depth : Nat} {i : Instr} {c : Config} (h : (execBlock p fuel depth i c).Ends) :
    execBlock p fuel' depth i c = execBlock p fuel depth i c
  loop {depth m n : Nat} {body : List Instr} {outer : List Val} {c : Config}
    (h : (execLoop p fuel depth m n body outer c).Ends) :
    execLoop p fuel' depth m n body outer c = execLoop p fuel depth m n body outer c
  row {depth : Nat} {is : List Instr} {c : Config} (h : (exec p fuel depth is c).Ends) :
    exec p fuel' depth is c = exec p fuel depth is c

namespace Steady

variable {p : Program} {fuel fuel' depth : Nat} {c : Config}

/-- Without fuel nothing comes to an end. -/
theorem zero (p : Program) (fuel' : Nat) : Steady p 0 fuel' where
  call h := absurd rfl (h _)
  jump h := absurd rfl (h _)
  block h := absurd rfl (h _)
  loop h := absurd rfl (h _)
  row h := absurd rfl (h _)

variable (hs : Steady p fuel fuel')

include hs

theorem call_succ {f : Nat} {stack : List Val} {store : Store}
    (h : (Wasm.call p (fuel + 1) depth f stack store).Ends) :
    Wasm.call p (fuel' + 1) depth f stack store = Wasm.call p (fuel + 1) depth f stack store := by
  cases depth with
  | zero => rfl
  | succ depth =>
    rw [Wasm.call] at h ⊢
    rw [Wasm.call]
    cases hf : p.funcs[f]? with
    | none => rfl
    | some code =>
      simp only [hf] at h ⊢
      rw [hs.row h.of_toCall]

theorem jump_succ {b : Basic} (h : (execJump p (fuel + 1) depth b c).Ends) :
    execJump p (fuel' + 1) depth b c = execJump p (fuel + 1) depth b c := by
  obtain ⟨stack, locals, store⟩ := c
  -- only calls take fuel
  cases b with
  | call f =>
    rw [execJump] at h ⊢
    rw [execJump, hs.call h.of_resume]
  | callIndirect type table =>
    rcases stack with _ | ⟨⟨x⟩ | _ | _ | _ | _ | _, rest⟩
    case cons.i32 =>
      rw [execJump] at h ⊢
      rw [execJump]
      cases htarget : p.target store.tables type table x with
      | error t => rfl
      | ok f =>
        simp only [htarget] at h ⊢
        rw [hs.call h.of_resume]
    all_goals rfl
  | _ => rfl

theorem block_succ {i : Instr} (h : (execBlock p (fuel + 1) depth i c).Ends) :
    execBlock p (fuel' + 1) depth i c = execBlock p (fuel + 1) depth i c := by
  cases i with
  | block type body =>
    rw [execBlock] at h ⊢
    rw [execBlock]
    generalize type.arities p.types = arities at h ⊢
    obtain ⟨m, n⟩ := arities
    dsimp only at h ⊢
    rw [hs.row h.of_leave]
  | loop type body =>
    rw [execBlock] at h ⊢
    rw [execBlock]
    generalize type.arities p.types = arities at h ⊢
    obtain ⟨m, n⟩ := arities
    exact hs.loop h
  | cond type yes no =>
    obtain ⟨stack, locals, store⟩ := c
    rcases stack with _ | ⟨⟨x⟩ | _ | _ | _ | _ | _, rest⟩
    case cons.i32 =>
      rw [execBlock] at h ⊢
      rw [execBlock]
      generalize type.arities p.types = arities at h ⊢
      obtain ⟨m, n⟩ := arities
      dsimp only at h ⊢
      rw [hs.row h.of_leave]
    all_goals rfl
  | basic b => rfl

theorem loop_succ {m n : Nat} {body : List Instr} {outer : List Val}
    (h : (execLoop p (fuel + 1) depth m n body outer c).Ends) :
    execLoop p (fuel' + 1) depth m n body outer c =
      execLoop p (fuel + 1) depth m n body outer c := by
  have hround : (exec p fuel depth body c).Ends := by
    intro store hbody
    rw [execLoop, hbody] at h
    exact h store rfl
  rw [execLoop] at h ⊢
  rw [execLoop, hs.row hround]
  -- a round that jumps to the beginning is followed by another one
  rcases hbody : exec p fuel depth body c with c' | ⟨_ | l, c'⟩ | c' | ⟨t, store⟩
  case branch.zero =>
    rw [hbody] at h
    exact hs.loop h
  all_goals rfl

/-- What follows an instruction. -/
theorem andThen {rest : List Instr} {o : Outcome} (h : (o.andThen p fuel depth rest).Ends) :
    o.andThen p fuel' depth rest = o.andThen p fuel depth rest := by
  cases o with
  | next c => exact hs.row h
  | _ => rfl

theorem row_succ {is : List Instr} (h : (exec p (fuel + 1) depth is c).Ends) :
    exec p (fuel' + 1) depth is c = exec p (fuel + 1) depth is c := by
  rcases is with _ | ⟨i, rest⟩
  · rfl
  -- a row is its first instruction and then the rest, both with the fuel that is left
  by_cases hbasic : ∃ b, i = .basic b
  · obtain ⟨b, rfl⟩ := hbasic
    by_cases hplain : b.isPlain = true
    · cases hstep : c.step b with
      | ok c' =>
        rw [exec_basic hplain hstep] at h ⊢
        rw [exec_basic hplain hstep, hs.row h]
      | error stop => rw [exec, if_pos hplain, hstep, exec, if_pos hplain, hstep]
    · rw [exec_jump hplain] at h ⊢
      rw [exec_jump hplain, hs.jump h.of_andThen, hs.andThen h]
  · have hblock := not_exists.1 hbasic
    rw [exec_block hblock] at h ⊢
    rw [exec_block hblock, hs.block h.of_andThen, hs.andThen h]

end Steady

/-- More fuel makes no difference to what comes to an end. -/
theorem steady (p : Program) {fuel fuel' : Nat} (hle : fuel ≤ fuel') : Steady p fuel fuel' := by
  -- on the fuel: each unit of it is spent on one step, which is the same with both
  induction fuel generalizing fuel' with
  | zero => exact .zero p fuel'
  | succ fuel ih =>
    obtain ⟨fuel', rfl⟩ := Nat.exists_eq_add_of_lt hle
    have hs := ih (Nat.le_add_right fuel fuel')
    exact ⟨hs.call_succ, hs.jump_succ, hs.block_succ, hs.loop_succ, hs.row_succ⟩

/-! ## §3 Start functions -/

variable {p : Program} {bounds : Bounds} {store : Store} {start : Option Nat}

namespace Program

/-- A start function returns, is still running, or traps of its own. -/
theorem start_cases (p : Program) (bounds : Bounds) (store : Store) (f : Nat) :
    (∃ stack store', call p bounds.fuel bounds.depth f [] store = .done stack store' ∧
        p.start bounds store (some f) = .ok store') ∨
      (∃ store', call p bounds.fuel bounds.depth f [] store = .trap .outOfFuel store' ∧
        p.start bounds store (some f) = .error .endless) ∨
      ∃ trap store', trap ≠ .outOfFuel ∧
        call p bounds.fuel bounds.depth f [] store = .trap trap store' ∧
        p.start bounds store (some f) = .error (.refused trap) := by
  unfold start
  cases hcall : call p bounds.fuel bounds.depth f [] store with
  | done stack store' => exact .inl ⟨stack, store', rfl, by simp only [hcall]⟩
  | trap trap store' =>
    by_cases hfuel : trap = .outOfFuel
    · subst hfuel
      exact .inr (.inl ⟨store', rfl, by simp only [hcall]⟩)
    · exact .inr (.inr ⟨trap, store', hfuel, rfl, by simp only [hcall]⟩)

theorem start_eq_refused_iff {trap : Trap} :
    p.start bounds store start = .error (.refused trap) ↔
      ∃ f store', start = some f ∧ trap ≠ .outOfFuel ∧
        call p bounds.fuel bounds.depth f [] store = .trap trap store' := by
  cases start with
  | none => simp [Program.start]
  | some f =>
    rcases p.start_cases bounds store f with
      ⟨stack, store', hcall, hstart⟩ | ⟨store', hcall, hstart⟩ | ⟨trap', store', hfuel, hcall, hstart⟩
    · simp [hcall, hstart]
    · simp [hcall, hstart, eq_comm]
    · rw [hstart]
      constructor
      · rintro ⟨⟩
        exact ⟨f, store', rfl, hfuel, hcall⟩
      · rintro ⟨_, _, ⟨⟩, -, hcall'⟩
        rw [hcall] at hcall'
        cases hcall'
        rfl

theorem start_eq_endless_iff :
    p.start bounds store start = .error .endless ↔
      ∃ f store', start = some f ∧
        call p bounds.fuel bounds.depth f [] store = .trap .outOfFuel store' := by
  cases start with
  | none => simp [Program.start]
  | some f =>
    rcases p.start_cases bounds store f with
      ⟨stack, store', hcall, hstart⟩ | ⟨store', hcall, hstart⟩ | ⟨trap', store', hfuel, hcall, hstart⟩
    · simp [hcall, hstart]
    · simp [hcall, hstart]
    · simp [hcall, hstart, hfuel]

/-- A start function that comes to an end leaves the same behind with more fuel. -/
theorem start_of_fuel_le {fuel : Nat} (hle : bounds.fuel ≤ fuel)
    (hends : p.start bounds store start ≠ .error .endless) :
    p.start ⟨fuel, bounds.depth⟩ store start = p.start bounds store start := by
  cases start with
  | none => rfl
  | some f =>
    have hcall : (call p bounds.fuel bounds.depth f [] store).Ends := fun store' hcall =>
      hends (start_eq_endless_iff.2 ⟨f, store', rfl, hcall⟩)
    unfold Program.start
    simp only [(steady p hle).call hcall]

end Program

/-! ## §4 What takes no fuel -/

/-- Whatever comes of it, it is not that fuel is missing. -/
structure Fuelless {ε α : Type} (cause : ε → Trap) (result : Except ε α) : Prop where
  ne (e : ε) : result = .error e → cause e ≠ .outOfFuel

namespace Fuelless

variable {ε α β : Type} {cause : ε → Trap}

@[simp] theorem ok (a : α) : Fuelless cause (.ok a) := ⟨nofun⟩

@[simp] theorem error_iff {e : ε} :
    Fuelless cause (.error e : Except ε α) ↔ cause e ≠ .outOfFuel := by
  constructor
  · exact fun h => h.ne e rfl
  · rintro h
    constructor
    rintro _ ⟨⟩
    exact h

theorem bind {result : Except ε α} {next : α → Except ε β} (h : Fuelless cause result)
    (hnext : ∀ a, Fuelless cause (next a)) : Fuelless cause (result >>= next) := by
  cases result with
  | ok a => exact hnext a
  | error e => exact error_iff.2 (h.ne e rfl)

theorem map {result : Except ε α} {f : α → β} (h : Fuelless cause result) :
    Fuelless cause (f <$> result) := by
  cases result with
  | ok a => exact ok _
  | error e => exact error_iff.2 (h.ne e rfl)

theorem foldlM {step : β → α → Except ε β} (h : ∀ b a, Fuelless cause (step b a)) (as : List α) :
    ∀ b, Fuelless cause (as.foldlM step b) := by
  induction as with
  | nil => exact ok
  | cons a as ih => exact fun b => (h b a).bind ih

theorem mapM {f : α → Except ε β} (h : ∀ a, Fuelless cause (f a)) (as : List α) :
    Fuelless cause (as.mapM f) := by
  induction as with
  | nil => exact ok []
  | cons a as ih =>
    rw [List.mapM_cons]
    exact (h a).bind fun b => ih.bind fun bs => ok (b :: bs)

theorem push32 {rest : List Val} {result : Except Trap UInt32} (h : Fuelless id result) :
    Fuelless id (push32 rest result) := by
  cases result with
  | ok x => exact ok _
  | error trap => exact error_iff.2 (h.ne trap rfl)

theorem push64 {rest : List Val} {result : Except Trap UInt64} (h : Fuelless id result) :
    Fuelless id (push64 rest result) := by
  cases result with
  | ok x => exact ok _
  | error trap => exact error_iff.2 (h.ne trap rfl)

end Fuelless

theorem Numeric.fuelless_truncateTo (range : Int × Int) (saturating : Bool) (d : Datum) :
    Fuelless id (truncateTo range saturating d) := by
  fun_cases truncateTo range saturating d <;> simp

theorem Numeric.fuelless_binary32 (o : IntBinary) (x y : UInt32) : Fuelless id (binary32 o x y) := by
  fun_cases binary32 o x y <;> simp

theorem Numeric.fuelless_binary64 (o : IntBinary) (x y : UInt64) : Fuelless id (binary64 o x y) := by
  fun_cases binary64 o x y <;> simp

theorem Conversion.fuelless_apply (c : Conversion) (v : Val) : Fuelless id (c.apply v) := by
  fun_cases Conversion.apply c v <;> simp [Fuelless.map, Numeric.fuelless_truncateTo]

theorem Operator.fuelless_apply (o : Operator) (stack : List Val) : Fuelless id (o.apply stack) := by
  fun_cases Operator.apply o stack
  -- divisions and conversions may trap
  case case9 o y x rest => exact .push32 (Numeric.fuelless_binary32 o x y)
  case case10 o y x rest => exact .push64 (Numeric.fuelless_binary64 o x y)
  case case16 c v rest trap htrap => exact Fuelless.error_iff.2 ((c.fuelless_apply v).ne trap htrap)
  all_goals simp

namespace Config

theorem fuelless_operate (o : Operator) (c : Config) : Fuelless Stop.cause (c.operate o) := by
  fun_cases operate o c
  case case1 => simp
  case case2 stack locals store trap htrap =>
    exact Fuelless.error_iff.2 ((o.fuelless_apply stack).ne trap htrap)

theorem fuelless_load (form : LoadForm) (a : MemArg) (c : Config) :
    Fuelless Stop.cause (c.load form a) := by
  fun_cases load form a c <;> simp [stop]

theorem fuelless_save (form : StoreForm) (a : MemArg) (c : Config) :
    Fuelless Stop.cause (c.save form a) := by
  fun_cases save form a c <;> simp [stop]

theorem fuelless_growMemory (index : Nat) (c : Config) :
    Fuelless Stop.cause (c.growMemory index) := by
  fun_cases growMemory index c <;> simp [stop]

/-- An instruction that neither jumps nor calls takes no fuel. -/
theorem fuelless_step (c : Config) (b : Basic) : Fuelless Stop.cause (c.step b) := by
  fun_cases step c b <;>
    simp [stop, fuelless_operate, fuelless_load, fuelless_save, fuelless_growMemory]

theorem fuelless_stepConstant (c : Config) (i : Instr) :
    Fuelless Stop.cause (c.stepConstant i) := by
  cases i with
  | basic b => exact c.fuelless_step b
  | _ => simp [stepConstant, stop]

end Config

theorem fuelless_constant (globals : Array Val) (code : List Instr) :
    Fuelless id (constant globals code) := by
  have hsteps := Fuelless.foldlM Config.fuelless_stepConstant code ⟨[], #[], ⟨globals, #[], #[]⟩⟩
  fun_cases constant globals code
  case case1 => simp
  case case2 => simp
  case case3 stop hstop => exact Fuelless.error_iff.2 (hsteps.ne stop hstop)

theorem Store.fuelless_copyElements (s : Store) (e : ElementSegment (List Instr)) :
    Fuelless id (s.copyElements e) := by
  unfold copyElements
  cases e.mode with
  | active index offset =>
    refine Fuelless.bind (.mapM (fuelless_constant s.globals) e.items) fun items => ?_
    refine Fuelless.bind (fuelless_constant s.globals offset) fun start => ?_
    split
    · split <;> simp
    · simp
  | _ => exact .ok s

theorem Store.fuelless_copyData (s : Store) (d : DataSegment (List Instr)) :
    Fuelless id (s.copyData d) := by
  unfold copyData
  cases d.mode with
  | active index offset =>
    refine Fuelless.bind (fuelless_constant s.globals offset) fun start => ?_
    split
    · split <;> simp
    · simp
  | _ => exact .ok s

/-- Everything before the start function takes no fuel. -/
theorem ValidModule.fuelless_initialStore (v : ValidModule) : Fuelless id v.initialStore := by
  have hglobals (globals : List (Global (List Instr))) : Fuelless id (initialGlobals globals) := by
    unfold initialGlobals
    exact .foldlM (fun vs g => (fuelless_constant vs g.init).map) globals #[]
  have hempty : Fuelless id v.emptyStore := (hglobals v.module.globals).bind fun globals => .ok _
  exact hempty.bind fun store =>
    (Fuelless.foldlM Store.fuelless_copyElements v.module.elements store).bind
      (Fuelless.foldlM Store.fuelless_copyData v.module.datas)

end WasmGauge.Wasm
