import WasmGauge.Wasm.Instance

/-!
# Running code step by step

How running a sequence of instructions goes on after each of them. Every step takes one unit of the
fuel; what a nested sequence needs is not taken from what follows it.

## Main statements

- `exec_plain`: a row of instructions that neither jump nor call is run as a fold of its steps.
- `exec_call`, `exec_cond`, `exec_loop`: an instruction that calls or opens a block.
- `call_succ`: a call runs the code of its function on a stack of its own.
-/

namespace WasmGauge.Wasm

variable {p : Program} {fuel depth : Nat} {b : Basic} {rest : List Instr} {c c' : Config}

/-! ## §1 Instructions in a row -/

/-- What follows an instruction that jumps, calls or opens a block. -/
def Outcome.andThen (p : Program) (fuel depth : Nat) (rest : List Instr) : Outcome → Outcome
  | .next c => exec p fuel depth rest c
  | o => o

@[simp] theorem exec_nil (p : Program) (fuel depth : Nat) (c : Config) :
    exec p (fuel + 1) depth [] c = .next c := rfl

theorem exec_jump (hplain : ¬ b.isPlain = true) :
    exec p (fuel + 1) depth (.basic b :: rest) c =
      (execJump p fuel depth b c).andThen p fuel depth rest := by
  rw [exec, if_neg hplain]
  rfl

theorem exec_block {i : Instr} (hblock : ∀ b, i ≠ .basic b) :
    exec p (fuel + 1) depth (i :: rest) c =
      (execBlock p fuel depth i c).andThen p fuel depth rest := by
  rw [exec]
  · rfl
  · exact hblock

theorem exec_basic (hplain : b.isPlain = true) (hstep : c.step b = .ok c') :
    exec p (fuel + 1) depth (.basic b :: rest) c = exec p fuel depth rest c' := by
  rw [exec, if_pos hplain, hstep]

def row (bs : List Basic) : List Instr := bs.map .basic

/-- Instructions that neither jump nor call, one after another. -/
theorem exec_plain (fuel : Nat) {bs : List Basic} (hplain : bs.all Basic.isPlain = true)
    (hsteps : bs.foldlM Config.step c = .ok c') :
    exec p (fuel + bs.length) depth (row bs ++ rest) c = exec p fuel depth rest c' := by
  induction bs generalizing c with
  | nil =>
      cases hsteps
      rfl
  | cons b bs ih =>
      rw [List.all_cons, Bool.and_eq_true] at hplain
      rw [List.foldlM_cons] at hsteps
      cases hstep : c.step b with
      | error stop =>
          rw [hstep] at hsteps
          cases hsteps
      | ok c₁ =>
          rw [hstep] at hsteps
          exact (exec_basic hplain.1 hstep).trans (ih hplain.2 hsteps)

/-! ## §2 Calls -/

/-- A call that returns, and what comes after it. -/
theorem exec_call {f : Nat} {stack stack' : List Val} {locals : Array Val} {store store' : Store}
    (hcall : call p fuel depth f stack store = .done stack' store') :
    exec p (fuel + 2) depth (.basic (.call f) :: rest) ⟨stack, locals, store⟩ =
      exec p (fuel + 1) depth rest ⟨stack', locals, store'⟩ := by
  -- a call is made with the fuel that is left, one deeper
  have hjump : execJump p (fuel + 1) depth (.call f) ⟨stack, locals, store⟩ =
      .next ⟨stack', locals, store'⟩ := by
    rw [execJump]
    simp only [hcall, CallOutcome.resume]
  rw [exec_jump (by simp [Basic.isPlain]), hjump]
  rfl

/-- A call runs the code of its function. -/
theorem call_succ {f : Nat} {code : Code} (hcode : p.funcs[f]? = some code) (stack : List Val)
    (store : Store) :
    call p (fuel + 1) (depth + 1) f stack store =
      (exec p fuel depth code.body (code.enter stack store)).toCall code.type.results.length
        (stack.drop code.type.params.length) := by
  rw [call, hcode]

/-! ## §3 Blocks -/

/-- A conditional runs one of its branches on a stack of its own. It takes no operands but its
condition here. -/
theorem exec_cond {type : BlockType} {yes no : List Instr} {x : UInt32} {stack : List Val}
    {locals : Array Val} {store : Store} {n : Nat} (htype : type.arities p.types = (0, n)) :
    exec p (fuel + 2) depth (.cond type yes no :: rest) ⟨.i32 x :: stack, locals, store⟩ =
      ((exec p fuel depth (if x = 0 then no else yes) ⟨[], locals, store⟩).leave n stack).andThen
        p (fuel + 1) depth rest := by
  rw [exec_block (by simp), execBlock]
  simp only [htype]
  rfl

/-- A loop runs its inside on a stack of its own. It takes no operands here. -/
theorem exec_loop {type : BlockType} {body : List Instr} {n : Nat}
    (htype : type.arities p.types = (0, n)) :
    exec p (fuel + 2) depth (.loop type body :: rest) c =
      (execLoop p fuel depth 0 n body c.stack ⟨[], c.locals, c.store⟩).andThen
        p (fuel + 1) depth rest := by
  rw [exec_block (by simp), execBlock]
  simp only [htype]
  rfl

/-- A loop that jumps to its beginning is run once more. -/
theorem execLoop_again {body : List Instr} {outer : List Val} {n : Nat}
    (hbody : exec p fuel depth body c = .branch 0 c') :
    execLoop p (fuel + 1) depth 0 n body outer c =
      execLoop p fuel depth 0 n body outer ⟨[], c'.locals, c'.store⟩ := by
  rw [execLoop, hbody]
  rfl

theorem execLoop_ret {body : List Instr} {outer : List Val} {m n : Nat}
    (hbody : exec p fuel depth body c = .ret c') :
    execLoop p (fuel + 1) depth m n body outer c = .ret c' := by
  rw [execLoop, hbody]
  rfl

/-- A return ends the row. -/
theorem exec_ret : exec p (fuel + 2) depth (.basic .ret :: rest) c = .ret c := by
  rw [exec_jump (by simp [Basic.isPlain]), execJump]
  rfl

theorem exec_br (l : Nat) : exec p (fuel + 2) depth (.basic (.br l) :: rest) c = .branch l c := by
  rw [exec_jump (by simp [Basic.isPlain]), execJump]
  rfl

end WasmGauge.Wasm
