import Mathlib.Data.Nat.Fib.Basic
import WasmGauge.Proofs.Running

/-!
# Two builds of the Fibonacci function

The code of the modules that come with the harness. One calls itself twice; the other keeps a sum in
a local variable, and in a loop adds the value for one less and goes on with two less. Both give the
Fibonacci number, wrapped to 32 bits, and both need as many nested calls as their argument says.

The loop is carried by an invariant: what the sum holds and what is still to come make up the result.

## Main statements

- `givesUpTo_twice`, `givesUpTo_loop`: each of the builds gives Fibonacci numbers.
-/

namespace WasmGauge.Fibonacci

open Wasm

/-! ## §1 The numbers -/

/-- The Fibonacci number for an integer, which is the integer itself below two. -/
def exact (n : Int) : Int := if n < 2 then n else Nat.fib n.toNat

theorem exact_of_lt {n : Int} (h : n < 2) : exact n = n := if_pos h

theorem exact_natCast (n : Nat) : exact n = Nat.fib n := by
  unfold exact
  -- below two both are the number itself
  by_cases h : (n : Int) < 2
  · obtain rfl | rfl : n = 0 ∨ n = 1 := by omega
    · rfl
    · rfl
  · rw [if_neg h, Int.toNat_natCast]

/-- From two on, each number is the sum of the two before it. -/
theorem exact_add {n : Int} (h : 2 ≤ n) : exact n = exact (n - 1) + exact (n - 2) := by
  obtain ⟨m, rfl⟩ : ∃ m : Nat, n = (m : Int) + 2 := ⟨(n - 2).toNat, by omega⟩
  have hone : ((m : Int) + 2) - 1 = ((m + 1 : Nat) : Int) := by omega
  have htwo : ((m : Int) + 2) - 2 = (m : Int) := by omega
  have hthis : (m : Int) + 2 = ((m + 2 : Nat) : Int) := by omega
  rw [hone, htwo, hthis, exact_natCast, exact_natCast, exact_natCast, Nat.fib_add_two]
  push_cast
  omega

def word (n : Int) : Val := .i32 (UInt32.ofInt n)

/-- The integers that are 32-bit values with a sign. -/
def InRange (n : Int) : Prop := -2 ^ 31 ≤ n ∧ n < 2 ^ 31

/-- A 32-bit value read with a sign is the integer that it comes from, wrapped around. -/
theorem toInt_ofInt (n : Int) : (UInt32.ofInt n).toInt32.toInt = n.bmod (2 ^ 32) := by
  -- the bits are the remainder modulo `2 ^ 32`, and reading them with a sign balances it
  have hnonneg : 0 ≤ n % 2 ^ 32 := Int.emod_nonneg n (by decide)
  show ((UInt32.ofNat (n % 2 ^ 32).toNat).toInt32).toInt = n.bmod (2 ^ 32)
  rw [UInt32.toInt32_ofNat', Int32.toInt_ofNat', Int.toNat_of_nonneg hnonneg]
  exact Int.emod_bmod n (2 ^ 32)

theorem toInt_ofInt_of_inRange {n : Int} (h : InRange n) : (UInt32.ofInt n).toInt32.toInt = n := by
  obtain ⟨hlow, hhigh⟩ := h
  rw [toInt_ofInt, Int.bmod_eq_of_le] <;> omega

theorem compare_two {n : Int} (h : InRange n) :
    Numeric.compare32 .ltS (UInt32.ofInt n) 2 = decide (n < 2) := by
  have htwo : (2 : UInt32).toInt32.toInt = 2 := by decide
  unfold Numeric.compare32
  simp only [Int32.lt_iff_toInt_lt, toInt_ofInt_of_inRange h, htwo]

theorem ofInt_sub (n k : Int) : UInt32.ofInt (n - k) = UInt32.ofInt n - UInt32.ofInt k := by
  rw [Int.sub_eq_add_neg, UInt32.ofInt_add, UInt32.ofInt_neg, UInt32.sub_eq_add_neg]

/-! ## §2 The build that calls itself twice -/

/-- Whether the argument is below two. -/
def test : List Basic := [.localGet 0, .i32Const 2, .op (.intCompare .w32 .ltS)]

/-- The argument less a number. -/
def less (k : UInt32) : List Basic := [.localGet 0, .i32Const k, .op (.intBinary .w32 .sub)]

/-- The code of the build that calls itself twice. -/
def twice : Code where
  type := ⟨[.i32], [.i32]⟩
  locals := []
  body :=
    row test ++
      [.cond (.value .i32) (row [.localGet 0])
        (row (less 1) ++ .basic (.call 0) :: (row (less 2) ++ .basic (.call 0) ::
          row [.op (.intBinary .w32 .add)]))]

def turn : List Instr :=
  row test ++
    .cond .empty (row [.localGet 1, .localGet 0, .op (.intBinary .w32 .add)] ++ [.basic .ret]) [] ::
    (row (.localGet 1 :: less 1) ++ .basic (.call 0) ::
      (row (.op (.intBinary .w32 .add) :: .localSet 1 :: less 2 ++ [.localSet 0]) ++
        [.basic (.br 0)]))

/-- The code of the build that keeps a sum. -/
def loop : Code where
  type := ⟨[.i32], [.i32]⟩
  locals := [.i32]
  body := [.loop .empty turn, .basic .unreachable]

/-- The code of an instance with one function. -/
def program (code : Code) : Program := ⟨#[⟨[.i32], [.i32]⟩], #[code]⟩

/-- The fuel that is enough for an argument. -/
def cost (n : Int) : Nat := 20 * n.toNat + 40

/-- A program whose only function gives Fibonacci numbers up to an argument, if there is enough fuel
and calls may be nested as deep as the argument says, but once at least. -/
def GivesUpTo (p : Program) (k : Nat) : Prop :=
  ∀ (n : Int) (fuel depth : Nat) (stack : List Val) (store : Store), InRange n → n ≤ k →
    cost n ≤ fuel → max 1 n ≤ depth →
    call p fuel depth 0 (word n :: stack) store = .done (word (exact n) :: stack) store

variable {n : Int} {fuel depth k : Nat} {stack : List Val}

theorem steps_test (h : InRange n) (others stack : List Val) (store : Store) :
    test.foldlM Config.step ⟨stack, (word n :: others).toArray, store⟩ =
      .ok ⟨.i32 (if n < 2 then 1 else 0) :: stack, (word n :: others).toArray, store⟩ := by
  have hsteps : test.foldlM Config.step ⟨stack, (word n :: others).toArray, store⟩ =
      .ok ⟨Val.ofBool (Numeric.compare32 .ltS (UInt32.ofInt n) 2) :: stack,
        (word n :: others).toArray, store⟩ := rfl
  rw [hsteps, compare_two h, Val.ofBool]
  simp only [decide_eq_true_eq]

theorem steps_less {a : Int} {x : UInt32} (ha : UInt32.ofInt a = x) (n : Int)
    (others stack : List Val) (store : Store) :
    (less x).foldlM Config.step ⟨stack, (word n :: others).toArray, store⟩ =
      .ok ⟨word (n - a) :: stack, (word n :: others).toArray, store⟩ := by
  rw [word, word, ofInt_sub, ha]
  rfl

theorem step_add (a b : Int) (stack : List Val) (locals : Array Val) (store : Store) :
    Config.step ⟨word b :: word a :: stack, locals, store⟩ (.op (.intBinary .w32 .add)) =
      .ok ⟨word (a + b) :: stack, locals, store⟩ := by
  rw [word, word, word, UInt32.ofInt_add]
  rfl

/-! ## §3 What the build gives that calls itself twice -/

variable {store : Store}

theorem call_twice_of_lt (h : InRange n) (hn : n < 2) (fuel : Nat) :
    call (program twice) (fuel + 8) (depth + 1) 0 (word n :: stack) store =
      .done (word n :: stack) store := by
  have hbody : exec (program twice) (fuel + 7) depth twice.body ⟨[], [word n].toArray, store⟩ =
      .next ⟨[word n], [word n].toArray, store⟩ := by
    have htest := steps_test h [] [] store
    rw [if_pos hn] at htest
    refine (exec_plain (fuel + 4) rfl htest).trans ?_
    rw [exec_cond rfl, if_neg (by decide)]
    rfl
  rw [call_succ rfl]
  exact congrArg (·.toCall 1 stack) hbody

/-- From two on, both calls are made, and their results are added. -/
theorem call_twice_of_le (h : InRange n) (hn : 2 ≤ n) {a b : Int}
    (hfirst : call (program twice) (fuel + 5) depth 0 [word (n - 1)] store = .done [word a] store)
    (hsecond : call (program twice) (fuel + 1) depth 0 [word (n - 2), word a] store =
      .done [word b, word a] store) :
    call (program twice) (fuel + 16) (depth + 1) 0 (word n :: stack) store =
      .done (word (a + b) :: stack) store := by
  have helse : exec (program twice) (fuel + 10) depth
      (row (less 1) ++ .basic (.call 0) :: (row (less 2) ++ .basic (.call 0) ::
        row [.op (.intBinary .w32 .add)])) ⟨[], [word n].toArray, store⟩ =
      .next ⟨[word (a + b)], [word n].toArray, store⟩ := by
    refine (exec_plain (fuel + 7) rfl (steps_less (a := 1) rfl n [] [] store)).trans ?_
    refine (exec_call hfirst).trans ?_
    refine (exec_plain (fuel + 3) rfl (steps_less (a := 2) rfl n [] [word a] store)).trans ?_
    refine (exec_call hsecond).trans ?_
    exact exec_basic rfl (step_add a b [] _ store)
  have hbody : exec (program twice) (fuel + 15) depth twice.body ⟨[], [word n].toArray, store⟩ =
      .next ⟨[word (a + b)], [word n].toArray, store⟩ := by
    have htest := steps_test h [] [] store
    rw [if_neg (by omega)] at htest
    refine (exec_plain (fuel + 12) rfl htest).trans ?_
    rw [exec_cond rfl, if_pos rfl, helse]
    rfl
  rw [call_succ rfl]
  exact congrArg (·.toCall 1 stack) hbody

/-- The build that calls itself twice gives Fibonacci numbers. -/
theorem givesUpTo_twice (k : Nat) : GivesUpTo (program twice) k := by
  unfold GivesUpTo cost
  -- on the bound of the arguments: the calls inside are for smaller ones
  induction k with
  | zero =>
      intro n fuel depth stack store h hn hfuel hdepth
      obtain ⟨fuel, rfl⟩ : ∃ f, fuel = f + 8 := ⟨fuel - 8, by omega⟩
      obtain ⟨depth, rfl⟩ : ∃ d, depth = d + 1 := ⟨depth - 1, by omega⟩
      -- no number below the bound is two or more
      rw [exact_of_lt (by omega)]
      exact call_twice_of_lt h (by omega) fuel
  | succ k ih =>
      intro n fuel depth stack store h hn hfuel hdepth
      obtain ⟨fuel, rfl⟩ : ∃ f, fuel = f + 16 := ⟨fuel - 16, by omega⟩
      obtain ⟨depth, rfl⟩ : ∃ d, depth = d + 1 := ⟨depth - 1, by omega⟩
      by_cases hsmall : n < 2
      · rw [exact_of_lt hsmall]
        exact call_twice_of_lt h hsmall (fuel + 8)
      · obtain ⟨hlow, hhigh⟩ := h
        rw [exact_add (by omega)]
        -- both calls are for smaller numbers, with what is left of the fuel and the depth
        refine call_twice_of_le ⟨hlow, hhigh⟩ (by omega) ?_ ?_
        · exact ih (n - 1) _ _ _ _ ⟨by omega, by omega⟩ (by omega) (by omega) (by omega)
        · exact ih (n - 2) _ _ _ _ ⟨by omega, by omega⟩ (by omega) (by omega) (by omega)

/-! ## §4 What the build gives that keeps a sum -/

variable {p : Program} {sum : Int}

/-- Below two, the loop returns the sum and the argument together. -/
theorem exec_turn_of_lt (h : InRange n) (hn : n < 2) (sum : Int) (p : Program)
    (fuel depth : Nat) (store : Store) :
    exec p (fuel + 10) depth turn ⟨[], [word n, word sum].toArray, store⟩ =
      .ret ⟨[word (sum + n)], [word n, word sum].toArray, store⟩ := by
  have htest := steps_test h [word sum] [] store
  rw [if_pos hn] at htest
  have hyes : exec p (fuel + 5) depth
      (row [.localGet 1, .localGet 0, .op (.intBinary .w32 .add)] ++ [.basic .ret])
      ⟨[], [word n, word sum].toArray, store⟩ =
      .ret ⟨[word (sum + n)], [word n, word sum].toArray, store⟩ := by
    refine (exec_basic rfl rfl).trans ((exec_basic rfl rfl).trans ?_)
    exact (exec_basic rfl (step_add sum n [] _ store)).trans exec_ret
  refine (exec_plain (fuel + 7) rfl htest).trans ?_
  rw [exec_cond rfl, if_neg (by decide), hyes]
  rfl

/-- From two on, the call for one less is added to the sum, and the loop goes on with two less. -/
theorem exec_turn_of_le (h : InRange n) (hn : 2 ≤ n) {a : Int} (sum : Int)
    (hcall : call p (fuel + 8) depth 0 [word (n - 1), word sum] store =
      .done [word a, word sum] store) :
    exec p (fuel + 18) depth turn ⟨[], [word n, word sum].toArray, store⟩ =
      .branch 0 ⟨[], [word (n - 2), word (sum + a)].toArray, store⟩ := by
  have htest := steps_test h [word sum] [] store
  rw [if_neg (by omega)] at htest
  refine (exec_plain (fuel + 15) rfl htest).trans ?_
  rw [exec_cond rfl, if_pos rfl, exec_nil]
  have hless : (less 2).foldlM Config.step ⟨[], [word n, word (sum + a)].toArray, store⟩ =
      .ok ⟨[word (n - 2)], [word n, word (sum + a)].toArray, store⟩ :=
    steps_less (a := 2) rfl n [word (sum + a)] [] store
  show exec p (fuel + 14) depth
    (row (.localGet 1 :: less 1) ++ .basic (.call 0) ::
      (.basic (.op (.intBinary .w32 .add)) :: .basic (.localSet 1) :: (row (less 2) ++
        [.basic (.localSet 0), .basic (.br 0)]))) ⟨[], [word n, word sum].toArray, store⟩ = _
  refine (exec_basic rfl rfl).trans ?_
  refine (exec_plain (fuel + 10) rfl (steps_less (a := 1) rfl n [word sum] [word sum] store)).trans ?_
  refine (exec_call hcall).trans ?_
  refine (exec_basic rfl (step_add sum a [] _ store)).trans ?_
  refine (exec_basic rfl rfl).trans ?_
  refine (exec_plain (fuel + 4) rfl hless).trans ?_
  refine (exec_basic rfl rfl).trans ?_
  exact exec_br 0

/-- The sum and what is still to come make up the result: however often the loop has been run, it
returns the sum and the Fibonacci number for what the argument has become. -/
theorem execLoop_turn (hcalls : GivesUpTo p k) (m : Nat) :
    ∀ (n sum : Int) (fuel : Nat) (store : Store), InRange n → n ≤ k + 1 → n < 2 * m + 2 →
      cost n ≤ fuel + 3 → max 1 n ≤ depth + 1 →
      ∃ locals, execLoop p fuel depth 0 0 turn [] ⟨[], [word n, word sum].toArray, store⟩ =
        .ret ⟨[word (sum + exact n)], locals, store⟩ := by
  unfold GivesUpTo cost at *
  -- the argument loses two in every turn, so half of it bounds the turns that are left
  induction m with
  | zero =>
      intro n sum fuel store h hn hsmall hfuel hdepth
      obtain ⟨fuel, rfl⟩ : ∃ f, fuel = f + 11 := ⟨fuel - 11, by omega⟩
      rw [exact_of_lt (by omega)]
      exact ⟨_, execLoop_ret (exec_turn_of_lt h (by omega) sum p fuel depth store)⟩
  | succ m ih =>
      intro n sum fuel store h hn hsmall hfuel hdepth
      -- the turn returns, or it makes the call for one less and goes on with two less
      by_cases hlast : n < 2
      · obtain ⟨fuel, rfl⟩ : ∃ f, fuel = f + 11 := ⟨fuel - 11, by omega⟩
        rw [exact_of_lt hlast]
        exact ⟨_, execLoop_ret (exec_turn_of_lt h hlast sum p fuel depth store)⟩
      · obtain ⟨fuel, rfl⟩ : ∃ f, fuel = f + 19 := ⟨fuel - 19, by omega⟩
        have hrange := h
        obtain ⟨hlow, hhigh⟩ := h
        have hcall := hcalls (n - 1) (fuel + 8) depth [word sum] store ⟨by omega, by omega⟩
          (by omega) (by omega) (by omega)
        obtain ⟨locals, hrest⟩ := ih (n - 2) (sum + exact (n - 1)) (fuel + 18) store
          ⟨by omega, by omega⟩ (by omega) (by omega) (by omega) (by omega)
        refine ⟨locals, ?_⟩
        rw [execLoop_again (exec_turn_of_le hrange (by omega) sum hcall), hrest,
          exact_add (by omega : 2 ≤ n), Int.add_assoc]

theorem call_loop {v : Val} {locals : Array Val}
    (hloop : execLoop (program loop) fuel depth 0 0 turn [] ⟨[], [word n, word 0].toArray, store⟩ =
      .ret ⟨[v], locals, store⟩) :
    call (program loop) (fuel + 3) (depth + 1) 0 (word n :: stack) store =
      .done (v :: stack) store := by
  have hbody : exec (program loop) (fuel + 2) depth loop.body ⟨[], [word n, word 0].toArray, store⟩ =
      .ret ⟨[v], locals, store⟩ := by
    refine (exec_loop rfl).trans ?_
    rw [hloop]
    rfl
  rw [call_succ rfl]
  exact congrArg (·.toCall 1 stack) hbody

/-- The build that keeps a sum gives Fibonacci numbers. It never gets behind its loop. -/
theorem givesUpTo_loop (k : Nat) : GivesUpTo (program loop) k := by
  -- on the bound; the call in the loop is for a smaller argument than that of the loop
  induction k with
  | zero =>
      intro n fuel depth stack store h hn hfuel hdepth
      unfold cost at hfuel
      obtain ⟨fuel, rfl⟩ : ∃ f, fuel = f + 14 := ⟨fuel - 14, by omega⟩
      obtain ⟨depth, rfl⟩ : ∃ d, depth = d + 1 := ⟨depth - 1, by omega⟩
      have hturn := exec_turn_of_lt h (by omega) 0 (program loop) fuel depth store
      rw [exact_of_lt (by omega)]
      rw [Int.zero_add] at hturn
      exact call_loop (execLoop_ret hturn)
  | succ k ih =>
      intro n fuel depth stack store h hn hfuel hdepth
      obtain ⟨fuel, rfl⟩ : ∃ f, fuel = f + 3 := ⟨fuel - 3, by unfold cost at hfuel; omega⟩
      obtain ⟨depth, rfl⟩ : ∃ d, depth = d + 1 := ⟨depth - 1, by omega⟩
      obtain ⟨locals, hloop⟩ := execLoop_turn ih (k + 1) n 0 fuel store h (by omega)
        (by omega) hfuel hdepth
      rw [Int.zero_add] at hloop
      exact call_loop hloop

end WasmGauge.Fibonacci
