import WasmGauge.Proofs.Logging.Configuration
import WasmGauge.Proofs.Number.Range

/-!
# Entries for records

A logger is configured and something is logged, any number of times and in any order. Whatever has
happened before, a message that is logged next is written once or not at all. Which of the two depends
on its number and the level in force; how it is written depends on whether the logger has been configured
with success. How often that has been tried makes no difference.

Only a number with more than 4300 digits is no name for a level, and then logging fails if the message
would be written.

What one event keeps up is the invariant `Ready`: the logger has one handler if it has been configured
with success, and otherwise none, and its first level. The rest is induction on the events.

## Main statements

- `Logger.ready_follow`: the invariant after any sequence of events.
- `Logger.written_once`: what a message and a configuring add to the text that has been written.
-/

namespace WasmGauge

/-! ## §1 Names of levels -/

namespace Level

theorem nameOf_of_lt {rank : Int} (h : rank.natAbs < tenPow digitLimit) :
    ∃ level, nameOf rank = .ok level := by
  unfold nameOf
  cases names.find? (·.2 == rank) with
  | some x => exact ⟨x.1, rfl⟩
  | none =>
    simp only [intText_of_lt h]
    exact ⟨_, rfl⟩

/-- All numbers with names of their own are small. -/
theorem nameOf_of_le {rank : Int} (h : (tenPow digitLimit : Int) ≤ rank) :
    nameOf rank = .error .digitLimit := by
  have hhundred : tenPow 2 ≤ tenPow digitLimit := tenPow_le_tenPow (by decide)
  have hlarge : (tenPow 2 : Int) ≤ rank := le_trans (by exact_mod_cast hhundred) h
  have hsmall : ∀ x ∈ names, x.2 < (tenPow 2 : Int) := by decide
  have hunnamed : names.find? (·.2 == rank) = none := by
    rw [List.find?_eq_none]
    intro x hx heq
    have hrank := hsmall x hx
    rw [beq_iff_eq.1 heq] at hrank
    exact absurd hlarge (not_le.2 hrank)
  have hlong : tenPow digitLimit ≤ rank.natAbs := by omega
  unfold nameOf
  rw [hunnamed]
  simp only [intText_eq_error_iff.2 ⟨rfl, hlong⟩]
  rfl

end Level

namespace LogRecord

variable {rank : Int} {level name message : String}

theorem make_of_nameOf (h : Level.nameOf rank = .ok level) :
    make rank name message = .ok ⟨rank, level, name, message, h⟩ := by
  unfold make
  split
  · next level' h' =>
    obtain rfl : level' = level := Except.ok.inj (h'.symm.trans h)
    rfl
  · next fault h' => cases h'.symm.trans h

theorem make_of_nameOf_error {fault : Fault} (h : Level.nameOf rank = .error fault) :
    make rank name message = .error fault := by
  unfold make
  split
  · next level' h' => cases h'.symm.trans h
  · next fault' h' =>
    obtain rfl : fault' = fault := Except.error.inj (h'.symm.trans h)
    rfl

end LogRecord

namespace Logger

/-! ## §2 Events -/

/-- What happens to a logger. -/
inductive Event where
  /-- It is configured. -/
  | configure (request : LevelRequest)
  /-- A message is logged under a name with a number. -/
  | log (rank : Int) (name message : String)

/-- The level that an event asks for, if it asks for one. -/
def Event.level? : Event → Option Level
  | .configure r => r.level?
  | .log _ _ _ => none

/-- The logger after something is logged. A failure is left to whoever logs, and changes nothing. -/
def logged (l : Logger) (rank : Int) (name message : String) : Logger :=
  match l.log rank name message with
  | .ok l' => l'
  | .error _ => l

/-- Events one after another. Gives what each configuring comes to, and the logger at the end. -/
def follow (l : Logger) : List Event → List (Except LevelFault Unit) × Logger
  | [] => ([], l)
  | .configure r :: es =>
    let (outcome, l) := l.configured r.environment r.asked
    let (outcomes, l) := l.follow es
    (outcome :: outcomes, l)
  | .log rank name message :: es => (l.logged rank name message).follow es

def isConfigured (l : Logger) (es : List Event) : Bool := (l.follow es).1.any (·.isOk)

variable {l : Logger} {b : Bool}

theorem follow_configure (l : Logger) (r : LevelRequest) (es : List Event) :
    l.follow (.configure r :: es) =
      (r.outcome :: ((l.after r).follow es).1, ((l.after r).follow es).2) := by
  rw [follow, configured_eq]

theorem follow_append (l : Logger) (es es' : List Event) :
    (l.follow (es ++ es')).2 = ((l.follow es).2.follow es').2 := by
  -- on the first events, after which the others begin
  induction es generalizing l with
  | nil => rfl
  | cons e es ih =>
    cases e with
    | configure r => rw [List.cons_append, follow_configure, follow_configure, ih]
    | log rank name message => exact ih (l.logged rank name message)

/-! ## §3 One event -/

/-- A logger that nobody had configured at the beginning, and that has been configured with success
since then, or not. -/
structure Ready (b : Bool) (l : Logger) : Prop where
  handlers : l.handlers = if b then 1 else 0
  level : b = false → l.level = .number 0

theorem ready_fresh : Ready false fresh := ⟨rfl, fun _ => rfl⟩

theorem emit_eq (l : Logger) (r : LogRecord) :
    (l.emit r).level = l.level ∧ (l.emit r).handlers = l.handlers := by
  unfold emit
  -- recorded, written or neither: none of the three sets a level or a handler
  split
  · exact ⟨rfl, rfl⟩
  · split <;> exact ⟨rfl, rfl⟩

theorem logged_eq (l : Logger) (rank : Int) (name message : String) :
    (l.logged rank name message).level = l.level ∧
      (l.logged rank name message).handlers = l.handlers := by
  unfold logged log
  cases l.heeds name rank with
  | false => exact ⟨rfl, rfl⟩
  | true =>
    -- a record is handed on, or none has been made
    cases LogRecord.make rank name message with
    | ok r => exact l.emit_eq r
    | error fault => exact ⟨rfl, rfl⟩

theorem Ready.logged (h : Ready b l) (rank : Int) (name message : String) :
    Ready b (l.logged rank name message) := by
  obtain ⟨hlevel, hhandlers⟩ := l.logged_eq rank name message
  constructor
  · rw [hhandlers, h.handlers]
  · intro hb
    rw [hlevel, h.level hb]

theorem Ready.after (h : Ready b l) (r : LevelRequest) :
    Ready (b || r.outcome.isOk) (l.after r) := by
  rw [r.isOk_outcome, Logger.after]
  cases hlevel : r.level? with
  | none =>
    rw [Option.isSome_none, Bool.or_false]
    exact h
  | some level =>
    -- a handler is added if there is none, so that there is one now
    have hhandlers : max l.handlers 1 = 1 := by
      rw [h.handlers]
      cases b <;> rfl
    rw [Option.isSome_some, Bool.or_true]
    exact ⟨hhandlers, fun hfalse => Bool.noConfusion hfalse⟩

theorem ready_follow (h : Ready b l) (es : List Event) :
    Ready (b || l.isConfigured es) (l.follow es).2 := by
  -- on the events, for a logger that has been configured or not
  induction es generalizing l b with
  | nil =>
    show Ready (b || false) l
    rw [Bool.or_false]
    exact h
  | cons e es ih =>
    cases e with
    | configure r =>
      -- what one event keeps up, with its own success counted in
      have hrest := ih (h.after r)
      rw [Bool.or_assoc] at hrest
      rw [isConfigured, follow_configure]
      exact hrest
    | log rank name message => exact ih (h.logged rank name message)

theorem level_follow (l : Logger) (es : List Event) :
    (l.follow es).2.level = (es.filterMap Event.level?).getLast?.getD l.level := by
  -- on the events: only configuring sets a level, and a refusal sets none
  induction es generalizing l with
  | nil => rfl
  | cons e es ih =>
    cases e with
    | configure r =>
      have hevent : Event.level? (.configure r) = r.level? := rfl
      rw [follow_configure, ih, Logger.after]
      cases hlevel : r.level? with
      | none => rw [List.filterMap_cons_none (hevent.trans hlevel)]
      | some level =>
        rw [List.filterMap_cons_some (hevent.trans hlevel), List.getLast?_cons, Option.getD_some]
        rfl
    | log rank name message =>
      have hrest := ih (l.logged rank name message)
      rw [(l.logged_eq rank name message).1] at hrest
      exact hrest

/-! ## §4 What is written -/

variable {rank : Int} {name message : String}

/-- What becomes of a message that is logged, by whether it passes and by the entry that is written for
it under the name of a level. -/
structure Accounts (l : Logger) (rank : Int) (name message : String) (passes : Prop)
    (entry : String → String) : Prop where
  /-- What does not pass changes nothing, whatever its number. -/
  unheeded : ¬ passes → l.log rank name message = .ok l
  /-- What passes is written once. -/
  written : passes → rank < tenPow digitLimit → ∃ level l', Level.nameOf rank = .ok level ∧
    l.log rank name message = .ok l' ∧ l'.written = l.written ++ entry level
  /-- What passes with too long a number cannot be logged, and is not written. -/
  refused : passes → tenPow digitLimit ≤ rank → l.log rank name message = .error .digitLimit

theorem passes_iff (l : Logger) (rank : Int) :
    l.passes rank = true ↔ 0 < rank ∧ (if l.level.rank = 0 then 30 else l.level.rank) ≤ rank := by
  unfold passes threshold Level.warning
  rw [Bool.and_eq_true, decide_eq_true_eq, decide_eq_true_eq]

/-- A record that passes is written by the handlers; without one, the bare message is. -/
theorem written_emit {r : LogRecord} (howns : owns r.logger = true) (hpasses : l.passes r.rank = true) :
    (l.emit r).written = l.written ++ l.output r := by
  have hforeign : ¬ (!owns r.logger) = true := by simp [howns]
  unfold emit
  rw [if_neg hforeign, if_pos hpasses]

/-- Whether a message passes, and what the handlers write for its record, decide everything. -/
theorem accounts_of_output {passes : Prop} {entry : String → String} (hname : owns name = true)
    (hpasses : l.passes rank = true ↔ passes) (hpositive : passes → 0 ≤ rank)
    (houtput : passes → ∀ level (h : Level.nameOf rank = .ok level),
      l.output ⟨rank, level, name, message, h⟩ = entry level) :
    l.Accounts rank name message passes entry := by
  have hheeds : l.heeds name rank = l.passes rank := if_pos hname
  constructor
  case unheeded =>
    intro hnot
    unfold log
    rw [hheeds, if_neg (mt hpasses.1 hnot)]
  case written =>
    intro hyes hshort
    have hpositive := hpositive hyes
    have hdigits : rank.natAbs < tenPow digitLimit := by omega
    obtain ⟨level, hlevel⟩ := Level.nameOf_of_lt hdigits
    refine ⟨level, l.emit ⟨rank, level, name, message, hlevel⟩, hlevel, ?_, ?_⟩
    · unfold log
      rw [hheeds, if_pos (hpasses.2 hyes), LogRecord.make_of_nameOf hlevel]
      rfl
    · rw [written_emit hname (hpasses.2 hyes), houtput hyes level hlevel]
  case refused =>
    intro hyes hlong
    unfold log
    rw [hheeds, if_pos (hpasses.2 hyes), LogRecord.make_of_nameOf_error (Level.nameOf_of_le hlong)]
    rfl

/-- With its one handler, a logger writes a line for what passes. -/
theorem Ready.accounts (h : Ready true l) (hname : owns name = true) :
    l.Accounts rank name message
      (0 < rank ∧ (if l.level.rank = 0 then 30 else l.level.rank) ≤ rank)
      fun level => "<time> [" ++ level ++ "] " ++ name ++ ": " ++ message ++ "\n" := by
  refine accounts_of_output hname (l.passes_iff rank) (fun hyes => hyes.1.le) fun _ level hlevel => ?_
  have hone : l.handlers = 1 := h.handlers
  unfold output
  rw [hone, if_neg Nat.one_ne_zero, List.replicate_one, String.join_cons, String.join_nil,
    String.append_empty]
  rfl

/-- Without a handler, the level in force and the least level of bare messages are the same. -/
theorem Ready.accounts_bare (h : Ready false l) (hname : owns name = true) :
    l.Accounts rank name message (30 ≤ rank) fun _ => message ++ "\n" := by
  have hpasses : l.passes rank = true ↔ 30 ≤ rank := by
    rw [passes_iff, h.level rfl]
    show 0 < rank ∧ 30 ≤ rank ↔ 30 ≤ rank
    omega
  refine accounts_of_output hname hpasses (fun hyes => by omega) fun hyes level hlevel => ?_
  have hoff : l.handlers = 0 := h.handlers
  unfold output
  rw [if_pos hoff]
  exact if_pos hyes

/-- Configuring writes the warning about an unknown name, if there is one. -/
theorem Ready.written_after (h : Ready b l) (q : LevelRequest) :
    (l.after q).written = l.written ++ (q.warning?.map LogRecord.line).getD "" := by
  have hhandlers : max l.handlers 1 = 1 := by
    rw [h.handlers]
    cases b <;> rfl
  unfold Logger.after
  cases hwarning : q.warning? with
  | none =>
    rw [Option.map_none, Option.getD_none, String.append_empty]
    cases q.level? with
    | none => rfl
    | some level =>
      show (l.accepting level none).written = l.written
      rw [accepting_none]
  | some warning =>
    rw [LevelRequest.level?_of_warning hwarning]
    simp only [accepting, hhandlers, linesOf, Option.toList_some, List.map_cons, List.map_nil,
      List.replicate_one, String.join_cons, String.join_nil, String.append_empty, Option.map_some,
      Option.getD_some]

/-- Whatever has happened to a fresh logger, a message that is logged next under its name or one below it
is written once or not at all. Once the logger has been configured with success, a line with the name of
the level is written, if the number of the message is positive and reaches the level that was asked for
last, where zero stands for the level of warnings. Before that, the bare message is written from warnings
on. What would be written with a number of more than 4300 digits cannot be logged. A configuring writes
no more than the warning about an unknown name, once, and as the handler does. -/
theorem written_once (past : List Event) (rank : Int) (name message : String)
    (hname : owns name = true) :
    (fresh.isConfigured past = true →
      (fresh.follow past).2.level = (past.filterMap Event.level?).getLast?.getD (.number 0) ∧
      (fresh.follow past).2.Accounts rank name message
        (0 < rank ∧ (if (fresh.follow past).2.level.rank = 0 then 30
          else (fresh.follow past).2.level.rank) ≤ rank)
        fun level => "<time> [" ++ level ++ "] " ++ name ++ ": " ++ message ++ "\n") ∧
    (fresh.isConfigured past = false →
      (fresh.follow past).2.Accounts rank name message (30 ≤ rank) fun _ => message ++ "\n") ∧
    ∀ q, (fresh.follow (past ++ [.configure q])).2.written = (fresh.follow past).2.written ++
      (q.warning?.map LogRecord.line).getD "" := by
  have hready : Ready (fresh.isConfigured past) (fresh.follow past).2 := ready_follow ready_fresh past
  refine ⟨fun hsuccess => ⟨level_follow fresh past, ?_⟩, fun hfailure => ?_, fun q => ?_⟩
  · rw [hsuccess] at hready
    exact hready.accounts hname
  · rw [hfailure] at hready
    exact hready.accounts_bare hname
  · rw [follow_append, follow_configure]
    exact hready.written_after q

/-- A level, a value that is none, the same level again, and an unknown name in the environment: the
error that is logged next is written once. -/
theorem written_once_after_four :
    owns "wasmbench.core" = true ∧ ∃ l,
      (fresh.follow [.configure ⟨"", .str "debug"⟩, .configure ⟨"", .list []⟩,
        .configure ⟨"", .str "debug"⟩, .configure ⟨"loud", .none⟩]).2.log 40 "wasmbench.core" "lost" =
          .ok l ∧
      l.written =
        "<time> [WARNING] wasmbench: Invalid WASMBENCH_LOG_LEVEL 'LOUD', using WARNING\n" ++
          "<time> [ERROR] wasmbench.core: lost\n" := by
  have hname : owns "wasmbench.core" = true := by decide
  have hhundred : tenPow 2 ≤ tenPow digitLimit := tenPow_le_tenPow (by decide)
  have hshort : (40 : Int) < tenPow digitLimit :=
    lt_of_lt_of_le (by decide : (40 : Int) < tenPow 2) (Int.ofNat_le.2 hhundred)
  obtain ⟨hconfigured, -, -⟩ := written_once [.configure ⟨"", .str "debug"⟩,
    .configure ⟨"", .list []⟩, .configure ⟨"", .str "debug"⟩, .configure ⟨"loud", .none⟩] 40
    "wasmbench.core" "lost" hname
  obtain ⟨-, haccounts⟩ := hconfigured (by decide +kernel)
  obtain ⟨level, l, hlevel, hlog, hwritten⟩ := haccounts.written (by decide +kernel) hshort
  obtain rfl : "ERROR" = level := Except.ok.inj hlevel
  exact ⟨hname, l, hlog, hwritten.trans (by decide +kernel)⟩

/-- After a level has been set with success, a message with a number of 4301 digits is not written; and
the warning that the first success of all gives rise to is written with its level. -/
theorem not_forall_written :
    (fresh.isConfigured [.configure ⟨"", .str "debug"⟩] = true ∧ owns "wasmbench.core" = true ∧
      (fresh.follow [.configure ⟨"", .str "debug"⟩]).2.level = .number 10 ∧
      10 ≤ (tenPow digitLimit : Int) ∧
      (fresh.follow [.configure ⟨"", .str "debug"⟩]).2.log (tenPow digitLimit) "wasmbench.core" "lost" =
        .error .digitLimit) ∧
    fresh.isConfigured [] = false ∧
      (fresh.follow [.configure ⟨"loud", .none⟩]).2.written =
        "<time> [WARNING] wasmbench: Invalid WASMBENCH_LOG_LEVEL 'LOUD', using WARNING\n" := by
  have hname : owns "wasmbench.core" = true := by decide
  have hten : ((tenPow 1 : Nat) : Int) ≤ tenPow digitLimit :=
    Int.ofNat_le.2 (tenPow_le_tenPow (by decide))
  have hready : Ready true (fresh.follow [.configure ⟨"", .str "debug"⟩]).2 :=
    ready_follow ready_fresh [.configure ⟨"", .str "debug"⟩]
  have hlevel : (fresh.follow [.configure ⟨"", .str "debug"⟩]).2.level = .number 10 := by
    decide +kernel
  refine ⟨⟨by decide +kernel, hname, hlevel, hten, ?_⟩, rfl, by decide +kernel⟩
  refine (hready.accounts hname).refused ⟨lt_of_lt_of_le (by decide) hten, ?_⟩ le_rfl
  rw [hlevel]
  exact hten

end Logger

end WasmGauge
