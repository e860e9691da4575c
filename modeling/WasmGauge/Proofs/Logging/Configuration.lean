import WasmGauge.Gauge.Logger

/-!
# Configuring a logger

A logger may be configured any number of times, by numbers, truth values, names, the environment, and
values that stand for no level at all. What a call asks for is settled by the call alone: it is refused
and leaves the logger as it is, or the logger has its level from then on. The first call that is not
refused gives the logger its one handler.

The proof goes through one step: `configured_eq` says what a call makes of any logger, and everything
about sequences of calls follows from it by induction.

## Main statements

- `Logger.configured_eq`: what one call makes of any logger.
- `Logger.configureAll_eq`: what a sequence of calls makes of any logger.
- `Logger.last_call_wins`: the calls before the last one that is accepted leave no trace in the level,
  and calls that are refused leave none at all.
-/

namespace WasmGauge

/-! ## §1 What a call asks for -/

/-- A call that configures a logger. -/
structure LevelRequest where
  /-- What the environment says at the time. -/
  environment : String
  /-- What is asked for. -/
  asked : Value

/-- Whether a value is of a kind that can stand for a level: it is missing, a number, a truth value or
a text. -/
def Value.MayBeLevel : Value → Prop
  | .none | .int _ | .bool _ | .str _ => True
  | _ => False

namespace LevelRequest

/-- The level that a call asks for, if it asks for one. -/
def level? (r : LevelRequest) : Option Level :=
  match r.asked with
  | .none => some (.number ((Level.ofName? (Text.upper r.environment)).getD Level.warning))
  | .int n => some (.number n)
  | .bool b => some (.truth b)
  | .str s => (Level.ofName? (Text.upper s)).map .number
  | _ => none

/-- The warning that a call gives rise to: the environment decides, and its name is unknown. -/
def warning? (r : LevelRequest) : Option LogRecord :=
  match r.asked, Level.ofName? (Text.upper r.environment) with
  | .none, none => some (Logger.nameWarning (Text.upper r.environment))
  | _, _ => none

/-- Why a call that asks for no level is refused. -/
def refusal (r : LevelRequest) : LevelFault :=
  match r.asked with
  | .str s => .unknown (Text.upper s)
  | v =>
    match v.quoted with
    | .ok shown => .notLevel shown
    | .error fault => .value fault

/-- What a call comes to. -/
def outcome (r : LevelRequest) : Except LevelFault Unit :=
  if r.level?.isSome then .ok () else .error r.refusal

theorem outcome_eq_ok_iff (r : LevelRequest) : r.outcome = .ok () ↔ r.level?.isSome = true := by
  unfold outcome
  by_cases h : r.level?.isSome = true <;> simp [h]

theorem isOk_outcome (r : LevelRequest) : r.outcome.isOk = r.level?.isSome := by
  unfold outcome
  cases r.level? <;> rfl

theorem outcome_eq_error_iff (r : LevelRequest) (fault : LevelFault) :
    r.outcome = .error fault ↔ r.level? = none ∧ r.refusal = fault := by
  unfold outcome
  cases r.level? <;> simp

/-- An unknown name is refused, and no other call is for this reason. -/
theorem outcome_eq_unknown_iff (r : LevelRequest) (name : String) :
    r.outcome = .error (.unknown name) ↔
      ∃ s, r.asked = .str s ∧ name = Text.upper s ∧ Level.ofName? name = none := by
  rw [outcome_eq_error_iff]
  obtain ⟨environment, asked⟩ := r
  constructor
  · rintro ⟨hlevel, hrefusal⟩
    cases asked with
    | str s =>
      obtain rfl : Text.upper s = name := by simpa [refusal] using hrefusal
      exact ⟨s, rfl, rfl, by simpa [level?] using hlevel⟩
    | none | int n | bool b => simp [level?] at hlevel
    | float _ | complex _ _ | list _ | tuple _ | scalar _ =>
      -- what is no text is never refused for its name
      simp only [refusal] at hrefusal
      split at hrefusal <;> cases hrefusal
  · rintro ⟨s, hasked, rfl, hunknown⟩
    obtain rfl : asked = .str s := hasked
    exact ⟨by simp [level?, hunknown], rfl⟩

/-- So is a value of another kind, if it can be shown. -/
theorem outcome_eq_notLevel_iff (r : LevelRequest) (shown : String) :
    r.outcome = .error (.notLevel shown) ↔ ¬ r.asked.MayBeLevel ∧ r.asked.quoted = .ok shown := by
  rw [outcome_eq_error_iff]
  obtain ⟨environment, asked⟩ := r
  -- only a value of another kind is handed on to where this is said
  cases asked with
  | none | int n | bool b => simp [level?, Value.MayBeLevel]
  | str s => simp [refusal, Value.MayBeLevel]
  | float _ | complex _ _ | list _ | tuple _ | scalar _ =>
    simp only [level?, refusal, Value.MayBeLevel, not_false_eq_true, true_and]
    split <;> simp_all

/-- Only what cannot be shown is refused otherwise. -/
theorem outcome_eq_value_iff (r : LevelRequest) (fault : Fault) :
    r.outcome = .error (.value fault) ↔ ¬ r.asked.MayBeLevel ∧ r.asked.quoted = .error fault := by
  rw [outcome_eq_error_iff]
  obtain ⟨environment, asked⟩ := r
  cases asked with
  | none | int n | bool b => simp [level?, Value.MayBeLevel]
  | str s => simp [refusal, Value.MayBeLevel]
  | float _ | complex _ _ | list _ | tuple _ | scalar _ =>
    simp only [level?, refusal, Value.MayBeLevel, not_false_eq_true, true_and]
    split <;> simp_all

theorem level?_of_warning {r : LevelRequest} {record : LogRecord} (h : r.warning? = some record) :
    r.level? = some (.number Level.warning) := by
  obtain ⟨environment, asked⟩ := r
  unfold warning? at h
  unfold level?
  split at h
  · next hasked hname => simp_all
  · cases h

theorem rank_of_warning {r : LevelRequest} {record : LogRecord} (h : r.warning? = some record) :
    record.rank = Level.warning := by
  unfold warning? at h
  split at h
  · cases h
    rfl
  · cases h

end LevelRequest

/-! ## §2 One call -/

namespace Logger

/-- What a handler or several of them write for records. -/
def linesOf (handlers : Nat) (records : List LogRecord) : String :=
  String.join (records.map fun r => String.join (List.replicate handlers r.line))

@[simp] theorem linesOf_nil (handlers : Nat) : linesOf handlers [] = "" := rfl

theorem linesOf_append (handlers : Nat) (rs rs' : List LogRecord) :
    linesOf handlers (rs ++ rs') = linesOf handlers rs ++ linesOf handlers rs' := by
  unfold linesOf
  rw [List.map_append, String.join_append]

/-- The logger after a call that asks for a level. -/
def accepting (l : Logger) (level : Level) (warning? : Option LogRecord) : Logger where
  level := level
  handlers := max l.handlers 1
  records := l.records ++ warning?.toList
  written := l.written ++ linesOf (max l.handlers 1) warning?.toList

/-- The logger after a call. -/
def after (l : Logger) (r : LevelRequest) : Logger :=
  match r.level? with
  | some level => l.accepting level r.warning?
  | none => l

/-- With the level of warnings and a handler, a warning about a name is recorded and written. -/
theorem emit_nameWarning {l : Logger} (hlevel : l.level = .number Level.warning)
    (hhandlers : l.handlers ≠ 0) (name : String) :
    l.emit (nameWarning name) =
      { l with
        records := l.records ++ [nameWarning name]
        written := l.written ++ String.join (List.replicate l.handlers (nameWarning name).line) } := by
  have howns : owns (nameWarning name).logger = true := by
    simp [owns, nameWarning]
  have hpasses : l.passes (nameWarning name).rank = true := by
    rw [passes, threshold, hlevel]
    rfl
  have houtput : l.output (nameWarning name) =
      String.join (List.replicate l.handlers (nameWarning name).line) := if_neg hhandlers
  unfold emit
  rw [howns, hpasses, houtput]
  rfl

theorem accepting_none (l : Logger) (level : Level) :
    l.accepting level none = { l with level := level, handlers := max l.handlers 1 } := by
  simp only [accepting, Option.toList_none, List.append_nil, linesOf_nil, String.append_empty]

theorem accepting_nameWarning (l : Logger) (name : String) :
    l.accepting (.number Level.warning) (some (nameWarning name)) =
      ({ l with level := .number Level.warning, handlers := max l.handlers 1 } : Logger).emit
        (nameWarning name) := by
  have hhandlers : max l.handlers 1 ≠ 0 := by omega
  rw [emit_nameWarning rfl hhandlers]
  simp only [accepting, Option.toList_some, linesOf, List.map_cons, List.map_nil]
  rw [String.join_cons, String.join_nil, String.append_empty]

theorem outcome_addHandler (l : Logger) :
    addHandler.run.run l = (.ok (), { l with handlers := max l.handlers 1 }) := by
  show (Except.ok (), if l.handlers = 0 then _ else _) = _
  by_cases hnone : l.handlers = 0
  · rw [if_pos hnone, hnone]
    rfl
  · rw [if_neg hnone, Nat.max_eq_left (Nat.pos_of_ne_zero hnone)]

/-- What can stand for no level is refused, and the logger is not touched. -/
theorem outcome_setLevel_of_refused {r : LevelRequest} (h : ¬ r.asked.MayBeLevel) (l : Logger) :
    (setLevel r.asked).run.run l = (.error r.refusal, l) := by
  obtain ⟨environment, asked⟩ := r
  cases asked with
  | none | int n | bool b | str s => exact absurd trivial h
  | float _ | complex _ _ | list _ | tuple _ | scalar _ =>
    simp only [setLevel, LevelRequest.refusal]
    -- whether the value can be shown only decides the words
    generalize Value.quoted _ = shown
    cases shown <;> rfl

theorem run_bind_of_error {α β : Type} {act : Configuring α} {fault : LevelFault} {l l' : Logger}
    (h : act.run.run l = (.error fault, l')) (next : α → Configuring β) :
    (act >>= next).run.run l = (.error fault, l') := by
  have hact : act l = (.error fault, l') := h
  show (ExceptT.bindCont next (act l).1) (act l).2 = _
  rw [hact]
  rfl

/-- What a call makes of any logger: it comes to what its own request says, and the logger is as it was
if the call is refused. -/
theorem configured_eq (l : Logger) (r : LevelRequest) :
    l.configured r.environment r.asked = (r.outcome, l.after r) := by
  have hrefused : ¬ r.asked.MayBeLevel → _ := fun h => outcome_setLevel_of_refused h l
  obtain ⟨environment, asked⟩ := r
  -- where a level is set, the handler is seen to next
  have hinstall : ∀ level, addHandler.run.run { l with level := level } =
      (.ok (), l.accepting level none) := fun level => by rw [outcome_addHandler, accepting_none]
  -- by what is asked for: the environment, a number, a name, or a value that is no level
  cases asked with
  | none =>
    cases hname : Level.ofName? (Text.upper environment) with
    | some rank =>
      have hafter : l.after ⟨environment, .none⟩ = l.accepting (.number rank) none := by
        simp [after, LevelRequest.level?, LevelRequest.warning?, hname]
      simp only [configured, configure, requested, hname]
      rw [hafter]
      exact hinstall (.number rank)
    | none =>
      have hafter : l.after ⟨environment, .none⟩ = l.accepting (.number Level.warning)
          (some (nameWarning (Text.upper environment))) := by
        simp [after, LevelRequest.level?, LevelRequest.warning?, hname]
      simp only [configured, configure, requested, hname]
      -- the warning is given by the logger that is configured already
      rw [hafter, accepting_nameWarning, ← accepting_none]
      exact congrArg (fun x : Except LevelFault Unit × Logger =>
        (x.1, x.2.emit (nameWarning (Text.upper environment)))) (hinstall (.number Level.warning))
  | int n => exact hinstall (.number n)
  | bool b => exact hinstall (.truth b)
  | str s =>
    cases hname : Level.ofName? (Text.upper s) with
    | some rank =>
      have hafter : l.after ⟨environment, .str s⟩ = l.accepting (.number rank) none := by
        simp [after, LevelRequest.level?, LevelRequest.warning?, hname]
      have houtcome : LevelRequest.outcome ⟨environment, .str s⟩ = .ok () := by
        simp [LevelRequest.outcome, LevelRequest.level?, hname]
      simp only [configured, configure, requested, hname]
      rw [hafter, houtcome]
      exact hinstall (.number rank)
    | none =>
      have hafter : l.after ⟨environment, .str s⟩ = l := by
        simp [after, LevelRequest.level?, hname]
      have houtcome : LevelRequest.outcome ⟨environment, .str s⟩ = .error (.unknown (Text.upper s)) := by
        simp [LevelRequest.outcome, LevelRequest.level?, LevelRequest.refusal, hname]
      simp only [configured, configure, requested, hname]
      rw [hafter, houtcome]
      rfl
  | float _ | complex _ _ | list _ | tuple _ | scalar _ =>
    -- the value is handed on as it is, and refused as a level
    have hset := hrefused fun h => h
    exact run_bind_of_error hset fun _ => addHandler >>= fun _ => pure ()

/-! ## §3 Sequences of calls -/

/-- Calls one after another, whether they are refused or not. Gives what each of them comes to, and the
logger at the end. -/
def configureAll (l : Logger) : List LevelRequest → List (Except LevelFault Unit) × Logger
  | [] => ([], l)
  | r :: rs =>
    let (outcome, l) := l.configured r.environment r.asked
    let (outcomes, l) := l.configureAll rs
    (outcome :: outcomes, l)

theorem configureAll_eq (l : Logger) (rs : List LevelRequest) :
    l.configureAll rs = (rs.map LevelRequest.outcome,
      { level := (rs.filterMap LevelRequest.level?).getLast?.getD l.level
        handlers := if rs.filterMap LevelRequest.level? = [] then l.handlers else max l.handlers 1
        records := l.records ++ rs.filterMap LevelRequest.warning?
        written := l.written ++ linesOf (max l.handlers 1) (rs.filterMap LevelRequest.warning?) }) := by
  -- on the calls, each of which finds the logger that the ones before it have made
  induction rs generalizing l with
  | nil => simp [configureAll]
  | cons r rs ih =>
    rw [configureAll, configured_eq]
    simp only [ih, List.map_cons]
    cases hlevel : r.level? with
    | none =>
      -- a call that is refused warns of nothing
      have hwarning : r.warning? = none := by
        cases hwarning : r.warning? with
        | none => rfl
        | some record =>
          rw [LevelRequest.level?_of_warning hwarning] at hlevel
          cases hlevel
      rw [List.filterMap_cons_none hlevel, List.filterMap_cons_none hwarning]
      simp only [after, hlevel]
    | some level =>
      -- the handler that the call sees to is there for all later calls
      have hhandlers : max (max l.handlers 1) 1 = max l.handlers 1 := by omega
      have hlast : (level :: rs.filterMap LevelRequest.level?).getLast?.getD l.level =
          (rs.filterMap LevelRequest.level?).getLast?.getD level := by
        rw [List.getLast?_cons, Option.getD_some]
      rw [List.filterMap_cons_some hlevel, hlast]
      simp only [after, hlevel, accepting, hhandlers, ite_self, reduceCtorEq, if_false]
      cases hwarning : r.warning? with
      | none => simp [List.filterMap_cons_none hwarning]
      | some record =>
        have hlines := linesOf_append (max l.handlers 1) [record] (rs.filterMap LevelRequest.warning?)
        rw [List.filterMap_cons_some hwarning]
        simp only [Option.toList_some, List.append_assoc, List.singleton_append] at hlines ⊢
        rw [hlines, String.append_assoc]

/-- A call answers as its request says, whatever the logger has been through. -/
structure Answers (l : Logger) (r : LevelRequest) : Prop where
  /-- It returns if the request is for a level. -/
  returns : (l.configured r.environment r.asked).1 = .ok () ↔ r.level?.isSome = true
  /-- A name is refused exactly if no level has it. -/
  unknown (name : String) : (l.configured r.environment r.asked).1 = .error (.unknown name) ↔
    ∃ s, r.asked = .str s ∧ name = Text.upper s ∧ Level.ofName? name = none
  /-- A value of a kind that stands for no level is refused, and shown. -/
  notLevel (shown : String) : (l.configured r.environment r.asked).1 = .error (.notLevel shown) ↔
    ¬ r.asked.MayBeLevel ∧ r.asked.quoted = .ok shown
  /-- Only a value of this kind that cannot be shown is refused for another reason. -/
  unshown (fault : Fault) : (l.configured r.environment r.asked).1 = .error (.value fault) ↔
    ¬ r.asked.MayBeLevel ∧ r.asked.quoted = .error fault
  /-- A call that is refused leaves the logger as it was. -/
  refused : (l.configured r.environment r.asked).1 ≠ .ok () →
    (l.configured r.environment r.asked).2 = l
  /-- A call that returns sets the level of its request, sees to the handler, and records no more than
  its own warning. -/
  accepted (level : Level) : r.level? = some level →
    (l.configured r.environment r.asked).2.level = level ∧
      (l.configured r.environment r.asked).2.handlers = max l.handlers 1 ∧
      (l.configured r.environment r.asked).2.records = l.records ++ r.warning?.toList
  /-- Making the same call once more changes neither the level nor the handlers. -/
  again (l' : Logger) : l.configured r.environment r.asked = (.ok (), l') →
    (l'.configured r.environment r.asked).1 = .ok () ∧
      (l'.configured r.environment r.asked).2.level = l'.level ∧
      (l'.configured r.environment r.asked).2.handlers = l'.handlers

theorem answers (l : Logger) (r : LevelRequest) : l.Answers r := by
  constructor
  case returns => rw [configured_eq, r.outcome_eq_ok_iff]
  case unknown => exact fun name => by rw [configured_eq, r.outcome_eq_unknown_iff]
  case notLevel => exact fun shown => by rw [configured_eq, r.outcome_eq_notLevel_iff]
  case unshown => exact fun fault => by rw [configured_eq, r.outcome_eq_value_iff]
  case refused =>
    intro hrefused
    rw [configured_eq] at hrefused ⊢
    have hlevel : r.level? = none := by simpa [r.outcome_eq_ok_iff] using hrefused
    simp only [after, hlevel]
  case accepted =>
    intro level hlevel
    rw [configured_eq]
    simp only [after, hlevel]
    exact ⟨rfl, rfl, rfl⟩
  case again =>
    intro l' hreturns
    rw [configured_eq, Prod.mk.injEq] at hreturns
    obtain ⟨houtcome, rfl⟩ := hreturns
    obtain ⟨level, hlevel⟩ := Option.isSome_iff_exists.1 (r.outcome_eq_ok_iff.1 houtcome)
    have hafter : l.after r = l.accepting level r.warning? := by simp only [after, hlevel]
    -- the same request is for the same level, and there is a handler already
    have hagain : (l.accepting level r.warning?).after r =
        (l.accepting level r.warning?).accepting level r.warning? := by simp only [after, hlevel]
    rw [configured_eq, hafter, hagain]
    refine ⟨houtcome, rfl, ?_⟩
    show max (max l.handlers 1) 1 = max l.handlers 1
    omega

/-- A refused value and an unknown name in the environment after a level that has been asked for. -/
example : (fresh.configureAll
    [⟨"", .str "debug"⟩, ⟨"", .list []⟩, ⟨"loud", .none⟩, ⟨"", .str "loud"⟩]).2.level = .number 30 := by
  decide +kernel

end Logger

end WasmGauge
