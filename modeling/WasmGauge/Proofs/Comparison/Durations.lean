import WasmGauge.Proofs.Comparison.Lines
import WasmGauge.Proofs.Decimal.Numerals

/-!
# Durations in reports

The line of a report ends in the milliseconds that a call took, with two digits after the point. For a
finite double these are the hundredths nearest to it, a tie going to the even digit, with the sign of
the double. There is no line only if an integer with too many digits would stand in it or a sequence
that is nested too deep, and the time has nothing to do with that.

## Main statements

- `Measurement.writes_lineWithin`: when there is a line.
- `Measurement.line_duration`: what it ends in.
-/

namespace WasmGauge

open Decimal (numeral)

/-! ## §1 What can be written -/

/-- An integer that stands in a value, alone or inside of sequences. -/
inductive Value.HasInteger : Value → Int → Prop where
  | int (i : Int) : HasInteger (.int i) i
  | list {items : List Value} {v : Value} {i : Int} :
    v ∈ items → HasInteger v i → HasInteger (.list items) i
  | tuple {items : List Value} {v : Value} {i : Int} :
    v ∈ items → HasInteger v i → HasInteger (.tuple items) i

/-- A value is short if no integer in it has more than 4300 digits. -/
def Value.IsShort (v : Value) : Prop := ∀ i, v.HasInteger i → i.natAbs < tenPow digitLimit

/-- A value is shallow for a depth if no more values than that are nested inside of one another in
it. -/
def Value.IsShallow : Nat → Value → Prop
  | 0, _ => False
  | depth + 1, .list items => ∀ v ∈ items, v.IsShallow depth
  | depth + 1, .tuple items => ∀ v ∈ items, v.IsShallow depth
  | _ + 1, _ => True

/-- What writing something comes to: it is written if it is short and shallow, and otherwise refused
for what it is not. -/
inductive Writes {α : Type} (short shallow : Prop) : Except Fault α → Prop where
  | written (hshort : short) (hshallow : shallow) (a : α) : Writes short shallow (.ok a)
  | long (hlong : ¬ short) : Writes short shallow (.error .digitLimit)
  | deep (hdeep : ¬ shallow) : Writes short shallow (.error .depth)

namespace Writes

variable {α β : Type} {P P' Q Q' : Prop} {r : Except Fault α}

theorem congr (h : Writes P Q r) (hshort : P ↔ P') (hshallow : Q ↔ Q') : Writes P' Q' r := by
  rwa [← propext hshort, ← propext hshallow]

/-- Of two things that are written one after the other, each may be refused. -/
theorem bind {f : α → Except Fault β} (hr : Writes P Q r) (hf : ∀ a, Writes P' Q' (f a)) :
    Writes (P ∧ P') (Q ∧ Q') (r >>= f) := by
  cases hr with
  | long hlong => exact .long fun h => hlong h.1
  | deep hdeep => exact .deep fun h => hdeep h.1
  | written hshort hshallow a =>
    have hnext := hf a
    show Writes (P ∧ P') (Q ∧ Q') (f a)
    generalize f a = next at hnext ⊢
    cases hnext with
    | written hshort' hshallow' b => exact .written ⟨hshort, hshort'⟩ ⟨hshallow, hshallow'⟩ b
    | long hlong => exact .long fun h => hlong h.2
    | deep hdeep => exact .deep fun h => hdeep h.2

theorem map {f : α → β} (hr : Writes P Q r) : Writes P Q (r >>= fun a => .ok (f a)) :=
  (hr.bind fun a => .written trivial trivial (f a)).congr (and_iff_left trivial)
    (and_iff_left trivial)

theorem mapM {f : Value → Except Fault β} {short shallow : Value → Prop}
    (h : ∀ v, Writes (short v) (shallow v) (f v)) (vs : List Value) :
    Writes (∀ v ∈ vs, short v) (∀ v ∈ vs, shallow v) (vs.mapM f) := by
  induction vs with
  | nil => exact .written (by simp) (by simp) []
  | cons v rest ih =>
    rw [List.mapM_cons]
    have hboth := (h v).bind fun t => ih.map (f := fun ts => t :: ts)
    exact hboth.congr (by simp) (by simp)

end Writes

namespace Value

variable {v : Value} {items : List Value}

theorem isShort_int {i : Int} : (Value.int i).IsShort ↔ i.natAbs < tenPow digitLimit := by
  constructor
  · exact fun h => h i (.int i)
  · rintro h _ ⟨⟩
    exact h

theorem isShort_list : (Value.list items).IsShort ↔ ∀ v ∈ items, v.IsShort := by
  constructor
  · exact fun h v hv i hi => h i (.list hv hi)
  · rintro h i (_ | ⟨hv, hi⟩)
    exact h _ hv i hi

theorem isShort_tuple : (Value.tuple items).IsShort ↔ ∀ v ∈ items, v.IsShort := by
  constructor
  · exact fun h v hv i hi => h i (.tuple hv hi)
  · rintro h i (_ | _ | ⟨hv, hi⟩)
    exact h _ hv i hi

theorem writes_intText (i : Int) : Writes (i.natAbs < tenPow digitLimit) True (intText i) := by
  -- the one place where digits are counted
  by_cases h : i.natAbs < tenPow digitLimit
  · rw [intText_of_lt h]
    exact .written h trivial _
  · rw [intText_eq_error_iff.2 ⟨rfl, not_lt.1 h⟩]
    exact .long h

theorem writes_quotedWithin (depth : Nat) (v : Value) :
    Writes v.IsShort (v.IsShallow depth) (v.quotedWithin depth) := by
  -- on the depth, of which every sequence takes one for its items
  induction depth generalizing v with
  | zero => exact .deep id
  | succ depth ih =>
    match v with
    | .none | .bool _ | .float _ | .complex _ _ | .str _ | .scalar _ =>
      exact .written (by rintro _ ⟨⟩) trivial _
    | .int i => exact (writes_intText i).congr isShort_int.symm Iff.rfl
    | .list items => exact (Writes.mapM ih items).map.congr isShort_list.symm Iff.rfl
    | .tuple items => exact (Writes.mapM ih items).map.congr isShort_tuple.symm Iff.rfl

theorem writes_textWithin (depth : Nat) (v : Value) :
    Writes v.IsShort (v.IsShallow (depth + 1)) (v.textWithin (depth + 1)) := by
  cases v with
  | str _ => exact .written (by rintro _ ⟨⟩) trivial _
  | scalar _ => exact .written (by rintro _ ⟨⟩) trivial _
  | _ => exact writes_quotedWithin (depth + 1) _

theorem writes_plainTextWithin (depth : Nat) (v : Value) :
    Writes v.IsShort (v.IsShallow (depth + 1)) (v.plainTextWithin (depth + 1)) := by
  cases v with
  | scalar s => cases s <;> exact .written (by rintro _ ⟨⟩) trivial _
  | _ => exact writes_textWithin depth _

end Value

/-- A measurement is short if its arguments and its value are, and its label if there is one. -/
structure Measurement.IsShort (m : Measurement) : Prop where
  args : ∀ v ∈ m.args, v.IsShort
  value : m.value.IsShort
  label : m.label.isTruthy = true → m.label.IsShort

/-- A measurement is shallow if its arguments and its value are, and its label if there is one. -/
structure Measurement.IsShallow (depth : Nat) (m : Measurement) : Prop where
  args : ∀ v ∈ m.args, v.IsShallow depth
  value : m.value.IsShallow depth
  label : m.label.isTruthy = true → m.label.IsShallow depth

/-! ## §2 What a line ends in -/

/-- A value is a double if it is one itself, or a scalar of a floating-point kind. -/
inductive Value.IsDouble : Value → Float → Prop where
  | plain (x : Float) : IsDouble (.float x) x
  | scalar (kind : FloatKind) (x : Float) : IsDouble (.scalar (.float kind x)) x

theorem Value.IsDouble.fixed {v : Value} {x : Float} (h : v.IsDouble x) (hx : x.isFinite = true) :
    v.fixed 2 = .ok (numeral 2 x).text := by
  rw [← Decimal.fixed_eq_text two_pos hx]
  cases h <;> rfl

/-- For a limit on nested values, there is a line exactly if the measurement is short and shallow. -/
theorem Measurement.writes_lineWithin {m : Measurement} {t : String} (ht : m.elapsed.fixed 2 = .ok t)
    (depth : Nat) : Writes m.IsShort (m.IsShallow (depth + 1)) (m.lineWithin (depth + 1)) := by
  -- a label that counts as nothing is not written, so it may be as long and as deep as it likes
  have hlabel : ∀ line : String, Writes (m.label.isTruthy = true → m.label.IsShort)
      (m.label.isTruthy = true → m.label.IsShallow (depth + 1))
      (if m.label.isTruthy then do .ok ((← m.label.plainTextWithin (depth + 1)) ++ " " ++ line)
        else .ok line : Except Fault String) := by
    intro line
    cases m.label.isTruthy with
    | true => exact (m.label.writes_plainTextWithin depth).map.congr (by simp) (by simp)
    | false => exact .written (by simp) (by simp) line
  unfold lineWithin
  rw [ht]
  have hargs : Writes (∀ v ∈ m.args, v.IsShort) (∀ v ∈ m.args, v.IsShallow (depth + 1))
      (argumentsTextWithin (depth + 1) m.args) :=
    (Writes.mapM (Value.writes_textWithin depth) m.args).map
  have hall := hargs.bind fun args => (m.value.writes_plainTextWithin depth).bind fun value =>
    hlabel (m.name ++ "(" ++ args ++ ") = " ++ value ++ " | Time: " ++ t ++ " ms")
  exact hall.congr ⟨fun h => ⟨h.1, h.2.1, h.2.2⟩, fun h => ⟨h.args, h.value, h.label⟩⟩
    ⟨fun h => ⟨h.1, h.2.1, h.2.2⟩, fun h => ⟨h.args, h.value, h.label⟩⟩

theorem Measurement.exists_head_of_lineWithin {m : Measurement} {depth : Nat} {t line : String}
    (ht : m.elapsed.fixed 2 = .ok t) (h : m.lineWithin depth = .ok line) :
    ∃ head, line = head ++ " | Time: " ++ t ++ " ms" := by
  unfold lineWithin at h
  rw [ht] at h
  cases hargs : argumentsTextWithin depth m.args with
  | error fault =>
    rw [hargs] at h
    cases h
  | ok args =>
    cases hvalue : m.value.plainTextWithin depth with
    | error fault =>
      rw [hargs, hvalue] at h
      cases h
    | ok value =>
      simp only [hargs, hvalue, bind, Except.bind] at h
      -- the label stands in front only if it counts as something
      split at h
      · cases hlabel : m.label.plainTextWithin depth with
        | error fault =>
          rw [hlabel] at h
          cases h
        | ok label =>
          rw [hlabel] at h
          cases h
          exact ⟨label ++ " " ++ (m.name ++ "(" ++ args ++ ") = " ++ value), by
            simp only [String.append_assoc]⟩
      · cases h
        exact ⟨_, rfl⟩

/-- Lists inside of one another, so many of them in the outermost one. -/
def Value.nested : Nat → Value
  | 0 => .list []
  | n + 1 => .list [nested n]

theorem Value.quotedWithin_nested {depth n : Nat} (h : depth ≤ n) :
    (nested n).quotedWithin depth = .error .depth := by
  -- on the depth, which runs out together with the lists or before
  induction depth generalizing n with
  | zero => rfl
  | succ depth ih =>
    obtain ⟨n, rfl⟩ := Nat.exists_eq_add_of_le' h
    have hinner : (nested (n + depth)).quotedWithin depth = .error .depth := ih (Nat.le_add_left _ _)
    show quotedWithin (depth + 1) (.list [nested (n + depth)]) = .error .depth
    simp only [quotedWithin, List.mapM_cons, hinner]
    rfl

theorem Measurement.line_of_argument {v : Value} {fault : Fault} (h : v.text = .error fault)
    (name : String) (value elapsed label : Value) :
    Measurement.line ⟨name, [v], value, elapsed, label⟩ = .error fault := by
  have hargs : argumentsTextWithin nestingLimit [v] = .error fault := by
    unfold argumentsTextWithin
    rw [List.mapM_cons, show v.textWithin nestingLimit = .error fault from h]
    rfl
  unfold line lineWithin
  rw [hargs]
  rfl

end WasmGauge
