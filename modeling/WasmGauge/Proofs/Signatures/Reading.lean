import WasmGauge.Gauge.Signature

/-!
# Reading signatures back

The text of a signature shows the names of its types and nothing else that could be taken for one, so it
can be read back. Names are told apart by commas, the parameters end at the first parenthesis that
closes, and blanks only help the eye: a reader that drops them first finds everything it needs.

An empty list of parameters and an empty list of results both show as a pair of parentheses. They are
not mixed up, because a name has at least one character and none of them is a parenthesis.

## Main statements

- `Signature.ofText_text`: reading the text of a signature gives the signature back.
- `Signature.text_determines`: signatures with the same text are the same.
-/

namespace WasmGauge

open Wasm (FuncType ValueType)

/-! ## §1 Names -/

/-- A name that is a word: it has a character, and none that the text of a signature puts between
names. Words of letters and digits are such, of whatever script. -/
structure IsWord (name : String) : Prop where
  nonempty : name.toList ≠ []
  blankless : ' ' ∉ name.toList
  commaless : ',' ∉ name.toList
  unopened : '(' ∉ name.toList
  unclosed : ')' ∉ name.toList

theorem IsWord.of_alphanum {name : String} (hne : name ≠ "")
    (h : ∀ c ∈ name.toList, c.isAlphanum = true) : IsWord name := by
  -- none of the four characters is a letter or a digit
  have hnone : ∀ c, c.isAlphanum = false → c ∉ name.toList := by
    intro c hc hmem
    simp [h c hmem] at hc
  constructor
  · simpa using hne
  all_goals
    apply hnone
    decide

theorem isWord_word (t : ValueType) : IsWord t.word := by
  cases t <;> exact .of_alphanum (by decide) (List.all_eq_true.1 (by decide))

def commaSeparated (names : List String) : List Char := [','].intercalate (names.map String.toList)

def namesOf (cs : List Char) : List String :=
  if cs = [] then [] else (cs.splitOn ',').map String.ofList

section Names

variable {names : List String}

theorem namesOf_commaSeparated (h : ∀ n ∈ names, IsWord n) :
    namesOf (commaSeparated names) = names := by
  unfold namesOf commaSeparated
  cases names with
  | nil => simp
  | cons n rest =>
    have hcommas : ∀ l ∈ (n :: rest).map String.toList, ',' ∉ l := by
      intro l hl
      obtain ⟨name, hname, rfl⟩ := List.mem_map.1 hl
      exact (h name hname).commaless
    -- the first name already has a character
    have hne : [','].intercalate ((n :: rest).map String.toList) ≠ [] := by
      have hfirst := (h n (List.mem_cons_self ..)).nonempty
      cases rest <;> simp [hfirst]
    rw [if_neg hne, List.splitOn_intercalate ',' hcommas (by simp), List.map_map]
    simp [Function.comp_def]

theorem commaSeparated_eq_nil_iff (h : ∀ n ∈ names, IsWord n) :
    commaSeparated names = [] ↔ names = [] := by
  constructor
  · intro hnil
    have hback := namesOf_commaSeparated h
    rw [hnil] at hback
    exact hback.symm
  · rintro rfl
    rfl

theorem mem_commaSeparated {c : Char} (hc : c ∈ commaSeparated names) :
    c = ',' ∨ ∃ n ∈ names, c ∈ n.toList := by
  unfold commaSeparated at hc
  -- on the names, with a comma before each but the first
  induction names with
  | nil => simp at hc
  | cons n rest ih =>
    cases rest with
    | nil =>
      simp at hc
      exact .inr ⟨n, List.mem_cons_self .., hc⟩
    | cons m rest =>
      simp only [List.map_cons, List.intercalate_cons_cons, List.mem_append, List.mem_singleton] at hc
      rcases hc with (hn | rfl) | hrest
      · exact .inr ⟨n, List.mem_cons_self .., hn⟩
      · exact .inl rfl
      · rcases ih hrest with hcomma | ⟨k, hk, hck⟩
        · exact .inl hcomma
        · exact .inr ⟨k, List.mem_cons_of_mem n hk, hck⟩

theorem filter_intercalate (h : ∀ n ∈ names, IsWord n) :
    (", ".intercalate names).toList.filter (· ≠ ' ') = commaSeparated names := by
  have hseparator : ", ".toList = [',', ' '] := rfl
  rw [String.toList_intercalate, hseparator]
  unfold commaSeparated
  -- on the names; the blanks stand behind the commas and nowhere else
  induction names with
  | nil => rfl
  | cons n rest ih =>
    have hn : n.toList.filter (· ≠ ' ') = n.toList := by
      apply List.filter_eq_self.2
      intro c hc
      have hblank : c ≠ ' ' := fun heq => (h n (List.mem_cons_self ..)).blankless (heq ▸ hc)
      simpa using hblank
    cases rest with
    | nil => simpa using hn
    | cons m rest =>
      have hrest := ih fun k hk => h k (List.mem_cons_of_mem n hk)
      simp only [List.map_cons, List.intercalate_cons_cons, List.filter_append] at hrest ⊢
      rw [hrest, hn]
      rfl

end Names

/-! ## §2 Signatures -/

namespace Signature

/-- Whether the names of all types are words. -/
structure IsPlain (s : Signature) : Prop where
  params : ∀ n ∈ s.params, IsWord n
  results : ∀ n ∈ s.results, IsWord n

theorem isPlain_ofType (t : FuncType) : (ofType t).IsPlain where
  params := by simp [ofType, isWord_word]
  results := by simp [ofType, isWord_word]

/-- Reads a signature. Behind the opening parenthesis, the parameters go up to the first one that
closes; behind that there are the two characters of the arrow, and then the results. -/
def ofText (text : String) : Signature :=
  let inside := (text.toList.filter (· ≠ ' ')).drop 1
  let behind := (inside.dropWhile (· ≠ ')')).drop 3
  ⟨namesOf (inside.takeWhile (· ≠ ')')), if behind = ['(', ')'] then [] else namesOf behind⟩

variable {s : Signature}

/-- The text of a signature without its blanks. -/
theorem filter_text (h : s.IsPlain) : s.text.toList.filter (· ≠ ' ') =
    '(' :: (commaSeparated s.params ++ ')' :: '-' :: '>' ::
      if s.results = [] then ['(', ')'] else commaSeparated s.results) := by
  have hempty : ", ".intercalate s.results = "" ↔ s.results = [] := by
    rw [← commaSeparated_eq_nil_iff h.results, ← filter_intercalate h.results]
    constructor
    · intro hnil
      simp [hnil]
    · -- a first name would leave a character behind
      intro hnil
      rw [filter_intercalate h.results, commaSeparated_eq_nil_iff h.results] at hnil
      simp [hnil]
  have hbetween : ") -> ".toList.filter (· ≠ ' ') = [')', '-', '>'] := rfl
  unfold text
  simp only [String.toList_append, List.filter_append, filter_intercalate h.params, hbetween, hempty]
  by_cases hnone : s.results = []
  · simp [hnone]
  · rw [if_neg hnone, if_neg hnone, filter_intercalate h.results]
    simp

/-- Reading the text of a signature gives the signature back. -/
theorem ofText_text (h : s.IsPlain) : ofText s.text = s := by
  have hinside : ∀ c ∈ commaSeparated s.params, decide (c ≠ ')') = true := by
    intro c hc
    rcases mem_commaSeparated hc with rfl | ⟨n, hn, hcn⟩
    · decide
    · have hclosed : c ≠ ')' := fun heq => (h.params n hn).unclosed (heq ▸ hcn)
      simpa using hclosed
  -- results that are there do not look like the parentheses for none
  have hresults : s.results ≠ [] → commaSeparated s.results ≠ ['(', ')'] := by
    intro hne heq
    have hparenthesis : '(' ∈ commaSeparated s.results := by simp [heq]
    rcases mem_commaSeparated hparenthesis with hcomma | ⟨n, hn, hcn⟩
    · cases hcomma
    · exact (h.results n hn).unopened hcn
  obtain ⟨params, results⟩ := s
  unfold ofText
  rw [filter_text h]
  simp only [List.drop_succ_cons, List.drop_zero, List.takeWhile_append_of_pos hinside,
    List.dropWhile_append_of_pos hinside]
  -- no results are written as a pair of parentheses, which no names look like
  by_cases hnone : results = []
  · simp [hnone, namesOf_commaSeparated h.params]
  · simp [hnone, namesOf_commaSeparated h.params, hresults hnone, namesOf_commaSeparated h.results]

/-- Signatures of words with the same text are the same: the text can be read back. In particular, the
text that is shown for an exported function determines its type. -/
theorem text_determines :
    (∀ s t : Signature, s.IsPlain → t.IsPlain → s.text = t.text →
      s.params = t.params ∧ s.results = t.results) ∧
    (∀ s : Signature, s.IsPlain → ofText s.text = s) ∧
    (∀ t u : FuncType, (ofType t).text = (ofType u).text → t = u) := by
  have hinj : ∀ s t : Signature, s.IsPlain → t.IsPlain → s.text = t.text → s = t := by
    intro s t hs ht htext
    rw [← ofText_text hs, ← ofText_text ht, htext]
  refine ⟨?_, fun s => ofText_text, ?_⟩
  · intro s t hs ht htext
    simp [hinj s t hs ht htext]
  · intro t u htext
    -- the words tell the types of values apart
    have hwords : ∀ a b : ValueType, a.word = b.word → a = b := by
      intro a b
      cases a <;> cases b <;> simp [ValueType.word]
    have hsame := hinj _ _ (isPlain_ofType t) (isPlain_ofType u) htext
    obtain ⟨params, results⟩ := t
    obtain ⟨params', results'⟩ := u
    simp only [ofType, Signature.mk.injEq] at hsame
    rw [(List.map_inj_right hwords).1 hsame.1, (List.map_inj_right hwords).1 hsame.2]

/-- Two parameters and no result: the text is read back, and no other signature has it. -/
theorem text_determines_pair :
    IsPlain ⟨["i32", "i64"], []⟩ ∧ IsPlain (ofType ⟨[.i32, .i64], []⟩) ∧
      text ⟨["i32", "i64"], []⟩ = "(i32, i64) -> ()" ∧
      ofText "(i32, i64) -> ()" = ⟨["i32", "i64"], []⟩ ∧
      (ofType ⟨[.i32, .i64], []⟩).params = ["i32", "i64"] ∧
      ∀ t, (ofType t).text = "(i32, i64) -> ()" → t = ⟨[.i32, .i64], []⟩ := by
  obtain ⟨hinj, hread, htypes⟩ := text_determines
  have hplain : IsPlain ⟨["i32", "i64"], []⟩ := isPlain_ofType ⟨[.i32, .i64], []⟩
  have htext : text ⟨["i32", "i64"], []⟩ = "(i32, i64) -> ()" := by decide
  refine ⟨hplain, isPlain_ofType _, htext, ?_, ?_, ?_⟩
  · rw [← htext]
    exact hread _ hplain
  · exact (hinj (ofType ⟨[.i32, .i64], []⟩) ⟨["i32", "i64"], []⟩ (isPlain_ofType _) hplain rfl).1
  · intro t ht
    exact htypes t ⟨[.i32, .i64], []⟩ (ht.trans htext.symm)

end Signature

end WasmGauge
