import Mathlib.Data.List.Induction
import WasmGauge.Storage.Disk

/-!
# Routes of paths

The operating system gets the text of a path and follows its steps. Because the parts of a path are
clean, these steps are the parts again: nothing is lost between `Path.text` and `Route.ofText`, save
that the path without parts is written as a dot.

## Main statements

- `Route.ofText_text`: the steps of the text of a path are its parts.
- `Path.parts_child`: a part that is put behind a path is its last part.
-/

namespace WasmGauge.Storage

/-! ## §1 Pieces between slashes -/

/-- The pieces of a text are what splitting at slashes gives. -/
theorem pieces_eq_splitOn (cs : List Char) : pieces cs = cs.splitOn '/' := by
  induction cs with
  | nil => simp [pieces]
  | cons c cs ih =>
      rw [List.splitOn_cons_eq_if_modifyHead, pieces, ih]
      by_cases hc : c = '/'
      · simp [hc]
      · -- there is always a first piece, for the character to be put in front of
        have hne : cs.splitOn '/' ≠ [] := List.splitOn_ne_nil _ _
        rcases h : cs.splitOn '/' with _ | ⟨first, more⟩
        · exact absurd h hne
        · simp [hc]

theorem isPart_iff {s : String} : isPart s = true ↔ s ≠ "" ∧ s ≠ "." ∧ '/' ∉ s.toList := by
  simp [isPart, and_assoc]

/-- Pieces without slashes, with slashes between them, are the pieces of a text. -/
theorem pieces_intercalate_of_slashless {cs : List String} (hne : cs ≠ [])
    (hslash : ∀ c ∈ cs, '/' ∉ c.toList) :
    pieces ("/".intercalate cs).toList = cs.map String.toList := by
  have hseparator : "/".toList = ['/'] := rfl
  rw [pieces_eq_splitOn, String.toList_intercalate, hseparator]
  refine List.splitOn_intercalate '/' ?_ (by simpa using hne)
  intro l hl
  obtain ⟨c, hc, rfl⟩ := List.mem_map.1 hl
  exact hslash c hc

/-- Parts with slashes between them fall into the same parts again. -/
theorem pieces_intercalate {parts : List String} (hne : parts ≠ [])
    (clean : ∀ s ∈ parts, isPart s = true) :
    pieces ("/".intercalate parts).toList = parts.map String.toList :=
  pieces_intercalate_of_slashless hne fun s hs => (isPart_iff.1 (clean s hs)).2.2

theorem intercalate_concat {parts : List String} (hne : parts ≠ []) (s : String) :
    "/".intercalate (parts ++ [s]) = "/".intercalate parts ++ "/" ++ s := by
  refine String.toList_inj.1 ?_
  induction parts with
  | nil => exact absurd rfl hne
  | cons p parts ih =>
      cases parts with
      | nil => simp
      | cons q parts => simpa [String.toList_intercalate] using ih (by simp)

/-- A part that is repeated takes one byte more than its own each time, for a slash, save once. -/
theorem utf8ByteSize_intercalate_replicate (s : String) (k : Nat) :
    ("/".intercalate (List.replicate (k + 1) s)).utf8ByteSize + 1 =
      (k + 1) * (s.utf8ByteSize + 1) := by
  have hslash : "/".utf8ByteSize = 1 := rfl
  induction k with
  | zero => simp
  | succ k ih =>
      rw [List.replicate_succ', intercalate_concat (by simp), String.utf8ByteSize_append,
        String.utf8ByteSize_append, hslash, Nat.succ_mul (k + 1), ← ih]
      omega

/-- Slashes are the only characters between parts. -/
theorem not_mem_intercalate {parts : List String} {x : Char} (hx : x ≠ '/')
    (hparts : ∀ s ∈ parts, x ∉ s.toList) : x ∉ ("/".intercalate parts).toList := by
  -- on the last part, in front of which there is the last slash
  induction parts using List.reverseRecOn with
  | nil => simp
  | append_singleton parts s ih =>
      have hs := hparts s (by simp)
      by_cases hnil : parts = []
      · simpa [hnil] using hs
      · have hfront := ih fun s' hs' => hparts s' (by simp [hs'])
        rw [intercalate_concat hnil, String.toList_append, String.toList_append]
        simp only [List.mem_append, not_or]
        exact ⟨⟨hfront, by simpa using hx⟩, hs⟩

/-! ## §2 The route of a path -/

namespace Route

/-- Empty pieces at the front are no steps. -/
theorem filter_named {parts : List String} (clean : ∀ s ∈ parts, isPart s = true) :
    parts.filter (· != "") = parts := by
  refine List.filter_eq_self.2 fun s hs => ?_
  simpa using (isPart_iff.1 (clean s hs)).1

/-- No clean part is the step that stands for a slash at the end. -/
theorem getLast?_ne_closing {parts : List String} (clean : ∀ s ∈ parts, isPart s = true) :
    parts.getLast? ≠ some closing := by
  intro h
  exact (isPart_iff.1 (clean closing (List.mem_of_getLast? h))).1 rfl

/-- The steps of a text that falls into empty pieces and then clean parts. -/
theorem steps_of_pieces {s : String} {parts : List String} (front : List String)
    (hs : (pieces s.toList).map String.ofList = front ++ parts) (hfront : ∀ t ∈ front, t = "")
    (hne : parts ≠ []) (clean : ∀ t ∈ parts, isPart t = true) : (ofText s).steps = parts := by
  have hnone : front.filter (· != "") = [] :=
    List.filter_eq_nil_iff.2 fun t ht => by simp [hfront t ht]
  -- the last piece is the last part, and so there is no step for a slash at the end
  have hlast : (front ++ parts).getLast? = parts.getLast? := by
    rw [List.getLast?_append, List.getLast?_eq_some_getLast hne, Option.some_or]
  have hopen : (parts.getLast? == some closing) = false := by
    simpa using getLast?_ne_closing clean
  simp only [ofText, hs, List.filter_append, hnone, filter_named clean, hlast, List.nil_append]
  rw [show "" = closing from rfl, hopen]
  simp

end Route

namespace Path

theorem intercalate_ne_empty {parts : List String} (hne : parts ≠ [])
    (clean : ∀ s ∈ parts, isPart s = true) : "/".intercalate parts ≠ "" := by
  intro h
  have hpieces := pieces_intercalate hne clean
  rw [h] at hpieces
  -- the empty text has one piece, the empty one, which is no clean part
  have hparts : parts = [""] := by
    simpa [pieces, eq_comm] using congrArg (List.map String.ofList) hpieces
  exact (isPart_iff.1 (clean "" (by simp [hparts]))).1 rfl

/-- Only the path without parts is written as a dot. -/
theorem text_of_ne_nil {p : Path} (h : p.parts ≠ []) :
    p.text = p.root.text ++ "/".intercalate p.parts := by
  have hne : p.root.text ++ "/".intercalate p.parts ≠ "" := by
    intro hempty
    exact intercalate_ne_empty h p.clean (String.append_eq_empty_iff.1 hempty).2
  simp [text, hne]

end Path

/-- The first character of clean parts with slashes between them is no slash. -/
theorem head?_intercalate {parts : List String} (hne : parts ≠ [])
    (clean : ∀ s ∈ parts, isPart s = true) :
    ("/".intercalate parts).toList.head? ≠ some '/' := by
  obtain ⟨s, rest, rfl⟩ := List.exists_cons_of_ne_nil hne
  obtain ⟨hs, -, hslash⟩ := isPart_iff.1 (clean s (by simp))
  have hchars : s.toList ≠ [] := fun h => hs (String.toList_eq_nil_iff.1 h)
  obtain ⟨c, cs, hc⟩ := List.exists_cons_of_ne_nil hchars
  have hc' : c ≠ '/' := fun h => hslash (by simp [hc, h])
  cases rest with
  | nil => simp [hc, hc']
  | cons t rest => simp [hc, hc']

/-- The steps of the text of a path with parts are these parts. -/
theorem Route.ofText_text {p : Path} (h : p.parts ≠ []) :
    Route.ofText p.text = ⟨p.isAbsolute, p.parts⟩ := by
  have htext := Path.text_of_ne_nil h
  have hpieces := pieces_intercalate h p.clean
  have hhead := head?_intercalate h p.clean
  -- from here on only the pieces and the first character of the text count
  generalize "/".intercalate p.parts = t at htext hpieces hhead
  have hsteps : (ofText p.text).steps = p.parts := by
    -- every slash of the root leaves an empty piece at the front
    cases hroot : p.root with
    | relative =>
        refine steps_of_pieces [] ?_ (by simp) h p.clean
        simp [htext, hroot, Root.text, hpieces]
    | slash =>
        refine steps_of_pieces [""] ?_ (by simp) h p.clean
        simp [htext, hroot, Root.text, pieces, hpieces]
    | doubleSlash =>
        refine steps_of_pieces ["", ""] ?_ (by simp) h p.clean
        simp [htext, hroot, Root.text, pieces, hpieces]
  have habsolute : (ofText p.text).absolute = p.isAbsolute := by
    cases hroot : p.root with
    | relative => simpa [ofText, htext, hroot, Root.text, Path.isAbsolute] using hhead
    | slash => simp [ofText, htext, hroot, Root.text, Path.isAbsolute]
    | doubleSlash => simp [ofText, htext, hroot, Root.text, Path.isAbsolute]
  calc ofText p.text = ⟨(ofText p.text).absolute, (ofText p.text).steps⟩ := rfl
    _ = ⟨p.isAbsolute, p.parts⟩ := by rw [habsolute, hsteps]

/-- A path without parts leads to where it begins. -/
theorem Route.ofText_text_nil {p : Path} (h : p.parts = []) :
    Route.ofText p.text = ⟨p.isAbsolute, if p.isAbsolute then [] else [here]⟩ := by
  have htext : p.text = if p.root.text = "" then "." else p.root.text := by
    simp [Path.text, h]
  rw [htext, Path.isAbsolute]
  cases p.root <;> decide

/-! ## §3 Children -/

namespace Path

theorem ofText_of_isPart {s : String} (hs : isPart s = true) :
    (ofText s).root = .relative ∧ (ofText s).parts = [s] := by
  have hclean : ∀ t ∈ [s], isPart t = true := by simpa using hs
  have hpieces := pieces_intercalate (by simp : [s] ≠ []) hclean
  have hhead := head?_intercalate (by simp : [s] ≠ []) hclean
  rw [String.intercalate_singleton] at hpieces hhead
  constructor
  · -- there is no root without a slash at the front
    show Root.ofText s.toList = .relative
    rcases hchars : s.toList with _ | ⟨c, cs⟩
    · rfl
    · have hc : c ≠ '/' := by simpa [hchars] using hhead
      simp [Root.ofText, hc]
  · simp [ofText, hpieces, hs]

/-- A part that is put behind a path is its last part. -/
theorem parts_child (p : Path) {s : String} (hs : isPart s = true) :
    (p.child s).parts = p.parts ++ [s] := by
  obtain ⟨hroot, hparts⟩ := ofText_of_isPart hs
  simp [child, join, isAbsolute, hroot, hparts]

theorem isAbsolute_child (p : Path) {s : String} (hs : isPart s = true) :
    (p.child s).isAbsolute = p.isAbsolute := by
  obtain ⟨hroot, -⟩ := ofText_of_isPart hs
  simp [child, join, isAbsolute, hroot]

theorem text_child {p : Path} (hne : p.parts ≠ []) {s : String} (hs : isPart s = true) :
    (p.child s).text = p.text ++ "/" ++ s := by
  have hparts := p.parts_child hs
  have hroot : (p.child s).root = p.root := by
    obtain ⟨hrelative, -⟩ := ofText_of_isPart hs
    simp [child, join, isAbsolute, hrelative]
  rw [text_of_ne_nil (by simp [hparts]), text_of_ne_nil hne, hparts, hroot,
    intercalate_concat hne]
  simp only [String.append_assoc]

end Path

end WasmGauge.Storage
