import Mathlib.Data.List.TakeWhile
import WasmGauge.Proofs.Storage.Routes

/-!
# Normal forms of paths

Reading a text as a path keeps the components between its slashes, save those that are empty or a dot,
and of the slashes in front whether there are none, exactly two, or another number. Writing a path and
reading it again gives the path back, so every path has a text of its own; and joining paths is
associative.

## Main statements

- `Path.normalises_iff`: what reading a text as a path gives.
- `Path.ofText_text`: reading the text of a path gives the path back.
- `Path.join_assoc`: it does not matter in which order paths are joined.
- `Path.hasSuffix_iff`: which paths end in a suffix.
-/

namespace WasmGauge.Storage

/-! ## §1 Components -/

/-- A text is its components with slashes between them. -/
theorem intercalate_pieces (s : String) :
    "/".intercalate ((pieces s.toList).map String.ofList) = s := by
  refine String.toList_inj.1 ?_
  have hseparator : "/".toList = ['/'] := rfl
  rw [String.toList_intercalate, hseparator, pieces_eq_splitOn, List.map_map]
  have hid : String.toList ∘ String.ofList = id := funext fun _ => String.toList_ofList
  rw [hid, List.map_id, List.intercalate_splitOn]

theorem slashless_of_mem_pieces {cs piece : List Char} (h : piece ∈ pieces cs) : '/' ∉ piece := by
  -- on the characters: each slash begins a new component
  induction cs generalizing piece with
  | nil =>
    rw [pieces, List.mem_singleton] at h
    simp [h]
  | cons c cs ih =>
    by_cases hc : c = '/'
    · rw [pieces, if_pos hc, List.mem_cons] at h
      rcases h with rfl | hrest
      · simp
      · exact ih hrest
    · rw [pieces, if_neg hc] at h
      -- the character joins the first of the other components
      split at h
      · next first more hpieces =>
        rcases List.mem_cons.1 h with rfl | hrest
        · simpa [eq_comm, hc] using ih (hpieces ▸ List.mem_cons_self)
        · exact ih (hpieces ▸ List.mem_cons_of_mem first hrest)
      · rw [List.mem_singleton] at h
        simpa [h, eq_comm] using hc

theorem slashless_of_mem_components (s : String) :
    ∀ c ∈ (pieces s.toList).map String.ofList, '/' ∉ c.toList := by
  intro c hc
  obtain ⟨piece, hpiece, rfl⟩ := List.mem_map.1 hc
  rw [String.toList_ofList]
  exact slashless_of_mem_pieces hpiece

def isKept (c : String) : Bool := c != "" && c != "."

theorem isPart_of_slashless {c : String} (h : '/' ∉ c.toList) : isPart c = isKept c := by
  simp [isPart, isKept, h]

/-- The parts of a path are the components of its text that are kept. -/
theorem Path.parts_ofText_intercalate {cs : List String} (hslash : ∀ c ∈ cs, '/' ∉ c.toList) :
    (ofText ("/".intercalate cs)).parts = cs.filter isKept := by
  -- no component at all is written as one that is empty, and that is dropped
  by_cases hne : cs = []
  · subst hne
    rfl
  · have hid : String.ofList ∘ String.toList = id := funext fun _ => String.ofList_toList
    show ((pieces ("/".intercalate cs).toList).map String.ofList).filter isPart = _
    rw [pieces_intercalate_of_slashless hne hslash, List.map_map, hid, List.map_id]
    exact List.filter_congr fun c hc => isPart_of_slashless (hslash c hc)

/-! ## §2 Reading a text -/

namespace Path

variable {p q r : Path} {s : String}

theorem eq_of_root_parts (hroot : p.root = q.root) (hparts : p.parts = q.parts) : p = q := by
  obtain ⟨root, parts, clean⟩ := p
  obtain ⟨root', parts', clean'⟩ := q
  obtain rfl : root = root' := hroot
  obtain rfl : parts = parts' := hparts
  rfl

/-- How many slashes a text has in front. -/
def leadingSlashes (s : String) : Nat := (s.toList.takeWhile (· == '/')).length

/-- A path is the normal form of a text. -/
structure Normalises (p : Path) (s : String) : Prop where
  /-- Between slashes, empty components and dots are dropped and all others are kept. -/
  parts (cs : List String) : (∀ c ∈ cs, '/' ∉ c.toList) → "/".intercalate cs = s →
    p.parts = cs.filter isKept
  /-- The path begins at the current directory if there is no slash in front. -/
  relative : p.root = .relative ↔ leadingSlashes s = 0
  /-- Exactly two slashes in front are kept; one stands for any other number. -/
  doubleSlash : p.root = .doubleSlash ↔ leadingSlashes s = 2

theorem takeWhile_slash_eq_nil {cs : List Char} (h : ∀ rest, cs ≠ '/' :: rest) :
    cs.takeWhile (· == '/') = [] := by
  cases cs with
  | nil => rfl
  | cons c rest =>
    have hc : (c == '/') = false := by simpa using fun hc : c = '/' => h rest (by rw [hc])
    rw [List.takeWhile_cons, hc]
    rfl

theorem root_ofText (s : String) : (ofText s).root =
    if leadingSlashes s = 0 then .relative else if leadingSlashes s = 2 then .doubleSlash
    else .slash := by
  show Root.ofText s.toList = _
  unfold leadingSlashes
  generalize s.toList = cs
  fun_cases Root.ofText cs with
  | case1 rest => simp
  | case2 rest hthird => simp [takeWhile_slash_eq_nil fun rest' h => hthird rest' h]
  | case3 rest _ hsecond => simp [takeWhile_slash_eq_nil fun rest' h => hsecond rest' h]
  | case4 _ _ _ hfirst => simp [takeWhile_slash_eq_nil fun rest' h => hfirst rest' h]

theorem normalises_ofText (s : String) : (ofText s).Normalises s where
  parts cs hslash hs := hs ▸ parts_ofText_intercalate hslash
  relative := by
    rw [root_ofText]
    split_ifs <;> simp_all
  doubleSlash := by
    rw [root_ofText]
    split_ifs <;> simp_all

/-- The normal form of a text is the path that the text denotes, and nothing else. -/
theorem normalises_iff : p.Normalises s ↔ p = ofText s := by
  constructor
  · intro h
    have h' := normalises_ofText s
    refine eq_of_root_parts ?_ ?_
    · have hrelative := h.relative.trans h'.relative.symm
      have hdouble := h.doubleSlash.trans h'.doubleSlash.symm
      cases hp : p.root <;> cases hq : (ofText s).root <;> simp_all
    · have hslash := slashless_of_mem_components s
      rw [h.parts _ hslash (intercalate_pieces s), h'.parts _ hslash (intercalate_pieces s)]
  · rintro rfl
    exact normalises_ofText s

/-- A slash behind a text makes no difference, unless there are only slashes. -/
theorem ofText_append_slash (h : ∃ c ∈ s.toList, c ≠ '/') : ofText (s ++ "/") = ofText s := by
  refine eq_of_root_parts ?_ ?_
  · obtain ⟨c, hmem, hc⟩ := h
    have hshort : (s.toList.takeWhile (· == '/')).length ≠ s.toList.length := by
      intro hall
      have hself := (List.takeWhile_prefix (· == '/')).eq_of_length hall
      exact hc (beq_iff_eq.1 (List.takeWhile_eq_self_iff.1 hself c hmem))
    have hleading : leadingSlashes (s ++ "/") = leadingSlashes s := by
      unfold leadingSlashes
      rw [String.toList_append, List.takeWhile_append, if_neg hshort]
    rw [root_ofText, root_ofText, hleading]
  · -- there is one more component, and it is empty
    have hne : (pieces s.toList).map String.ofList ≠ [] := by simp [pieces_eq_splitOn]
    have hslash := slashless_of_mem_components s
    have hmore : ∀ c ∈ (pieces s.toList).map String.ofList ++ [""], '/' ∉ c.toList := by
      intro c hc
      rcases List.mem_append.1 hc with hold | hnew
      · exact hslash c hold
      · simp [List.mem_singleton.1 hnew]
    have hclosed : s ++ "/" = "/".intercalate ((pieces s.toList).map String.ofList ++ [""]) := by
      rw [intercalate_concat hne, intercalate_pieces, String.append_empty]
    have hopen := parts_ofText_intercalate hslash
    rw [intercalate_pieces] at hopen
    rw [hclosed, parts_ofText_intercalate hmore, hopen, List.filter_append]
    exact List.append_nil _

/-! ## §3 Writing and reading again -/

/-- A root is read from its own text, if no slash follows. -/
theorem root_ofText_text (root : Root) {t : List Char} (ht : t.head? ≠ some '/') :
    Root.ofText (root.text.toList ++ t) = root := by
  rcases t with _ | ⟨c, cs⟩
  · cases root <;> rfl
  · have hc : c ≠ '/' := by simpa using ht
    cases root <;> simp [Root.text, Root.ofText, hc]

/-- The components in front of the parts of a path that its root stands for. -/
def rootComponents : Root → List String
  | .relative => []
  | .slash => [""]
  | .doubleSlash => ["", ""]

theorem eq_empty_of_mem_rootComponents {root : Root} {c : String} (h : c ∈ rootComponents root) :
    c = "" := by
  cases root with
  | relative => cases h
  | slash => exact List.mem_singleton.1 h
  | doubleSlash => simpa [rootComponents] using h

/-- A path is written as its parts behind the components that its root stands for. -/
theorem text_eq_intercalate (hne : p.parts ≠ []) :
    p.text = "/".intercalate (rootComponents p.root ++ p.parts) := by
  rw [text_of_ne_nil hne]
  cases p.root with
  | relative => exact String.empty_append
  | slash =>
    show _ = "/".intercalate ("" :: p.parts)
    rw [String.intercalate_cons_of_ne_nil hne]
    rfl
  | doubleSlash =>
    show _ = "/".intercalate ("" :: "" :: p.parts)
    rw [String.intercalate_cons_cons, String.intercalate_cons_of_ne_nil hne]
    simp only [Root.text, String.empty_append, ← String.append_assoc]
    rfl

/-- Reading the text of a path gives the path back. -/
theorem ofText_text (p : Path) : ofText p.text = p := by
  by_cases hnil : p.parts = []
  · have htext : p.text = if p.root.text = "" then "." else p.root.text := by simp [text, hnil]
    refine eq_of_root_parts ?_ ?_
    · rw [htext]
      cases p.root <;> decide
    · rw [htext, hnil]
      cases p.root <;> decide
  · refine eq_of_root_parts ?_ ?_
    · show Root.ofText p.text.toList = p.root
      rw [text_of_ne_nil hnil, String.toList_append]
      exact root_ofText_text p.root (head?_intercalate hnil p.clean)
    · have hclean : ∀ c ∈ p.parts, '/' ∉ c.toList := fun c hc => (isPart_iff.1 (p.clean c hc)).2.2
      have hslash : ∀ c ∈ rootComponents p.root ++ p.parts, '/' ∉ c.toList := by
        intro c hc
        rcases List.mem_append.1 hc with hfront | hpart
        · simp [eq_empty_of_mem_rootComponents hfront]
        · exact hclean c hpart
      -- the root adds components in front that are dropped, and parts are kept
      have hfront : (rootComponents p.root).filter isKept = [] := by cases p.root <;> rfl
      have hkept : p.parts.filter isKept = p.parts :=
        List.filter_eq_self.2 fun c hc => isPart_of_slashless (hclean c hc) ▸ p.clean c hc
      rw [text_eq_intercalate hnil, parts_ofText_intercalate hslash, List.filter_append, hfront,
        hkept, List.nil_append]

theorem text_inj : p.text = q.text ↔ p = q :=
  ⟨fun h => by rw [← ofText_text p, h, ofText_text q], congrArg text⟩

/-- Only the path without root and parts is written as a dot. -/
theorem text_eq_dot_iff : p.text = "." ↔ p.root = .relative ∧ p.parts = [] := by
  have hdot : (⟨.relative, [], by simp⟩ : Path).text = "." := rfl
  rw [← hdot, text_inj]
  exact ⟨fun h => h ▸ ⟨rfl, rfl⟩, fun h => eq_of_root_parts h.1 h.2⟩

/-- Any other path is written as its root and its parts, with slashes between them. -/
theorem text_eq (p : Path) : p.text =
    if p.root = .relative ∧ p.parts = [] then "." else p.root.text ++ "/".intercalate p.parts := by
  -- only the empty path has a text that its root and its parts do not make up
  by_cases hdot : p.text = "."
  · rw [if_pos (text_eq_dot_iff.1 hdot), hdot]
  · rw [if_neg fun h => hdot (text_eq_dot_iff.2 h)]
    unfold text at hdot ⊢
    simp only at hdot ⊢
    split at hdot
    · exact absurd rfl hdot
    · next hne => rw [if_neg hne]

/-! ## §4 Joining -/

theorem join_of_isAbsolute (hq : q.isAbsolute = true) : p.join q = q := if_pos hq

/-- Behind a path, one that is not absolute begins where the path does. -/
theorem root_join (hq : q.isAbsolute = false) : (p.join q).root = p.root := by
  simp [join, hq]

theorem parts_join (hq : q.isAbsolute = false) : (p.join q).parts = p.parts ++ q.parts := by
  simp [join, hq]

theorem isAbsolute_join (hq : q.isAbsolute = false) : (p.join q).isAbsolute = p.isAbsolute := by
  unfold isAbsolute
  rw [root_join hq]

theorem join_assoc (p q r : Path) : (p.join q).join r = p.join (q.join r) := by
  -- an absolute path forgets what stands before it
  cases hr : r.isAbsolute with
  | true => rw [join_of_isAbsolute hr, join_of_isAbsolute hr, join_of_isAbsolute hr]
  | false =>
    have hboth := isAbsolute_join (p := q) hr
    cases hq : q.isAbsolute with
    | true => rw [join_of_isAbsolute hq, join_of_isAbsolute (hboth.trans hq)]
    | false =>
      refine eq_of_root_parts ?_ ?_
      · rw [root_join hr, root_join hq, root_join (hboth.trans hq)]
      · rw [parts_join hr, parts_join hq, parts_join (hboth.trans hq), parts_join hr,
          List.append_assoc]

/-- A text behind a text behind a path is behind the path what the two are together. -/
theorem child_child (p : Path) (a b : String) : (p.child a).child b = p.join ((ofText a).child b) :=
  join_assoc p (ofText a) (ofText b)

/-! ## §5 Suffixes -/

/-- A path ends in a suffix if its last part does and is more than the suffix. -/
theorem hasSuffix_iff {suffix : String} :
    p.hasSuffix suffix = true ↔ ∃ front stem, p.parts = front ++ [stem ++ suffix] ∧ stem ≠ "" := by
  unfold hasSuffix name
  -- a path without parts has an empty name, which is no more than any suffix
  rcases List.eq_nil_or_concat p.parts with hnil | ⟨front, last, hlast⟩
  · simp [hnil]
  · rw [List.concat_eq_append] at hlast
    simp only [hlast, List.getLast?_append, List.getLast?_singleton, Option.some_or,
      Option.getD_some, Bool.and_eq_true, List.isSuffixOf_iff_suffix, decide_eq_true_eq]
    constructor
    · rintro ⟨⟨stem, hstem⟩, hlonger⟩
      have hsplit : last = String.ofList stem ++ suffix := by
        refine String.toList_inj.1 ?_
        rw [String.toList_append, String.toList_ofList, hstem]
      refine ⟨front, String.ofList stem, by rw [hsplit], ?_⟩
      rintro hempty
      rw [hsplit, hempty, String.empty_append] at hlonger
      exact Nat.lt_irrefl _ hlonger
    · rintro ⟨front', stem, hparts, hstem⟩
      obtain ⟨-, hsame⟩ := List.append_inj' hparts rfl
      obtain rfl := List.singleton_inj.1 hsame
      have hpos : 0 < stem.length := by
        rw [← String.length_toList]
        exact List.length_pos_iff.2 fun h => hstem (String.toList_eq_nil_iff.1 h)
      refine ⟨⟨stem.toList, by rw [String.toList_append]⟩, ?_⟩
      rw [String.length_append]
      omega

end Path

end WasmGauge.Storage
