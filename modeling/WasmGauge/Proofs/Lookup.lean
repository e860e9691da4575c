/-!
# Association lists

Disks, caches and instances are kept as lists of keys with values, in which `List.lookup` finds the
first value of a key. These are the two changes that such a list goes through: entries are dropped by
their keys, and the entry of a key is replaced.
-/

namespace WasmGauge

variable {α β : Type} [BEq α] [LawfulBEq α] [DecidableEq α]

/-- Dropping entries by their keys leaves the other keys what they have. -/
theorem lookup_filter_key (p : α → Bool) (l : List (α × β)) (k : α) :
    (l.filter fun x => p x.1).lookup k = if p k then l.lookup k else none := by
  induction l with
  | nil => simp
  | cons x rest ih =>
      obtain ⟨key, value⟩ := x
      rw [List.filter_cons, List.lookup_cons]
      -- what is dropped has another key than the one looked up, if that is kept
      by_cases hp : p key = true
      · rw [if_pos hp, List.lookup_cons, ih]
        by_cases hk : k = key
        · simp [hk, hp]
        · have hne : (k == key) = false := by simpa using hk
          simp [hne]
      · rw [if_neg hp, ih]
        by_cases hk : k = key
        · simp [hk, hp]
        · have hne : (k == key) = false := by simpa using hk
          simp [hne]

/-- Dropping one key leaves the other keys what they have. -/
theorem lookup_filter_ne (l : List (α × β)) (k k' : α) :
    (l.filter fun x => x.1 != k).lookup k' = if k' = k then none else l.lookup k' := by
  have h := lookup_filter_key (fun x => x != k) l k'
  by_cases hk : k' = k
  · simpa [hk] using h
  · simpa [hk] using h

/-- A key that is put in front, and dropped behind, has its new value. -/
theorem lookup_cons_filter_ne (l : List (α × β)) (k k' : α) (v : β) :
    ((k, v) :: l.filter fun x => x.1 != k).lookup k' = if k' = k then some v else l.lookup k' := by
  rw [List.lookup_cons, lookup_filter_ne]
  by_cases hk : k' = k
  · simp [hk]
  · have hne : (k' == k) = false := by simpa using hk
    simp [hk, hne]

/-- Replacing the value of a key leaves the other keys what they have. -/
theorem lookup_map_replace (l : List (α × β)) (k k' : α) (v : β) :
    (l.map fun x => if x.1 = k then (k, v) else x).lookup k' =
      if k' = k then (l.lookup k).map fun _ => v else l.lookup k' := by
  induction l with
  | nil => simp
  | cons x rest ih =>
      obtain ⟨key, value⟩ := x
      -- the entry in front has the key that is replaced, or stays
      by_cases hx : key = k
      · subst hx
        by_cases hk : k' = key
        · simp [hk]
        · have hne : (k' == key) = false := by simpa using hk
          simp [hne, ih, hk, List.lookup_cons]
      · by_cases hk : k' = k
        · subst hk
          have hne : (k' == key) = false := by simpa using fun h : k' = key => hx h.symm
          simpa [hx, hne, List.lookup_cons] using ih
        · simp only [List.map_cons, hx, if_false, List.lookup_cons, ih, hk]

end WasmGauge
