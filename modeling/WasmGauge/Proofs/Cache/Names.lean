import WasmGauge.Gauge.Cache
import WasmGauge.Proofs.Storage.Entries

/-!
# Names of artifacts

The name of an artifact is made of the digits of a digest and an ending. Such a name is never refused
for its form, and two digests never share a name.

## Main statements

- `Cache.isEntryName_entryName`: every artifact has a name that an entry of a directory can have.
- `Cache.checkName_child_entryName`: nor is its path refused, unless the directory is to blame.
- `Cache.entryName_injective`: keys with the same name are the same.
-/

namespace WasmGauge

open Storage (Path)
open Wasm (Bytes)

/-! ## §1 Digits -/

namespace Text

/-- Whether a character takes one byte, and neither divides nor ends names. -/
def isPlainChar (c : Char) : Bool := c.utf8Size == 1 && c != '/' && c != '\x00'

theorem isPlainChar_hexDigit {n : Nat} (h : n < 16) : isPlainChar (hexDigit n) = true := by
  -- there are only sixteen digits
  have hall : ∀ m : Fin 16, isPlainChar (hexDigit m) = true := by decide
  exact hall ⟨n, h⟩

theorem length_hex (width n : Nat) : (hex width n).length = width := by
  induction width generalizing n with
  | zero => rfl
  | succ width ih => simp [hex, ih]

theorem isPlainChar_of_mem_hex {width n : Nat} {c : Char} (h : c ∈ hex width n) :
    isPlainChar c = true := by
  induction width generalizing n with
  | zero => simp [hex] at h
  | succ width ih =>
      rcases List.mem_append.1 h with h | h
      · exact ih h
      · rw [List.mem_singleton.1 h]
        exact isPlainChar_hexDigit (Nat.mod_lt n (by omega))

theorem utf8ByteSize_ofList {cs : List Char} (h : ∀ c ∈ cs, isPlainChar c = true) :
    (String.ofList cs).utf8ByteSize = cs.length := by
  induction cs with
  | nil => rfl
  | cons c cs ih =>
      have hc : c.utf8Size = 1 := by
        have hplain := h c (by simp)
        simp only [isPlainChar, Bool.and_eq_true, beq_iff_eq] at hplain
        exact hplain.1.1
      have hcs := ih fun c' hc' => h c' (by simp [hc'])
      rw [String.ofList_cons, String.utf8ByteSize_append, String.utf8ByteSize_singleton, hcs, hc,
        List.length_cons, Nat.add_comm]

end Text

/-! ## §2 Keys -/

theorem keyOf_eq (data : Bytes) :
    ∃ cs, keyOf data = String.ofList cs ∧ cs.length = 64 ∧ ∀ c ∈ cs, Text.isPlainChar c = true := by
  refine ⟨_, rfl, ?_, ?_⟩
  · simp [Digest.State.words, Text.length_hex]
  · intro c hc
    obtain ⟨w, -, hw⟩ := List.mem_flatMap.1 hc
    exact Text.isPlainChar_of_mem_hex hw

namespace Cache

/-- The name of the artifact for a key. -/
def entryName (key : String) : String := key ++ suffix

theorem file_eq (c : Cache) (key : String) : c.file key = c.directory.child (entryName key) := rfl

theorem entryName_injective {key key' : String} (h : entryName key = entryName key') :
    key = key' := by
  have hchars : key.toList ++ suffix.toList = key'.toList ++ suffix.toList := by
    simpa [entryName] using congrArg String.toList h
  exact String.toList_inj.1 (List.append_cancel_right hchars)

theorem utf8ByteSize_entryName (data : Bytes) : (entryName (keyOf data)).utf8ByteSize = 70 := by
  obtain ⟨cs, hkey, hlength, hplain⟩ := keyOf_eq data
  -- 64 digits and an ending of six characters
  rw [entryName, String.utf8ByteSize_append, hkey, Text.utf8ByteSize_ofList hplain, hlength]
  rfl

theorem holdsNull_entryName (data : Bytes) :
    Storage.Disk.holdsNull (entryName (keyOf data)) = false := by
  obtain ⟨cs, hkey, -, hplain⟩ := keyOf_eq data
  have hends : '\x00' ∉ suffix.toList := by decide
  have hdigits : '\x00' ∉ cs := fun h => by simpa [Text.isPlainChar] using hplain '\x00' h
  simp [Storage.Disk.holdsNull, entryName, hkey, hends, hdigits]

/-- The name of an artifact is one that an entry of a directory can have. -/
theorem isEntryName_entryName (data : Bytes) :
    Storage.Disk.isEntryName (entryName (keyOf data)) = true := by
  obtain ⟨cs, hkey, -, hplain⟩ := keyOf_eq data
  have hsize := utf8ByteSize_entryName data
  have hslash : '/' ∉ (entryName (keyOf data)).toList := by
    have hends : '/' ∉ suffix.toList := by decide
    have hdigits : '/' ∉ cs := fun h => by simpa [Text.isPlainChar] using hplain '/' h
    simp [entryName, hkey, hends, hdigits]
  -- no text that is shorter can be the name
  have hother : ∀ s : String, s.utf8ByteSize < 70 → entryName (keyOf data) ≠ s := by
    rintro s hs rfl
    omega
  have hpart : Storage.isPart (entryName (keyOf data)) = true :=
    Storage.isPart_iff.2 ⟨hother _ (by decide), hother _ (by decide), hslash⟩
  have habove : entryName (keyOf data) ≠ Storage.Route.above := hother _ (by decide)
  simp [Storage.Disk.isEntryName, hpart, habove, hsize, Storage.Disk.stepLimit]

/-- Whether an artifact is refused for its path is a matter of the length of the directory's. -/
theorem checkName_child_entryName_eq {directory : Path} (hne : directory.parts ≠ [])
    (hnull : Storage.Disk.holdsNull directory.text = false) (data : Bytes) :
    Storage.Disk.checkName (directory.child (entryName (keyOf data))).text =
      if directory.text.utf8ByteSize + 71 > Storage.Disk.nameLimit then
        .error (.os .nameTooLong (directory.child (entryName (keyOf data))).text)
      else .ok () := by
  have hname := isEntryName_entryName data
  have hpart : Storage.isPart (entryName (keyOf data)) = true := by
    simp only [Storage.Disk.isEntryName, Bool.and_eq_true] at hname
    exact hname.1.1
  -- a slash and a name of 70 bytes behind the directory
  have hlong : (directory.text ++ "/" ++ entryName (keyOf data)).utf8ByteSize =
      directory.text.utf8ByteSize + 71 := by
    rw [String.utf8ByteSize_append, String.utf8ByteSize_append, utf8ByteSize_entryName]
    rfl
  have hfree : Storage.Disk.holdsNull (directory.text ++ "/" ++ entryName (keyOf data)) = false := by
    have hdata := holdsNull_entryName data
    simp only [Storage.Disk.holdsNull, List.contains_eq_mem, decide_eq_false_iff_not] at hnull hdata
    simp [Storage.Disk.holdsNull, hnull, hdata]
  have hsome : directory.text ++ "/" ++ entryName (keyOf data) ≠ "" := by
    intro hempty
    rw [hempty] at hlong
    simp at hlong
  rw [Path.text_child hne hpart, Storage.Disk.checkName, hfree, if_neg Bool.false_ne_true,
    if_neg hsome, hlong]

/-- In a directory whose path is not too long, no artifact is refused for its path. -/
theorem checkName_child_entryName {directory : Path} (hne : directory.parts ≠ [])
    (hnull : Storage.Disk.holdsNull directory.text = false)
    (hsize : directory.text.utf8ByteSize + 71 ≤ Storage.Disk.nameLimit) (data : Bytes) :
    Storage.Disk.checkName (directory.child (entryName (keyOf data))).text = .ok () := by
  rw [checkName_child_entryName_eq hne hnull, if_neg (by omega)]

end Cache

end WasmGauge
