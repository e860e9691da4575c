import WasmGauge.Gauge.Bundle
import WasmGauge.Proofs.Compilation
import WasmGauge.Proofs.Fibonacci.Builds

/-!
# What the files of the builds hold

Each of the builds comes as the text of a module and as a binary module. All of them hold one function
that is given out under the name `fib`, with the code of the build; the text has the name of the
function in addition.

## Main statements

- `holds_fib`, `holds_fibOpt`, `assemble_fibText`, `assemble_fibOptText`: what the files hold.
- `instance?_eq`: what they are made into.
-/

namespace WasmGauge.Fibonacci

open Wasm

/-! ## §1 The files -/

/-- A module that gives out one function under the name `fib`. -/
def moduleOf (code : Code) : Module (List Instr) where
  types := [⟨[.i32], [.i32]⟩]
  funcs := [⟨0, code.locals, code.body⟩]
  exports := [⟨"fib", .func, 0⟩]

/-- Data that holds such a module. -/
def Holds (data : Bytes) (code : Code) : Prop :=
  ∃ a, Artifact.ofData? data = some a ∧ a.code.module = moduleOf code

/-- Data that begins like a binary module and is read as a valid one. -/
theorem holds_of_read {data : Bytes} {code : Code}
    (hmagic : Wasm.Binary.magic.isPrefixOf data = true)
    (hvalid : Validation.isValid (moduleOf code) = true)
    (hread : (Wasm.Binary.read data).bind (Module.mapCode nest) = some (moduleOf code)) :
    Holds data code := by
  obtain ⟨raw, hraw, hnest⟩ := Option.bind_eq_some_iff.1 hread
  have hcode : codeOf? data = some ⟨moduleOf code, hvalid⟩ := by
    simp [codeOf?, hraw, ValidModule.ofRaw?, hnest, hvalid]
  refine ⟨⟨data, ⟨moduleOf code, hvalid⟩, hcode⟩, ?_, rfl⟩
  unfold Artifact.ofData? binaryOf?
  rw [if_pos hmagic]
  exact Artifact.ofBinary?_binary ⟨data, ⟨moduleOf code, hvalid⟩, hcode⟩

theorem holds_fib : Holds Bundle.fibBinary twice :=
  holds_of_read (by decide +kernel) (by decide +kernel) rfl

theorem holds_fibOpt : Holds Bundle.fibOptBinary loop :=
  holds_of_read (by decide +kernel) (by decide +kernel) rfl

/-- The names that the text of the first build has: the function and its parameter. -/
def fibNames : Bytes :=
  [0x00, 0x15, 0x04, 0x6E, 0x61, 0x6D, 0x65, 0x01, 0x06, 0x01, 0x00, 0x03, 0x66, 0x69, 0x62, 0x02,
    0x06, 0x01, 0x00, 0x01, 0x00, 0x01, 0x6E]

/-- The names that the text of the second build has: the function, its parameter, the sum and the
loop. -/
def fibOptNames : Bytes :=
  [0x00, 0x25, 0x04, 0x6E, 0x61, 0x6D, 0x65, 0x01, 0x06, 0x01, 0x00, 0x03, 0x66, 0x69, 0x62, 0x02,
    0x0B, 0x01, 0x00, 0x02, 0x00, 0x01, 0x6E, 0x01, 0x03, 0x61, 0x63, 0x63, 0x03, 0x09, 0x01,
    0x00, 0x01, 0x00, 0x04, 0x74, 0x61, 0x69, 0x6C]

theorem toList_loop (bytes : ByteArray) (i : Nat) (acc : List UInt8) :
    ByteArray.toList.loop bytes i acc = acc.reverse ++ bytes.data.toList.drop i := by
  fun_induction ByteArray.toList.loop bytes i acc with
  | case1 i acc hlt ih =>
    have hlength : i < bytes.data.toList.length := hlt
    have hget : bytes.get! i = bytes.data.toList[i] := by
      show bytes.data[i]! = bytes.data.toList[i]
      rw [getElem!_pos bytes.data i hlength, Array.getElem_toList]
    rw [ih, List.reverse_cons, List.append_assoc, List.singleton_append, hget,
      List.getElem_cons_drop]
  | case2 i acc hge =>
    rw [List.drop_eq_nil_of_le (Nat.not_lt.1 hge), List.append_nil]

/-- The bytes that are listed one after the other are those that are there. -/
theorem toList_eq_toList_data (bytes : ByteArray) : bytes.toList = bytes.data.toList :=
  toList_loop bytes 0 []

theorem assemble_fibText :
    binaryOf? Bundle.fibText.toUTF8.toList = some (Bundle.fibBinary ++ fibNames) := by
  -- listed at once, the bytes are not looked up in the whole text each
  rw [toList_eq_toList_data]
  decide +kernel

theorem assemble_fibOptText :
    binaryOf? Bundle.fibOptText.toUTF8.toList = some (Bundle.fibOptBinary ++ fibOptNames) := by
  rw [toList_eq_toList_data]
  decide +kernel

theorem holds_fibNamed : Holds (Bundle.fibBinary ++ fibNames) twice :=
  holds_of_read (by decide +kernel) (by decide +kernel) rfl

theorem holds_fibOptNamed : Holds (Bundle.fibOptBinary ++ fibOptNames) loop :=
  holds_of_read (by decide +kernel) (by decide +kernel) rfl

/-- A build: its text, its binary module, and the code that both hold. -/
structure Build where
  text : String
  binary : Bytes
  code : Code

def unoptimized : Build := ⟨Bundle.fibText, Bundle.fibBinary, twice⟩

def optimized : Build := ⟨Bundle.fibOptText, Bundle.fibOptBinary, loop⟩

/-- A file of a build lies where a source says: the text if the source is one for text, and the binary
module if not. -/
def Build.LiesAt (b : Build) (s : Source) (d : Storage.Disk) : Prop :=
  d.read s.text = .ok (if s.isText then b.text.toUTF8.toList else b.binary)

theorem assemble_of_binaryOf? {s : Source} {bytes binary : Bytes} (hs : s.isText = true)
    (hmagic : Wasm.Binary.magic.isPrefixOf bytes = false) (h : binaryOf? bytes = some binary) :
    s.assemble bytes = .ok binary := by
  unfold binaryOf? at h
  unfold Source.assemble
  rw [if_neg (by simp [hmagic])] at h
  rw [if_pos hs]
  cases hdecode : Text.decodeUtf8 bytes with
  | error fault =>
      rw [hdecode] at h
      cases h
  | ok text =>
      rw [hdecode] at h
      simp only at h ⊢
      rw [h]

/-- Whatever file of a build a source is, its data holds the code of the build. -/
theorem Build.holds {b : Build} (hb : b ∈ [unoptimized, optimized]) {s : Source} {d : Storage.Disk}
    (h : b.LiesAt s d) : ∃ data, s.dataOn d = .ok data ∧ Holds data b.code := by
  have hdata : s.dataOn d =
      (s.assemble (if s.isText then b.text.toUTF8.toList else b.binary)).mapError
        (.compile s.path) := by
    unfold Source.dataOn
    rw [h]
  rw [hdata]
  cases hs : s.isText with
  | false =>
      have hassemble : s.assemble b.binary = .ok b.binary := by simp [Source.assemble, hs]
      simp only [Bool.false_eq_true, if_false, hassemble]
      rcases List.mem_cons.1 hb with rfl | hrest
      · exact ⟨_, rfl, holds_fib⟩
      · obtain rfl := List.mem_singleton.1 hrest
        exact ⟨_, rfl, holds_fibOpt⟩
  | true =>
      simp only [if_true]
      rcases List.mem_cons.1 hb with rfl | hrest
      · have hassemble := assemble_of_binaryOf? hs (by decide +kernel) assemble_fibText
        exact ⟨_, by rw [unoptimized, hassemble]; rfl, holds_fibNamed⟩
      · obtain rfl := List.mem_singleton.1 hrest
        have hassemble := assemble_of_binaryOf? hs (by decide +kernel) assemble_fibOptText
        exact ⟨_, by rw [optimized, hassemble]; rfl, holds_fibOptNamed⟩

/-! ## §2 Instances -/

/-- What a module of a build is made into. -/
def instanceOf (code : Code) : Wasm.Instance :=
  ⟨program code, [⟨"fib", .func, 0⟩], ⟨#[], #[], #[]⟩⟩

theorem instantiate_eq {v : ValidModule} {code : Code} (hcode : v.module = moduleOf code)
    (htype : code.type = ⟨[.i32], [.i32]⟩) (bounds : Bounds) :
    v.instantiate bounds = .ok (instanceOf code) := by
  obtain ⟨m, hvalid⟩ := v
  obtain ⟨type, locals, body⟩ := code
  cases hcode
  cases htype
  rfl

/-- An executable of a build, compiled for its engine, is made an instance of the build. -/
theorem instance?_eq {x : Executable} {code : Code}
    (hcode : x.compiled.artifact.code.module = moduleOf code)
    (htype : code.type = ⟨[.i32], [.i32]⟩) (hengine : x.compiled.engine = x.engine)
    (bounds : Bounds) : x.instance? bounds = .ok (instanceOf code) := by
  unfold Executable.instance? Compiled.importNames
  rw [hcode, instantiate_eq hcode htype]
  simp [moduleOf, hengine, Except.mapError]

end WasmGauge.Fibonacci
