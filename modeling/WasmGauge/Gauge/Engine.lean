import WasmGauge.Text.Utf8
import WasmGauge.Wasm.Instance
import WasmGauge.Wasm.Binary.Module
import WasmGauge.Wat.Assembly

/-!
# Engines

An engine turns data into code. The data is a binary module or, if it does not begin like one, the
text of a module. What comes out can be kept as an artifact and taken up again by any engine; an
engine takes up nothing but artifacts.

Every artifact is read back from its own bytes.
-/

namespace WasmGauge

open Wasm (Bytes ValidModule)

/-- An engine. Two engines are the same if they have the same number. -/
structure Engine where
  id : Nat
  deriving DecidableEq, Repr

/-- The engine for all who bring none. -/
def Engine.shared : Engine := ⟨0⟩

/-- The code that a binary module holds. -/
def codeOf? (binary : Bytes) : Option ValidModule :=
  (Wasm.Binary.read binary).bind ValidModule.ofRaw?

/-- The binary module that data holds or denotes. -/
def binaryOf? (data : Bytes) : Option Bytes :=
  if Wasm.Binary.magic.isPrefixOf data then some data
  else
    -- whatever does not begin like a binary module is taken for the text of one
    match Text.decodeUtf8 data with
    | .ok text => Wat.assemble? text
    | .error _ => none

/-! ## Artifacts -/

/-- Code with the binary module that it was read from. -/
structure Artifact where
  binary : Bytes
  code : ValidModule
  /-- The code is what the binary module holds. -/
  code_eq : codeOf? binary = some code

namespace Artifact

def ofBinary? (binary : Bytes) : Option Artifact :=
  match h : codeOf? binary with
  | some code => some ⟨binary, code, h⟩
  | none => none

/-- The artifact with the code of a module that data holds or denotes. -/
def ofData? (data : Bytes) : Option Artifact := (binaryOf? data).bind ofBinary?

def header : Bytes := [0x7F, 0x45, 0x4C, 0x46, 0x67, 0x61, 0x75, 0x67, 0x65, 0x00]

def bytes (a : Artifact) : Bytes := header ++ a.binary

/-- The artifact that bytes hold. -/
def ofBytes? (bytes : Bytes) : Option Artifact :=
  if header.isPrefixOf bytes then ofBinary? (bytes.drop header.length) else none

theorem ofBinary?_binary (a : Artifact) : ofBinary? a.binary = some a := by
  obtain ⟨binary, code, h⟩ := a
  unfold ofBinary?
  split
  · rename_i other hother
    have : other = code := by simpa [h] using hother.symm
    subst this
    rfl
  · rename_i hnone
    simp [h] at hnone

theorem ofBytes?_bytes (a : Artifact) : ofBytes? a.bytes = some a := by
  have hbegin : header.isPrefixOf (header ++ a.binary) = true := by simp
  simp only [ofBytes?, bytes, hbegin, if_true, List.drop_left]
  exact ofBinary?_binary a

end Artifact

/-! ## Compiled modules -/

/-- A module as an engine has compiled it. Compiling the same bytes again makes another one. -/
structure Compiled where
  id : Nat
  engine : Engine
  artifact : Artifact

namespace Compiled

/-- The names of everything that a compiled module gives out, in order. -/
def exportNames (m : Compiled) : List String :=
  m.artifact.code.module.exports.map (·.name)

/-- What a compiled module needs from outside, in order. -/
def importNames (m : Compiled) : List String :=
  m.artifact.code.module.imports.map fun i => i.module ++ "." ++ i.name

end Compiled

end WasmGauge
