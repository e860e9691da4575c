import WasmGauge.Gauge.Bundle
import WasmGauge.Proofs.Compilation
import WasmGauge.Proofs.Fuel
import WasmGauge.Proofs.Handles.Instantiation
import WasmGauge.Proofs.Storage.Reading
import WasmGauge.Proofs.Text.Utf8

/-!
# What loading comes to

Without a cache, loading a source gives a handle, or it fails because the bytes of the source cannot be
read, or because they are no module that can be run. Which of these it is, and for which cause, is said
here in terms of the disk and of the bytes, without the steps of loading: `Disk.Unreadable` says why
bytes are not read, and `Source.Unfit` why they are no module that can be run.

Two cases stand apart. The name of a file is a text that has bytes; a text with a surrogate that stands
alone has none, and loading it fails without a class of failures of its own. And a start function may
never end: then loading does not end, which is told from a trap by `Source.RunsOn`.

## Main statements

- `Source.instanceOf_eq_refused_iff`: bytes are made no instance exactly if they are unfit.
- `Source.classified`: the outcome of loading, for every disk and every content.
-/

namespace WasmGauge

open Storage (Path Disk DiskFault Errno)
open Text (Symbol)
open Wasm (Bytes Bounds Trap Store Unready ValidModule)

/-! ## §1 Instances -/

namespace Wasm.ValidModule

variable {v : ValidModule} {bounds : Bounds}

/-- An instance is made of the store that the start function leaves. -/
theorem instantiate_eq_of_initialStore {store : Store} (h : v.initialStore = .ok store) :
    v.instantiate bounds =
      (v.program.start bounds store v.module.starts.head?).map
        (⟨v.program, v.module.exports, ·⟩) := by
  unfold instantiate
  rw [h]
  simp only [Except.mapError, bind, Except.bind]
  cases v.program.start bounds store v.module.starts.head? <;> rfl

theorem instantiate_eq_of_initialStore_error {trap : Trap} (h : v.initialStore = .error trap) :
    v.instantiate bounds = .error (.refused trap) := by
  unfold instantiate
  rw [h]
  rfl

/-- More fuel makes no other instance, unless the start function is still running. -/
theorem instantiate_of_fuel_le {fuel : Nat} (hle : bounds.fuel ≤ fuel)
    (hends : v.instantiate bounds ≠ .error .endless) :
    v.instantiate ⟨fuel, bounds.depth⟩ = v.instantiate bounds := by
  cases hstore : v.initialStore with
  | error trap =>
    rw [instantiate_eq_of_initialStore_error hstore, instantiate_eq_of_initialStore_error hstore]
  | ok store =>
    rw [instantiate_eq_of_initialStore hstore] at hends ⊢
    rw [instantiate_eq_of_initialStore hstore, Wasm.Program.start_of_fuel_le hle]
    intro hstart
    rw [hstart] at hends
    exact hends rfl

end Wasm.ValidModule

/-! ## §2 Bytes that are no module that can be run -/

def Artifact.needs (a : Artifact) : List String :=
  a.code.module.imports.map fun i => i.module ++ "." ++ i.name

/-- The instance that is made of code, or why none is. -/
def Artifact.instanceIn (a : Artifact) (bounds : Bounds) :
    Except (Unready CompileCause) Wasm.Instance :=
  if a.needs ≠ [] then .error (.refused (.unresolvedImports a.needs))
  else (a.code.instantiate bounds).mapError (Unready.map .trapped)

theorem Artifact.instanceIn_of_needs {a : Artifact} (h : a.needs = []) (bounds : Bounds) :
    a.instanceIn bounds = (a.code.instantiate bounds).mapError (Unready.map .trapped) :=
  if_neg (not_not_intro h)

namespace Source

/-- The data that the bytes of a source stand for: the bytes themselves or, if they are the encoding of
a text, what is assembled from it. -/
def StandsFor (s : Source) (bytes data : Bytes) : Prop :=
  if s.isText = true then ∃ cs, bytes = Text.encodeUtf8 cs ∧ Wat.assemble? cs = some data
  else data = bytes

/-- Why the bytes of a source are no module that can be run. -/
inductive Unfit (s : Source) (bounds : Bounds) (bytes : Bytes) : CompileCause → Prop where
  /-- The source is a text, and the bytes are no encoding of one. -/
  | notText {fault : Text.Utf8Fault} (htext : s.isText = true)
    (h : Text.decodeUtf8 bytes = .error fault) : Unfit s bounds bytes (.notText fault)
  /-- The text is not accepted by the assembler. -/
  | notAssembled {cs : List Char} (htext : s.isText = true) (h : bytes = Text.encodeUtf8 cs)
    (hrejected : Wat.assemble? cs = none) : Unfit s bounds bytes .rejected
  /-- The data is not accepted by the engine. -/
  | notCompiled {data : Bytes} (h : s.StandsFor bytes data)
    (hrejected : Artifact.ofData? data = none) : Unfit s bounds bytes .rejected
  /-- The module needs something from outside. -/
  | needy {data : Bytes} {a : Artifact} (h : s.StandsFor bytes data)
    (ha : Artifact.ofData? data = some a) (hneeds : a.needs ≠ []) :
    Unfit s bounds bytes (.unresolvedImports a.needs)
  /-- Globals, tables or memories do not get their first values. -/
  | notMade {data : Bytes} {a : Artifact} {trap : Trap} (h : s.StandsFor bytes data)
    (ha : Artifact.ofData? data = some a) (hneeds : a.needs = [])
    (htrap : a.code.initialStore = .error trap) : Unfit s bounds bytes (.trapped trap)
  /-- The start function traps. -/
  | notStarted {data : Bytes} {a : Artifact} {store store' : Store} {f : Nat} {trap : Trap}
    (h : s.StandsFor bytes data) (ha : Artifact.ofData? data = some a) (hneeds : a.needs = [])
    (hstore : a.code.initialStore = .ok store) (hf : a.code.module.starts.head? = some f)
    (hends : trap ≠ .outOfFuel)
    (htrap : Wasm.call a.code.program bounds.fuel bounds.depth f [] store = .trap trap store') :
    Unfit s bounds bytes (.trapped trap)

/-- The start function of the module that bytes are is still running when the fuel is gone. -/
def RunsOn (s : Source) (bounds : Bounds) (bytes : Bytes) : Prop :=
  ∃ data a store store' f, s.StandsFor bytes data ∧ Artifact.ofData? data = some a ∧
    a.needs = [] ∧ a.code.initialStore = .ok store ∧ a.code.module.starts.head? = some f ∧
    Wasm.call a.code.program bounds.fuel bounds.depth f [] store = .trap .outOfFuel store'

/-- What becomes of bytes that have been read. -/
def instanceOf (s : Source) (bounds : Bounds) (bytes : Bytes) :
    Except (Unready CompileCause) Wasm.Instance :=
  match s.assemble bytes with
  | .error cause => .error (.refused cause)
  | .ok data =>
    match Artifact.ofData? data with
    | none => .error (.refused .rejected)
    | some a => a.instanceIn bounds

variable {s : Source} {bounds : Bounds} {bytes data : Bytes}

/-- Assembling fails because the bytes are no text or because the text is not accepted. -/
theorem assemble_eq_error_iff {cause : CompileCause} :
    s.assemble bytes = .error cause ↔
      s.isText = true ∧ ((∃ fault, Text.decodeUtf8 bytes = .error fault ∧ cause = .notText fault) ∨
        ∃ cs, bytes = Text.encodeUtf8 cs ∧ Wat.assemble? cs = none ∧ cause = .rejected) := by
  unfold assemble
  -- bytes that are not for a text are taken as they are
  cases s.isText with
  | false => simp
  | true =>
    cases hread : Text.decodeUtf8 bytes with
    | error fault =>
      have hno : ∀ cs, bytes ≠ Text.encodeUtf8 cs := Text.decodeUtf8_fails_iff.1 ⟨fault, hread⟩
      simp [hno, eq_comm]
    | ok cs =>
      obtain rfl := Text.decodeUtf8_eq_ok_iff.1 hread
      cases hassembled : Wat.assemble? cs with
      | none => simp [Text.encodeUtf8_inj, hassembled, eq_comm]
      | some binary => simp [Text.encodeUtf8_inj, hassembled]

theorem assemble_eq_ok_iff : s.assemble bytes = .ok data ↔ s.StandsFor bytes data := by
  unfold assemble StandsFor
  cases s.isText with
  | false => simp [eq_comm]
  | true =>
    cases hread : Text.decodeUtf8 bytes with
    | error fault =>
      have hno : ∀ cs, bytes ≠ Text.encodeUtf8 cs := Text.decodeUtf8_fails_iff.1 ⟨fault, hread⟩
      simp [hno]
    | ok cs =>
      obtain rfl := Text.decodeUtf8_eq_ok_iff.1 hread
      cases hassembled : Wat.assemble? cs with
      | none => simp [Text.encodeUtf8_inj, hassembled]
      | some binary => simp [Text.encodeUtf8_inj, hassembled]

theorem instanceOf_of_standsFor {a : Artifact} (h : s.StandsFor bytes data)
    (ha : Artifact.ofData? data = some a) : s.instanceOf bounds bytes = a.instanceIn bounds := by
  unfold instanceOf
  rw [assemble_eq_ok_iff.2 h]
  simp only [ha]

/-- Each reason lets all steps before the one that fails succeed. -/
theorem Unfit.instanceOf_eq {cause : CompileCause} (h : s.Unfit bounds bytes cause) :
    s.instanceOf bounds bytes = .error (.refused cause) := by
  cases h with
  | notText htext hfault =>
    unfold instanceOf
    rw [assemble_eq_error_iff.2 ⟨htext, .inl ⟨_, hfault, rfl⟩⟩]
  | notAssembled htext hcs hrejected =>
    unfold instanceOf
    rw [assemble_eq_error_iff.2 ⟨htext, .inr ⟨_, hcs, hrejected, rfl⟩⟩]
  | notCompiled hstands ha =>
    unfold instanceOf
    rw [assemble_eq_ok_iff.2 hstands]
    simp only [ha]
  | needy hstands ha hneeds =>
    rw [instanceOf_of_standsFor hstands ha]
    exact if_pos hneeds
  | notMade hstands ha hneeds htrap =>
    rw [instanceOf_of_standsFor hstands ha, Artifact.instanceIn_of_needs hneeds,
      ValidModule.instantiate_eq_of_initialStore_error htrap]
    rfl
  | notStarted hstands ha hneeds hstore hf hends htrap =>
    have hstart := Wasm.Program.start_eq_refused_iff.2 ⟨_, _, hf, hends, htrap⟩
    rw [instanceOf_of_standsFor hstands ha, Artifact.instanceIn_of_needs hneeds,
      ValidModule.instantiate_eq_of_initialStore hstore, hstart]
    rfl

theorem RunsOn.instanceOf_eq (h : s.RunsOn bounds bytes) :
    s.instanceOf bounds bytes = .error .endless := by
  obtain ⟨data, a, store, store', f, hstands, ha, hneeds, hstore, hf, hcall⟩ := h
  have hstart := Wasm.Program.start_eq_endless_iff.2 ⟨f, store', hf, hcall⟩
  rw [instanceOf_of_standsFor hstands ha, Artifact.instanceIn_of_needs hneeds,
    ValidModule.instantiate_eq_of_initialStore hstore, hstart]
  rfl

/-- Bytes are unfit, or their start function is still running, or an instance is made of them. -/
theorem unfit_or_runsOn (s : Source) (bounds : Bounds) (bytes : Bytes) :
    (∃ cause, s.Unfit bounds bytes cause) ∨ s.RunsOn bounds bytes ∨
      ∃ i, s.instanceOf bounds bytes = .ok i := by
  -- along the steps from the bytes to the instance, the one that fails names the reason
  cases hdata : s.assemble bytes with
  | error cause =>
    obtain ⟨htext, ⟨fault, hfault, -⟩ | ⟨cs, hcs, hrejected, -⟩⟩ := assemble_eq_error_iff.1 hdata
    · exact .inl ⟨_, .notText htext hfault⟩
    · exact .inl ⟨_, .notAssembled htext hcs hrejected⟩
  | ok data =>
    have hstands := assemble_eq_ok_iff.1 hdata
    cases ha : Artifact.ofData? data with
    | none => exact .inl ⟨_, .notCompiled hstands ha⟩
    | some a =>
      by_cases hneeds : a.needs = []
      · cases hstore : a.code.initialStore with
        | error trap => exact .inl ⟨_, .notMade hstands ha hneeds hstore⟩
        | ok store =>
          cases hstart : a.code.program.start bounds store a.code.module.starts.head? with
          | ok store' =>
            refine .inr (.inr ⟨⟨a.code.program, a.code.module.exports, store'⟩, ?_⟩)
            rw [instanceOf_of_standsFor hstands ha, Artifact.instanceIn_of_needs hneeds,
              ValidModule.instantiate_eq_of_initialStore hstore, hstart]
            rfl
          | error unready =>
            cases unready with
            | refused trap =>
              obtain ⟨f, store', hf, hends, htrap⟩ := Wasm.Program.start_eq_refused_iff.1 hstart
              exact .inl ⟨_, .notStarted hstands ha hneeds hstore hf hends htrap⟩
            | endless =>
              obtain ⟨f, store', hf, hcall⟩ := Wasm.Program.start_eq_endless_iff.1 hstart
              exact .inr (.inl ⟨data, a, store, store', f, hstands, ha, hneeds, hstore, hf, hcall⟩)
      · exact .inl ⟨_, .needy hstands ha hneeds⟩

/-- Bytes are made no instance exactly if they are unfit, and for the same cause. -/
theorem instanceOf_eq_refused_iff {cause : CompileCause} :
    s.instanceOf bounds bytes = .error (.refused cause) ↔ s.Unfit bounds bytes cause := by
  refine ⟨fun h => ?_, Unfit.instanceOf_eq⟩
  rcases s.unfit_or_runsOn bounds bytes with ⟨cause', hunfit⟩ | hruns | ⟨i, hi⟩
  · rw [hunfit.instanceOf_eq] at h
    cases h
    exact hunfit
  · rw [hruns.instanceOf_eq] at h
    cases h
  · rw [hi] at h
    cases h

theorem instanceOf_eq_endless_iff :
    s.instanceOf bounds bytes = .error .endless ↔ s.RunsOn bounds bytes := by
  refine ⟨fun h => ?_, RunsOn.instanceOf_eq⟩
  rcases s.unfit_or_runsOn bounds bytes with ⟨cause, hunfit⟩ | hruns | ⟨i, hi⟩
  · rw [hunfit.instanceOf_eq] at h
    cases h
  · exact hruns
  · rw [hi] at h
    cases h

/-- Bytes are made an instance exactly if there is nothing against it. -/
theorem exists_instanceOf_iff :
    (∃ i, s.instanceOf bounds bytes = .ok i) ↔
      (∀ cause, ¬ s.Unfit bounds bytes cause) ∧ ¬ s.RunsOn bounds bytes := by
  simp only [← instanceOf_eq_refused_iff, ← instanceOf_eq_endless_iff]
  rcases s.instanceOf bounds bytes with (cause | _) | i
  · simp
  · simp
  · simp

/-- A start function that is still running is no trap. -/
theorem not_unfit_outOfFuel : ¬ s.Unfit bounds bytes (.trapped .outOfFuel) := by
  intro h
  cases h with
  | notMade hstands ha hneeds htrap =>
    exact (Wasm.ValidModule.fuelless_initialStore _).ne _ htrap rfl
  | notStarted hstands ha hneeds hstore hf hends htrap => exact hends rfl

/-- More fuel makes no other instance, unless the start function is still running. -/
theorem instanceOf_of_fuel_le {fuel : Nat} (hle : bounds.fuel ≤ fuel)
    (hends : ¬ s.RunsOn bounds bytes) :
    s.instanceOf ⟨fuel, bounds.depth⟩ bytes = s.instanceOf bounds bytes := by
  rw [← instanceOf_eq_endless_iff] at hends
  unfold instanceOf at *
  cases hdata : s.assemble bytes with
  | error cause => rfl
  | ok data =>
    cases ha : Artifact.ofData? data with
    | none => simp only [ha]
    | some a =>
      simp only [hdata, ha, Artifact.instanceIn] at hends ⊢
      by_cases hneeds : a.needs = []
      · simp only [hneeds, ne_eq, not_true_eq_false, if_false] at hends ⊢
        rw [ValidModule.instantiate_of_fuel_le hle]
        intro hmade
        rw [hmade] at hends
        exact hends rfl
      · simp only [hneeds, ne_eq, not_false_eq_true, if_true]

/-! ## §3 Loading -/

variable {engine : Engine} {verbose : Bool} {w : World}

/-- What loading a source comes to: the failure to read it, or what becomes of its bytes. -/
def instanceFrom (s : Source) (w : World) : Except Failure Wasm.Instance :=
  match w.disk.read s.text with
  | .error (.os cause _) => .error (.load s.path cause)
  | .error fault => .error (.disk fault)
  | .ok bytes => (s.instanceOf w.bounds bytes).mapError (·.failure s.path)

/-- Code that an engine has compiled for a source is made an instance like the code alone. -/
theorem start_instantiate (s : Source) (engine : Engine) (id : Nat) (a : Artifact) (w : World) :
    ((Executable.mk s engine ⟨id, engine, a⟩).instantiate.outcome w).1.map Handle.start =
      (a.instanceIn w.bounds).mapError (·.failure s.path) := by
  have himports : (Compiled.mk id engine a).importNames = a.needs := rfl
  have hinstance :
      (Executable.mk s engine ⟨id, engine, a⟩).instance? w.bounds = a.instanceIn w.bounds := by
    unfold Executable.instance? Artifact.instanceIn
    simp only [himports]
    by_cases hneeds : a.needs = []
    · simp [hneeds]
    · simp [hneeds]
  cases hi : a.instanceIn w.bounds with
  | error unready =>
    rw [Executable.outcome_instantiate_of_error (hinstance.trans hi)]
    rfl
  | ok i =>
    obtain ⟨logger, hout⟩ := Executable.outcome_instantiate_of_ok (hinstance.trans hi)
    rw [hout]
    rfl

/-- Loading a source gives a handle of its instance. -/
theorem start_load (s : Source) (engine : Engine) (verbose : Bool) (w : World) :
    ((s.load engine false verbose).outcome w).1.map Handle.start = s.instanceFrom w := by
  unfold instanceFrom load
  -- what is announced and logged on the way is no matter to the result
  rw [Act.outcome_bind, s.outcome_compile]
  unfold dataOn instanceOf
  cases hread : w.disk.read s.text with
  | error fault => cases fault <;> rfl
  | ok bytes =>
    simp only
    cases hdata : s.assemble bytes with
    | error cause => rfl
    | ok data =>
      obtain ⟨out, hannounce⟩ := s.outcome_announce data verbose w
      simp only [Except.mapError, obtain, Bool.false_eq_true, if_false]
      rw [Act.outcome_bind_of_ok hannounce]
      cases ha : Artifact.ofData? data with
      | none =>
        rw [s.outcome_compileData_of_none engine _ ha]
        rfl
      | some a =>
        obtain ⟨logger, hcompiled⟩ := s.outcome_compileData_of_some engine { w with out := out } ha
        rw [hcompiled]
        exact s.start_instantiate engine w.made a
          { w with out := out, made := w.made + 1, logger := logger }

theorem load_eq_error_iff {f : Failure} :
    ((s.load engine false verbose).outcome w).1 = .error f ↔ s.instanceFrom w = .error f := by
  rw [← s.start_load engine verbose w]
  cases ((s.load engine false verbose).outcome w).1 with
  | error f' => simp [Except.map]
  | ok h => simp [Except.map]

theorem exists_load_iff :
    (∃ h, ((s.load engine false verbose).outcome w).1 = .ok h) ↔ ∃ i, s.instanceFrom w = .ok i := by
  rw [← s.start_load engine verbose w]
  cases ((s.load engine false verbose).outcome w).1 with
  | error f => simp [Except.map]
  | ok h => simp [Except.map]

/-- The outcome of loading a source without a cache, said in terms of the disk and of the bytes of the
source. -/
structure Classified (s : Source) (engine : Engine) (verbose : Bool) (w : World) : Prop where
  /-- A failure is one of reading or one of compiling, or it stands for a start function that is still
  running. -/
  failure (f : Failure) : ((s.load engine false verbose).outcome w).1 = .error f →
    (∃ cause, f = .load s.path cause) ∨ (∃ cause, f = .compile s.path cause) ∨ f = .endless s.path
  /-- It is one of reading exactly if the bytes cannot be read. -/
  unreadable (cause : Errno) :
    ((s.load engine false verbose).outcome w).1 = .error (.load s.path cause) ↔
      w.disk.Unreadable s.text cause
  /-- There are few causes for this. -/
  causes (cause : Errno) : w.disk.Unreadable s.text cause → cause.hindersReading = true
  /-- It is one of compiling exactly if the bytes are read and are unfit. -/
  unfit (cause : CompileCause) :
    ((s.load engine false verbose).outcome w).1 = .error (.compile s.path cause) ↔
      ∃ bytes, w.disk.read s.text = .ok bytes ∧ s.Unfit w.bounds bytes cause
  /-- Bytes that are no text are those that encode none. -/
  notText (bytes : Bytes) : (∃ fault, s.Unfit w.bounds bytes (.notText fault)) ↔
    s.isText = true ∧ ∀ cs, bytes ≠ Text.encodeUtf8 cs
  /-- The start function is still running exactly if the bytes are read and it is not done. -/
  endless : ((s.load engine false verbose).outcome w).1 = .error (.endless s.path) ↔
    ∃ bytes, w.disk.read s.text = .ok bytes ∧ s.RunsOn w.bounds bytes
  /-- This is never said of code that traps. -/
  ended (bytes : Bytes) : ¬ s.Unfit w.bounds bytes (.trapped .outOfFuel)
  /-- A start function that is done has not been stopped: with more fuel all is the same. -/
  settled (fuel : Nat) : w.bounds.fuel ≤ fuel →
    ((s.load engine false verbose).outcome w).1 ≠ .error (.endless s.path) →
      ((s.load engine false verbose).outcome { w with bounds := ⟨fuel, w.bounds.depth⟩ }).1.map
          Handle.start =
        ((s.load engine false verbose).outcome w).1.map Handle.start
  /-- In all other cases there is a handle. -/
  handle : (∃ h, ((s.load engine false verbose).outcome w).1 = .ok h) ↔
    ∃ bytes, w.disk.read s.text = .ok bytes ∧
      (∀ cause, ¬ s.Unfit w.bounds bytes cause) ∧ ¬ s.RunsOn w.bounds bytes
  /-- If something is needed from outside, all of it is named in order. -/
  needs (names : List String) (bytes : Bytes) :
    s.Unfit w.bounds bytes (.unresolvedImports names) ↔ names ≠ [] ∧
      ∃ data a, s.StandsFor bytes data ∧ Artifact.ofData? data = some a ∧
        names = a.code.module.imports.map fun i => i.module ++ "." ++ i.name
  /-- The words for this are the names, and nothing has been run: no bounds of calls make a
  difference. -/
  notRun (names : List String) :
    ((s.load engine false verbose).outcome w).1 =
        .error (.compile s.path (.unresolvedImports names)) →
      CompileCause.message (.unresolvedImports names) =
          "unresolved imports: " ++ ", ".intercalate names ∧
        ∀ bounds, ((s.load engine false verbose).outcome { w with bounds := bounds }).1 =
          .error (.compile s.path (.unresolvedImports names))
  /-- A load that fails has left no instance behind: the world is the one after compiling. -/
  leaves (f : Failure) : ((s.load engine false verbose).outcome w).1 = .error f →
    ((s.load engine false verbose).outcome w).2 = ((s.compile engine false verbose).outcome w).2

theorem outcome_load_snd_of_error {f : Failure}
    (h : ((s.load engine false verbose).outcome w).1 = .error f) :
    ((s.load engine false verbose).outcome w).2 = ((s.compile engine false verbose).outcome w).2 := by
  unfold load at *
  rw [Act.outcome_bind] at *
  rcases hcompile : (s.compile engine false verbose).outcome w with ⟨result, w'⟩
  rw [hcompile] at h
  cases result with
  | error f' => rfl
  | ok x =>
    rcases hmade : x.instantiate.outcome w' with ⟨made, w''⟩
    simp only [hmade] at h ⊢
    subst h
    exact Executable.eq_of_instantiate_error hmade

/-- What is needed from outside is needed under all bounds of calls. -/
theorem Unfit.of_needs {names : List String} (h : s.Unfit bounds bytes (.unresolvedImports names))
    (bounds' : Bounds) : s.Unfit bounds' bytes (.unresolvedImports names) := by
  -- the reason is known from its name, and no bound occurs in it
  cases h with
  | needy hstands ha hneeds => exact .needy hstands ha hneeds

/-- What is read from a disk, if the name is one of a file. -/
theorem instanceFrom_cases (hnull : Disk.holdsNull s.text = false) (w : World) :
    (∃ cause, w.disk.read s.text = .error (.os cause s.text) ∧
        s.instanceFrom w = .error (.load s.path cause)) ∨
      ∃ bytes, w.disk.read s.text = .ok bytes ∧
        s.instanceFrom w = (s.instanceOf w.bounds bytes).mapError (·.failure s.path) := by
  unfold instanceFrom
  rcases w.disk.read_cases s.text with ⟨hnull', -⟩ | ⟨-, ⟨bytes, hread⟩ | ⟨cause, hread⟩⟩
  · rw [hnull] at hnull'
    cases hnull'
  · exact .inr ⟨bytes, hread, by rw [hread]⟩
  · exact .inl ⟨cause, hread, by rw [hread]⟩

/-- A source is not compiled exactly if its bytes are read and are unfit. -/
theorem instanceFrom_eq_compile_iff (hnull : Disk.holdsNull s.text = false) {cause : CompileCause} :
    s.instanceFrom w = .error (.compile s.path cause) ↔
      ∃ bytes, w.disk.read s.text = .ok bytes ∧ s.Unfit w.bounds bytes cause := by
  rcases instanceFrom_cases hnull w with ⟨cause', hread, hfrom⟩ | ⟨bytes, hread, hfrom⟩
  · simp [hread, hfrom]
  · simp only [hread, hfrom, Except.ok.injEq, exists_eq_left', ← instanceOf_eq_refused_iff]
    rcases s.instanceOf w.bounds bytes with (cause' | _) | i
    · simp [Except.mapError, Unready.failure]
    · simp [Except.mapError, Unready.failure]
    · simp [Except.mapError]

theorem instanceFrom_eq_endless_iff (hnull : Disk.holdsNull s.text = false) :
    s.instanceFrom w = .error (.endless s.path) ↔
      ∃ bytes, w.disk.read s.text = .ok bytes ∧ s.RunsOn w.bounds bytes := by
  rcases instanceFrom_cases hnull w with ⟨cause', hread, hfrom⟩ | ⟨bytes, hread, hfrom⟩
  · simp [hread, hfrom]
  · simp only [hread, hfrom, Except.ok.injEq, exists_eq_left', ← instanceOf_eq_endless_iff]
    rcases s.instanceOf w.bounds bytes with (cause' | _) | i
    · simp [Except.mapError, Unready.failure]
    · simp [Except.mapError, Unready.failure]
    · simp [Except.mapError]

/-- The outcome of loading, for a source whose text can name a file. -/
theorem classified_of_holdsNull (hnull : Disk.holdsNull s.text = false) (engine : Engine)
    (verbose : Bool) (w : World) : s.Classified engine verbose w := by
  constructor
  case failure =>
    intro f hf
    rw [load_eq_error_iff] at hf
    rcases instanceFrom_cases hnull w with ⟨cause, -, hfrom⟩ | ⟨bytes, -, hfrom⟩
    · rw [hfrom] at hf
      exact .inl ⟨cause, (Except.error.inj hf).symm⟩
    · rw [hfrom] at hf
      rcases hi : s.instanceOf w.bounds bytes with (cause | _) | i
      · rw [hi] at hf
        exact .inr (.inl ⟨cause, (Except.error.inj hf).symm⟩)
      · rw [hi] at hf
        exact .inr (.inr (Except.error.inj hf).symm)
      · rw [hi] at hf
        cases hf
  case unreadable =>
    intro cause
    rw [load_eq_error_iff, ← Disk.read_eq_error_iff]
    rcases instanceFrom_cases hnull w with ⟨cause', hread, hfrom⟩ | ⟨bytes, hread, hfrom⟩
    · simp [hread, hfrom]
    · rw [hread, hfrom]
      rcases s.instanceOf w.bounds bytes with (cause' | _) | i
      · simp [Except.mapError, Unready.failure]
      · simp [Except.mapError, Unready.failure]
      · simp [Except.mapError]
  case causes => exact fun cause h => Disk.hindersReading_of_read (Disk.read_eq_error_iff.2 h)
  case unfit =>
    intro cause
    rw [load_eq_error_iff, instanceFrom_eq_compile_iff hnull]
  case notText =>
    intro bytes
    rw [← Text.decodeUtf8_fails_iff]
    constructor
    · rintro ⟨fault, h⟩
      cases h with
      | notText htext hfault => exact ⟨htext, fault, hfault⟩
    · rintro ⟨htext, fault, hfault⟩
      exact ⟨fault, .notText htext hfault⟩
  case endless => rw [load_eq_error_iff, instanceFrom_eq_endless_iff hnull]
  case ended => exact fun bytes => not_unfit_outOfFuel
  case settled =>
    intro fuel hle hends
    rw [s.start_load, s.start_load]
    rw [Ne, load_eq_error_iff, instanceFrom_eq_endless_iff hnull] at hends
    unfold instanceFrom
    cases hread : w.disk.read s.text with
    | error fault => cases fault <;> rfl
    | ok bytes => simp only [instanceOf_of_fuel_le hle fun hruns => hends ⟨bytes, hread, hruns⟩]
  case handle =>
    rw [exists_load_iff]
    rcases instanceFrom_cases hnull w with ⟨cause', hread, hfrom⟩ | ⟨bytes, hread, hfrom⟩
    · simp [hread, hfrom]
    · simp only [hread, hfrom, Except.ok.injEq, exists_eq_left', ← exists_instanceOf_iff]
      cases s.instanceOf w.bounds bytes with
      | error unready => simp [Except.mapError]
      | ok i => simp [Except.mapError]
  case needs =>
    intro names bytes
    constructor
    · intro h
      cases h with
      | needy hstands ha hneeds => exact ⟨hneeds, _, _, hstands, ha, rfl⟩
    · rintro ⟨hneeds, data, a, hstands, ha, rfl⟩
      exact .needy hstands ha hneeds
  case notRun =>
    intro names hload
    refine ⟨rfl, fun bounds => ?_⟩
    rw [load_eq_error_iff, instanceFrom_eq_compile_iff hnull] at hload ⊢
    obtain ⟨bytes, hread, hunfit⟩ := hload
    exact ⟨bytes, hread, hunfit.of_needs bounds⟩
  case leaves => exact fun f hf => outcome_load_snd_of_error hf

/-! ## §4 Names with surrogates -/

variable {symbols : List Symbol}

theorem exists_dropWhile {surrogate : Text.Surrogate} (h : .lone surrogate ∈ symbols) :
    ∃ first rest, symbols.dropWhile Symbol.isChar = .lone first :: rest := by
  induction symbols with
  | nil => cases h
  | cons symbol rest ih =>
    cases symbol with
    | char c => exact ih (by simpa using h)
    | lone first => exact ⟨first, rest, rfl⟩

theorem dropWhile_map_char (cs : List Char) : (cs.map Symbol.char).dropWhile Symbol.isChar = [] := by
  induction cs with
  | nil => rfl
  | cons c cs ih => exact ih

/-- Symbols without a surrogate are a text. -/
theorem exists_eq_map_char (h : ∀ surrogate, .lone surrogate ∉ symbols) :
    ∃ t : String, symbols = t.toList.map .char := by
  suffices hchars : ∃ cs : List Char, symbols = cs.map .char by
    obtain ⟨cs, rfl⟩ := hchars
    exact ⟨String.ofList cs, by rw [String.toList_ofList]⟩
  induction symbols with
  | nil => exact ⟨[], rfl⟩
  | cons symbol rest ih =>
    obtain ⟨cs, rfl⟩ := ih fun surrogate hmem => h surrogate (List.mem_cons_of_mem _ hmem)
    cases symbol with
    | char c => exact ⟨c :: cs, rfl⟩
    | lone surrogate => exact absurd List.mem_cons_self (h surrogate)

/-- The symbols of a text stand for the source that the text denotes. -/
theorem outcome_located (t : String) (w : World) :
    (located (t.toList.map .char)).outcome w = (.ok (ofText t), w) := by
  have hfault : surrogateFault? (t.toList.map .char) = none := by
    unfold surrogateFault?
    rw [dropWhile_map_char]
  have hplain : Symbol.plain (t.toList.map .char) = t := by
    simp [Symbol.plain, List.filterMap_map, Function.comp_def, Symbol.char?]
  unfold located
  rw [hfault, hplain]
  rfl

/-- For every text that can name a file, every disk and every content, with any engine. A text with a
surrogate that stands alone has no bytes: loading it fails for that reason alone, which is none of the
failures of the harness, and changes nothing. With any other text, loading the source fails to read it,
fails to compile it, does not end, or gives a handle, and each of these is the case exactly for the
reasons that are given. -/
theorem classified (symbols : List Symbol) (hnull : .char '\x00' ∉ symbols) (engine : Engine)
    (verbose : Bool) (w : World) :
    (∀ surrogate, .lone surrogate ∈ symbols → ∃ fault,
        (loadAt symbols engine false verbose).outcome w = (.error (.encoding fault), w)) ∧
      ((∀ surrogate, .lone surrogate ∉ symbols) → ∃ t : String, symbols = t.toList.map .char ∧
        (loadAt symbols engine false verbose).outcome w =
          ((ofText t).load engine false verbose).outcome w ∧
        (ofText t).Classified engine verbose w) := by
  constructor
  · intro surrogate hmem
    obtain ⟨first, rest, hrest⟩ := exists_dropWhile hmem
    unfold loadAt located surrogateFault?
    rw [hrest]
    exact ⟨_, rfl⟩
  · intro hchars
    obtain ⟨t, rfl⟩ := exists_eq_map_char hchars
    have hname : Disk.holdsNull t = false := by
      unfold Disk.holdsNull
      simpa using hnull
    refine ⟨t, rfl, ?_, classified_of_holdsNull (Disk.holdsNull_text_ofText hname) engine verbose w⟩
    unfold loadAt
    rw [Act.outcome_bind_of_ok (outcome_located t w)]

/-- A module that needs a function from outside, and whose start function traps. -/
def needyBytes : Bytes :=
  "(import \"env\" \"f\" (func)) (func unreachable) (start 1)".toUTF8.toList

/-- A name that begins with a surrogate. -/
def surrogateName : List Symbol := .lone ⟨0xD800, by decide, by decide⟩ :: ".wasm".toList.map .char

/-- What is needed from outside comes before what would trap, a text that is not there is not read, and
a surrogate is no part of a name. -/
theorem classified_needy :
    ((loadAt ("m.wat".toList.map .char) Engine.shared false false).outcome { World.start [] with
        disk := Bundle.disk.put (Bundle.workplace ++ ["m.wat"]) ⟨.file needyBytes, 0, 0o644⟩ }).1 =
      .error (.compile (Path.ofText "m.wat") (.unresolvedImports ["env.f"])) ∧
    ((loadAt ("m.wat".toList.map .char) Engine.shared false false).outcome (World.start [])).1 =
      .error (.load (Path.ofText "m.wat") .noEntry) ∧
    ∃ fault, (loadAt surrogateName Engine.shared false false).outcome (World.start []) =
      (.error (.encoding fault), World.start []) := by
  have hclassified (w : World) :
      (loadAt ("m.wat".toList.map .char) Engine.shared false false).outcome w =
          ((ofText "m.wat").load Engine.shared false false).outcome w ∧
        (ofText "m.wat").Classified Engine.shared false w := by
    obtain ⟨t, ht, hload, hclass⟩ :=
      (classified ("m.wat".toList.map .char) (by decide) Engine.shared false w).2 (by simp)
    obtain rfl : t = "m.wat" := by
      have hchars := (List.map_inj_right fun _ _ => Symbol.char.inj).1 ht
      exact (String.toList_inj.1 hchars).symm
    exact ⟨hload, hclass⟩
  refine ⟨?_, ?_,
    (classified surrogateName (by decide) _ _ _).1 ⟨0xD800, by decide, by decide⟩ (by decide)⟩
  · rw [(hclassified _).1]
    refine ((hclassified _).2.unfit _).2 ⟨needyBytes, by decide +kernel, ?_⟩
    have hneedy : ((ofText "m.wat").instanceOf .standard needyBytes).map (fun _ => ()) =
        .error (.refused (.unresolvedImports ["env.f"])) := by
      decide +kernel
    apply instanceOf_eq_refused_iff.1
    show instanceOf _ .standard _ = _
    cases hi : (ofText "m.wat").instanceOf .standard needyBytes with
    | ok i => simp [hi, Except.map] at hneedy
    | error unready => simpa [hi, Except.map] using hneedy
  · rw [(hclassified _).1]
    refine ((hclassified _).2.unreadable _).2 (Disk.read_eq_error_iff.1 ?_)
    decide +kernel

/-- Not every failure to load is one of the harness: a surrogate at the beginning of the name is met as it
is. -/
theorem exists_load_not_harness :
    .char '\x00' ∉ surrogateName ∧ ∃ f,
      ((loadAt surrogateName Engine.shared false false).outcome (World.start [])).1 = .error f ∧
        f.isHarness = false := by
  have hfault : surrogateFault? surrogateName = some ⟨0, 1, ⟨0xD800, by decide, by decide⟩⟩ := by
    decide +kernel
  refine ⟨by decide, .encoding ⟨0, 1, ⟨0xD800, by decide, by decide⟩⟩, ?_, rfl⟩
  unfold loadAt located
  rw [hfault]
  rfl

end Source

end WasmGauge
