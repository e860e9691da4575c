import Mathlib.Data.List.Forall2
import Mathlib.Data.List.Nodup
import WasmGauge.Proofs.Handles.Boundary
import WasmGauge.Proofs.Handles.Isolation

/-!
# What a handle gives out

The mapping of a handle has the functions that its module exports, each once, in the order of the
module, and with the type that the module declares. Memories, tables and global variables are not in
it. It stays what it is as long as the handle lives: a call may trap, and nobody can assign to the
mapping. In all that time, the three ways of asking for a name agree, that is whether the name is in the
handle, looking it up, and calling it.

That a function has the type that is declared for it comes from validation: every index that is
exported is one of a function, and every function has a type. The list of exports is arbitrary. Several
names may stand for one function, and other things may stand between functions.

## Main statements

- `Wasm.ValidModule.declares_given`: the functions that an instance gives out, one by one.
- `Handle.Step.sameCode`, `Handle.Lived.sameCode`: one step, and a whole life, leave the code of the
  instance as it is.
- `Handle.exports_for_life`: the mapping at the beginning and ever after.
-/

namespace WasmGauge

open Wasm (Val FuncType Export Instance)

/-! ## §1 Declared types -/

theorem forall₂_of_mapM_eq_some {α β : Type} {f : α → Option β} {xs : List α} {ys : List β}
    (h : xs.mapM f = some ys) : List.Forall₂ (fun x y => f x = some y) xs ys := by
  induction xs generalizing ys with
  | nil =>
    cases h
    exact .nil
  | cons x xs ih =>
    rw [List.mapM_cons] at h
    obtain ⟨y, hy, hrest⟩ := Option.bind_eq_some_iff.1 h
    obtain ⟨ys', hys, hcons⟩ := Option.bind_eq_some_iff.1 hrest
    cases hcons
    exact .cons hy (ih hys)

namespace Wasm

/-- The type that a module declares for the function with an index. -/
def Module.declaredType? {code : Type} (m : Module code) (index : Nat) : Option FuncType :=
  (m.funcTypes[index]?).bind fun t => m.types[t]?

def Module.functionExports {code : Type} (m : Module code) : List Export :=
  m.exports.filter fun e => e.kind = .func

/-- A name goes with a type as an export of a function and the declaration of the function say. -/
structure Module.Declares {code : Type} (m : Module code) (e : Export) (name : String)
    (type : FuncType) : Prop where
  name : name = e.name
  type : m.declaredType? e.index = some type

namespace ValidModule

variable {v : ValidModule} {e : Export} {index : Nat} {type : FuncType}

/-- Every function that a valid module exports has a type. -/
theorem exists_declaredType (he : e ∈ v.module.exports) (hkind : e.kind = .func) :
    ∃ type, v.module.declaredType? e.index = some type := by
  have hvalid := v.valid
  unfold Validation.isValid at hvalid
  cases hc : Validation.context? v.module with
  | none => simp [hc] at hvalid
  | some c =>
    simp only [hc, Bool.and_eq_true] at hvalid
    -- that what is exported exists is the fifth condition from the end
    have hok : Validation.exportOk c e = true := List.all_eq_true.1 hvalid.1.1.1.1.1.2 e he
    unfold Validation.context? at hc
    obtain ⟨funcs, hfuncs, hcontext⟩ := Option.bind_eq_some_iff.1 hc
    have htypes := forall₂_of_mapM_eq_some hfuncs
    have hlt : e.index < v.module.funcTypes.length := by
      rw [htypes.length_eq]
      cases hcontext
      simpa [Validation.exportOk, hkind] using hok
    have hlt' : e.index < funcs.length := htypes.length_eq ▸ hlt
    refine ⟨funcs[e.index], ?_⟩
    have htype := htypes.get hlt hlt'
    unfold Module.declaredType?
    rw [List.getElem?_eq_getElem hlt]
    simpa using htype

/-- If nothing is imported, the code of a function has the type that is declared for it. -/
theorem type_of_declaredType? (himports : v.module.imports = [])
    (h : v.module.declaredType? index = some type) :
    (v.program.funcs[index]?).map (·.type) = some type := by
  unfold Module.declaredType? Module.funcTypes at h
  simp only [himports, List.filterMap_nil, List.nil_append, List.getElem?_map] at h
  unfold program
  simp only [List.getElem?_toArray, List.getElem?_map, Option.map_map]
  -- without imports the index of a function is its place among the functions of the module
  cases hf : v.module.funcs[index]? with
  | none => simp [hf] at h
  | some f =>
    simp only [hf, Option.map_some, Option.bind_some] at h
    simp [h]

end ValidModule

/-! ## §2 The table of functions -/

section Table

variable {v : ValidModule} {i : Instance} {bounds : Bounds} {e : Export}

theorem Instance.given?_of_kind_ne (h : e.kind ≠ .func) : i.given? e = none := by
  unfold given?
  cases hkind : e.kind with
  | func => exact absurd hkind h
  | table => rfl
  | memory => rfl
  | global => rfl

/-- An instance gives an exported function out with the type that is declared for it. -/
theorem ValidModule.exists_given? (himports : v.module.imports = [])
    (hi : v.instantiate bounds = .ok i) (he : e ∈ v.module.exports) (hkind : e.kind = .func) :
    ∃ type, v.module.declaredType? e.index = some type ∧ i.given? e = some (e.name, type) := by
  obtain ⟨type, htype⟩ := exists_declaredType he hkind
  obtain ⟨f, hf, hcode⟩ := Option.map_eq_some_iff.1 (type_of_declaredType? himports htype)
  refine ⟨type, htype, ?_⟩
  unfold Instance.given?
  rw [eq_of_instantiate hi, hkind]
  simp only [hf, Option.map_some, hcode]

/-- Of any exports of a module, an instance gives the functions out one by one, and nothing else. -/
theorem ValidModule.declares_filterMap (himports : v.module.imports = [])
    (hi : v.instantiate bounds = .ok i) {es : List Export} (hes : ∀ e ∈ es, e ∈ v.module.exports) :
    List.Forall₂ (fun e f => v.module.Declares e f.1 f.2) (es.filter fun e => e.kind = .func)
      (es.filterMap i.given?) := by
  induction es with
  | nil => exact .nil
  | cons e es ih =>
    have hrest := ih fun e' he' => hes e' (List.mem_cons_of_mem e he')
    -- a function has an entry, anything else has none
    by_cases hkind : e.kind = .func
    · obtain ⟨type, htype, hgiven⟩ := exists_given? himports hi (hes e List.mem_cons_self) hkind
      rw [List.filter_cons_of_pos (by simpa using hkind), List.filterMap_cons_some hgiven]
      exact .cons ⟨rfl, htype⟩ hrest
    · rw [List.filter_cons_of_neg (by simpa using hkind),
        List.filterMap_cons_none (Instance.given?_of_kind_ne hkind)]
      exact hrest

/-- The functions that an instance gives out are the exported functions of its module, one by one. -/
theorem ValidModule.declares_given (himports : v.module.imports = [])
    (hi : v.instantiate bounds = .ok i) :
    List.Forall₂ (fun e f => v.module.Declares e f.1 f.2) v.module.functionExports i.functions := by
  have hfunctions : i.functions = v.module.exports.filterMap i.given? := by
    rw [← exports_of_instantiate hi]
    rfl
  rw [hfunctions]
  exact declares_filterMap himports hi fun _ he => he

end Table

end Wasm

/-! ## §3 The mapping -/

/-- The module that an executable has been compiled from. -/
def Executable.module (x : Executable) : Wasm.Module (List Wasm.Instr) :=
  x.compiled.artifact.code.module

/-- An executable that can be made an instance needs nothing from outside. -/
theorem Executable.imports_of_instance? {x : Executable} {bounds : Wasm.Bounds} {i : Instance}
    (h : x.instance? bounds = .ok i) : x.module.imports = [] := by
  unfold Executable.instance? at h
  dsimp only at h
  -- what is needed is asked about before the instance is made
  by_cases himports : (!x.compiled.importNames.isEmpty) = true
  · rw [if_pos himports] at h
    cases h
  · simpa [Compiled.importNames, Executable.module] using himports

/-- An entry of a mapping has the name of an exported function and the signature of the type that is
declared for it. -/
def Executable.HasEntry (x : Executable) (e : Export) (entry : String × Signature) : Prop :=
  ∃ type, x.module.Declares e entry.1 type ∧ entry.2 = Signature.ofType type

theorem Executable.names_of_hasEntry {x : Executable} {es : List Export}
    {entries : List (String × Signature)} (h : List.Forall₂ x.HasEntry es entries) :
    entries.map (·.1) = es.map (·.name) := by
  induction h with
  | nil => rfl
  | cons first _ ih =>
    obtain ⟨type, hdeclares, -⟩ := first
    rw [List.map_cons, List.map_cons, ih, hdeclares.name]

/-- The mapping of a handle is that of the functions that an executable exports. -/
structure Handle.Lists (h : Handle) (x : Executable) : Prop where
  /-- The entries are the exported functions one by one, with the names and the types of the module. -/
  entries : List.Forall₂ x.HasEntry x.module.functionExports h.exports
  /-- They stand in the order of the module. -/
  order : h.names.Sublist x.compiled.exportNames
  /-- Each of them stands there once. -/
  once : h.names.Nodup
  /-- What is exported and is no function is absent. -/
  absent : ∀ e ∈ x.module.exports, e.kind ≠ .func → e.name ∉ h.names

theorem Handle.lists_of_instantiate {x : Executable} {w w' : World} {h : Handle}
    (hmade : x.instantiate.outcome w = (.ok h, w')) : h.Lists x := by
  have hstart := (Executable.birth_of_instantiate hmade).1.start
  have hentries : List.Forall₂ x.HasEntry x.module.functionExports h.exports := by
    refine List.forall₂_map_right_iff.2 ?_
    refine (Wasm.ValidModule.declares_given (Executable.imports_of_instance? hstart)
      (Executable.instantiate_of_instance? hstart)).imp ?_
    exact fun e f hdeclares => ⟨f.2, hdeclares, rfl⟩
  have hnames : h.names = _ := Executable.names_of_hasEntry hentries
  have horder : h.names.Sublist x.compiled.exportNames := by
    rw [hnames]
    exact List.filter_sublist.map _
  -- a valid module has no name twice
  have hdistinct : (x.module.exports.map (·.name)).Nodup := x.compiled.artifact.code.nodup_exports
  refine ⟨hentries, horder, horder.nodup hdistinct, fun e he hkind hmem => ?_⟩
  -- a function with the same name would be the same export
  rw [hnames] at hmem
  obtain ⟨e', he', hname⟩ := List.mem_map.1 hmem
  obtain ⟨hexport, hfunc⟩ := List.mem_filter.1 he'
  obtain rfl := List.inj_on_of_nodup_map hdistinct hexport he hname
  exact hkind (by simpa using hfunc)

/-! ## §4 The life of a handle -/

/-- A call changes nothing of an instance but its store, also if it traps. -/
theorem Wasm.Instance.snd_call (i : Instance) (bounds : Wasm.Bounds) (index : Nat) (args : List Val) :
    ∃ store, (i.call bounds index args).2 = { i with store } := by
  unfold Wasm.Instance.call
  cases Wasm.call i.program bounds.fuel bounds.depth index args.reverse i.store with
  | done results store => exact ⟨store, rfl⟩
  | trap t store => exact ⟨store, rfl⟩

/-- The mapping that the instance of a handle would have as it is in a world. -/
def Handle.exportsIn (h : Handle) (w : World) : List (String × Signature) :=
  (h.current w).functions.map fun f => (f.1, Signature.ofType f.2)

def Handle.assign (h : Handle) (name : String) : Act Unit := MonadExcept.ofExcept (h.setExport name)

/-- One thing that happens while a handle lives. Requests may be answered, trap or be refused. -/
inductive Handle.Step (h : Handle) : World → World → Prop where
  /-- The handle is asked. -/
  | ask {w : World} (r : Request) : Step h w ((r.perform h).outcome w).2
  /-- Another handle is asked. -/
  | askOther {w : World} {g : Handle} (hother : g.id ≠ h.id) (r : Request) :
      Step h w ((r.perform g).outcome w).2
  /-- Somebody tries to assign to the mapping. -/
  | assign {w : World} (name : String) : Step h w ((h.assign name).outcome w).2

/-- Anything that happens while a handle lives. -/
def Handle.Lived (h : Handle) : World → World → Prop := Relation.ReflTransGen h.Step

/-- Two worlds in which a handle has the same code and gives out the same. -/
structure Handle.SameCode (h : Handle) (w w' : World) : Prop where
  program : (h.current w').program = (h.current w).program
  exports : (h.current w').exports = (h.current w).exports

namespace Handle

variable {h : Handle} {u v w w' : World}

namespace SameCode

theorem refl (h : Handle) (w : World) : h.SameCode w w := ⟨rfl, rfl⟩

theorem trans (huv : h.SameCode u v) (hvw : h.SameCode v w) : h.SameCode u w :=
  ⟨hvw.program.trans huv.program, hvw.exports.trans huv.exports⟩

theorem of_current (hcurrent : h.current w' = h.current w) : h.SameCode w w' := by
  constructor <;> rw [hcurrent]

end SameCode

theorem sameCode_run (index : Nat) (vals : List Val) : (h.run index vals).Moves h.SameCode := by
  intro w
  rw [h.outcome_run]
  obtain ⟨store, hstore⟩ := (h.current w).snd_call w.bounds index vals
  constructor
  · rw [World.current_became, hstore]
  · rw [World.current_became, hstore]

theorem sameCode_log (m : Measurement) (place : String) : (m.log place).Moves h.SameCode := by
  intro w
  obtain ⟨logger, hlog⟩ := m.outcome_log place w
  rw [hlog]
  exact .of_current rfl

theorem Step.sameCode (hstep : h.Step w w') : h.SameCode w w' := by
  cases hstep with
  | ask r =>
    exact Request.moves (SameCode.refl h) SameCode.trans sameCode_run (fun _ => .of_current rfl)
      sameCode_log r w
  | @askOther g hother r =>
    -- the instance of one handle is not touched by requests to another one
    apply SameCode.of_current
    unfold current
    rw [(r.framed g w).others h.id hother.symm]
  | assign name => exact .of_current rfl

theorem Lived.sameCode (hlived : h.Lived w w') : h.SameCode w w' := by
  -- on what happens, one thing after the other
  induction hlived with
  | refl => exact .refl h w
  | tail _ hstep ih => exact ih.trans hstep.sameCode

end Handle

/-! ## §5 Asking for a name -/

/-- A timed call gets past the lookup of its name: the arguments are refused by the signature of the
function, or the function with an index is run. -/
inductive Handle.Reaches (h : Handle) (name : String) (index : Nat) (type : FuncType)
    (args : List Value) (label : Value) : Prop where
  | refused {fault : ArgumentFault} (hcheck : (Signature.ofType type).check args = .error fault)
      (hrefuses : h.Refuses name args label (.argument name (Signature.ofType type) fault))
  | timed {checked : List Value} {vals : List Val}
      (hcheck : (Signature.ofType type).check args = .ok checked)
      (hconvert : convertArguments type.params checked = .ok vals)
      (htimes : h.Times name args label checked index vals)

/-- In a world, a handle gives a function out under a name, in whichever way it is asked for it. -/
structure Handle.Offers (h : Handle) (w : World) (name : String) (index : Nat) (type : FuncType) :
    Prop where
  /-- The name is in the handle. -/
  contains : h.contains name = true
  /-- Looking it up gives the signature of the function. -/
  lookup : h.lookup name = .ok (Signature.ofType type)
  /-- It is the function that the instance has under this name. -/
  function : (h.current w).function? name = some (index, type)
  /-- A call gets past the lookup. -/
  reaches (args : List Value) (label : Value) : h.Reaches name index type args label
  /-- So nobody is told that there is no such function. -/
  found (args : List Value) (label : Value) (missing : String) (known : List String) :
    ((h.invoke name args label).outcome w).1 ≠ .error (.exportNotFound missing known)

/-- In a world, a handle gives nothing out under a name, and says so with all names that it has. -/
structure Handle.Misses (h : Handle) (w : World) (name : String) : Prop where
  /-- The name is not in the handle. -/
  contains : h.contains name = false
  /-- Looking it up fails. -/
  lookup : h.lookup name = .error (.exportNotFound name h.names)
  /-- The instance has no function under this name. -/
  function : (h.current w).function? name = none
  /-- A call fails in the same way, and does nothing. -/
  invoke (args : List Value) (label : Value) :
    (h.invoke name args label).outcome w = (.error (.exportNotFound name h.names), w)

/-- A function that is found under a name is an exported one with this name. -/
theorem Wasm.Instance.exists_export {i : Instance} {name : String} {index : Nat} {type : FuncType}
    (h : i.function? name = some (index, type)) :
    ∃ e ∈ i.exports, e.name = name ∧ e.kind = .func ∧ e.index = index ∧
      i.given? e = some (name, type) := by
  unfold Wasm.Instance.function? at h
  cases hfind : i.exports.find? (·.name == name) with
  | none => simp [hfind] at h
  | some e =>
    obtain ⟨n, kind, index'⟩ := e
    obtain rfl : n = name := by simpa using List.find?_some hfind
    rw [hfind] at h
    cases kind with
    | func =>
      obtain ⟨f, hf, heq⟩ := Option.map_eq_some_iff.1 h
      obtain ⟨rfl, rfl⟩ := Prod.mk.inj heq
      refine ⟨_, List.mem_of_find?_eq_some hfind, rfl, rfl, rfl, ?_⟩
      unfold Wasm.Instance.given?
      simp only [hf, Option.map_some]
    | table => cases h
    | memory => cases h
    | global => cases h

namespace Handle

variable {h : Handle} {x : Executable} {w w₀ w₁ : World} {name : String} {index : Nat}
  {type : FuncType}

theorem lookup_eq_none_iff : h.exports.lookup name = none ↔ name ∉ h.names := by
  rw [List.lookup_eq_none_iff, names, List.mem_map, not_exists]
  refine forall_congr' fun entry => ?_
  rw [not_and, bne_iff_ne]
  exact ⟨fun hne hentry heq => hne hentry heq.symm, fun hne hentry heq => hne hentry heq.symm⟩

theorem reaches_of_function? (hnamed : h.start.Named)
    (hfunction : h.start.function? name = some (index, type)) (args : List Value) (label : Value) :
    h.Reaches name index type args label := by
  have hlookup := lookup_eq hnamed name
  rw [hfunction] at hlookup
  rcases accept_cases hnamed name args with
    ⟨hnone, -⟩ | ⟨s, fault, hs, hcheck, haccept⟩ | ⟨index', type', checked, vals, ht⟩
  · rw [hlookup] at hnone
    cases hnone
  · obtain rfl : s = Signature.ofType type := Option.some.inj (hs.symm.trans hlookup)
    exact .refused hcheck (.of_accept haccept label)
  · obtain ⟨rfl, rfl⟩ := Prod.mk.inj (Option.some.inj (ht.function.symm.trans hfunction))
    exact .timed ht.check ht.taken.convertArguments (ht.times label)

/-- A call that gets past the lookup does not fail for want of the function, even if it traps. -/
theorem Reaches.found {args : List Value} {label : Value}
    (hreaches : h.Reaches name index type args label) (w : World) (missing : String)
    (known : List String) :
    ((h.invoke name args label).outcome w).1 ≠ .error (.exportNotFound missing known) := by
  cases hreaches with
  | refused _ hrefuses =>
    rw [hrefuses.untouched w]
    exact fun heq => nomatch heq
  | @timed checked vals _ _ htimes =>
    rcases hcall : (h.current w).call w.bounds index vals with ⟨result, i⟩
    -- neither a trap nor a result is the failure that there is no such function
    cases result with
    | error trap =>
      obtain ⟨w', hout, -⟩ := htimes.trapped w trap i hcall
      rw [hout]
      exact fun heq => nomatch heq
    | ok results =>
      obtain ⟨w', logger, hout, -⟩ := htimes.returned w results i hcall
      rw [hout]
      exact fun heq => nomatch heq

/-- A handle offers what its instance began with, as long as the instance has the same code. -/
theorem offers_of_function? (hnamed : h.start.Named)
    (hfunction : h.start.function? name = some (index, type))
    (hsame : (h.current w).function? name = h.start.function? name) :
    h.Offers w name index type where
  contains := by
    have hlookup := lookup_eq hnamed name
    rw [hfunction] at hlookup
    refine List.elem_iff.2 (not_not.1 fun hmem => ?_)
    rw [lookup_eq_none_iff.2 hmem] at hlookup
    cases hlookup
  lookup := by
    unfold lookup
    rw [lookup_eq hnamed, hfunction]
    rfl
  function := hsame.trans hfunction
  reaches := reaches_of_function? hnamed hfunction
  found args label := (reaches_of_function? hnamed hfunction args label).found w

theorem misses_of_not_mem (hnamed : h.start.Named) (hmem : name ∉ h.names)
    (hsame : (h.current w).function? name = h.start.function? name) : h.Misses w name where
  contains := by simpa [contains] using hmem
  lookup := by
    unfold lookup
    rw [lookup_eq_none_iff.2 hmem]
  function := by
    have hlookup := lookup_eq hnamed name
    rw [lookup_eq_none_iff.2 hmem] at hlookup
    rw [hsame]
    exact Option.map_eq_none_iff.1 hlookup.symm
  invoke args label := by
    have haccept : h.accept name args = .error (.exportNotFound name h.names) := by
      unfold accept lookup
      rw [lookup_eq_none_iff.2 hmem]
      rfl
    exact (Refuses.of_accept haccept label).untouched w

/-- The mapping of a handle is that of the functions that its module exports, and whatever happens while
the handle lives, the mapping is the same, nobody can assign to it, and the three ways of asking for a
name agree: under a name of the mapping there is the exported function with the type that is declared
for it, and under no other name there is one. -/
theorem exports_for_life (hmade : x.instantiate.outcome w₀ = (.ok h, w₁)) :
    h.Lists x ∧ ∀ w, h.Lived w₁ w →
      h.exportsIn w = h.exports ∧
      (∀ name, (h.assign name).outcome w = (.error .readOnly, w)) ∧
      (∀ name ∈ h.names, ∃ e type, e ∈ x.module.functionExports ∧ e.name = name ∧
        x.module.declaredType? e.index = some type ∧ h.Offers w name e.index type) ∧
      ∀ name, name ∉ h.names → h.Misses w name := by
  have hbirth := (Executable.birth_of_instantiate hmade).1
  have hnamed := named_of_instantiate hmade
  refine ⟨lists_of_instantiate hmade, fun w hlived => ?_⟩
  have hcode := hlived.sameCode
  have hprogram : (h.current w).program = h.start.program := by rw [hcode.program, hbirth.current]
  have hexports : (h.current w).exports = h.start.exports := by rw [hcode.exports, hbirth.current]
  have hsame : ∀ name, (h.current w).function? name = h.start.function? name := by
    intro name
    unfold Instance.function?
    rw [hprogram, hexports]
  refine ⟨?_, fun _ => rfl, fun name hmem => ?_, fun name hmem => ?_⟩
  · unfold exportsIn exports Instance.functions
    rw [hprogram, hexports]
  · cases hfunction : h.start.function? name with
    | none =>
      have hlookup := lookup_eq hnamed name
      rw [hfunction] at hlookup
      exact absurd hmem (lookup_eq_none_iff.1 hlookup)
    | some found =>
      obtain ⟨index, type⟩ := found
      obtain ⟨e, he, hname, hkind, rfl, hgiven⟩ := Instance.exists_export hfunction
      have himports := Executable.imports_of_instance? hbirth.start
      have hinstance := Executable.instantiate_of_instance? hbirth.start
      have hmodule : e ∈ x.module.exports := Wasm.ValidModule.exports_of_instantiate hinstance ▸ he
      obtain ⟨type', htype, hgiven'⟩ :=
        Wasm.ValidModule.exists_given? himports hinstance hmodule hkind
      -- the function that is found has the declared type
      obtain ⟨-, rfl⟩ := Prod.mk.inj (Option.some.inj (hgiven.symm.trans hgiven'))
      exact ⟨e, type, List.mem_filter.2 ⟨hmodule, by simpa using hkind⟩, hname, htype,
        offers_of_function? hnamed hfunction (hsame name)⟩
  · exact misses_of_not_mem hnamed hmem (hsame name)

/-- A module that exports one function under two names, between a memory and a global variable, and
another one that traps. -/
def mixedBytes : Wasm.Bytes :=
  ("(memory (export \"mem\") 1) (func (export \"id\") (export \"same\") (param i64) (result i64) " ++
    "local.get 0) (global (export \"g\") i32 (i32.const 0)) (func (export \"stop\") unreachable)"
    ).toUTF8.toList

/-- After a trap and an attempt to assign to the mapping, the function is still given out under both of
its names, and the memory is not given out. -/
theorem exports_for_life_mixed : ∃ h w w',
    ((Source.ofText "m.wat").load Engine.shared false false).outcome { World.start [] with
        disk := Bundle.disk.put (Bundle.workplace ++ ["m.wat"]) ⟨.file mixedBytes, 0, 0o644⟩ } =
      (.ok h, w) ∧
    ((h.invoke "stop" [] .none).outcome w).1 = .error (.invocation "stop" .unreachable) ∧
    w' = ((h.assign "stop").outcome (((Request.invoke "stop" [] .none).perform h).outcome w).2).2 ∧
    h.exportsIn w' =
      [("id", ⟨["i64"], ["i64"]⟩), ("same", ⟨["i64"], ["i64"]⟩), ("stop", ⟨[], []⟩)] ∧
    (∃ index type, h.Offers w' "same" index type) ∧ h.Misses w' "mem" := by
  have hmixed : (match ((Source.ofText "m.wat").load Engine.shared false false).outcome
      { World.start [] with
        disk := Bundle.disk.put (Bundle.workplace ++ ["m.wat"]) ⟨.file mixedBytes, 0, 0o644⟩ } with
      | (.ok h, w) =>
        decide (h.exports =
          [("id", ⟨["i64"], ["i64"]⟩), ("same", ⟨["i64"], ["i64"]⟩), ("stop", ⟨[], []⟩)]) &&
          match ((h.invoke "stop" [] .none).outcome w).1 with
          | .error f => decide (f = .invocation "stop" .unreachable)
          | .ok _ => false
      | (.error _, _) => false) = true := by
    decide +kernel
  generalize { World.start [] with
    disk := Bundle.disk.put (Bundle.workplace ++ ["m.wat"]) ⟨.file mixedBytes, 0, 0o644⟩ } = w₀ at *
  rcases hload : ((Source.ofText "m.wat").load Engine.shared false false).outcome w₀ with ⟨result, w⟩
  rw [hload] at hmixed
  cases result with
  | error f => cases hmixed
  | ok h =>
    obtain ⟨hentries, hstop⟩ := Bool.and_eq_true_iff.1 hmixed
    have hexports := of_decide_eq_true hentries
    have htrap : ((h.invoke "stop" [] .none).outcome w).1 = .error (.invocation "stop" .unreachable) := by
      -- what is computed is the outcome of loading alone; the trap shows in its class
      cases hresult : ((h.invoke "stop" [] .none).outcome w).1 with
      | ok m => simp [hresult] at hstop
      | error f => simpa [hresult] using hstop
    have hnames : h.names = ["id", "same", "stop"] := congrArg (List.map Prod.fst) hexports
    obtain ⟨x, w₁, -, hmade⟩ := Act.outcome_bind_eq_ok hload
    have hlived : h.Lived w
        ((h.assign "stop").outcome (((Request.invoke "stop" [] .none).perform h).outcome w).2).2 :=
      (Relation.ReflTransGen.single (.ask _)).tail (.assign "stop")
    obtain ⟨-, hlife⟩ := exports_for_life hmade
    obtain ⟨hsame, -, hoffers, hmisses⟩ := hlife _ hlived
    obtain ⟨e, type, -, -, -, hoffer⟩ := hoffers "same" (by rw [hnames]; decide)
    exact ⟨h, w, _, rfl, htrap, rfl, hsame.trans hexports, ⟨e.index, type, hoffer⟩,
      hmisses "mem" (by rw [hnames]; decide)⟩

end Handle

end WasmGauge
