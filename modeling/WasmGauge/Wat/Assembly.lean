import WasmGauge.Wasm.Binary.Module
import WasmGauge.Wat.Document

/-!
# Assembling

From a module in fields to a module in the binary format. Names become indices, and types that are
written out become references to the function types of the module: to the first equal one, or to a
new one behind the others. Whether the module is valid is not asked here.

If anything has a name, the names are kept in a section of their own.
-/

namespace WasmGauge.Wat

open Wasm

/-! ## Names -/

/-- The names of all things of one kind, in the order of their indices. -/
abbrev Scope := List (Option String)

/-- The names of all things of a module, by kind, and its function types. -/
structure Scopes where
  types : Scope := []
  funcs : Scope := []
  tables : Scope := []
  memories : Scope := []
  globals : Scope := []
  /-- The names of parameters and local variables. -/
  locals : Scope := []
  /-- The names of open blocks, the innermost first. -/
  labels : Scope := []
  /-- The function types themselves, with and without names. -/
  signatures : List FuncType := []

/-- The names of one kind. -/
def Scopes.of (s : Scopes) : Space → Scope
  | .type => s.types
  | .func => s.funcs
  | .table => s.tables
  | .memory => s.memories
  | .global => s.globals
  | .local => s.locals
  | .label => s.labels

/-- The index that a reference stands for. An index stands for itself, whether or not there is such
a thing. -/
def Ref.resolve? (scope : Scope) : Ref → Option Nat
  | .index n => some n
  | .name s => scope.findIdx? (· == some s)

def distinctNames : Scope → Bool
  | [] => true
  | none :: rest => distinctNames rest
  | some s :: rest => !rest.contains (some s) && distinctNames rest

/-- The names of a scope with their indices. -/
def namesOf (scope : Scope) : Binary.NameMap :=
  scope.zipIdx.filterMap fun (name, i) => name.map fun s => (i, s)

/-- The names of things that a field defines. -/
def Scopes.add (s : Scopes) : Field → Scopes
  | .imported _ _ name _ (.func _) => { s with funcs := s.funcs ++ [name] }
  | .imported _ _ name _ (.table _) => { s with tables := s.tables ++ [name] }
  | .imported _ _ name _ (.memory _) => { s with memories := s.memories ++ [name] }
  | .imported _ _ name _ (.global _) => { s with globals := s.globals ++ [name] }
  | .func name _ _ _ _ => { s with funcs := s.funcs ++ [name] }
  | .table name _ _ _ => { s with tables := s.tables ++ [name] }
  | .memory name _ _ _ => { s with memories := s.memories ++ [name] }
  | .global name _ _ _ => { s with globals := s.globals ++ [name] }
  | .type _ _ | .exported _ _ _ | .start _ | .elements _ _ _ | .datas _ _ _ => s

/-! ## Types -/

/-- The type that is written out where it is used. If nothing is written, it has no parameters and
no results. -/
def TypeUse.written (use : TypeUse) : FuncType := (use.inline.map (·.type)).getD ⟨[], []⟩

/-- The type that must be among those of the module because of a use. A reference adds none. -/
def TypeUse.needed (use : TypeUse) : List FuncType := if use.ref.isSome then [] else [use.written]

/-- Whether the type of a block has to be among those of the module: it is referred to, or it has
parameters or several results. -/
def TypeUse.isIndexed (use : TypeUse) : Bool :=
  use.ref.isSome || !use.written.params.isEmpty || 1 < use.written.results.length

/-- The types that must be among those of the module because of an instruction. -/
def Step.needed : Step → List FuncType
  | .opens _ use _ => if use.isIndexed then use.needed else []
  | .callIndirect _ use => use.needed
  | _ => []

def neededIn (code : List Step) : List FuncType := code.flatMap Step.needed

def Items.needed : Items → List FuncType
  | .functions _ => []
  | .computed _ codes => codes.flatMap neededIn

def Mode.needed : Mode → List FuncType
  | .active _ offset => neededIn offset
  | .passive | .declared => []

def Content.needed : Content → List FuncType
  | .nulls => []
  | .filled init => neededIn init
  | .listed items => items.needed

def Field.needed : Field → List FuncType
  | .imported _ _ _ _ (.func use) => use.needed
  | .func _ _ use _ body => use.needed ++ neededIn body
  | .table _ _ _ content => content.needed
  | .global _ _ _ init => neededIn init
  | .elements _ mode items => mode.needed ++ items.needed
  | .datas _ mode _ => mode.needed
  | .type _ _ | .imported _ _ _ _ _ | .memory _ _ _ _ | .exported _ _ _ | .start _ => []

/-- The types that have fields of their own. -/
def writtenTypes (fields : List Field) : List FuncType :=
  fields.filterMap fun
    | .type _ s => some s.type
    | _ => none

/-- All types of a module: those with fields of their own, and behind them those that are needed and
not there yet. -/
def allTypes (fields : List Field) : List FuncType :=
  (fields.flatMap Field.needed).foldl (fun ts t => if ts.contains t then ts else ts ++ [t])
    (writtenTypes fields)

def resolve? (scopes : Scopes) (space : Space) (r : Ref) : Option Nat :=
  r.resolve? (scopes.of space)

/-- The index of the type that is used. A type that is both referred to and written out must be the
same. -/
def TypeUse.resolve? (scopes : Scopes) (use : TypeUse) : Option Nat := do
  match use.ref with
  -- `allTypes` has put it there.
  | none => scopes.signatures.findIdx? (· == use.written)
  | some r =>
    let n ← Wat.resolve? scopes .type r
    if use.inline.isNone || scopes.signatures[n]? == some use.written then some n else none

def TypeUse.resolveBlock? (scopes : Scopes) (use : TypeUse) : Option BlockType :=
  if use.isIndexed then (use.resolve? scopes).map .index
  else some ((use.written.results.head?.map .value).getD .empty)

/-! ## Code -/

/-- One instruction, and the scopes after it. -/
def assembleStep (scopes : Scopes) : Step → Option (Flat × Scopes)
  | .basic i => some (.basic i, scopes)
  | .refers space r complete => do
    let n ← resolve? scopes space r
    some (.basic (complete n), scopes)
  | .brTable labels default => do
    let ls ← labels.mapM (resolve? scopes .label)
    let d ← resolve? scopes .label default
    some (.basic (.brTable ls d), scopes)
  | .callIndirect table use => do
    let type ← use.resolve? scopes
    let t ← resolve? scopes .table table
    some (.basic (.callIndirect type t), scopes)
  | .opens label use complete => do
    let type ← use.resolveBlock? scopes
    some (complete type, { scopes with labels := label :: scopes.labels })
  | .otherwise label => if repeats label scopes.labels then some (.otherwise, scopes) else none
  -- The name may be repeated at the end, and then it must be the same.
  | .close label =>
    if repeats label scopes.labels then
      some (.close, { scopes with labels := scopes.labels.tail })
    else none
where
  /-- Whether a name at the end of a block is the one at its beginning. Outside of blocks any name
  will do. -/
  repeats (label : Option String) : Scope → Bool
    | [] => true
    | opened :: _ => label.isNone || label == opened

/-- Instructions in a row. -/
def assembleSteps (scopes : Scopes) : List Step → Option (List Flat)
  | [] => some []
  | s :: rest => do
    let (first, scopes) ← assembleStep scopes s
    (first :: ·) <$> assembleSteps scopes rest

/-- Code outside of functions, with its closing item. -/
def assembleCode (scopes : Scopes) (code : List Step) : Option (List Flat) :=
  (· ++ [.close]) <$> assembleSteps scopes code

/-- The names of the parameters of a function. If they are not written out, the type that is
referred to says how many there are. -/
def paramNames (scopes : Scopes) (use : TypeUse) : Scope :=
  match use.inline with
  | some s => s.params.map (·.1)
  | none =>
    let type := (use.resolve? scopes).bind (scopes.signatures[·]?)
    (type.map (·.params.map fun _ => none)).getD []

def assembleFunc (scopes : Scopes) (use : TypeUse) (locals : List NamedType) (body : List Step) :
    Option (Func (List Flat)) := do
  let type ← use.resolve? scopes
  let names := paramNames scopes use ++ locals.map (·.1)
  if distinctNames names then
    let code ← assembleCode { scopes with locals := names } body
    some ⟨type, locals.map (·.2), code⟩
  else none

/-! ## Fields -/

def inlineExports (kind : Kind) (index : Nat) (names : List String) : List Export :=
  names.map fun s => ⟨s, kind, index⟩

def assembleImport (scopes : Scopes) (first second : String) (what : Imported) :
    Option (Import × Kind) :=
  match what with
  | .func use => (use.resolve? scopes).map fun t => (⟨first, second, .func t⟩, .func)
  | .table t => some (⟨first, second, .table t⟩, .table)
  | .memory l => some (⟨first, second, .memory l⟩, .memory)
  | .global g => some (⟨first, second, .global g⟩, .global)

def Mode.assemble (scopes : Scopes) (space : Space) : Mode → Option (SegmentMode (List Flat))
  | .active target offset => do
    let n ← resolve? scopes space (target.getD (.index 0))
    let code ← assembleCode scopes offset
    some (.active n code)
  | .passive => some .passive
  | .declared => some .declared

/-- Whether a segment says which table or memory it is copied into. -/
def Mode.namesTarget : Mode → Bool
  | .active target _ => target.isSome
  | .passive | .declared => false

def Items.assemble (scopes : Scopes) (namesTable : Bool) (mode : SegmentMode (List Flat)) :
    Items → Option (ElementSegment (List Flat))
  | .functions refs => do
    let ns ← refs.mapM (resolve? scopes .func)
    some ⟨⟨namesTable, true⟩, mode, .funcref, ns.map fun n => [.basic (.refFunc n), .close]⟩
  | .computed type codes => do
    let codes ← codes.mapM (assembleCode scopes)
    some ⟨⟨namesTable, false⟩, mode, type, codes⟩

/-- The offset of content that is written in the table or memory it belongs to. -/
def fromStart : List Flat := [.basic (.i32Const 0), .close]

/-- What the table with this index holds at the beginning, as the code that fills it and as a
segment. -/
def Content.assemble (scopes : Scopes) (n : Nat) :
    Content → Option (Option (List Flat) × List (ElementSegment (List Flat)))
  | .nulls => some (none, [])
  | .filled init => (assembleCode scopes init).map fun code => (some code, [])
  | .listed items => (items.assemble scopes true (.active n fromStart)).map fun s => (none, [s])

/-- How many things of a kind a module has so far. -/
def countOf (m : Binary.RawModule) : Kind → Nat
  | .func => m.funcTypes.length
  | .table => m.tableTypes.length
  | .memory => m.memoryTypes.length
  | .global => m.globalTypes.length

/-- A module with one more field. -/
def addField (scopes : Scopes) (m : Binary.RawModule) : Field → Option Binary.RawModule
  | .type _ _ => some m
  | .imported first second _ exports what => do
    let (i, kind) ← assembleImport scopes first second what
    let given := inlineExports kind (countOf m kind) exports
    some { m with imports := m.imports ++ [i], exports := m.exports ++ given }
  | .func _ exports use locals body => do
    let f ← assembleFunc scopes use locals body
    let given := inlineExports .func (countOf m .func) exports
    some { m with funcs := m.funcs ++ [f], exports := m.exports ++ given }
  | .table _ exports type content => do
    -- The segment in the field is copied into the table that the field defines.
    let n := countOf m .table
    let given := inlineExports .table n exports
    let (init, segments) ← content.assemble scopes n
    some { m with
      tables := m.tables ++ [⟨type, init⟩], exports := m.exports ++ given
      elements := m.elements ++ segments }
  | .memory _ exports limits content =>
    let n := countOf m .memory
    let given := inlineExports .memory n exports
    let segments := content.toList.map fun bytes => ⟨.active n fromStart, bytes⟩
    some { m with
      memories := m.memories ++ [limits], exports := m.exports ++ given
      datas := m.datas ++ segments }
  | .global _ exports type init => do
    let code ← assembleCode scopes init
    let given := inlineExports .global (countOf m .global) exports
    some { m with globals := m.globals ++ [⟨type, code⟩], exports := m.exports ++ given }
  | .exported s kind r => do
    let n ← resolve? scopes (spaceOf kind) r
    some { m with exports := m.exports ++ [⟨s, kind, n⟩] }
  | .start r => do
    let n ← resolve? scopes .func r
    some { m with starts := m.starts ++ [n] }
  | .elements _ mode items => do
    let form ← mode.assemble scopes .table
    let segment ← items.assemble scopes mode.namesTarget form
    some { m with elements := m.elements ++ [segment] }
  | .datas _ mode bytes => do
    let form ← mode.assemble scopes .memory
    some { m with datas := m.datas ++ [⟨form, bytes⟩] }
where
  /-- The scope for things of a kind. -/
  spaceOf : Kind → Space
    | .func => .func
    | .table => .table
    | .memory => .memory
    | .global => .global

/-- Whether everything that is brought in comes before everything of its kind that is not. -/
def importsFirst : List Field → Bool
  | [] => true
  | f :: rest =>
    (match f with
      | .func _ _ _ _ _ | .table _ _ _ _ | .memory _ _ _ _ | .global _ _ _ _ =>
        rest.all fun
          | .imported _ _ _ _ _ => false
          | _ => true
      | _ => true) && importsFirst rest

/-- The names of the parameters and local variables, and of the blocks, of each function, the
imported ones first. -/
def innerNames (scopes : Scopes) (fields : List Field) :
    List (Nat × Binary.NameMap) × List (Nat × Binary.NameMap) :=
  let numbered := (fields.filterMap fun
    | .imported _ _ _ _ (.func use) => some (namesOf (paramNames scopes use), [])
    | .func _ _ use locals body =>
      let labels := body.filterMap fun
        | .opens label _ _ => some label
        | _ => none
      some (namesOf (paramNames scopes use ++ locals.map (·.1)), namesOf labels)
    | _ => none).zipIdx
  (numbered.filterMap fun ((names, _), i) => if names.isEmpty then none else some (i, names),
    numbered.filterMap fun ((_, names), i) => if names.isEmpty then none else some (i, names))

/-- The names of the segments of references. -/
def elementScope (fields : List Field) : Scope :=
  fields.filterMap fun
    | .elements name _ _ => some name
    -- The segment written in a table has an index, but no name.
    | .table _ _ _ (.listed _) => some none
    | _ => none

def dataScope (fields : List Field) : Scope :=
  fields.filterMap fun
    | .datas name _ _ => some name
    | .memory _ _ _ (some _) => some none
    | _ => none

def typeScope (fields : List Field) : Scope :=
  fields.filterMap fun
    | .type name _ => some name
    | _ => none

/-- A module in fields as a module in the binary format with the names in it. -/
def assembleFields (name : Option String) (fields : List Field) :
    Option (Binary.RawModule × Binary.Names) := do
  let signatures := allTypes fields
  -- All names are known before the first field is assembled, since fields refer ahead.
  let scopes := fields.foldl Scopes.add { types := typeScope fields, signatures }
  let all := [scopes.types, scopes.funcs, scopes.tables, scopes.memories, scopes.globals,
    elementScope fields, dataScope fields]
  if importsFirst fields && all.all distinctNames then
    let m ← fields.foldlM (addField scopes) { types := signatures }
    let (locals, labels) := innerNames scopes fields
    some (m, {
      module := name
      funcs := namesOf scopes.funcs
      locals, labels
      types := namesOf scopes.types
      tables := namesOf scopes.tables
      memories := namesOf scopes.memories
      globals := namesOf scopes.globals
      elements := namesOf (elementScope fields)
      datas := namesOf (dataScope fields) })
  else none

/-- The bytes of the module that a text is, if it is one. -/
def assemble? (text : List Char) : Option Bytes := do
  match ← Document.ofText? text with
  | .binary bytes => some bytes
  | .fields name fields =>
    let (m, names) ← assembleFields name fields
    some (Binary.write m ++ Binary.writeNames names)

end WasmGauge.Wat
