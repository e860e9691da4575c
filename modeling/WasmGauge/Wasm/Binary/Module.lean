import WasmGauge.Text.Utf8
import WasmGauge.Wasm.Binary.Instruction

/-!
# Modules in the binary format

`read` takes a whole file apart into a module, or refuses it: the header must be right, every section
must fill exactly the length it announces, sections must come in order and at most once, and every
function must have its code. Custom sections may stand anywhere and are skipped once their name has
been read. `write` puts a module together again in the shortest form, and `writeNames` appends the
section that keeps the names of the text format.
-/

namespace WasmGauge.Wasm.Binary

def magic : Bytes := [0x00, 0x61, 0x73, 0x6D]

def version : Bytes := [0x01, 0x00, 0x00, 0x00]

/-- A module as it is in the file: code is a sequence of instructions with its closing item. -/
abbrev RawModule := Module (List Flat)

/-! ## Reading -/

/-- The largest number of bytes of a text. -/
def textLimit : Nat := 100000

/-- A text with its length in bytes before it. -/
def name : Reader String := do
  let n ← u32
  let bytes ← if n ≤ textLimit then take n else refuse
  match Text.decodeUtf8 bytes with
  | .ok cs => pure (String.ofList cs)
  | .error _ => refuse

def expect (b : UInt8) : Reader Unit := do
  if (← byte) = b then pure () else refuse

def funcType : Reader FuncType := do
  expect 0x60
  let params ← vector valueType
  let results ← vector valueType
  pure ⟨params, results⟩

/-- Sizes with an optional largest one. They have as much room as the sizes of the largest tables and
memories need, whatever is allowed here. -/
def limits : Reader Limits := do
  match ← byte with
  | 0x00 => (fun min => ⟨min, none⟩) <$> u64
  | 0x01 => do
    let min ← u64
    let max ← u64
    pure ⟨min, some max⟩
  | _ => refuse

def tableType : Reader TableType := do
  let element ← referenceType
  let sizes ← limits
  pure ⟨element, sizes⟩

def globalType : Reader GlobalType := do
  let value ← valueType
  match ← byte with
  | 0x00 => pure ⟨value, false⟩
  | 0x01 => pure ⟨value, true⟩
  | _ => refuse

def importEntry : Reader Import := do
  let first ← name
  let second ← name
  match ← byte with
  | 0x00 => (fun t => ⟨first, second, .func t⟩) <$> u32
  | 0x01 => (fun t => ⟨first, second, .table t⟩) <$> tableType
  | 0x02 => (fun l => ⟨first, second, .memory l⟩) <$> limits
  | 0x03 => (fun g => ⟨first, second, .global g⟩) <$> globalType
  | _ => refuse

def exportEntry : Reader Export := do
  let text ← name
  let kind ← byte
  let index ← u32
  match kind with
  | 0x00 => pure ⟨text, .func, index⟩
  | 0x01 => pure ⟨text, .table, index⟩
  | 0x02 => pure ⟨text, .memory, index⟩
  | 0x03 => pure ⟨text, .global, index⟩
  | _ => refuse

def expression : Reader (List Flat) := fun bytes => untilClose (bytes.length + 1) bytes

/-- A table. The code for nothing, where the type of the elements is expected, announces code for the
first elements. -/
def tableEntry : Reader (TableDef (List Flat)) := fun bytes =>
  match bytes with
  -- No value type has the code 0x40.
  | 0x40 :: 0x00 :: rest =>
    (do
      let type ← tableType
      let init ← expression
      pure ⟨type, some init⟩ : Reader (TableDef (List Flat))) rest
  | _ => ((fun type => ⟨type, none⟩) <$> tableType : Reader (TableDef (List Flat))) bytes

def globalEntry : Reader (Global (List Flat)) := do
  let type ← globalType
  let init ← expression
  pure ⟨type, init⟩

/-- The index of a function as the code of a reference to it. -/
def functionReference : Reader (List Flat) := do
  let f ← u32
  pure [.basic (.refFunc f), .close]

/-- References to copy into a table. The three low bits of the leading number say whether the
segment is active, whether it names its table or is declared, and whether its items are written as
expressions. -/
def elementEntry : Reader (ElementSegment (List Flat)) := do
  let flags ← u32
  let namesTable := flags / 2 % 2 = 1
  let funcs (mode : SegmentMode (List Flat)) : Reader (ElementSegment (List Flat)) := do
    let items ← vector functionReference
    pure ⟨⟨namesTable, true⟩, mode, .funcref, items⟩
  let exprs (mode : SegmentMode (List Flat)) (type : ValueType) :
      Reader (ElementSegment (List Flat)) := do
    let items ← vector expression
    pure ⟨⟨namesTable, false⟩, mode, type, items⟩
  match flags with
  | 0 => do
    let offset ← expression
    funcs (.active 0 offset)
  -- Where the kind of the items is written, it is the byte zero, for functions.
  | 1 => do
    expect 0x00
    funcs .passive
  | 2 => do
    let table ← u32
    let offset ← expression
    expect 0x00
    funcs (.active table offset)
  | 3 => do
    expect 0x00
    funcs .declared
  | 4 => do
    let offset ← expression
    exprs (.active 0 offset) .funcref
  | 5 => do
    let type ← referenceType
    exprs .passive type
  | 6 => do
    let table ← u32
    let offset ← expression
    let type ← referenceType
    exprs (.active table offset) type
  | 7 => do
    let type ← referenceType
    exprs .declared type
  | _ => refuse

/-- Bytes to copy into a memory. -/
def dataEntry : Reader (DataSegment (List Flat)) := do
  match ← u32 with
  | 0 => do
    let offset ← expression
    let n ← u32
    let bytes ← take n
    pure ⟨.active 0 offset, bytes⟩
  | 1 => do
    let n ← u32
    let bytes ← take n
    pure ⟨.passive, bytes⟩
  | 2 => do
    let memory ← u32
    let offset ← expression
    let n ← u32
    let bytes ← take n
    pure ⟨.active memory offset, bytes⟩
  | _ => refuse

/-- Local variables, in runs of one type, not more than `room` of them. -/
def localRuns (room : Nat) : Nat → Reader (List ValueType)
  | 0 => pure []
  | n + 1 => do
    let count ← u32
    let type ← valueType
    if count ≤ room then
      let rest ← localRuns (room - count) n
      pure (List.replicate count type ++ rest)
    else refuse

/-- The local variables and the code of a function, which fill the length announced before them. -/
def codeEntry : Reader (List ValueType × List Flat) := do
  let n ← u32
  let bytes ← take n
  let content : Reader (List ValueType × List Flat) := do
    let runs ← u32
    let locals ← localRuns localLimit runs
    let body ← fun rest => untilEnd (rest.length + 1) rest
    pure (locals, body)
  -- The content has to use up the announced length.
  match content bytes with
  | some (entry, []) => pure entry
  | _ => refuse

/-- What has been read of a module: the sections so far, the indices of the types of functions that
still wait for their code, and the announced number of data segments. -/
structure Progress where
  /-- The module so far. -/
  module : RawModule
  /-- The indices of the types of the functions. -/
  declared : List Nat
  code : List (List ValueType × List Flat)
  /-- The announced number of data segments. -/
  dataCount : Option Nat
  /-- The place in the order of sections of the last section. -/
  place : Nat

/-- The place of a section in the order of sections, by the code of the section. -/
def placeOf : UInt8 → Option Nat
  | 1 => some 1
  | 2 => some 2
  | 3 => some 3
  | 4 => some 4
  | 5 => some 5
  | 6 => some 6
  | 7 => some 7
  | 8 => some 8
  | 9 => some 9
  -- The number of data segments has to be known before the code that refers to them.
  | 12 => some 10
  | 10 => some 11
  | 11 => some 12
  | _ => none

/-- The progress with the content of one section, which is read from the front of the bytes. -/
def sectionContent (p : Progress) (code : UInt8) : Reader Progress := do
  let m := p.module
  match code with
  | 1 => (fun types => { p with module := { m with types } }) <$> vector funcType
  | 2 => (fun imports => { p with module := { m with imports } }) <$> vector importEntry
  | 3 => (fun declared => { p with declared }) <$> vector u32
  | 4 => (fun tables => { p with module := { m with tables } }) <$> vector tableEntry
  | 5 => (fun memories => { p with module := { m with memories } }) <$> vector limits
  | 6 => (fun globals => { p with module := { m with globals } }) <$> vector globalEntry
  | 7 => (fun exports => { p with module := { m with exports } }) <$> vector exportEntry
  | 8 => (fun start => { p with module := { m with starts := [start] } }) <$> u32
  | 9 => (fun elements => { p with module := { m with elements } }) <$> vector elementEntry
  | 10 => (fun code => { p with code }) <$> vector codeEntry
  | 11 => (fun datas => { p with module := { m with datas } }) <$> vector dataEntry
  | 12 => (fun n => { p with dataCount := some n }) <$> u32
  | _ => refuse

/-- The progress after one section with this code and content. -/
def Progress.add (p : Progress) (code : UInt8) (content : Bytes) : Option Progress :=
  -- A custom section has no place in the order, and only its name is read.
  if code = 0 then (name content).map fun _ => p
  else
    match placeOf code with
    | none => none
    | some place =>
      if place ≤ p.place then none
      else
        match sectionContent { p with place } code content with
        | some (p, []) => some p
        | _ => none

/-- The progress after all sections in a list of bytes. The fuel bounds their number. -/
def sections : Nat → Progress → Bytes → Option Progress
  | 0, _, _ => none
  | fuel + 1, p, bytes =>
    match bytes with
    | [] => some p
    | code :: rest =>
      match readUnsigned 32 rest with
      | none => none
      | some (n, rest) =>
        -- A section does not see what follows it.
        if n ≤ rest.length then
          match p.add code (rest.take n) with
          | some p => sections fuel p (rest.drop n)
          | none => none
        else none

/-- The module of a finished progress. Every function needs its code, and an announced number of data
segments must be right. -/
def Progress.finish (p : Progress) : Option RawModule :=
  let countRight : Bool := match p.dataCount with
    | none => true
    | some n => n == p.module.datas.length
  if p.declared.length = p.code.length ∧ countRight = true then
    let funcs := (p.declared.zip p.code).map fun (type, locals, body) => ⟨type, locals, body⟩
    some { p.module with funcs }
  else none

/-- The module that a file holds. -/
def read (bytes : Bytes) : Option RawModule :=
  if bytes.take 8 = magic ++ version then
    match sections (bytes.length + 1) ⟨{}, [], [], none, 0⟩ (bytes.drop 8) with
    | some p => p.finish
    | none => none
  else none

/-! ## Writing -/

/-- A text with its length in bytes before it. -/
def writeName (s : String) : Bytes :=
  let bytes := s.toUTF8.toList
  writeUnsigned bytes.length ++ bytes

/-- A section with its code and its length. -/
def writeSection (code : UInt8) (content : Bytes) : Bytes :=
  code :: writeUnsigned content.length ++ content

/-- A section of things, left out if there are none. -/
def writeItems {α : Type} (code : UInt8) (item : α → Bytes) (items : List α) : Bytes :=
  if items.isEmpty then [] else writeSection code (writeVector item items)

def writeValueTypes (types : List ValueType) : Bytes :=
  writeVector (fun t => [valueTypeCode t]) types

def writeFuncType (t : FuncType) : Bytes :=
  0x60 :: writeValueTypes t.params ++ writeValueTypes t.results

/-- Sizes with an optional largest one. -/
def writeLimits (l : Limits) : Bytes :=
  match l.max with
  | none => 0x00 :: writeUnsigned l.min
  | some max => 0x01 :: writeUnsigned l.min ++ writeUnsigned max

def writeTableType (t : TableType) : Bytes := valueTypeCode t.element :: writeLimits t.limits

def writeGlobalType (g : GlobalType) : Bytes :=
  [valueTypeCode g.value, if g.isMutable then 0x01 else 0x00]

def writeImport (i : Import) : Bytes :=
  writeName i.module ++ writeName i.name ++
    match i.type with
    | .func t => 0x00 :: writeUnsigned t
    | .table t => 0x01 :: writeTableType t
    | .memory l => 0x02 :: writeLimits l
    | .global g => 0x03 :: writeGlobalType g

def kindCode : Kind → UInt8
  | .func => 0x00
  | .table => 0x01
  | .memory => 0x02
  | .global => 0x03

def writeExport (e : Export) : Bytes :=
  writeName e.name ++ kindCode e.kind :: writeUnsigned e.index

/-- Code with its closing item. -/
def writeCode (code : List Flat) : Bytes := code.flatMap writeInstruction

def writeGlobal (g : Global (List Flat)) : Bytes := writeGlobalType g.type ++ writeCode g.init

def writeTable (t : TableDef (List Flat)) : Bytes :=
  match t.init with
  | none => writeTableType t.type
  | some init => [0x40, 0x00] ++ writeTableType t.type ++ writeCode init

/-- The index of the function that an item refers to, if that is all it does. -/
def functionIndex : List Flat → Nat
  | [.basic (.refFunc f), .close] => f
  | _ => 0

/-- References to copy into a table, in the one of the eight forms that is asked for. -/
def writeElement (e : ElementSegment (List Flat)) : Bytes :=
  if e.form.byIndex then
    (match e.mode with
      | .active table offset =>
        if e.form.namesTable then 0x02 :: writeUnsigned table ++ writeCode offset ++ [0x00]
        else 0x00 :: writeCode offset
      | .passive => [0x01, 0x00]
      | .declared => [0x03, 0x00]) ++ writeVector (writeUnsigned ∘ functionIndex) e.items
  else
    (match e.mode with
      | .active table offset =>
        if e.form.namesTable || e.type != .funcref then
          0x06 :: writeUnsigned table ++ writeCode offset ++ [valueTypeCode e.type]
        else 0x04 :: writeCode offset
      | .passive => [0x05, valueTypeCode e.type]
      | .declared => [0x07, valueTypeCode e.type]) ++ writeVector writeCode e.items

def writeData (d : DataSegment (List Flat)) : Bytes :=
  (match d.mode with
    | .active 0 offset => 0x00 :: writeCode offset
    | .active memory offset => 0x02 :: writeUnsigned memory ++ writeCode offset
    | .passive | .declared => [0x01]) ++ writeUnsigned d.bytes.length ++ d.bytes

/-- The runs of equal neighbours of a list, with their lengths. -/
def runs : List ValueType → List (Nat × ValueType)
  | [] => []
  | t :: rest =>
    -- The runs of the rest come first; the type in front extends the first of them.
    match runs rest with
    | (n, u) :: more => if t = u then (n + 1, u) :: more else (1, t) :: (n, u) :: more
    | [] => [(1, t)]

/-- The local variables and the code of a function with its length before it. -/
def writeFunc (f : Func (List Flat)) : Bytes :=
  let content :=
    writeVector (fun (n, t) => writeUnsigned n ++ [valueTypeCode t]) (runs f.locals) ++
      writeCode f.body
  writeUnsigned content.length ++ content

/-- A module as a file. -/
def write (m : RawModule) : Bytes :=
  magic ++ version ++
    writeItems 1 writeFuncType m.types ++
    writeItems 2 writeImport m.imports ++
    writeItems 3 (fun f => writeUnsigned f.type) m.funcs ++
    writeItems 4 writeTable m.tables ++
    writeItems 5 writeLimits m.memories ++
    writeItems 6 writeGlobal m.globals ++
    writeItems 7 writeExport m.exports ++
    m.starts.flatMap (fun f => writeSection 8 (writeUnsigned f)) ++
    writeItems 9 writeElement m.elements ++
    writeItems 10 writeFunc m.funcs ++
    writeItems 11 writeData m.datas

/-! ## Names -/

/-- Names of things by their index, in ascending order. -/
abbrev NameMap := List (Nat × String)

/-- The names that a module was written with. -/
structure Names where
  module : Option String := none
  funcs : NameMap := []
  /-- The names of parameters and local variables, by function. -/
  locals : List (Nat × NameMap) := []
  /-- The names of blocks, by function. -/
  labels : List (Nat × NameMap) := []
  types : NameMap := []
  tables : NameMap := []
  memories : NameMap := []
  globals : NameMap := []
  elements : NameMap := []
  datas : NameMap := []

/-- Names with their indices. -/
def writeNameMap (names : NameMap) : Bytes :=
  writeVector (fun (i, s) => writeUnsigned i ++ writeName s) names

/-- Names within functions. -/
def writeIndirect (names : List (Nat × NameMap)) : Bytes :=
  writeVector (fun (i, inner) => writeUnsigned i ++ writeNameMap inner) names

/-- The custom section that keeps names, left out if there are none. Its parts stand in the order of
their codes, and empty parts are left out. -/
def writeNames (n : Names) : Bytes :=
  let part (code : UInt8) (names : NameMap) : Bytes :=
    if names.isEmpty then [] else writeSection code (writeNameMap names)
  let indirect (code : UInt8) (names : List (Nat × NameMap)) : Bytes :=
    if names.isEmpty then [] else writeSection code (writeIndirect names)
  let parts :=
    (match n.module with
      | none => []
      | some s => writeSection 0 (writeName s)) ++
    part 1 n.funcs ++ indirect 2 n.locals ++ indirect 3 n.labels ++ part 4 n.types ++
    part 5 n.tables ++ part 6 n.memories ++ part 7 n.globals ++ part 8 n.elements ++ part 9 n.datas
  if parts.isEmpty then [] else writeSection 0 (writeName "name" ++ parts)

end WasmGauge.Wasm.Binary
