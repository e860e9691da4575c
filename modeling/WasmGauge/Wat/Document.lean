import WasmGauge.Wasm.Binary.Integer
import WasmGauge.Wat.Code

/-!
# Modules of the text format

`Document.ofText?` reads a whole text: a module in brackets, or its bare fields. A field that says in
one place what could be said in several, such as a memory with its content, stays one `Field`.
-/

namespace WasmGauge.Wat

open Wasm

/-- The text of a string at the front, and what follows. -/
def text? : List Tree → Option (String × List Tree)
  | .leaf (.string bytes) :: rest => (Token.text? bytes).map fun s => (s, rest)
  | _ => none

/-- The bytes of strings, which must be all that there is. -/
def strings? : List Tree → Option Bytes
  | [] => some []
  | .leaf (.string bytes) :: rest => (bytes ++ ·) <$> strings? rest
  | _ => none

/-- How many bytes a number of a kind has, and its bits. -/
def numberBits? (kind : String) (l : Literal) : Option (Nat × Nat) :=
  let integer (bits : Nat) : Option (Nat × Nat) :=
    (l.toInt? bits).map fun i => (bits / 8, (i % (twoPow bits : Int)).toNat)
  match kind with
  | "i8" => integer 8
  | "i16" => integer 16
  | "i32" => integer 32
  | "i64" => integer 64
  | "f32" => (l.toBits? .single).map (4, ·)
  | "f64" => (l.toBits? .double).map (8, ·)
  | _ => none

def numbers? (kind : String) : List Tree → Option Bytes
  | [] => some []
  | .leaf (.number l) :: rest => do
    let (n, bits) ← numberBits? kind l
    (Binary.littleEndian n bits ++ ·) <$> numbers? kind rest
  | _ => none

/-- Whether numbers of this kind may stand among the bytes of a memory. -/
def isNumberKind (kind : String) : Bool :=
  ["i8", "i16", "i32", "i64", "f32", "f64"].contains kind

/-- The bytes of a memory, from strings and groups of numbers, which must be all that there is. -/
def bytes? : List Tree → Option Bytes
  | [] => some []
  | .leaf (.string bytes) :: rest => (bytes ++ ·) <$> bytes? rest
  | .node (.leaf (.keyword kind) :: numbers) :: rest => do
    let first ← if isNumberKind kind then numbers? kind numbers else none
    (first ++ ·) <$> bytes? rest
  | _ => none

/-- The names under which something is given out where it is defined, and what follows. -/
def exports? : List Tree → Option (List String × List Tree)
  | .node [.leaf (.keyword "export"), .leaf (.string bytes)] :: rest => do
    let s ← Token.text? bytes
    let (more, rest) ← exports? rest
    some (s :: more, rest)
  | rest => some ([], rest)

/-- The two names under which something is brought in where it is declared, and what follows. -/
def inlineImport? : List Tree → Option (Option (String × String) × List Tree)
  | .node (.leaf (.keyword "import") :: inner) :: rest => do
    let (first, inner) ← text? inner
    let (second, inner) ← text? inner
    if inner.isEmpty then some (some (first, second), rest) else none
  | rest => some (none, rest)

/-- A value, if nothing follows it. -/
def last? {α : Type} : α × List Tree → Option α
  | (a, []) => some a
  | _ => none

/-- What follows the word for the usual kind of indices, which may be left out. -/
def afterIndexKind : List Tree → List Tree
  | .leaf (.keyword "i32") :: rest => rest
  | rest => rest

/-- Sizes at the front, and what follows. -/
def sizes? : List Tree → Option (Limits × List Tree)
  | .leaf (.number min) :: .leaf (.number max) :: rest => do
    some (⟨← min.toNat? 64, some (← max.toNat? 64)⟩, rest)
  | .leaf (.number min) :: rest => do some (⟨← min.toNat? 64, none⟩, rest)
  | _ => none

/-- The sizes of a table or of a memory at the front, and what follows. -/
def limits? (items : List Tree) : Option (Limits × List Tree) := sizes? (afterIndexKind items)

/-- The type of a table at the front, and what follows. -/
def tableType? (items : List Tree) : Option (TableType × List Tree) := do
  let (limits, rest) ← limits? items
  match rest with
  | t :: rest => (referenceType? t).map fun t => (⟨t, limits⟩, rest)
  | [] => none

/-- The type of a global variable at the front, and what follows. -/
def globalType? : List Tree → Option (GlobalType × List Tree)
  | .node [.leaf (.keyword "mut"), t] :: rest =>
    (valueType? t).map fun t => (⟨t, true⟩, rest)
  | t :: rest => (valueType? t).map fun t => (⟨t, false⟩, rest)
  | [] => none

/-- Local variables at the front, and what follows. -/
def locals? : List Tree → Option (List NamedType × List Tree)
  | .node (.leaf (.keyword "local") :: inner) :: rest => do
    let first ← declared? inner
    let (more, rest) ← locals? rest
    some (first ++ more, rest)
  | rest => some ([], rest)

/-- What is brought in, in brackets, with its name. -/
def imported? : Tree → Option (Option String × Imported)
  | .node (.leaf (.keyword kind) :: items) => do
    let (name, items) := name? items
    match kind with
    | "func" => do
      let use ← last? (← typeUse? items)
      some (name, .func use)
    | "table" => do
      let type ← last? (← tableType? items)
      some (name, .table type)
    | "memory" => do
      let limits ← last? (← limits? items)
      some (name, .memory limits)
    | "global" => do
      let type ← last? (← globalType? items)
      some (name, .global type)
    | _ => none
  | _ => none

/-- A function after its word. -/
def func? (fuel : Nat) (items : List Tree) : Option Field := do
  let (name, items) := name? items
  let (exports, items) ← exports? items
  let (source, items) ← inlineImport? items
  let (use, items) ← typeUse? items
  match source with
  | some (first, second) => last? (.imported first second name exports (.func use), items)
  | none =>
    let (locals, items) ← locals? items
    let body ← code? fuel items
    some (.func name exports use locals body)

/-- The code of the elements of a segment: each is a folded instruction, or stands behind a word. The
fuel bounds their number. -/
def codes? : Nat → List Tree → Option (List (List Step))
  | 0, _ => none
  | _ + 1, [] => some []
  | fuel + 1, .node (.leaf (.keyword "item") :: inner) :: rest => do
    let first ← code? fuel inner
    (first :: ·) <$> codes? fuel rest
  | fuel + 1, items => do
    let (first, rest) ← throughBracket? fuel items
    (first :: ·) <$> codes? fuel rest

/-- References to functions. -/
def functions? (items : List Tree) : Option Items :=
  let (refs, rest) := refs items
  if rest.isEmpty then some (.functions refs) else none

/-- The elements that are written in a table with elements of this type: code if a bracket is in
front, and otherwise functions, whatever the type. -/
def tableItems? (fuel : Nat) (type : ValueType) (items : List Tree) : Option Items :=
  match items with
  | .node _ :: _ => (codes? fuel items).map (.computed type ·)
  | _ => functions? items

/-- A table after its word. -/
def table? (fuel : Nat) (items : List Tree) : Option Field := do
  let (name, items) := name? items
  let (exports, items) ← exports? items
  let (source, items) ← inlineImport? items
  match source, afterIndexKind items with
  | none, [t, .node (.leaf (.keyword "elem") :: content)] =>
    match referenceType? t with
    | some type =>
      let content ← tableItems? fuel type content
      let n := content.count
      some (.table name exports ⟨type, ⟨n, some n⟩⟩ (.listed content))
    | none => none
  | none, _ => do
    let (type, rest) ← tableType? items
    if rest.isEmpty then some (.table name exports type .nulls)
    else (code? fuel rest).map fun init => .table name exports type (.filled init)
  | some (first, second), _ => do
    let type ← last? (← tableType? items)
    some (.imported first second name exports (.table type))

/-- A memory after its word. -/
def memory? (items : List Tree) : Option Field := do
  let (name, items) := name? items
  let (exports, items) ← exports? items
  let (source, items) ← inlineImport? items
  match source, afterIndexKind items with
  | some (first, second), _ => do
    let limits ← last? (← limits? items)
    some (.imported first second name exports (.memory limits))
  | none, [.node (.leaf (.keyword "data") :: content)] => do
    let bytes ← bytes? content
    let pages := (bytes.length + 65535) / 65536
    some (.memory name exports ⟨pages, some pages⟩ (some bytes))
  | none, _ => do
    let limits ← last? (← limits? items)
    some (.memory name exports limits none)

/-- A global variable after its word. -/
def global? (fuel : Nat) (items : List Tree) : Option Field := do
  let (name, items) := name? items
  let (exports, items) ← exports? items
  let (source, items) ← inlineImport? items
  let (type, items) ← globalType? items
  match source with
  | some (first, second) => last? (.imported first second name exports (.global type), items)
  | none => (code? fuel items).map (.global name exports type ·)

/-- Something given out, after its word. -/
def exported? (items : List Tree) : Option Field := do
  let (s, items) ← text? items
  match items with
  | [.node (.leaf (.keyword kind) :: inner)] =>
    let ref ← last? (← ref? inner)
    match kind with
    | "func" => some (.exported s .func ref)
    | "table" => some (.exported s .table ref)
    | "memory" => some (.exported s .memory ref)
    | "global" => some (.exported s .global ref)
    | _ => none
  | _ => none

/-- The offset of a segment at the front, and what follows. -/
def offset? (fuel : Nat) : List Tree → Option (List Step × List Tree)
  | .node (.leaf (.keyword "offset") :: inner) :: rest => (code? fuel inner).map (·, rest)
  | items => throughBracket? fuel items

/-- The table or memory of a segment at the front, if one is given, and what follows. -/
def target? (word : String) (items : List Tree) : Option (Option Ref × List Tree) :=
  match items with
  | .leaf (.number _) :: _ => (ref? items).map fun (r, rest) => (some r, rest)
  | .node (.leaf (.keyword w) :: inner) :: rest =>
    if w = word then (ref? inner).bind fun r => (last? r).map fun r => (some r, rest)
    else some (none, items)
  | _ => some (none, items)

/-- The elements of a segment, which must be all that there is, behind a word that says what they
are. -/
def items? (fuel : Nat) : List Tree → Option Items
  | .leaf (.keyword "func") :: rest => functions? rest
  | t :: rest => do
    let type ← referenceType? t
    (codes? fuel rest).map (.computed type ·)
  | [] => none

/-- The elements of an active segment. If the table is not given in brackets, the word before
functions may be left out. -/
def activeItems? (fuel : Nat) (bracketed : Bool) (items : List Tree) : Option Items :=
  if !bracketed && (items.isEmpty || (ref? items).isSome) then functions? items
  else items? fuel items

/-- Whether a bracket with this word is in front. -/
def opensWith (word : String) : List Tree → Bool
  | .node (.leaf (.keyword w) :: _) :: _ => w == word
  | _ => false

/-- Whether a segment of references is active: it begins with the index of a table, or with a bracket
that is no type. -/
def isActive : List Tree → Bool
  | .leaf (.number _) :: _ => true
  | .node inner :: _ => (referenceType? (.node inner)).isNone
  | _ => false

/-- A segment of references after its word. -/
def elements? (fuel : Nat) (items : List Tree) : Option Field := do
  let (name, items) := name? items
  if isActive items then
    let bracketed := opensWith "table" items
    let (target, items) ← target? "table" items
    let (offset, items) ← offset? fuel items
    (activeItems? fuel bracketed items).map (.elements name (.active target offset) ·)
  else
    match items with
    | .leaf (.keyword "declare") :: rest => (items? fuel rest).map (.elements name .declared ·)
    | _ => (items? fuel items).map (.elements name .passive ·)

/-- A segment of bytes after its word. -/
def datas? (fuel : Nat) (items : List Tree) : Option Field := do
  let (name, items) := name? items
  match items with
  | .leaf (.string _) :: _ => (bytes? items).map (.datas name .passive ·)
  | _ =>
    let (target, items) ← target? "memory" items
    let (offset, items) ← offset? fuel items
    (bytes? items).map (.datas name (.active target offset) ·)

/-- A field in its brackets. -/
def field (fuel : Nat) : Tree → Option Field
  | .node (.leaf (.keyword kind) :: items) =>
    match kind with
    | "type" => do
      let (name, items) := name? items
      match items with
      | [.node (.leaf (.keyword "func") :: inner)] =>
        let s ← last? (← signature? inner)
        some (.type name s)
      | _ => none
    | "import" => do
      let (first, items) ← text? items
      let (second, items) ← text? items
      match items with
      | [t] => (imported? t).map fun (name, what) => .imported first second name [] what
      | _ => none
    | "func" => func? fuel items
    | "table" => table? fuel items
    | "memory" => memory? items
    | "global" => global? fuel items
    | "export" => exported? items
    | "start" => do
      let ref ← last? (← ref? items)
      some (.start ref)
    | "elem" => elements? fuel items
    | "data" => datas? fuel items
    | _ => none
  | _ => none

/-- What a module holds after its word. -/
def moduleBody? (fuel : Nat) (items : List Tree) : Option Document :=
  let (name, items) := name? items
  match items with
  | .leaf (.keyword "binary") :: rest => (strings? rest).map .binary
  | _ => (items.mapM (field fuel)).map (.fields name ·)

/-- The bytes of a component with nothing in it. -/
def emptyComponent : Bytes := [0x00, 0x61, 0x73, 0x6D, 0x0D, 0x00, 0x01, 0x00]

/-- The document that a text is, if it is one. A text without any token is none. -/
def Document.ofText? (text : List Char) : Option Document := do
  let tokens ← Token.tokens? (text.length + 1) text
  let trees ← Tree.ofTokens? tokens
  let fuel := tokens.length + 2
  match trees with
  | [] => none
  | [.node (.leaf (.keyword "module") :: items)] => moduleBody? fuel items
  | [.node [.leaf (.keyword "component")]] => some (.binary emptyComponent)
  | _ => (trees.mapM (field fuel)).map (.fields none ·)

end WasmGauge.Wat
