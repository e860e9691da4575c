import WasmGauge.Wasm.Module

/-!
# The fields of a module in the text format

A module as its text says it, with names where the binary format has indices and with types written
out where it has indices of types. Instructions are already in a row, as in the binary format.
-/

namespace WasmGauge.Wat

open Wasm

/-- How the text refers to something: by its index or by its name. -/
inductive Ref where
  | index (n : Nat)
  | name (text : String)
  deriving DecidableEq, Repr

/-- The kinds of things that instructions refer to. -/
inductive Space where
  | type
  | func
  | table
  | memory
  | global
  | local
  | label
  deriving DecidableEq, Repr

/-- A parameter or a local variable with its name. -/
abbrev NamedType := Option String × ValueType

/-- A function type as it is written down. -/
structure Signature where
  params : List NamedType
  /-- The types of the results. -/
  results : List ValueType
  deriving DecidableEq, Repr

def Signature.type (s : Signature) : FuncType := ⟨s.params.map (·.2), s.results⟩

/-- The use of a function type: a reference to it, the type written out, or both. -/
structure TypeUse where
  ref : Option Ref
  inline : Option Signature
  deriving DecidableEq, Repr

/-- An instruction that may still refer to something by name. -/
inductive Step where
  | basic (instruction : Basic)
  /-- An instruction that refers to one thing and is complete with its index. -/
  | refers (space : Space) (ref : Ref) (complete : Nat → Basic)
  /-- A jump through a table of blocks. -/
  | brTable (labels : List Ref) (default : Ref)
  /-- A call through a table of functions. -/
  | callIndirect (table : Ref) (type : TypeUse)
  /-- An item that opens a block with a name and is complete with the type of the block. -/
  | opens (label : Option String) (type : TypeUse) (complete : BlockType → Flat)
  /-- The beginning of the second branch of a conditional, which may repeat the name. -/
  | otherwise (label : Option String)
  /-- The end of a block, which may repeat the name. -/
  | close (label : Option String)

/-- What is brought in. -/
inductive Imported where
  | func (type : TypeUse)
  | table (type : TableType)
  | memory (limits : Limits)
  | global (type : GlobalType)

/-- When a segment is copied. -/
inductive Mode where
  /-- When an instance is made, into this table or memory, or the first one of all, at this offset. -/
  | active (target : Option Ref) (offset : List Step)
  /-- Only on request. -/
  | passive
  /-- Never. -/
  | declared

/-- References to copy into a table. -/
inductive Items where
  | functions (refs : List Ref)
  /-- References of this type that are computed. -/
  | computed (type : ValueType) (codes : List (List Step))

/-- How many references there are. -/
def Items.count : Items → Nat
  | .functions refs => refs.length
  | .computed _ codes => codes.length

/-- What a table holds at the beginning. -/
inductive Content where
  | nulls
  /-- The same reference everywhere. -/
  | filled (init : List Step)
  | listed (items : Items)

/-- A field of a module. Things may be given out where they are defined, under several names. -/
inductive Field where
  | type (name : Option String) (signature : Signature)
  | imported (first second : String) (name : Option String) (exports : List String)
    (what : Imported)
  | func (name : Option String) (exports : List String) (type : TypeUse)
    (locals : List NamedType) (body : List Step)
  | table (name : Option String) (exports : List String) (type : TableType) (content : Content)
  /-- A memory, with bytes to copy into it from its beginning. -/
  | memory (name : Option String) (exports : List String) (limits : Limits)
    (content : Option Bytes)
  | global (name : Option String) (exports : List String) (type : GlobalType)
    (init : List Step)
  | exported (text : String) (kind : Kind) (ref : Ref)
  /-- The function to call when an instance is made. -/
  | start (ref : Ref)
  | elements (name : Option String) (mode : Mode) (items : Items)
  | datas (name : Option String) (mode : Mode) (bytes : Bytes)

/-- What a text holds: a module written out in fields, or the bytes of a binary one. -/
inductive Document where
  | fields (name : Option String) (fields : List Field)
  | binary (bytes : Bytes)

end WasmGauge.Wat
