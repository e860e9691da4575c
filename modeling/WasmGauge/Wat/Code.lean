import WasmGauge.Wat.Field
import WasmGauge.Wat.Token

/-!
# Instructions of the text format

Instructions are written one after the other, or folded: an instruction in brackets with the
instructions for its operands behind it. A folded block encloses what is behind it, and a folded
conditional has its branches in brackets of their own. `code?` puts them all in a row.
-/

namespace WasmGauge.Wat

open Wasm

/-! ## Parts of instructions -/

/-- The index or name at the front, and what follows. -/
def ref? : List Tree → Option (Ref × List Tree)
  | .leaf (.number l) :: rest => (l.toNat? 32).map fun n => (.index n, rest)
  | .leaf (.name s) :: rest => some (.name s, rest)
  | _ => none

/-- The index or name at the front, or the first index of all. -/
def refOrFirst (items : List Tree) : Ref × List Tree :=
  (ref? items).getD (.index 0, items)

/-- The name at the front, if there is one, and what follows. -/
def name? : List Tree → Option String × List Tree
  | .leaf (.name s) :: rest => (some s, rest)
  | rest => (none, rest)

/-- All indices and names at the front, and what follows. -/
def refs : List Tree → List Ref × List Tree
  | [] => ([], [])
  | item :: rest =>
    match ref? [item] with
    | some (r, _) =>
      let (more, rest) := refs rest
      (r :: more, rest)
    | none => ([], item :: rest)

/-- The type that references to functions or to things of the host have. -/
def heapType? : String → Option ValueType
  | "func" => some .funcref
  | "extern" => some .externref
  | _ => none

/-- The number in the binary format of a reference type that no value here has. -/
def foreignHeapType? (word : String) : Option Int :=
  [("noexn", -12), ("nofunc", -13), ("noextern", -14), ("none", -15), ("any", -18), ("eq", -19),
    ("i31", -20), ("struct", -21), ("array", -22), ("exn", -23)].lookup word

def referenceType? : Tree → Option ValueType
  | .leaf (.keyword "funcref") => some .funcref
  | .leaf (.keyword "externref") => some .externref
  | .node [.leaf (.keyword "ref"), .leaf (.keyword "null"), .leaf (.keyword w)] => heapType? w
  | _ => none

def valueType? : Tree → Option ValueType
  | .leaf (.keyword "i32") => some .i32
  | .leaf (.keyword "i64") => some .i64
  | .leaf (.keyword "f32") => some .f32
  | .leaf (.keyword "f64") => some .f64
  | t => referenceType? t

/-- What a group for parameters or local variables declares: one with a name, or any number
without. -/
def declared? : List Tree → Option (List NamedType)
  | .leaf (.name s) :: rest =>
    match rest with
    | [t] => (valueType? t).map fun t => [(some s, t)]
    | _ => none
  | rest => rest.mapM fun t => (valueType? t).map fun t => (none, t)

/-- The groups for parameters and then for results at the front, on top of what has been found, and
what follows. After a result there must not be another group for parameters, not even an empty
one. -/
def signatureFrom? (s : Signature) : List Tree → Option (Signature × List Tree)
  | .node (.leaf (.keyword "param") :: inner) :: rest => do
    let params ← declared? inner
    if s.results.isEmpty then signatureFrom? { s with params := s.params ++ params } rest else none
  | .node (.leaf (.keyword "result") :: inner) :: rest => do
    let results ← inner.mapM valueType?
    signatureFrom? { s with results := s.results ++ results } rest
  | rest => some (s, rest)

/-- The groups for parameters and then for results at the front, and what follows. -/
def signature? (items : List Tree) : Option (Signature × List Tree) := signatureFrom? ⟨[], []⟩ items

/-- Whether a group for parameters or results is at the front. -/
def writesType : List Tree → Bool
  | .node (.leaf (.keyword w) :: _) :: _ => w == "param" || w == "result"
  | _ => false

/-- The use of a function type at the front, and what follows. -/
def typeUse? (items : List Tree) : Option (TypeUse × List Tree) := do
  let (ref, items) ← match items with
    | .node (.leaf (.keyword "type") :: inner) :: rest =>
      match ref? inner with
      | some (r, []) => some (some r, rest)
      | _ => none
    | _ => some (none, items)
  let (s, rest) ← signature? items
  some (⟨ref, if writesType items then some s else none⟩, rest)

/-- The use of a function type at the front whose parameters have no names, and what follows. -/
def namelessUse? (items : List Tree) : Option (TypeUse × List Tree) := do
  let (use, rest) ← typeUse? items
  if (use.inline.map (·.params.all (·.1.isNone))).getD true then some (use, rest) else none

/-- The number after a word and an equals sign. -/
def field? (word keyword : String) : Option (Option Nat) :=
  match (word ++ "=").toList.isPrefixOf? keyword.toList with
  | none => none
  | some digits => some (Literal.looseNat? digits)

/-- The number after a word and an equals sign at the front, if it is there, and what follows. -/
def setting? (word : String) (items : List Tree) : Option (Option Nat × List Tree) :=
  match items with
  | .leaf (.keyword k) :: rest =>
    match field? word k with
    | none => some (none, items)
    | some (some n) => some (some n, rest)
    | some none => none
  | _ => some (none, items)

/-- What an access to memory of so many bytes says after its word: the memory, the offset and the
alignment, which is a power of two. -/
def access? (bytes : Nat) (items : List Tree) : Option (Ref × (Nat → MemArg) × List Tree) := do
  let (memory, items) := refOrFirst items
  let (offset, items) ← setting? "offset" items
  let (align, items) ← setting? "align" items
  let align := align.getD bytes
  if align ≠ 0 ∧ twoPow align.log2 = align then
    some (memory, fun m => ⟨align.log2, offset.getD 0, m⟩, items)
  else none

/-- The types in the groups for results at the front, if there are such groups, and what
follows. -/
def selected? : List Tree → Option (Option (List ValueType) × List Tree)
  | .node (.leaf (.keyword "result") :: inner) :: rest => do
    let types ← inner.mapM valueType?
    let (more, rest) ← selected? rest
    some (some (types ++ more.getD []), rest)
  | rest => some (none, rest)

/-! ## One instruction -/

/-- An instruction that refers to one thing at the front. -/
def referring? (space : Space) (complete : Nat → Basic) (items : List Tree) :
    Option (Step × List Tree) :=
  (ref? items).map fun (r, rest) => (.refers space r complete, rest)

/-- A constant at the front, made from a literal. -/
def constant? (make : Literal → Option Basic) : List Tree → Option (Step × List Tree)
  | .leaf (.number l) :: rest => (make l).map fun b => (.basic b, rest)
  | _ => none

def opening? (complete : BlockType → Flat) (items : List Tree) : Option (Step × List Tree) := do
  let (label, items) := name? items
  let (type, rest) ← namelessUse? items
  some (.opens label type complete, rest)

/-- An operator, a load or a store. -/
def listed? (word : String) (items : List Tree) : Option (Step × List Tree) :=
  match Entry.ofWord? catalogue word with
  | some e => some (.basic (.op e.meaning), items)
  | none =>
    match Entry.ofWord? loadCatalogue word with
    | some e => (access? e.meaning.bytes items).map fun (m, arg, rest) =>
        (.refers .memory m fun i => .load e.meaning (arg i), rest)
    | none =>
      match Entry.ofWord? storeCatalogue word with
      | some e => (access? e.meaning.bytes items).map fun (m, arg, rest) =>
          (.refers .memory m fun i => .store e.meaning (arg i), rest)
      | none => none

/-- The instruction that a word begins, and what follows it. -/
def instruction? (word : String) (items : List Tree) : Option (Step × List Tree) :=
  match word with
  | "unreachable" => some (.basic .unreachable, items)
  | "nop" => some (.basic .nop, items)
  | "block" => opening? .block items
  | "loop" => opening? .loop items
  | "if" => opening? .cond items
  | "else" =>
    let (label, rest) := name? items
    some (.otherwise label, rest)
  | "end" =>
    let (label, rest) := name? items
    some (.close label, rest)
  | "br" => referring? .label .br items
  | "br_if" => referring? .label .brIf items
  | "br_table" =>
    let (labels, rest) := refs items
    labels.getLast?.map fun d => (.brTable labels.dropLast d, rest)
  | "return" => some (.basic .ret, items)
  | "call" => referring? .func .call items
  | "call_indirect" => do
    let (table, rest) := refOrFirst items
    let (type, rest) ← namelessUse? rest
    some (.callIndirect table type, rest)
  | "drop" => some (.basic .drop, items)
  | "select" => (selected? items).map fun (types, rest) => (.basic (.select types), rest)
  | "local.get" => referring? .local .localGet items
  | "local.set" => referring? .local .localSet items
  | "local.tee" => referring? .local .localTee items
  | "global.get" => referring? .global .globalGet items
  | "global.set" => referring? .global .globalSet items
  | "memory.size" =>
    let (m, rest) := refOrFirst items
    some (.refers .memory m .memorySize, rest)
  | "memory.grow" =>
    let (m, rest) := refOrFirst items
    some (.refers .memory m .memoryGrow, rest)
  | "i32.const" => constant? (fun l => (l.toInt? 32).map fun i => .i32Const (UInt32.ofInt i)) items
  | "i64.const" => constant? (fun l => (l.toInt? 64).map fun i => .i64Const (UInt64.ofInt i)) items
  | "f32.const" =>
    constant? (fun l => (l.toBits? .single).map fun b => .f32Const b.toUInt32) items
  | "f64.const" =>
    constant? (fun l => (l.toBits? .double).map fun b => .f64Const b.toUInt64) items
  | "ref.null" =>
    match items with
    | .leaf (.keyword w) :: rest =>
      match heapType? w with
      | some t => some (.basic (.refNull t), rest)
      | none => (foreignHeapType? w).map fun t => (.basic (.refNullForeign t), rest)
    | _ => referring? .type (fun n => .refNullForeign n) items
  | "ref.is_null" => some (.basic .refIsNull, items)
  | "ref.func" => referring? .func .refFunc items
  | _ => listed? word items

/-! ## Instructions in a row -/

mutual

/-- The instructions that items stand for. The fuel bounds the number of items and how deep they
are nested. -/
def code? : Nat → List Tree → Option (List Step)
  | 0, _ => none
  | _ + 1, [] => some []
  | fuel + 1, .leaf (.keyword w) :: rest => do
    let (step, rest) ← instruction? w rest
    (step :: ·) <$> code? fuel rest
  | fuel + 1, .node items :: rest => do
    let first ← folded? fuel items
    (first ++ ·) <$> code? fuel rest
  | _ + 1, .leaf _ :: _ => none
termination_by structural fuel => fuel

/-- The instructions that a folded instruction stands for. -/
def folded? : Nat → List Tree → Option (List Step)
  | 0, _ => none
  | fuel + 1, .leaf (.keyword w) :: rest => do
    let (step, rest) ← instruction? w rest
    if w = "block" ∨ w = "loop" then
      let inner ← code? fuel rest
      some (step :: inner ++ [.close none])
    else if w = "if" then branches? fuel step rest
    else
      let inner ← code? fuel rest
      some (inner ++ [step])
  | _ + 1, _ => none
termination_by structural fuel => fuel

/-- The instructions of a folded conditional: those for its condition, the step that opens it, and
its one or two branches. -/
def branches? : Nat → Step → List Tree → Option (List Step)
  | 0, _, _ => none
  | fuel + 1, step, .node (.leaf (.keyword "then") :: yes) :: rest => do
    let yes ← code? fuel yes
    match rest with
    | [] => some (step :: yes ++ [.close none])
    | [.node (.leaf (.keyword "else") :: no)] =>
      let no ← code? fuel no
      some (step :: yes ++ .otherwise none :: no ++ [.close none])
    | _ => none
  | fuel + 1, step, .node items :: rest => do
    let first ← folded? fuel items
    (first ++ ·) <$> branches? fuel step rest
  | _ + 1, _, _ => none
termination_by structural fuel => fuel

end

mutual

/-- The instructions that a bracket stands for in which every bracket, also that of a block, means
the same: an instruction that goes behind all others in the bracket. -/
def bracket? : Nat → Tree → Option (List Step)
  | 0, _ => none
  | fuel + 1, .node (.leaf (.keyword w) :: rest) => do
    let (step, rest) ← instruction? w rest
    (· ++ [step]) <$> operands? fuel rest
  | _ + 1, _ => none
termination_by structural fuel => fuel

/-- The instructions that items in such a bracket stand for. -/
def operands? : Nat → List Tree → Option (List Step)
  | 0, _ => none
  | _ + 1, [] => some []
  | fuel + 1, .leaf (.keyword w) :: rest => do
    let (step, rest) ← instruction? w rest
    (step :: ·) <$> operands? fuel rest
  | fuel + 1, item :: rest => do
    let first ← bracket? fuel item
    (first ++ ·) <$> operands? fuel rest
termination_by structural fuel => fuel

end

/-- The instructions up to the first bracket, that one included, and what follows. -/
def throughBracket? : Nat → List Tree → Option (List Step × List Tree)
  | 0, _ => none
  | _ + 1, [] => none
  | fuel + 1, .leaf (.keyword w) :: rest => do
    let (step, rest) ← instruction? w rest
    let (steps, rest) ← throughBracket? fuel rest
    some (step :: steps, rest)
  | fuel + 1, item :: rest => (bracket? fuel item).map (·, rest)

end WasmGauge.Wat
