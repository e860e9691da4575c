import WasmGauge.Wasm.Types

/-!
# Operators

The instructions that do nothing but take operands from the stack and push one result, and the ways
of loading from and storing to memory. `catalogue` lists every operator with its code in the binary
format and its word in the text format; both formats look instructions up there and nowhere else.
-/

namespace WasmGauge.Wasm

/-- The two sizes of integers. -/
inductive IntSize where
  | w32
  | w64
  deriving DecidableEq, Repr

/-- The two sizes of floating-point numbers. -/
inductive FloatSize where
  | f32
  | f64
  deriving DecidableEq, Repr

/-- The type of integers of a size. -/
def IntSize.type : IntSize → ValueType
  | .w32 => .i32
  | .w64 => .i64

/-- The type of floating-point numbers of a size. -/
def FloatSize.type : FloatSize → ValueType
  | .f32 => .f32
  | .f64 => .f64

/-- Operations on one integer that give an integer of the same size. -/
inductive IntUnary where
  /-- The number of zero bits above the highest one bit. -/
  | clz
  /-- The number of zero bits below the lowest one bit. -/
  | ctz
  /-- The number of one bits. -/
  | popcnt
  /-- The sign extended from the lowest `bits` bits. -/
  | extend (bits : Nat)
  deriving DecidableEq, Repr

/-- Operations on two integers that give an integer of the same size. -/
inductive IntBinary where
  | add
  | sub
  | mul
  /-- Signed quotient toward zero. -/
  | divS
  | divU
  /-- Signed remainder, with the sign of the dividend. -/
  | remS
  | remU
  | and
  | or
  | xor
  /-- Shift to the left by the amount modulo the size. -/
  | shl
  /-- Shift to the right that copies the sign. -/
  | shrS
  /-- Shift to the right that fills with zeros. -/
  | shrU
  | rotl
  | rotr
  deriving DecidableEq, Repr

/-- Comparisons of two integers. -/
inductive IntCompare where
  | eq
  | ne
  | ltS
  | ltU
  | gtS
  | gtU
  | leS
  | leU
  | geS
  | geU
  deriving DecidableEq, Repr

/-- Operations on one floating-point number that give one of the same size. -/
inductive FloatUnary where
  | abs
  /-- The number with the other sign. -/
  | neg
  | ceil
  | floor
  | trunc
  /-- Rounding to the nearest whole number, ties to even. -/
  | nearest
  | sqrt
  deriving DecidableEq, Repr

/-- Operations on two floating-point numbers that give one of the same size. -/
inductive FloatBinary where
  | add
  | sub
  | mul
  | div
  /-- The smaller one; minus zero is below zero. -/
  | min
  | max
  /-- The first number with the sign of the second. -/
  | copysign
  deriving DecidableEq, Repr

/-- Comparisons of two floating-point numbers. -/
inductive FloatCompare where
  | eq
  | ne
  | lt
  | gt
  | le
  | ge
  deriving DecidableEq, Repr

/-- Conversions from one numeric type to another. -/
inductive Conversion where
  /-- The lower half of a 64-bit integer. -/
  | wrap
  /-- A 32-bit integer with its sign, or with zeros, extended to 64 bits. -/
  | extend (signed : Bool)
  /-- The integer part of a floating-point number. Outside the range of integers the saturating form
  gives the nearest integer, and zero for what is not a number; the other form traps. -/
  | truncate (source : FloatSize) (target : IntSize) (signed saturating : Bool)
  /-- The floating-point number nearest to an integer. -/
  | convert (source : IntSize) (target : FloatSize) (signed : Bool)
  /-- The 32-bit number nearest to a 64-bit one. -/
  | demote
  /-- A 32-bit number as a 64-bit one. -/
  | promote
  | toBits (size : FloatSize)
  /-- The same bits as a floating-point number. -/
  | ofBits (size : FloatSize)
  deriving DecidableEq, Repr

/-- An instruction that takes operands from the stack and pushes one result. -/
inductive Operator where
  | isZero (size : IntSize)
  | intCompare (size : IntSize) (relation : IntCompare)
  | floatCompare (size : FloatSize) (relation : FloatCompare)
  | intUnary (size : IntSize) (operation : IntUnary)
  | intBinary (size : IntSize) (operation : IntBinary)
  | floatUnary (size : FloatSize) (operation : FloatUnary)
  | floatBinary (size : FloatSize) (operation : FloatBinary)
  | conversion (operation : Conversion)
  deriving DecidableEq, Repr

/-- The types of the operands and of the result of a conversion. -/
def Conversion.type : Conversion → FuncType
  | .wrap => ⟨[.i64], [.i32]⟩
  | .extend _ => ⟨[.i32], [.i64]⟩
  | .truncate source target _ _ => ⟨[source.type], [target.type]⟩
  | .convert source target _ => ⟨[source.type], [target.type]⟩
  | .demote => ⟨[.f64], [.f32]⟩
  | .promote => ⟨[.f32], [.f64]⟩
  | .toBits .f32 => ⟨[.f32], [.i32]⟩
  | .toBits .f64 => ⟨[.f64], [.i64]⟩
  | .ofBits .f32 => ⟨[.i32], [.f32]⟩
  | .ofBits .f64 => ⟨[.i64], [.f64]⟩

/-- The types of the operands and of the result of an operator. -/
def Operator.type : Operator → FuncType
  | .isZero size => ⟨[size.type], [.i32]⟩
  | .intCompare size _ => ⟨[size.type, size.type], [.i32]⟩
  | .floatCompare size _ => ⟨[size.type, size.type], [.i32]⟩
  | .intUnary size _ => ⟨[size.type], [size.type]⟩
  | .intBinary size _ => ⟨[size.type, size.type], [size.type]⟩
  | .floatUnary size _ => ⟨[size.type], [size.type]⟩
  | .floatBinary size _ => ⟨[size.type, size.type], [size.type]⟩
  | .conversion c => c.type

/-- Reading a value from memory: its type, how many bytes are read, and whether a shorter integer is
sign extended. -/
structure LoadForm where
  type : ValueType
  bytes : Nat
  /-- Whether a shorter integer is sign extended. -/
  signed : Bool
  deriving DecidableEq, Repr

/-- Writing a value to memory: its type and how many of its lower bytes are written. -/
structure StoreForm where
  type : ValueType
  bytes : Nat
  deriving DecidableEq, Repr

/-- An entry of a catalogue: the code in the binary format, the word in the text format, and what
they stand for. -/
structure Entry (α : Type) where
  code : List UInt8
  word : String
  meaning : α

/-- Words with consecutive one-byte codes from `first` on. -/
def consecutive {α : Type} (first : Nat) (entries : List (String × α)) : List (Entry α) :=
  entries.zipIdx.map fun ((word, meaning), i) => ⟨[(first + i).toUInt8], word, meaning⟩

/-- The comparisons of integers of one size, in the order of their codes. -/
def intCompares (size : IntSize) (stem : String) : List (String × Operator) :=
  [("eq", IntCompare.eq), ("ne", .ne), ("lt_s", .ltS), ("lt_u", .ltU), ("gt_s", .gtS),
    ("gt_u", .gtU), ("le_s", .leS), ("le_u", .leU), ("ge_s", .geS), ("ge_u", .geU)].map
    fun (word, r) => (stem ++ word, Operator.intCompare size r)

/-- The comparisons of floating-point numbers of one size, in the order of their codes. -/
def floatCompares (size : FloatSize) (stem : String) : List (String × Operator) :=
  [("eq", FloatCompare.eq), ("ne", .ne), ("lt", .lt), ("gt", .gt), ("le", .le), ("ge", .ge)].map
    fun (word, r) => (stem ++ word, Operator.floatCompare size r)

/-- The operations on integers of one size, in the order of their codes. -/
def intOperations (size : IntSize) (stem : String) : List (String × Operator) :=
  ([("clz", IntUnary.clz), ("ctz", .ctz), ("popcnt", .popcnt)].map
    fun (word, o) => (stem ++ word, Operator.intUnary size o)) ++
  ([("add", IntBinary.add), ("sub", .sub), ("mul", .mul), ("div_s", .divS), ("div_u", .divU),
    ("rem_s", .remS), ("rem_u", .remU), ("and", .and), ("or", .or), ("xor", .xor), ("shl", .shl),
    ("shr_s", .shrS), ("shr_u", .shrU), ("rotl", .rotl), ("rotr", .rotr)].map
    fun (word, o) => (stem ++ word, Operator.intBinary size o))

/-- The operations on floating-point numbers of one size, in the order of their codes. -/
def floatOperations (size : FloatSize) (stem : String) : List (String × Operator) :=
  ([("abs", FloatUnary.abs), ("neg", .neg), ("ceil", .ceil), ("floor", .floor), ("trunc", .trunc),
    ("nearest", .nearest), ("sqrt", .sqrt)].map
    fun (word, o) => (stem ++ word, Operator.floatUnary size o)) ++
  ([("add", FloatBinary.add), ("sub", .sub), ("mul", .mul), ("div", .div), ("min", .min),
    ("max", .max), ("copysign", .copysign)].map
    fun (word, o) => (stem ++ word, Operator.floatBinary size o))

/-- The conversions and sign extensions, in the order of their codes. -/
def conversions : List (String × Operator) :=
  ([("i32.wrap_i64", Conversion.wrap),
    ("i32.trunc_f32_s", .truncate .f32 .w32 true false),
    ("i32.trunc_f32_u", .truncate .f32 .w32 false false),
    ("i32.trunc_f64_s", .truncate .f64 .w32 true false),
    ("i32.trunc_f64_u", .truncate .f64 .w32 false false),
    ("i64.extend_i32_s", .extend true),
    ("i64.extend_i32_u", .extend false),
    ("i64.trunc_f32_s", .truncate .f32 .w64 true false),
    ("i64.trunc_f32_u", .truncate .f32 .w64 false false),
    ("i64.trunc_f64_s", .truncate .f64 .w64 true false),
    ("i64.trunc_f64_u", .truncate .f64 .w64 false false),
    ("f32.convert_i32_s", .convert .w32 .f32 true),
    ("f32.convert_i32_u", .convert .w32 .f32 false),
    ("f32.convert_i64_s", .convert .w64 .f32 true),
    ("f32.convert_i64_u", .convert .w64 .f32 false),
    ("f32.demote_f64", .demote),
    ("f64.convert_i32_s", .convert .w32 .f64 true),
    ("f64.convert_i32_u", .convert .w32 .f64 false),
    ("f64.convert_i64_s", .convert .w64 .f64 true),
    ("f64.convert_i64_u", .convert .w64 .f64 false),
    ("f64.promote_f32", .promote),
    ("i32.reinterpret_f32", .toBits .f32),
    ("i64.reinterpret_f64", .toBits .f64),
    ("f32.reinterpret_i32", .ofBits .f32),
    ("f64.reinterpret_i64", .ofBits .f64)].map
    fun (word, c) => (word, Operator.conversion c)) ++
  [("i32.extend8_s", .intUnary .w32 (.extend 8)),
    ("i32.extend16_s", .intUnary .w32 (.extend 16)),
    ("i64.extend8_s", .intUnary .w64 (.extend 8)),
    ("i64.extend16_s", .intUnary .w64 (.extend 16)),
    ("i64.extend32_s", .intUnary .w64 (.extend 32))]

/-- The saturating truncations, in the order of their second code. -/
def saturatingTruncations : List (Entry Operator) :=
  ([("i32.trunc_sat_f32_s", FloatSize.f32, IntSize.w32, true),
    ("i32.trunc_sat_f32_u", .f32, .w32, false),
    ("i32.trunc_sat_f64_s", .f64, .w32, true),
    ("i32.trunc_sat_f64_u", .f64, .w32, false),
    ("i64.trunc_sat_f32_s", .f32, .w64, true),
    ("i64.trunc_sat_f32_u", .f32, .w64, false),
    ("i64.trunc_sat_f64_s", .f64, .w64, true),
    ("i64.trunc_sat_f64_u", .f64, .w64, false)] : List (String × FloatSize × IntSize × Bool)).zipIdx.map
    fun ((word, source, target, signed), i) =>
      ⟨[0xFC, i.toUInt8], word, .conversion (.truncate source target signed true)⟩

/-- Every operator with its code and its word. -/
def catalogue : List (Entry Operator) :=
  consecutive 0x45
    ([("i32.eqz", .isZero .w32)] ++ intCompares .w32 "i32." ++
      [("i64.eqz", .isZero .w64)] ++ intCompares .w64 "i64." ++
      floatCompares .f32 "f32." ++ floatCompares .f64 "f64." ++
      intOperations .w32 "i32." ++ intOperations .w64 "i64." ++
      floatOperations .f32 "f32." ++ floatOperations .f64 "f64." ++ conversions) ++
  saturatingTruncations

/-- Every way of loading, with its code and its word. -/
def loadCatalogue : List (Entry LoadForm) :=
  consecutive 0x28 [
    ("i32.load", ⟨.i32, 4, false⟩), ("i64.load", ⟨.i64, 8, false⟩),
    ("f32.load", ⟨.f32, 4, false⟩), ("f64.load", ⟨.f64, 8, false⟩),
    ("i32.load8_s", ⟨.i32, 1, true⟩), ("i32.load8_u", ⟨.i32, 1, false⟩),
    ("i32.load16_s", ⟨.i32, 2, true⟩), ("i32.load16_u", ⟨.i32, 2, false⟩),
    ("i64.load8_s", ⟨.i64, 1, true⟩), ("i64.load8_u", ⟨.i64, 1, false⟩),
    ("i64.load16_s", ⟨.i64, 2, true⟩), ("i64.load16_u", ⟨.i64, 2, false⟩),
    ("i64.load32_s", ⟨.i64, 4, true⟩), ("i64.load32_u", ⟨.i64, 4, false⟩)]

/-- Every way of storing, with its code and its word. -/
def storeCatalogue : List (Entry StoreForm) :=
  consecutive 0x36 [
    ("i32.store", ⟨.i32, 4⟩), ("i64.store", ⟨.i64, 8⟩),
    ("f32.store", ⟨.f32, 4⟩), ("f64.store", ⟨.f64, 8⟩),
    ("i32.store8", ⟨.i32, 1⟩), ("i32.store16", ⟨.i32, 2⟩),
    ("i64.store8", ⟨.i64, 1⟩), ("i64.store16", ⟨.i64, 2⟩), ("i64.store32", ⟨.i64, 4⟩)]

def Entry.ofWord? {α : Type} (entries : List (Entry α)) (word : String) : Option (Entry α) :=
  entries.find? (·.word == word)

def Entry.ofCode? {α : Type} (entries : List (Entry α)) (code : List UInt8) : Option (Entry α) :=
  entries.find? (·.code == code)

def Entry.codeOf {α : Type} [DecidableEq α] (entries : List (Entry α)) (meaning : α) : List UInt8 :=
  ((entries.find? fun e => e.meaning = meaning).map (·.code)).getD []

end WasmGauge.Wasm
