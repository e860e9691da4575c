import WasmGauge.Text.Utf8
import WasmGauge.Wat.Number

/-!
# Tokens and trees of the text format

A text is a sequence of tokens with white space, comments and annotations between them, and the
tokens group into trees by their brackets. Two tokens that are words or strings must not touch each other.
-/

namespace WasmGauge.Wat

/-- A token of the text format. -/
inductive Token where
  | opening
  | closing
  /-- A string, with its escapes resolved. -/
  | string (bytes : List UInt8)
  /-- A name, without its mark. -/
  | name (text : String)
  | keyword (word : String)
  | number (literal : Literal)
  deriving DecidableEq, Repr

namespace Token

/-- Whether words and names may hold a character. -/
def isWordChar (c : Char) : Bool :=
  c.isAlphanum || "!#$%&'*+-./:<=>?@\\^_\x60|~".toList.contains c

/-- Whether a character turns the direction of the text around it. Comments and strings must not
hold such characters. -/
def isDirectional (c : Char) : Bool :=
  [0x202A, 0x202B, 0x202D, 0x202E, 0x2066, 0x2067, 0x2068, 0x206C, 0x2069].contains c.toNat

def bytesOf (c : Char) : List UInt8 := (String.singleton c).toUTF8.toList

/-! ## Comments -/

/-- What follows a comment to the end of the line. -/
def afterLine : List Char → Option (List Char)
  | [] => some []
  | c :: rest =>
    if c = '\n' ∨ c = '\r' then some (c :: rest)
    else if isDirectional c then none
    else afterLine rest

/-- What follows the end of a block comment that is `depth` blocks deep. -/
def afterBlock : Nat → List Char → Option (List Char)
  | _, [] => none
  | depth, '(' :: ';' :: rest => afterBlock (depth + 1) rest
  | 0, ';' :: ')' :: rest => some rest
  | depth + 1, ';' :: ')' :: rest => afterBlock depth rest
  | depth, c :: rest => if isDirectional c then none else afterBlock depth rest

/-! ## Strings -/

/-- Whether a character is a hexadecimal digit. -/
def isHexDigit (c : Char) : Bool := (Decimal.digit? 16 c).isSome

/-- The code point in an escape after its opening brace, and what follows the closing one. Any number
of underscores may stand between two digits. -/
def codePoint? (cs : List Char) : Option (Char × List Char) :=
  let body := cs.takeWhile fun c => isHexDigit c || c = '_'
  let digits := body.filterMap (Decimal.digit? 16)
  let n := digits.foldl (fun n d => 16 * n + d) 0
  match body.head?, body.getLast?, cs.dropWhile fun c => isHexDigit c || c = '_' with
  | some first, some last, '\x7d' :: rest =>
    if isHexDigit first && isHexDigit last && n.isValidChar then some (Char.ofNat n, rest) else none
  | _, _, _ => none

/-- The bytes of an escape after its backslash, and what follows it. -/
def escape? : List Char → Option (List UInt8 × List Char)
  | 't' :: rest => some ([9], rest)
  | 'n' :: rest => some ([10], rest)
  | 'r' :: rest => some ([13], rest)
  | '"' :: rest => some ([34], rest)
  | '\'' :: rest => some ([39], rest)
  | '\\' :: rest => some ([92], rest)
  | 'u' :: '\x7b' :: rest => (codePoint? rest).map fun (c, rest) => (bytesOf c, rest)
  | a :: b :: rest =>
    match Decimal.digit? 16 a, Decimal.digit? 16 b with
    | some high, some low => some ([(16 * high + low).toUInt8], rest)
    | _, _ => none
  | _ => none

/-- The bytes of a string after its opening quotation mark, and what follows the closing one. The
fuel bounds the number of characters. -/
def string? : Nat → List Char → Option (List UInt8 × List Char)
  | 0, _ => none
  | _ + 1, [] => none
  | _ + 1, '"' :: rest => some ([], rest)
  | fuel + 1, '\\' :: rest => do
    let (bytes, rest) ← escape? rest
    let (more, rest) ← string? fuel rest
    some (bytes ++ more, rest)
  | fuel + 1, c :: rest =>
    if c.toNat < 0x20 ∨ c.toNat = 0x7F ∨ isDirectional c then none
    else do
      let (more, rest) ← string? fuel rest
      some (bytesOf c ++ more, rest)

/-! ## Annotations -/

/-- Whether a character may stand in an annotation by itself or in a word. -/
def isAnnotationChar (c : Char) : Bool :=
  isWordChar c || [' ', '\n', '\t', '\r', ',', ';', '[', ']', '\x7b', '\x7d'].contains c

/-- What follows the end of an annotation that is `depth` brackets deep. The fuel bounds the number
of characters. -/
def afterAnnotation : Nat → Nat → List Char → Option (List Char)
  | 0, _, _ => none
  | _ + 1, _, [] => none
  | fuel + 1, depth, '(' :: ';' :: rest => do afterAnnotation fuel depth (← afterBlock 0 rest)
  | fuel + 1, depth, '(' :: rest => afterAnnotation fuel (depth + 1) rest
  | _ + 1, 0, ')' :: rest => some rest
  | fuel + 1, depth + 1, ')' :: rest => afterAnnotation fuel depth rest
  | fuel + 1, depth, ';' :: ';' :: rest => do afterAnnotation fuel depth (← afterLine rest)
  | fuel + 1, depth, '"' :: rest => do
    let (_, rest) ← string? (rest.length + 1) rest
    afterAnnotation fuel depth rest
  | fuel + 1, depth, c :: rest =>
    if isAnnotationChar c then afterAnnotation fuel depth rest else none

/-- The names of the annotations that mean something. -/
def knownAnnotations : List String :=
  ["custom", "dylink.0", "metadata.code.branch_hint", "name", "producers"]

/-- What follows an annotation after its mark. An annotation is skipped unless its name means
something. -/
def skipAnnotation? (cs : List Char) : Option (List Char) :=
  let word := cs.takeWhile isWordChar
  if word.isEmpty || knownAnnotations.contains (String.ofList word) then none
  else afterAnnotation (cs.length + 1) 0 (cs.dropWhile isWordChar)

/-! ## Tokens -/

/-- The text that bytes are in UTF-8. -/
def text? (bytes : List UInt8) : Option String :=
  match Text.decodeUtf8 bytes with
  | .ok cs => some (String.ofList cs)
  | .error _ => none

def ofWord? (word : List Char) : Option Token :=
  match Literal.ofWord? word with
  | some l => some (.number l)
  | none =>
    match word with
    | '$' :: c :: rest => some (.name (String.ofList (c :: rest)))
    | c :: _ => if c.isLower then some (.keyword (String.ofList word)) else none
    | [] => none

/-- Whether the text goes on with something that must not touch a word or a string. -/
def touches : List Char → Bool
  | c :: _ => isWordChar c || c = '"'
  | [] => false

/-- The token at the front of a text, which stands for itself if it is a string or a quoted name or
else ends with the last character of a word. -/
def next? (cs : List Char) : Option (Token × List Char) :=
  match cs with
  | '"' :: rest => do
    let (bytes, rest) ← string? (rest.length + 1) rest
    if touches rest then none else some (.string bytes, rest)
  | '$' :: '"' :: rest => do
    let (bytes, rest) ← string? (rest.length + 1) rest
    let text ← text? bytes
    if touches rest || text.isEmpty then none else some (.name text, rest)
  | _ => do
    -- Names, keywords and numbers are told apart only when the whole word is known.
    let word := cs.takeWhile isWordChar
    let rest := cs.dropWhile isWordChar
    let token ← ofWord? word
    if touches rest then none else some (token, rest)

/-- The tokens of a text. The fuel bounds the number of tokens, blanks, comments and annotations. -/
def tokens? : Nat → List Char → Option (List Token)
  | 0, _ => none
  | _ + 1, [] => some []
  -- What begins with a bracket but is none comes before the bracket.
  | fuel + 1, '(' :: ';' :: rest => do tokens? fuel (← afterBlock 0 rest)
  | fuel + 1, '(' :: '@' :: rest => do tokens? fuel (← skipAnnotation? rest)
  | fuel + 1, '(' :: rest => (.opening :: ·) <$> tokens? fuel rest
  | fuel + 1, ')' :: rest => (.closing :: ·) <$> tokens? fuel rest
  | fuel + 1, ';' :: ';' :: rest => do tokens? fuel (← afterLine rest)
  | fuel + 1, c :: rest =>
    if c = ' ' ∨ c = '\n' ∨ c = '\t' ∨ c = '\r' then tokens? fuel rest
    else do
      let (token, rest) ← next? (c :: rest)
      (token :: ·) <$> tokens? fuel rest

end Token

/-! ## Trees -/

/-- Tokens grouped by their brackets. -/
inductive Tree where
  | leaf (token : Token)
  | node (items : List Tree)
  deriving Repr

/-- The open groups, the innermost first, after one more token. Each group holds its items in
reverse. -/
def Tree.step : List (List Tree) → Token → Option (List (List Tree))
  | groups, .opening => some ([] :: groups)
  | items :: outer :: groups, .closing => some ((.node items.reverse :: outer) :: groups)
  | _, .closing => none
  | items :: groups, token => some ((.leaf token :: items) :: groups)
  | [], _ => none

/-- The trees of a sequence of tokens, if their brackets match. -/
def Tree.ofTokens? (tokens : List Token) : Option (List Tree) :=
  match tokens.foldlM Tree.step [[]] with
  | some [items] => some items.reverse
  | _ => none

end WasmGauge.Wat
