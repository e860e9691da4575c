/-!
# Paths

A path is a sequence of parts below a root. Reading a text drops empty parts and the part `.`, so
that repeated and trailing slashes do not matter; the part `..` is kept, because what it means depends
on links. Exactly two slashes in front are a root of their own.

Every path has one text, and reading that text gives the path back.
-/

namespace WasmGauge.Storage

/-- What a path begins at. -/
inductive Root where
  | relative
  | slash
  /-- The root directory, written with two slashes. -/
  | doubleSlash
  deriving DecidableEq, Repr

/-- How a root is written. -/
def Root.text : Root → String
  | .relative => ""
  | .slash => "/"
  | .doubleSlash => "//"

/-- Whether a text is a part of a path: it is not empty, it is not `.`, and it has no slash. -/
def isPart (s : String) : Bool := s != "" && s != "." && !s.toList.contains '/'

structure Path where
  root : Root
  parts : List String
  /-- All parts are parts of a path. -/
  clean : ∀ s ∈ parts, isPart s = true
  deriving DecidableEq, Repr

/-- The pieces of a text between slashes. -/
def pieces : List Char → List (List Char)
  | [] => [[]]
  | c :: rest =>
    if c = '/' then [] :: pieces rest
    else
      match pieces rest with
      | first :: more => (c :: first) :: more
      | [] => [[c]]

/-- The root that a text begins with. -/
def Root.ofText : List Char → Root
  -- Three slashes and more are one again.
  | '/' :: '/' :: '/' :: _ => .slash
  | '/' :: '/' :: _ => .doubleSlash
  | '/' :: _ => .slash
  | _ => .relative

namespace Path

/-- The path that a text denotes. -/
def ofText (s : String) : Path where
  root := Root.ofText s.toList
  parts := ((pieces s.toList).map String.ofList).filter isPart
  clean := fun _ h => (List.mem_filter.1 h).2

/-- The text of a path. An empty path is the current directory. -/
def text (p : Path) : String :=
  let t := p.root.text ++ "/".intercalate p.parts
  if t = "" then "." else t

/-- Whether the path does not depend on the current directory. -/
def isAbsolute (p : Path) : Bool := p.root != .relative

/-- The path `q` from the place of `p`; an absolute path stays as it is. -/
def join (p q : Path) : Path :=
  if q.isAbsolute then q
  else
    -- Only the parts of `q` are left, which are clean as they stand.
    { root := p.root
      parts := p.parts ++ q.parts
      clean := fun s h => (List.mem_append.1 h).elim (p.clean s) (q.clean s) }

/-- The path that a text denotes, from the place of `p`. -/
def child (p : Path) (s : String) : Path := p.join (ofText s)

/-- The last part, or nothing. -/
def name (p : Path) : String := p.parts.getLast?.getD ""

/-- The path without its last part. -/
def parent (p : Path) : Path :=
  { p with parts := p.parts.dropLast, clean := fun s h => p.clean s (List.dropLast_subset _ h) }

/-- Whether the last part ends in this text and is longer than it. -/
def hasSuffix (p : Path) (suffix : String) : Bool :=
  suffix.toList.isSuffixOf p.name.toList && suffix.length < p.name.length

end Path

end WasmGauge.Storage
