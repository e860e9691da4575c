import WasmGauge.Storage.Fault
import WasmGauge.Storage.Route

/-!
# Disks

Files, directories and links with their owners and permissions, as one user sees them. A disk lists
what is at each place; a name is followed from the current directory or from the root, through links,
to a place. What fails gives the cause that the operating system gives, and changes nothing.
-/

namespace WasmGauge.Storage

/-! ## What is on a disk -/

/-- A place on a disk: the names on the way from the root. -/
abbrev Location := List String

/-- What is at a place. -/
inductive Node where
  | file (bytes : List UInt8)
  /-- A directory. What it holds is listed at places of its own. -/
  | directory
  | link (target : String)
  deriving DecidableEq, Repr

/-- What is at a place, with its owner and its permissions. -/
structure Entry where
  node : Node
  /-- The number of the user it belongs to. -/
  owner : Nat
  /-- The permission bits, at most twelve. -/
  mode : Nat
  deriving DecidableEq, Repr

def Entry.isDirectory (e : Entry) : Bool :=
  match e.node with
  | .directory => true
  | _ => false

/-- A disk as one user sees it. -/
structure Disk where
  /-- What is at which place, in the order in which it was made. -/
  entries : List (Location × Entry)
  current : Location
  user : Nat
  deriving DecidableEq, Repr

namespace Disk

def find? (d : Disk) (place : Location) : Option Entry := d.entries.lookup place

/-- The disk with something put at a place, instead of what was there. -/
def put (d : Disk) (place : Location) (e : Entry) : Disk :=
  if (d.find? place).isSome then
    -- The entry keeps its turn, and with it the order of the names.
    { d with entries := d.entries.map fun x => if x.1 = place then (place, e) else x }
  else { d with entries := d.entries ++ [(place, e)] }

/-- The disk without what is at a place. -/
def erase (d : Disk) (place : Location) : Disk :=
  { d with entries := d.entries.filter fun x => x.1 != place }

/-- The names in a directory, in the order in which they were made. -/
def names (d : Disk) (place : Location) : List String :=
  d.entries.filterMap fun x =>
    match x.1.getLast? with
    | some name => if x.1.dropLast = place then some name else none
    | none => none

/-- Whether the user may do to an entry what a permission bit stands for: 4 for reading, 2 for
writing and 1 for passing through. The user with the number zero may do everything. -/
def allows (d : Disk) (e : Entry) (bit : Nat) : Bool :=
  d.user == 0 ||
    (if e.owner = d.user then e.mode / 64 / bit % 2 == 1 else e.mode / bit % 2 == 1)

/-! ## Following names -/

/-- What to do at the end of a name. -/
inductive Final where
  | follow
  /-- A link is what is looked for. -/
  | keep
  /-- A file is opened that may have to be made. A link is followed, and a slash is out of place. -/
  | create
  deriving DecidableEq, Repr

/-- Where a name leads. -/
inductive Place where
  | found (place : Location) (entry : Entry)
  /-- To a free place in a directory. -/
  | free (place : Location)
  deriving DecidableEq, Repr

-- The system's limits: bytes of a step, bytes of a name, links on the way.
def stepLimit : Nat := 255

def nameLimit : Nat := 4095

def linkLimit : Nat := 40

/-- The place that a route begins at. -/
def start (d : Disk) (r : Route) : Location := if r.absolute then [] else d.current

/-- Follows steps from a place. A link is handed to `jump` with the steps that remain, unless it is
the last one and is not to be followed. -/
def follow (d : Disk) (final : Final) (jump : Location → List String → Except Errno Place) :
    Location → List String → Except Errno Place
  | place, [] =>
    match d.find? place with
    | some e => .ok (.found place e)
    | none => .error .noEntry
  | place, step :: rest =>
    match d.find? place with
    | none => .error .noEntry
    | some e =>
      if !e.isDirectory then .error .notDirectory
      -- A slash at the end asks for a directory, not for the permission to pass through it.
      else if step = Route.closing then follow d final jump place rest
      else if !d.allows e 1 then .error .noPermission
      else if step = Route.here then follow d final jump place rest
      else if step = Route.above then follow d final jump place.dropLast rest
      -- A file that may have to be made has no slash behind its name, whatever is there.
      else if final = .create ∧ rest = [Route.closing] then .error .isDirectory
      else if step.utf8ByteSize > stepLimit then .error .nameTooLong
      else
        match d.find? (place ++ [step]) with
        | none => if rest.isEmpty then .ok (.free (place ++ [step])) else .error .noEntry
        | some ⟨.link target, owner, mode⟩ =>
          if rest.isEmpty ∧ final = .keep then
            .ok (.found (place ++ [step]) ⟨.link target, owner, mode⟩)
          else
            let r := Route.ofText target
            -- The steps of the link come before those that remain.
            jump (if r.absolute then [] else place) (r.steps ++ rest)
        | some _ => follow d final jump (place ++ [step]) rest

/-- Follows steps from a place through at most so many links. -/
def walk (d : Disk) (final : Final) : Nat → Location → List String → Except Errno Place
  | 0 => d.follow final fun _ _ => .error .loop
  | links + 1 => d.follow final (walk d final links)

/-- Whether a name holds the character that ends names. -/
def holdsNull (name : String) : Bool := name.toList.contains '\x00'

/-- Refuses what is no name at all. -/
def checkName (name : String) : Except DiskFault Unit :=
  if holdsNull name then .error .nullByte
  else if name = "" then .error (.os .noEntry name)
  else if name.utf8ByteSize > nameLimit then .error (.os .nameTooLong name)
  else .ok ()

/-- Where a name leads. -/
def resolve (d : Disk) (final : Final) (name : String) : Except DiskFault Place := do
  checkName name
  let r := Route.ofText name
  match d.walk final linkLimit (d.start r) r.steps with
  | .ok place => .ok place
  | .error e => .error (.os e name)

/-- The end of a name, where something can be made or removed. -/
inductive Spot where
  /-- A step without a name of its own, or the root. -/
  | unnamed (step : String)
  /-- A place in a directory, and whether a slash follows. -/
  | named (place : Location) (closed : Bool)
  deriving DecidableEq, Repr

/-- The end of a name. A link there is not followed. -/
def spot (d : Disk) (name : String) : Except DiskFault Spot := do
  checkName name
  let r := Route.ofText name
  match r.ending? with
  | none => .ok (.unnamed Route.closing)
  | some last =>
    -- With a slash behind it, what leads to the last step has to be a directory.
    match d.walk .follow linkLimit (d.start r) (last.way ++ [Route.closing]) with
    | .error e => .error (.os e name)
    | .ok (.free _) => .error (.os .noEntry name)
    | .ok (.found place e) =>
      if last.name = Route.here ∨ last.name = Route.above then .ok (.unnamed last.name)
      else if !d.allows e 1 then .error (.os .noPermission name)
      else if last.name.utf8ByteSize > stepLimit then .error (.os .nameTooLong name)
      else .ok (.named (place ++ [last.name]) last.closed)

/-! ## Reading -/

/-- What a name leads to, with links followed. -/
def status (d : Disk) (name : String) : Except DiskFault Entry := do
  match ← d.resolve .follow name with
  | .found _ e => .ok e
  | .free _ => .error (.os .noEntry name)

/-- Whether a name leads to something that a test accepts. A name that leads nowhere is no failure;
one that the system refuses for another reason is. -/
def leadsTo? (d : Disk) (name : String) (test : Entry → Bool) : Except DiskFault Bool :=
  match d.status name with
  | .ok e => .ok (test e)
  -- No file can have such a name, so the question has an answer all the same.
  | .error .nullByte => .ok false
  | .error (.os e n) => if e.isAbsence then .ok false else .error (.os e n)
  | .error f => .error f

def exists? (d : Disk) (name : String) : Except DiskFault Bool := d.leadsTo? name fun _ => true

/-- Whether a name leads to a directory. -/
def isDirectory? (d : Disk) (name : String) : Except DiskFault Bool :=
  d.leadsTo? name Entry.isDirectory

/-- The content of a file. -/
def read (d : Disk) (name : String) : Except DiskFault (List UInt8) := do
  let e ← d.status name
  -- A directory can be opened by whoever may read it, and only then turns out to be no file.
  if !d.allows e 4 then .error (.os .noPermission name)
  else
    match e.node with
    | .file bytes => .ok bytes
    | _ => .error (.os .isDirectory name)

/-- The names in a directory that the user may read, in the order in which they were made. -/
def list (d : Disk) (name : String) : Except DiskFault (List String) := do
  match ← d.resolve .follow name with
  | .found place e =>
    if !e.isDirectory then .error (.os .notDirectory name)
    else if d.allows e 4 then .ok (d.names place)
    else .error (.os .noPermission name)
  | .free _ => .error (.os .noEntry name)

/-- The names in a directory, or none if the user may not read it. -/
def listIfAllowed (d : Disk) (name : String) : Except DiskFault (List String) :=
  match d.list name with
  | .error (.os .noPermission _) => .ok []
  | r => r

/-! ## Permissions -/

/-- Whether the user may change what is in the directory of a place. -/
def mayChange (d : Disk) (place : Location) : Bool :=
  match d.find? place.dropLast with
  | some e => d.allows e 2 && d.allows e 1
  | none => false

def fileMode : Nat := 0o644

def directoryMode : Nat := 0o755

def linkMode : Nat := 0o777

def hasBit (mode bit : Nat) : Bool := mode / bit % 2 == 1

/-- The permissions of a new directory at a place. A directory whose group passes on to what is made
in it passes this on as well. -/
def inherited (d : Disk) (place : Location) (mode : Nat) : Nat :=
  match d.find? place.dropLast with
  | some e => if hasBit e.mode 0o2000 then mode + 0o2000 else mode
  | none => mode

/-- The permissions of a file after it is written. It no longer runs as its owner, nor as its group
if the group may run it. -/
def writtenMode (mode : Nat) : Nat :=
  let mode := if hasBit mode 0o4000 then mode - 0o4000 else mode
  if hasBit mode 0o2000 && hasBit mode 0o10 then mode - 0o2000 else mode

/-! ## Changing -/

/-- The disk after bytes are written to a file, which is made if the name leads to a free place. -/
def write (d : Disk) (name : String) (bytes : List UInt8) : Except DiskFault Disk := do
  match ← d.resolve .create name with
  | .found place e =>
    if e.isDirectory then .error (.os .isDirectory name)
    else if d.allows e 2 then .ok (d.put place ⟨.file bytes, e.owner, writtenMode e.mode⟩)
    else .error (.os .noPermission name)
  | .free place =>
    if d.mayChange place then .ok (d.put place ⟨.file bytes, d.user, fileMode⟩)
    else .error (.os .noPermission name)

/-- The disk after something new is put at the end of a name. Only a directory may have a slash
behind its name. -/
def make (d : Disk) (name : String) (node : Node) (mode : Location → Nat) :
    Except DiskFault Disk := do
  match ← d.spot name with
  | .unnamed _ => .error (.os .exists name)
  | .named place closed =>
    -- What is there already is reported before a missing permission.
    if (d.find? place).isSome then .error (.os .exists name)
    else if closed && node != .directory then .error (.os .noEntry name)
    else if d.mayChange place then .ok (d.put place ⟨node, d.user, mode place⟩)
    else .error (.os .noPermission name)

def makeDirectory (d : Disk) (name : String) (mode : Nat) : Except DiskFault Disk :=
  d.make name .directory fun place => d.inherited place mode

def makeLink (d : Disk) (name target : String) : Except DiskFault Disk :=
  let made : Except DiskFault Disk := do
    if holdsNull target || holdsNull name then throw .nullByte
    checkName target
    d.make name (.link target) fun _ => linkMode
  made.mapError fun
    | .os e _ => .link e target name
    | f => f

/-- The disk after a directory is made that may be there already. -/
def ensure (d : Disk) (name : String) (mode : Nat) : Except DiskFault Disk :=
  match d.makeDirectory name mode with
  | .error (.os e n) => do
    -- What counts is that a directory is there, whatever stood in the way of making it.
    if e != .noEntry && (← d.isDirectory? name) then .ok d else .error (.os e n)
  | r => r

/-- The disk after a directory is made with all directories above it, `above` of which may be
missing. -/
def ensureWithin (d : Disk) : Nat → Path → Nat → Except DiskFault Disk
  | 0, p, mode => d.ensure p.text mode
  | above + 1, p, mode =>
    match d.ensure p.text mode with
    | .error (.os .noEntry _) => do
      -- The directories above do not get the mode that was asked for.
      let d ← d.ensureWithin above p.parent directoryMode
      d.ensure p.text mode
    | r => r

/-- The disk after a directory is made with all directories above it, unless it is there already.
Only a directory made here gets the mode. -/
def ensureDirectory (d : Disk) (p : Path) (mode : Nat) : Except DiskFault Disk :=
  d.ensureWithin p.parts.length p mode

/-- The disk after a file or link is removed. -/
def unlink (d : Disk) (name : String) : Except DiskFault Disk := do
  match ← d.spot name with
  | .unnamed _ => .error (.os .isDirectory name)
  | .named place closed =>
    match d.find? place with
    | none => .error (.os .noEntry name)
    | some e =>
      -- A slash behind the name is refused first, and then a missing permission.
      if closed then .error (.os (if e.isDirectory then .isDirectory else .notDirectory) name)
      else if !d.mayChange place then .error (.os .noPermission name)
      else if e.isDirectory then .error (.os .isDirectory name)
      else .ok (d.erase place)

/-- The disk after a file or link is removed, if there is one. -/
def unlinkIfThere (d : Disk) (name : String) : Except DiskFault Disk :=
  match d.unlink name with
  | .error (.os .noEntry _) => .ok d
  | r => r

/-- Why a directory cannot be removed by a step without a name of its own. -/
def unnamedCause (step : String) : Errno :=
  if step = Route.here then .invalid else if step = Route.above then .notEmpty else .busy

/-- The disk after an empty directory is removed. -/
def removeDirectory (d : Disk) (name : String) : Except DiskFault Disk := do
  match ← d.spot name with
  | .unnamed step => .error (.os (unnamedCause step) name)
  | .named place _ =>
    match d.find? place with
    | none => .error (.os .noEntry name)
    | some e =>
      -- What is at the place counts only for a user who may remove it.
      if !d.mayChange place then .error (.os .noPermission name)
      else if !e.isDirectory then .error (.os .notDirectory name)
      else if !(d.names place).isEmpty then .error (.os .notEmpty name)
      else .ok (d.erase place)

/-- The disk after a file, a link or an empty directory is removed, or nothing if there is none. -/
def remove? (d : Disk) (name : String) : Except DiskFault (Option Disk) :=
  match d.resolve .keep name with
  -- A link is removed itself, not what it leads to, hence `keep`.
  | .ok (.found _ e) => some <$> if e.isDirectory then d.removeDirectory name else d.unlink name
  | .ok (.free _) | .error .nullByte => .ok none
  | .error (.os e n) => if e.isAbsence then .ok none else .error (.os e n)
  | .error f => .error f

/-- The disk after the permissions of something are changed. -/
def changeMode (d : Disk) (name : String) (mode : Nat) : Except DiskFault Disk := do
  match ← d.resolve .follow name with
  | .found place e => .ok (d.put place { e with mode := mode % 4096 })
  | .free _ => .error (.os .noEntry name)

/-- Whether two names lead to the same thing. -/
def isSame (d : Disk) (a b : String) : Bool :=
  match d.resolve .follow a, d.resolve .follow b with
  | .ok (.found p _), .ok (.found q _) => p = q
  | _, _ => false

/-- The disk after the content of a file is written to another. -/
def copy (d : Disk) (source target : String) : Except DiskFault Disk := do
  if holdsNull source || holdsNull target then .error .nullByte
  else if d.isSame source target then .error (.sameFile source target)
  else
    -- The source is read before the target is opened.
    match d.write target (← d.read source) with
    | .error (.os .isDirectory name) =>
      .error (if (d.status target).isOk then .os .isDirectory name else .noDirectory target)
    | r => r

end Disk

end WasmGauge.Storage
