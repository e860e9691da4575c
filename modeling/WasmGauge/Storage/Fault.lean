import WasmGauge.Text.Quoted

/-!
# Faults of operations on a disk

Why an operation on a disk fails, and the words for it. The names in the words are those that the
operation was given.
-/

namespace WasmGauge.Storage

/-- Why the operating system refuses. -/
inductive Errno where
  | noEntry
  | noPermission
  /-- The place is needed as it is. -/
  | busy
  | exists
  /-- A part of the name is no directory. -/
  | notDirectory
  /-- There is a directory at the place. -/
  | isDirectory
  /-- The name does not make sense for the operation. -/
  | invalid
  /-- A part of the name is too long. -/
  | nameTooLong
  | notEmpty
  /-- There are too many links on the way. -/
  | loop
  deriving DecidableEq, Repr

/-- The number of a cause. -/
def Errno.code : Errno → Nat
  | .noEntry => 2
  | .noPermission => 13
  | .busy => 16
  | .exists => 17
  | .notDirectory => 20
  | .isDirectory => 21
  | .invalid => 22
  | .nameTooLong => 36
  | .notEmpty => 39
  | .loop => 40

/-- The words for a cause. -/
def Errno.words : Errno → String
  | .noEntry => "No such file or directory"
  | .noPermission => "Permission denied"
  | .busy => "Device or resource busy"
  | .exists => "File exists"
  | .notDirectory => "Not a directory"
  | .isDirectory => "Is a directory"
  | .invalid => "Invalid argument"
  | .nameTooLong => "File name too long"
  | .notEmpty => "Directory not empty"
  | .loop => "Too many levels of symbolic links"

/-- Whether a cause says no more than that a name leads nowhere. -/
def Errno.isAbsence : Errno → Bool
  | .noEntry | .notDirectory | .loop => true
  | _ => false

/-- Why an operation on a disk fails. -/
inductive DiskFault where
  /-- A name holds a character that no name may hold. -/
  | nullByte
  | os (errno : Errno) (name : String)
  /-- The operating system refuses to make a link. -/
  | link (errno : Errno) (target name : String)
  | sameFile (source target : String)
  /-- A file is copied to a name that asks for a directory where there is none. -/
  | noDirectory (name : String)
  deriving DecidableEq, Repr

/-- The words for a failure. -/
def DiskFault.message : DiskFault → String
  | .nullByte => "embedded null byte"
  | .os e name => s!"[Errno {e.code}] {e.words}: {Text.quoted name}"
  | .link e target name =>
    s!"[Errno {e.code}] {e.words}: {Text.quoted target} -> {Text.quoted name}"
  | .sameFile source target => s!"{Text.quoted source} and {Text.quoted target} are the same file"
  | .noDirectory name => s!"Directory does not exist: {name}"

end WasmGauge.Storage
