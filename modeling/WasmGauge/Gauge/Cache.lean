import WasmGauge.Digest.Sha256
import WasmGauge.Gauge.World

/-!
# The module cache

A cache keeps compiled modules under the digest of the data they were compiled from: in memory for
the engine that they belong to, and as artifacts in a directory for every engine. An artifact that
cannot be used is removed, and one that cannot be written is done without. The directory has to be
the user's own, and nobody else may write to it.
-/

namespace WasmGauge

open Storage (Path Disk DiskFault)
open Wasm (Bytes)

def keyOf (data : Bytes) : String := Digest.hexDigest data

/-- What is wrong with a directory, if it is not safe for a user to load code from it. Permissions
are the last twelve bits of the mode. -/
def privacyFault? (owner user mode : Nat) : Option PrivacyFault :=
  if owner ≠ user then some (.owner owner user)
  else if mode / 0o20 % 2 = 1 ∨ mode / 0o2 % 2 = 1 then some (.writable (mode % 0o10000))
  else none

namespace Cache

/-- Accepts a directory, shown like this, that is safe for a user. -/
def checkDirectory (directory : String) (owner user mode : Nat) : Except Failure Unit :=
  match privacyFault? owner user mode with
  | some fault => .error (.cache directory fault)
  | none => .ok ()

/-- The permissions of a cache directory that is made. -/
def directoryMode : Nat := 0o700

/-- Opens a cache on a directory, which is made if it is not there. -/
def openAt (directory : Path) : Act Cache := do
  Act.change fun d => d.ensureDirectory directory directoryMode
  let e ← Act.see fun d => d.status directory.text
  -- the check follows in any case, also where the directory has just been made
  match checkDirectory directory.text e.owner (← get).disk.user e.mode with
  | .ok () => pure ⟨← Act.freshId, directory⟩
  | .error f => Act.fail f

/-- Opens a cache on the directory that is set for all. -/
def openDefault : Act Cache := do openAt (← get).settings.cacheDirectory

/-- The cache for all who bring none. It is opened when it is needed first. -/
def shared : Act Cache := do
  match (← get).sharedCache with
  | some c => pure c
  | none =>
    -- if this fails, no cache is set, and the next one who asks tries again
    let c ← openDefault
    modify fun w => { w with sharedCache := some c }
    pure c

def suffix : String := ".cwasm"

def file (c : Cache) (key : String) : Path := c.directory.child (key ++ suffix)

/-! ## Memory -/

/-- What a cache remembers under a key. -/
def lookup? (c : Cache) (w : World) (key : String) : Option Remembered :=
  w.memory.lookup (c.id, key)

/-- Makes a cache remember a module for an engine. -/
def remember (c : Cache) (key : String) (engine : Engine) (m : Compiled) : Act Unit :=
  modify fun w =>
    { w with
      memory := ((c.id, key), ⟨engine, m⟩) :: w.memory.filter fun x => x.1 != (c.id, key) }

/-- Makes a cache forget everything. -/
def forgetAll (c : Cache) : Act Unit :=
  modify fun w => { w with memory := w.memory.filter fun x => x.1.1 != c.id }

def remembered (c : Cache) (w : World) : Nat := w.memory.countP fun x => x.1.1 == c.id

/-! ## Getting and putting -/

/-- The artifact in a file, or the words for what is wrong with it. -/
def artifactAt (d : Disk) (file : Path) : Except String Artifact :=
  match d.read file.text with
  | .error fault => .error fault.message
  | .ok bytes =>
    match Artifact.ofBytes? bytes with
    | some a => .ok a
    | none => .error engineWords

/-- The module under a key that an engine makes of the artifact on the disk. An artifact that cannot
be used is removed. -/
def takeUp (c : Cache) (key : String) (engine : Engine) : Act (Option Compiled) := do
  let file := c.file key
  if ← Act.see (·.exists? file.text) then
    match artifactAt (← get).disk file with
    | .ok a =>
      let m ← Act.compiledFor engine a
      c.remember key engine m
      pure (some m)
    | .error reason =>
      Act.debug "cache" ("dropping unusable cache entry " ++ file.name ++ ": " ++ reason)
      -- this may fail in its turn, and then the failure is that of the whole step
      Act.change (·.unlinkIfThere file.text)
      pure none
  else pure none

/-- The module for data and an engine, if the cache has it. -/
def get (c : Cache) (data : Bytes) (engine : Engine) : Act (Option Compiled) := do
  let key := keyOf data
  match c.lookup? (← MonadState.get) key with
  -- what is remembered for another engine is of no use here
  | some r => if r.engine = engine then pure (some r.compiled) else c.takeUp key engine
  | none => c.takeUp key engine

/-- The disk after bytes are written to a file with a fate, and the words for what went wrong. -/
def written (d : Disk) (fate : Fate) (name : String) (bytes : Bytes) : Disk × Option String :=
  match fate with
  | .kept =>
    match d.write name bytes with
    | .ok d => (d, none)
    | .error fault => (d, some fault.message)
  | .refused words => (d, some words)
  | .broken words left =>
    match d.write name left with
    | .ok d => (d, some words)
    | .error fault => (d, some fault.message)

/-- Keeps the artifact of a module on the disk. That it cannot be written is only logged. -/
def persist (c : Cache) (key : String) (m : Compiled) : Act Unit := do
  let file := c.file key
  let fate ← Act.nextFate
  let (d, fault?) := written (← MonadState.get).disk fate file.text m.artifact.bytes
  modify fun w => { w with disk := d }
  match fault? with
  | none => pure ()
  | some words => Act.debug "cache" ("could not persist " ++ file.name ++ ": " ++ words)

/-- Puts the module for data into the cache. It is remembered for an engine if one is given. -/
def put (c : Cache) (data : Bytes) (m : Compiled) (engine : Option Engine) : Act Unit := do
  let key := keyOf data
  -- memory comes first, so what becomes of the file is no matter to this engine
  match engine with
  | some e => c.remember key e m
  | none => pure ()
  c.persist key m

/-! ## All of a cache -/

/-- The names of what is in a directory and ends in a text. There is none where there is no
directory, or none that the user may read. -/
def namesWith (ending : String) (directory : Path) : Act (List String) := do
  if ← Act.see (·.isDirectory? directory.text) then
    let names ← Act.see (·.listIfAllowed directory.text)
    pure (names.filter fun n => ending.toList.isSuffixOf n.toList)
  else pure []

/-- Forgets everything and removes all artifacts in the directory. -/
def clear (c : Cache) : Act Unit := do
  -- forgetting comes first: it is done even if a file cannot be removed
  c.forgetAll
  (← namesWith suffix c.directory).forM fun n =>
    Act.change (·.unlinkIfThere (c.directory.child n).text)

def info (c : Cache) : Act Unit := do
  let remembered := c.remembered (← MonadState.get)
  let kept ← namesWith suffix c.directory
  Act.say "Cache Info:"
  Act.say s!"  Memory entries: {remembered}"
  Act.say s!"  Disk entries: {kept.length}"
  Act.say s!"  Cache directory: {c.directory.text}"

end Cache

end WasmGauge
