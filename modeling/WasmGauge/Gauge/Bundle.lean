import WasmGauge.Gauge.World

/-!
# The modules that come with the harness

Two builds of the Fibonacci function, each as text and as a binary module: one that calls itself
twice, and one that keeps a sum and calls itself once in a loop. They lie in a directory of their own
in every world.
-/

namespace WasmGauge

namespace Bundle

open Storage (Path Location Node Entry Disk)
open Wasm (Bytes)

def lines (ls : List String) : String := String.join (ls.map (· ++ "\n"))

/-- The module that calls itself twice. -/
def fibText : String :=
  lines [
    "(module",
    "  (func $fib (export \"fib\") (param $n i32) (result i32)",
    "    (if (result i32) (i32.lt_s (local.get $n) (i32.const 2))",
    "      (then (local.get $n))",
    "      (else",
    "        (i32.add",
    "          (call $fib (i32.sub (local.get $n) (i32.const 1)))",
    "          (call $fib (i32.sub (local.get $n) (i32.const 2))))))))"]

/-- The module that keeps a sum. -/
def fibOptText : String :=
  lines [
    "(module",
    "  (func $fib (export \"fib\") (param $n i32) (result i32)",
    "    (local $acc i32)",
    "    (loop $tail",
    "      (if (i32.lt_s (local.get $n) (i32.const 2))",
    "        (then (return (i32.add (local.get $acc) (local.get $n)))))",
    "      (local.set $acc",
    "        (i32.add (local.get $acc)",
    "          (call $fib (i32.sub (local.get $n) (i32.const 1)))))",
    "      (local.set $n (i32.sub (local.get $n) (i32.const 2)))",
    "      (br $tail))",
    "    (unreachable)))"]

def fibBinary : Bytes :=
  [0x00, 0x61, 0x73, 0x6D, 0x01, 0x00, 0x00, 0x00, 0x01, 0x06, 0x01, 0x60, 0x01, 0x7F, 0x01,
    0x7F, 0x03, 0x02, 0x01, 0x00, 0x07, 0x07, 0x01, 0x03, 0x66, 0x69, 0x62, 0x00, 0x00, 0x0A,
    0x1E, 0x01, 0x1C, 0x00, 0x20, 0x00, 0x41, 0x02, 0x48, 0x04, 0x7F, 0x20, 0x00, 0x05, 0x20,
    0x00, 0x41, 0x01, 0x6B, 0x10, 0x00, 0x20, 0x00, 0x41, 0x02, 0x6B, 0x10, 0x00, 0x6A, 0x0B,
    0x0B]

def fibOptBinary : Bytes :=
  [0x00, 0x61, 0x73, 0x6D, 0x01, 0x00, 0x00, 0x00, 0x01, 0x06, 0x01, 0x60, 0x01, 0x7F, 0x01,
    0x7F, 0x03, 0x02, 0x01, 0x00, 0x07, 0x07, 0x01, 0x03, 0x66, 0x69, 0x62, 0x00, 0x00, 0x0A,
    0x2D, 0x01, 0x2B, 0x01, 0x01, 0x7F, 0x03, 0x40, 0x20, 0x00, 0x41, 0x02, 0x48, 0x04, 0x40,
    0x20, 0x01, 0x20, 0x00, 0x6A, 0x0F, 0x0B, 0x20, 0x01, 0x20, 0x00, 0x41, 0x01, 0x6B, 0x10,
    0x00, 0x6A, 0x21, 0x01, 0x20, 0x00, 0x41, 0x02, 0x6B, 0x21, 0x00, 0x0C, 0x00, 0x0B, 0x00,
    0x0B]

/-- The files of the modules by name. -/
def files : List (String × Bytes) :=
  [("fib.wasm", fibBinary), ("fib.wat", fibText.toUTF8.toList),
    ("fib_opt.wasm", fibOptBinary), ("fib_opt.wat", fibOptText.toUTF8.toList)]

/-! ## Where they lie -/

/-- The place of the directory of the modules. -/
def place : Location := ["usr", "share", "wasm-gauge", "modules"]

/-- The path of the directory of the modules. -/
def directory : Path := Path.ofText ("/" ++ "/".intercalate place)

/-- The place that relative paths begin at. -/
def workplace : Location := ["home", "gauge"]

/-- The directories on the way to a place, the place included. -/
def directoriesTo (place : Location) : List Location :=
  (List.range (place.length + 1)).map fun n => place.take n

/-- The disk with nothing on it but the modules. Nobody but its owner may enter the directory that
relative paths begin at. -/
def disk : Disk where
  entries :=
    -- Both places share the root.
    ((directoriesTo place ++ directoriesTo workplace).eraseDups.map fun l =>
      (l, ⟨.directory, 0, if l = workplace then 0o700 else 0o755⟩)) ++
    files.map fun f => (place ++ [f.1], ⟨.file f.2, 0, 0o644⟩)
  current := workplace
  user := 0

end Bundle

/-- The settings of a run that nothing else is set for. -/
def Settings.standard : Settings := ⟨"WARNING", Storage.Path.ofText "cache"⟩

/-- The world at the beginning of a run, with the first readings of the clock. -/
def World.start (readings : List Float) : World where
  disk := Bundle.disk
  bundled := Bundle.directory
  settings := Settings.standard
  bounds := .standard
  clock := ⟨readings, 0⟩
  logger := Logger.fresh
  out := ""
  stream := ""
  made := 1
  sharedCache := none
  memory := []
  instances := []
  fates := []

end WasmGauge
