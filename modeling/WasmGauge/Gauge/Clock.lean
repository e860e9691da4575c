/-!
# Clocks

A clock shows a time in seconds whenever it is read, and counts how often that was. The first
readings may be given; all others follow one another in steps of the same length.
-/

namespace WasmGauge

structure Clock where
  given : List Float
  /-- How often the clock has been read. -/
  reads : Nat

namespace Clock

/-- How many steps make a second. -/
def stepsPerSecond : Float := 1024

/-- The reading with a number, counted from zero. -/
def reading (c : Clock) (k : Nat) : Float :=
  match c.given[k]?, c.given.getLast? with
  | some t, _ => t
  -- the last given reading is where the steps begin
  | none, some last => last + Float.ofNat (k - (c.given.length - 1)) / stepsPerSecond
  | none, none => Float.ofNat k / stepsPerSecond

/-- The next reading, and the clock after it. -/
def read (c : Clock) : Float × Clock := (c.reading c.reads, { c with reads := c.reads + 1 })

/-- The milliseconds between two readings. -/
def milliseconds (start stop : Float) : Float := (stop - start) * 1000

end Clock

end WasmGauge
