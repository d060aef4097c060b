import TaskCoordination.Json.Basic
import TaskCoordination.Number

/-!
# Durations

A span of time in whole seconds and a remainder of less than a second. Read from JSON, nanoseconds of a second and
more carry into the seconds; a carry past the largest number of seconds makes the duration unreadable, and so does
any field that a duration does not have.
-/

namespace TaskCoordination

/-- The nanoseconds of a second. -/
abbrev nanosPerSecond : Nat := 1000000000

structure Duration where
  secs : UInt64
  nanos : Nat
  nanos_lt : nanos < nanosPerSecond := by decide
  deriving DecidableEq

namespace Duration

/-- The whole milliseconds, capped at the largest 64-bit number. -/
def millis (d : Duration) : Nat :=
  min (d.secs.toNat * 1000 + d.nanos / 1000000) word64Max

/-- A number of seconds and any number of nanoseconds. -/
def ofParts? (secs nanos : Nat) : Option Duration :=
  let total := secs + nanos / nanosPerSecond
  if total ≤ word64Max then
    some ⟨UInt64.ofNat total, nanos % nanosPerSecond, Nat.mod_lt _ (by decide)⟩
  else
    none

def toJson (d : Duration) : Json :=
  .obj [("secs", .nat d.secs.toNat), ("nanos", .nat d.nanos)]

def ofJson? (j : Json) : Option Duration := do
  let names := ["secs", "nanos"]
  let field ← j.record? names 2
  guard (j.hasOnly names)
  let secs ← (field "secs").bind (Json.natUpTo? word64Max)
  let nanos ← (field "nanos").bind (Json.natUpTo? word32Max)
  ofParts? secs nanos

end Duration

end TaskCoordination
