import TaskCoordination.Duration
import TaskCoordination.Json.Basic
import TaskCoordination.Number

/-!
# Execution profiles

A profile sums up the execution times of a core element, in whole milliseconds: how many executions there were, the
shortest and the longest, their running total and their mean, rounded down. The running total is capped; the
number of executions is not, and a sum of counts that does not fit has no profile. Written down, a profile loses
its running total, and a reader takes the mean times the count for it.
-/

namespace TaskCoordination

structure Profile where
  count : Nat
  least : Nat
  mean : Nat
  greatest : Nat
  total : Nat
  deriving DecidableEq

namespace Profile

def empty : Profile :=
  ⟨0, 0, 0, 0, 0⟩

/-- The profile of which only the four written values are known. -/
def ofStats (count least mean greatest : Nat) : Profile :=
  ⟨count, least, mean, greatest, min (mean * count) word64Max⟩

/-- Adds one execution. -/
def record (p : Profile) (elapsed : Duration) : Except Overflow Profile := do
  let ms := elapsed.millis
  let least := if p.count = 0 then ms else min p.least ms
  let greatest := if p.count = 0 then ms else max p.greatest ms
  let count ← addWithin word64Max p.count 1
  let total := min (p.total + ms) word64Max
  return ⟨count, least, total / count, greatest, total⟩

/-- Adds the executions of another profile. -/
def accumulate (p q : Profile) : Except Overflow Profile :=
  if q.count = 0 then
    return p
  else if p.count = 0 then
    return q
  else do
    let count ← addWithin word64Max p.count q.count
    let total := min (p.total + q.total) word64Max
    return ⟨count, min p.least q.least, total / count, max p.greatest q.greatest, total⟩

def toJson (p : Profile) : Json :=
  .obj [("execution_count", .nat p.count), ("min_time_ms", .nat p.least), ("avg_time_ms", .nat p.mean),
    ("max_time_ms", .nat p.greatest)]

def ofJson? (j : Json) : Option Profile := do
  let field ← j.record? ["execution_count", "min_time_ms", "avg_time_ms", "max_time_ms"] 4
  let count ← (field "execution_count").bind (Json.natUpTo? word64Max)
  let least ← (field "min_time_ms").bind (Json.natUpTo? word64Max)
  let mean ← (field "avg_time_ms").bind (Json.natUpTo? word64Max)
  let greatest ← (field "max_time_ms").bind (Json.natUpTo? word64Max)
  return ofStats count least mean greatest

end Profile

end TaskCoordination
