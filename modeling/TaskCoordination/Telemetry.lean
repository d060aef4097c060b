import TaskCoordination.Identifier
import TaskCoordination.Profile
import TaskCoordination.Resource.Capacity

/-!
# Telemetry

A table with a block of gauges for each core element, and one gauge for the computing units of the node. The table
grows on demand and ignores core elements that it does not cover. The pending gauge never drops below zero, and
values of a profile are capped at the largest value of a gauge. The label of a block is set once.
-/

namespace TaskCoordination

inductive Gauge
  | executed
  | pending
  | least
  | mean
  | greatest
  deriving DecidableEq

namespace Gauge

def all : List Gauge :=
  [executed, pending, least, mean, greatest]

def name : Gauge → String
  | executed => "taskweave.exec_tasks"
  | pending => "taskweave.pend_tasks"
  | least => "taskweave.min_time"
  | mean => "taskweave.avg_time"
  | greatest => "taskweave.max_time"

def description : Gauge → String
  | executed => "Number of executed tasks"
  | pending => "Number of pending tasks"
  | least => "Minimum time to execute task"
  | mean => "Average time to execute task"
  | greatest => "Maximum time to execute task"

end Gauge

/-- The name of the gauge of the computing units. -/
def nodeGaugeName : String :=
  "taskweave.node_info"

structure GaugeBlock where
  label : Option String := none
  executed : Nat := 0
  pending : Nat := 0
  least : Nat := 0
  mean : Nat := 0
  greatest : Nat := 0
  deriving DecidableEq

namespace GaugeBlock

def get (b : GaugeBlock) : Gauge → Nat
  | .executed => b.executed
  | .pending => b.pending
  | .least => b.least
  | .mean => b.mean
  | .greatest => b.greatest

def labelled (b : GaugeBlock) (text : String) : GaugeBlock :=
  { b with label := b.label <|> some text }

def opened (b : GaugeBlock) : GaugeBlock :=
  { b with pending := b.pending + 1 }

def closed (b : GaugeBlock) : GaugeBlock :=
  { b with pending := b.pending - 1 }

def withProfile (b : GaugeBlock) (p : Profile) : GaugeBlock :=
  { b with
    executed := min p.count gaugeMax
    least := min p.least gaugeMax
    mean := min p.mean gaugeMax
    greatest := min p.greatest gaugeMax }

end GaugeBlock

structure Telemetry where
  blocks : List GaugeBlock
  computingUnits : Nat
  deriving DecidableEq

namespace Telemetry

def empty : Telemetry :=
  ⟨[], 0⟩

def size (t : Telemetry) : Nat :=
  t.blocks.length

def block? (t : Telemetry) (core : CoreId) : Option GaugeBlock :=
  t.blocks[core.index]?

def gauge? (t : Telemetry) (core : CoreId) (gauge : Gauge) : Option Nat :=
  (t.block? core).map fun b => b.get gauge

/-- Changes the block of one core element, if the table covers it. -/
def update (t : Telemetry) (core : CoreId) (f : GaugeBlock → GaugeBlock) : Telemetry :=
  { t with blocks := t.blocks.modify core.index f }

/-- Covers the first `count` core elements at least. -/
def growTo (t : Telemetry) (count : Nat) : Telemetry :=
  { t with blocks := t.blocks ++ List.replicate (count - t.size) {} }

def register (t : Telemetry) (core : CoreId) (label : String) : Telemetry :=
  (t.growTo (core.index + 1)).update core fun b => b.labelled label

def attemptOpened (t : Telemetry) (core : CoreId) : Telemetry :=
  t.update core GaugeBlock.opened

def attemptClosed (t : Telemetry) (core : CoreId) : Telemetry :=
  t.update core GaugeBlock.closed

/-- Without a profile the gauges keep their values. -/
def executionSucceeded (t : Telemetry) (core : CoreId) (profile : Option Profile) : Telemetry :=
  match profile with
  | some p => t.update core fun b => b.withProfile p
  | none => t

def describeNode (t : Telemetry) (node : Resource) : Except Overflow Telemetry := do
  return { t with computingUnits := ← node.cpuUnits }

/-- Drops all blocks and keeps the gauge of the node. -/
def clear (t : Telemetry) : Telemetry :=
  { t with blocks := [] }

theorem size_growTo (t : Telemetry) (count : Nat) : (t.growTo count).size = max t.size count := by
  simp only [growTo, size, List.length_append, List.length_replicate]
  omega

theorem size_update (t : Telemetry) (core : CoreId) (f : GaugeBlock → GaugeBlock) :
    (t.update core f).size = t.size := by
  simp [update, size]

end Telemetry

end TaskCoordination
