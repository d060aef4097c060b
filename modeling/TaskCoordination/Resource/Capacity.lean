import TaskCoordination.Resource.Basic

/-!
# Capacity

How many copies of a task a resource can hold at once. The kinds of processor that count are CPU, GPU and FPGA,
and a kind limits the number only if the task asks for it; a task that asks for none of them gets a slot for
each CPU unit, and one at least. Sums of units have a limit, and a slot number that rests on a sum beyond it does
not exist.
-/

namespace TaskCoordination

namespace Node

def unitsOf (n : Node) (kind : ProcessorKind) : Except Overflow Nat :=
  sumWithin word32Max ((n.processors.filter fun p => p.kind = kind).map fun p => p.units.toNat)

/-- The smaller of `slots` and the number of tasks that the units of one kind can serve. -/
def narrow (capacity need : Node) (slots : Nat) (kind : ProcessorKind) : Except Overflow Nat := do
  let required ← need.unitsOf kind
  if required = 0 then
    return slots
  else
    return min slots ((← capacity.unitsOf kind) / required)

/-- The number of tasks with the requirements `need` that fit into `capacity`. -/
def slots (capacity need : Node) : Except Overflow Nat := do
  if capacity.memory < need.memory then
    return 0
  let byUnits ← [ProcessorKind.cpu, .gpu, .fpga].foldlM (capacity.narrow need) word32Max
  let wanted ← if byUnits = word32Max then (max · 1) <$> capacity.unitsOf .cpu else pure byUnits
  if need.memory = 0 then
    return wanted
  else
    return min wanted (capacity.memory.toNat / need.memory.toNat)

def canHost (capacity need : Node) : Except Overflow Bool := do
  return 0 < (← capacity.slots need)

end Node

namespace Cluster

/-- As many tasks as the limits of all members allow, whatever the number that one member could hold. -/
def slots (c : Cluster) (need : Node) : Except Overflow Nat := do
  if ← c.member.canHost need then
    return min (c.taskLimit.toNat * c.size.toNat) word32Max
  else
    return 0

end Cluster

namespace Resource

def cpuUnits (r : Resource) : Except Overflow Nat :=
  r.perNode.unitsOf .cpu

def slots (r : Resource) (need : Node) : Except Overflow Nat :=
  match r with
  | node n => n.slots need
  | cluster c => c.slots need

def canHost (r : Resource) (need : Node) : Except Overflow Bool := do
  return 0 < (← r.slots need)

end Resource

end TaskCoordination
