import TaskCoordination.Identifier
import TaskCoordination.Lifecycle.Event

/-!
# The queue of lifecycle records

Every accepted event of a task makes a record. Records wait in a queue of limited capacity; one that finds the queue
full, or nobody receiving, is lost.
-/

namespace TaskCoordination

structure LifecycleRecord where
  task : TaskId
  core : CoreId
  event : String
  state : State
  attempt : Nat
  value : Option (Nat × GeneratedValue)

def LifecycleRecord.toJson (r : LifecycleRecord) : Json :=
  .obj [("task_id", r.task.toJson), ("core_id", r.core.toJson), ("event", .str r.event),
    ("state", r.state.toJson), ("attempt", .nat r.attempt),
    ("value", .option (fun v => .arr [.nat v.1, v.2.toJson]) r.value)]

structure RecordQueue where
  capacity : Nat
  waiting : List LifecycleRecord
  isOpen : Bool

namespace RecordQueue

/-- A queue has room for one record at least. It is taken for granted that a queue of this capacity can be set up:
where words have 64 bits, one for fewer than 2^61 records. -/
def ofCapacity (capacity : Nat) : RecordQueue :=
  ⟨max capacity 1, [], true⟩

/-- A queue that nobody receives from. -/
def closed : RecordQueue :=
  ⟨1, [], false⟩

/-- Puts a record at the end; the answer tells whether there was room for it. -/
def offer (q : RecordQueue) (r : LifecycleRecord) : RecordQueue × Bool :=
  if q.isOpen && q.waiting.length < q.capacity then
    ({ q with waiting := q.waiting ++ [r] }, true)
  else
    (q, false)

/-- Takes the record that has waited longest. -/
def take? (q : RecordQueue) : Option (LifecycleRecord × RecordQueue) :=
  match q.waiting with
  | [] => none
  | r :: rest => some (r, { q with waiting := rest })

/-- Stops receiving; what waits is lost. -/
def close (q : RecordQueue) : RecordQueue :=
  { q with waiting := [], isOpen := false }

end RecordQueue

end TaskCoordination
