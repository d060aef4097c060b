import TaskCoordination.Coordinator.Setup
import TaskCoordination.Descriptor
import TaskCoordination.ObjectStore
import TaskCoordination.Workflow.Cascade

/-!
# The coordinator

A coordinator runs a workflow: it numbers tasks and jobs, describes its node, keeps an object store, and ends with a
shutdown that lets the listener handle all that waits. With metrics disabled neither the catalog nor its tasks
reach the telemetry table.
-/

namespace TaskCoordination

structure Coordinator where
  workflow : Workflow
  store : ObjectStore
  node : Resource
  nextTask : Nat
  nextJob : Nat
  metricsEnabled : Bool
  metricsPort : UInt16

def Plan.feed (p : Plan) : Feed :=
  match p.listener with
  | some breaksOn => .heard p.listenerQueue breaksOn
  | none => .silent

/-- Starts a coordinator; the queue of its listener is one that can be set up (`RecordQueue.ofCapacity`). -/
def Plan.start (p : Plan) : Except Overflow Coordinator := do
  let directory := Directory.empty p.metricsEnabled
  let telemetry ← if p.metricsEnabled then directory.telemetry.describeNode p.node else pure directory.telemetry
  let workflow := Workflow.start { directory with telemetry := telemetry } p.feed
  return ⟨workflow, .empty, p.node, 1, 1, p.metricsEnabled, p.metricsPort⟩

namespace Coordinator

def port? (c : Coordinator) : Option UInt16 :=
  if c.metricsEnabled then some c.metricsPort else none

def isRunning (c : Coordinator) : Bool :=
  c.workflow.feed.isRunning

/-- Runs an operation of the directory. -/
def withDirectory (c : Coordinator) (f : Directory → Directory × α) : Coordinator × α :=
  let (directory, a) := f c.workflow.directory
  ({ c with workflow := { c.workflow with directory := directory } }, a)

def newTask (c : Coordinator) (d : Descriptor) : Coordinator × TaskId × TaskRef :=
  let id : TaskId := ⟨c.nextTask⟩
  let task := MonitoredTask.start id d.core c.metricsEnabled c.workflow.feed.listener.isSome
  let (workflow, ref) := c.workflow.addTask task
  ({ c with workflow := workflow, nextTask := c.nextTask + 1 }, id, ref)

def newBarrier (c : Coordinator) (k : Continuation) : Coordinator × JobId × BarrierRef :=
  let id : JobId := ⟨c.nextJob⟩
  let (workflow, ref) := c.workflow.addBarrier id k
  ({ c with workflow := workflow, nextJob := c.nextJob + 1 }, id, ref)

/-- A new barrier that submits a task, attached to it. -/
def submitOnReady (c : Coordinator) (task : TaskRef) : Coordinator × JobId × BarrierRef :=
  let (c, id, ref) := c.newBarrier (.submit task)
  ({ c with workflow := c.workflow.attach task ref }, id, ref)

def updateNode (c : Coordinator) (node : Resource) : Except Overflow Coordinator := do
  let telemetry ← if c.metricsEnabled then c.workflow.telemetry.describeNode node else pure c.workflow.telemetry
  return { c with workflow := c.workflow.mapTelemetry fun _ => telemetry, node := node }

/-- Ends the coordinator and leaves its workflow. The listener handles all that waits, and the table is cleared; the
answer tells whether the listener has come through without breaking down. -/
def shutdown (c : Coordinator) : Workflow × Bool :=
  let feed := c.workflow.feed.signal.pump
  ({ c.workflow with feed := feed }.mapTelemetry Telemetry.clear, !feed.isCrashed)

/-- Leaves the workflow without a shutdown. The listener ends at its next turn that finds nothing. -/
def drop (c : Coordinator) : Workflow :=
  { c.workflow with feed := c.workflow.feed.signal }

end Coordinator

end TaskCoordination
