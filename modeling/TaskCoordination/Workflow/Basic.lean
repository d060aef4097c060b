import TaskCoordination.Barrier.Request
import TaskCoordination.Directory
import TaskCoordination.Feed.Listener
import TaskCoordination.Lifecycle.Basic

/-!
# Workflows

A workflow is a set of monitored tasks and of transfer barriers, wired to each other, with the directory and the feed
that hear of their events. Tasks and barriers are added and never removed; they are known by their positions. A
barrier that nobody holds any more stays as it is, out of reach of the task that it is attached to.

The continuation of a barrier submits a task, or is somebody else's: then the workflow notes the calls. An observer
also looks at its barrier during the call and makes requests to it.
-/

namespace TaskCoordination

/-- The position of a task in its workflow. -/
structure TaskRef where
  index : Nat
  deriving DecidableEq

/-- The position of a barrier in its workflow. -/
structure BarrierRef where
  index : Nat
  deriving DecidableEq

inductive Continuation
  | submit (task : TaskRef)
  | callback
  | observer (requests : List BarrierRequest)
  deriving DecidableEq

structure MonitoredTask where
  lifecycle : Lifecycle
  core : CoreId
  metered : Bool
  recorded : Bool
  barrier : Option BarrierRef

structure HeldBarrier where
  barrier : Barrier Continuation
  isHeld : Bool

/-- What an observer saw of its barrier, and the replies that it got. -/
structure Observation where
  status : BarrierStatus
  replies : List BarrierReply
  deriving DecidableEq

/-- A call of a continuation. -/
structure Call where
  barrier : BarrierRef
  job : JobId
  verdict : Verdict
  observation : Option Observation
  deriving DecidableEq

structure Workflow where
  directory : Directory
  feed : Feed
  tasks : List MonitoredTask
  barriers : List HeldBarrier
  calls : List Call

namespace MonitoredTask

def start (task : TaskId) (core : CoreId) (metered recorded : Bool) : MonitoredTask :=
  ⟨.start task, core, metered, recorded, none⟩

def state (t : MonitoredTask) : State :=
  t.lifecycle.state

def debug (t : MonitoredTask) : String :=
  Text.Debug.record "MonitoredTask" [("task_id", Text.Debug.tuple "TaskId" (toString t.lifecycle.task.number)),
    ("core_id", Text.Debug.tuple "CoreId" (toString t.core.index)), ("state", t.state.debug)]

/-- What the gauges of the task's core element learn from an event. -/
def meter (t : MonitoredTask) (e : Event) (effect : Effect) (table : Telemetry) : Telemetry :=
  let table := if effect.opened then table.attemptOpened t.core else table
  let table := if effect.closed then table.attemptClosed t.core else table
  if effect.succeeded then table.executionSucceeded t.core e.profile? else table

/-- The record of an event that the task has just accepted. -/
def record (t : MonitoredTask) (e : Event) : LifecycleRecord :=
  ⟨t.lifecycle.task, t.core, e.name, t.state, t.lifecycle.attempts, e.value?⟩

end MonitoredTask

namespace Workflow

def start (directory : Directory) (feed : Feed) : Workflow :=
  ⟨directory, feed, [], [], []⟩

def task? (w : Workflow) (t : TaskRef) : Option MonitoredTask :=
  w.tasks[t.index]?

def barrier? (w : Workflow) (b : BarrierRef) : Option (Barrier Continuation) :=
  w.barriers[b.index]?.map HeldBarrier.barrier

def telemetry (w : Workflow) : Telemetry :=
  w.directory.telemetry

def setTask (w : Workflow) (t : TaskRef) (task : MonitoredTask) : Workflow :=
  { w with tasks := w.tasks.set t.index task }

def setBarrier (w : Workflow) (b : BarrierRef) (barrier : Barrier Continuation) : Workflow :=
  { w with barriers := w.barriers.modify b.index fun held => { held with barrier := barrier } }

def mapTelemetry (w : Workflow) (f : Telemetry → Telemetry) : Workflow :=
  { w with directory := w.directory.mapTelemetry f }

def addTask (w : Workflow) (task : MonitoredTask) : Workflow × TaskRef :=
  ({ w with tasks := w.tasks ++ [task] }, ⟨w.tasks.length⟩)

def addBarrier (w : Workflow) (job : JobId) (k : Continuation) : Workflow × BarrierRef :=
  ({ w with barriers := w.barriers ++ [⟨.start job k, true⟩] }, ⟨w.barriers.length⟩)

/-- Lets go of a barrier. -/
def release (w : Workflow) (b : BarrierRef) : Workflow :=
  { w with barriers := w.barriers.modify b.index fun held => { held with isHeld := false } }

/-- The barrier, if somebody holds it. -/
def held? (w : Workflow) (b : BarrierRef) : Option BarrierRef :=
  match w.barriers[b.index]? with
  | some held => if held.isHeld then some b else none
  | none => none

/-- How many barriers have no verdict yet. -/
def openBarriers (w : Workflow) : Nat :=
  w.barriers.countP fun held => !held.barrier.isFired

end Workflow

end TaskCoordination
