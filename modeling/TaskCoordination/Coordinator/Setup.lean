import TaskCoordination.Feed.Listener
import TaskCoordination.Resource.Capacity
import TaskCoordination.Resource.Debug
import TaskCoordination.Settings

/-!
# Setting up a coordinator

A setup collects what is wished for a coordinator, and `build` turns it into a plan. There must be room in the queue
of the listener, and the node must have a computing unit; the queue is looked at first. Of a listener nothing matters
but what it breaks down on.
-/

namespace TaskCoordination

structure Setup where
  node : Option Resource := none
  listener : Option Breakdown := none
  listenerQueue : Nat := Settings.defaultQueue
  hasStore : Bool := false
  metricsEnabled : Bool := true
  metricsPort : UInt16 := Settings.defaultPort

structure Plan where
  node : Resource
  listener : Option Breakdown
  listenerQueue : Nat
  metricsEnabled : Bool
  metricsPort : UInt16

inductive SetupError
  | emptyQueue
  | noComputingUnit
  | overflow (cause : Overflow)
  deriving DecidableEq

def SetupError.message : SetupError → String
  | emptyQueue => "listener queue capacity must be positive"
  | noComputingUnit => "local node must have at least one compute unit"
  | overflow cause => cause.message

open Text

private def elided : String :=
  Debug.quote "..."

namespace Setup

def withNode (s : Setup) (node : Resource) : Setup :=
  { s with node := some node }

def withUnits (s : Setup) (units : UInt32) : Setup :=
  s.withNode (.node (.withCpus units))

def withSettings (s : Setup) (settings : Settings) : Setup :=
  { s.withUnits settings.computingUnits with
    listenerQueue := settings.listenerQueue
    metricsEnabled := settings.metricsEnabled
    metricsPort := settings.metricsPort }

/-- The plan of a setup; a node that nobody described has `host` computing units. -/
def build (s : Setup) (host : UInt32) : Except SetupError Plan :=
  if s.listenerQueue = 0 then
    .error .emptyQueue
  else
    let node := s.node.getD (.node (.withCpus host))
    match node.cpuUnits with
    | .error cause => .error (.overflow cause)
    | .ok 0 => .error .noComputingUnit
    | .ok _ => .ok ⟨node, s.listener, s.listenerQueue, s.metricsEnabled, s.metricsPort⟩

def debug (s : Setup) : String :=
  Debug.record "CoordinatorRuntimeBuilder" [("node", Debug.option (s.node.map Resource.debug)),
    ("listener", Debug.option (s.listener.map fun _ => elided)), ("listener_queue", toString s.listenerQueue),
    ("object_store", Debug.option (if s.hasStore then some elided else none)),
    ("metrics_enabled", Debug.bool s.metricsEnabled), ("metrics_port", toString s.metricsPort.toNat)]

end Setup

def Plan.debug (p : Plan) : String :=
  Debug.record "CoordinatorRuntimeConfig" [("node", p.node.debug),
    ("listener", Debug.option (p.listener.map fun _ => elided)), ("listener_queue", toString p.listenerQueue),
    ("object_store", elided), ("metrics_enabled", Debug.bool p.metricsEnabled),
    ("metrics_port", toString p.metricsPort.toNat)]

end TaskCoordination
