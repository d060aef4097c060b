import TaskCoordination.Directory
import TaskCoordination.Duration
import TaskCoordination.Parameter.Json

/-!
# Task descriptors

A descriptor says which core element a task runs, with which parameters and options. Describing a task registers its
invocation.
-/

namespace TaskCoordination

inductive FailurePolicy
  | retry
  | cancelSuccessors
  | fail
  | ignore
  deriving DecidableEq

inductive TaskKind
  | method
  | service
  deriving DecidableEq

/-- The number of nodes that a task runs on unless it asks for more. -/
def singleNode : UInt32 :=
  1

structure TaskOptions where
  priority : Bool := false
  nodes : UInt32 := singleNode
  replicated : Bool := false
  distributed : Bool := false
  onFailure : FailurePolicy := .retry
  timeOut : Option Duration := none
  deriving DecidableEq

structure Descriptor where
  kind : TaskKind
  name : String
  core : CoreId
  options : TaskOptions
  parameters : List Parameter
  target : Bool
  ret : Bool
  deriving DecidableEq

namespace FailurePolicy

def word : FailurePolicy → String
  | retry => "RETRY"
  | cancelSuccessors => "CANCEL_SUCCESSORS"
  | fail => "FAIL"
  | ignore => "IGNORE"

def all : List FailurePolicy :=
  [retry, cancelSuccessors, fail, ignore]

def toJson (p : FailurePolicy) : Json :=
  .str p.word

def ofJson? (j : Json) : Option FailurePolicy :=
  j.choice? .plain all word

end FailurePolicy

namespace TaskKind

def word : TaskKind → String
  | method => "METHOD"
  | service => "SERVICE"

def all : List TaskKind :=
  [method, service]

def toJson (k : TaskKind) : Json :=
  .str k.word

def ofJson? (j : Json) : Option TaskKind :=
  j.choice? .plain all word

end TaskKind

def Invocation.kind : Invocation → TaskKind
  | method .. => .method
  | service .. => .service

namespace TaskOptions

def toJson (o : TaskOptions) : Json :=
  .obj [("priority", .bool o.priority), ("num_nodes", .nat o.nodes.toNat), ("replicated", .bool o.replicated),
    ("distributed", .bool o.distributed), ("on_failure", o.onFailure.toJson),
    ("time_out", .option Duration.toJson o.timeOut)]

def ofJson? (j : Json) : Option TaskOptions := do
  let field ← j.record? ["priority", "num_nodes", "replicated", "distributed", "on_failure", "time_out"] 6
  let priority ← (field "priority").bind Json.bool?
  let nodes ← (field "num_nodes").bind Json.uint32?
  let replicated ← (field "replicated").bind Json.bool?
  let distributed ← (field "distributed").bind Json.bool?
  let onFailure ← (field "on_failure").bind FailurePolicy.ofJson?
  let timeOut ← ((field "time_out").getD .null).option? Duration.ofJson?
  return ⟨priority, nodes, replicated, distributed, onFailure, timeOut⟩

end TaskOptions

namespace Descriptor

def realParameters (d : Descriptor) : List Parameter :=
  TaskCoordination.realParameters d.parameters d.target d.ret

def isSingleNode (d : Descriptor) : Bool :=
  d.options.nodes = singleNode

def toJson (d : Descriptor) : Json :=
  .obj [("kind", d.kind.toJson), ("name", .str d.name), ("core_id", d.core.toJson), ("options", d.options.toJson),
    ("parameters", .list Parameter.toJson d.parameters), ("has_target", .bool d.target),
    ("has_return", .bool d.ret)]

/-- The descriptor in one line. -/
def render (d : Descriptor) : String :=
  let flag := fun b : Bool => if b then "true" else "false"
  "[Core id: " ++ toString d.core.index ++ "], [Priority: " ++ flag d.options.priority ++
    "], [NumNodes: " ++ toString d.options.nodes.toNat ++ "], [MustReplicate: " ++ flag d.options.replicated ++
    "], [MustDistribute: " ++ flag d.options.distributed ++ "], [" ++ d.name ++ "(" ++
    ", ".intercalate (d.realParameters.map fun p => p.dataType.tag) ++ ")]"

end Descriptor

namespace Directory

def describe (d : Directory) (i : Invocation) (options : TaskOptions) (target : Bool) (ps : List Parameter) :
    Directory × Except Rejection Descriptor :=
  let ret := hasReturn ps
  match d.coreId i target ret ps with
  | (d', .ok core) => (d', .ok ⟨i.kind, i.name, core, options, ps, target, ret⟩)
  | (d', .error r) => (d', .error r)

def describeMethod (d : Directory) (owner name : String) (options : TaskOptions) (target : Bool)
    (ps : List Parameter) : Directory × Except Rejection Descriptor :=
  if options.nodes < singleNode then
    (d, .error (.invalidField "num_nodes" "a task needs at least one node"))
  else
    d.describe (.method owner name) options target ps

def describeService (d : Directory) (domain provider port operation : String) (priority target : Bool)
    (ps : List Parameter) : Directory × Except Rejection Descriptor :=
  d.describe (.service domain provider port operation) { priority := priority } target ps

end Directory

end TaskCoordination
