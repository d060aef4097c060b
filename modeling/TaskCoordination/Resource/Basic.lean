import TaskCoordination.Number

/-!
# Resources

What a node offers, or a task asks for: processors of several kinds, each with a number of computing units, and
memory. A cluster is a number of nodes of one description, with a limit of tasks for each.
-/

namespace TaskCoordination

inductive ProcessorKind
  | cpu
  | gpu
  | fpga
  | other
  deriving DecidableEq

structure Processor where
  name : String
  architecture : String
  kind : ProcessorKind
  units : UInt32
  deriving DecidableEq

structure Node where
  processors : List Processor
  memory : UInt64
  deriving DecidableEq

structure Cluster where
  member : Node
  taskLimit : UInt32
  size : UInt32
  deriving DecidableEq

inductive Resource
  | node (n : Node)
  | cluster (c : Cluster)
  deriving DecidableEq

inductive ResourceKind
  | node
  | cluster
  deriving DecidableEq

/-- The architecture of a processor of which nothing else is known. -/
def unassigned : String :=
  "[unassigned]"

namespace Processor

def cpu (units : UInt32) : Processor :=
  ⟨"MainProcessor", unassigned, .cpu, units⟩

def gpu (units : UInt32) : Processor :=
  ⟨"GPU", unassigned, .gpu, units⟩

end Processor

namespace Node

def empty : Node :=
  ⟨[], 0⟩

def withCpus (units : UInt32) : Node :=
  ⟨[.cpu units], 0⟩

def addProcessor (n : Node) (p : Processor) : Node :=
  { n with processors := n.processors ++ [p] }

def withMemory (n : Node) (memory : UInt64) : Node :=
  { n with memory := memory }

end Node

namespace Resource

def kind : Resource → ResourceKind
  | node _ => .node
  | cluster _ => .cluster

/-- The description of one node: of the resource itself, or of the members of a cluster. -/
def perNode : Resource → Node
  | node n => n
  | cluster c => c.member

def taskLimit? : Resource → Option UInt32
  | node _ => none
  | cluster c => some c.taskLimit

def size? : Resource → Option UInt32
  | node _ => none
  | cluster c => some c.size

end Resource

end TaskCoordination
