import TaskCoordination.Resource.Basic
import TaskCoordination.Text.Debug

/-!
# Resources in debug notation
-/

namespace TaskCoordination

open Text

def ProcessorKind.debug : ProcessorKind → String
  | cpu => "Cpu"
  | gpu => "Gpu"
  | fpga => "Fpga"
  | other => "Other"

def Processor.debug (p : Processor) : String :=
  Debug.record "Processor" [("name", Debug.quote p.name), ("architecture", Debug.quote p.architecture),
    ("processor_type", p.kind.debug), ("computing_units", toString p.units.toNat)]

def Node.debug (n : Node) : String :=
  Debug.record "MethodResourceDescription" [("processors", Debug.list (n.processors.map Processor.debug)),
    ("memory_size_mb", toString n.memory.toNat)]

def Cluster.debug (c : Cluster) : String :=
  Debug.record "ClusterResourceDescription" [("member", c.member.debug),
    ("limit_of_tasks", toString c.taskLimit.toNat), ("num_clusters", toString c.size.toNat)]

def Resource.debug : Resource → String
  | node n => Debug.tuple "Method" n.debug
  | cluster c => Debug.tuple "Cluster" c.debug

end TaskCoordination
