import TaskCoordination.Json.Basic
import TaskCoordination.Resource.Basic

/-!
# Resources as JSON

A resource is the record of its description, tagged to tell a node from a cluster. A node may leave out its
processors, its memory or both. The readers of what may stand inside a resource are told their place.
-/

namespace TaskCoordination

namespace ProcessorKind

def word : ProcessorKind → String
  | cpu => "cpu"
  | gpu => "gpu"
  | fpga => "fpga"
  | other => "other"

def all : List ProcessorKind :=
  [cpu, gpu, fpga, other]

def toJson (k : ProcessorKind) : Json :=
  .str k.word

def ofJson? (place : Json.Place) (j : Json) : Option ProcessorKind :=
  j.choice? place all word

end ProcessorKind

namespace ResourceKind

def word : ResourceKind → String
  | node => "METHOD"
  | cluster => "CLUSTER"

def all : List ResourceKind :=
  [node, cluster]

def toJson (k : ResourceKind) : Json :=
  .str k.word

def ofJson? (j : Json) : Option ResourceKind :=
  j.choice? .plain all word

end ResourceKind

namespace Processor

def toJson (p : Processor) : Json :=
  .obj [("name", .str p.name), ("architecture", .str p.architecture), ("processor_type", p.kind.toJson),
    ("computing_units", .nat p.units.toNat)]

def ofJson? (place : Json.Place) (j : Json) : Option Processor := do
  let field ← j.record? ["name", "architecture", "processor_type", "computing_units"] 4
  let name ← (field "name").bind Json.str?
  let architecture ← (field "architecture").bind Json.str?
  let kind ← (field "processor_type").bind (ProcessorKind.ofJson? place)
  let units ← (field "computing_units").bind Json.uint32?
  return ⟨name, architecture, kind, units⟩

end Processor

namespace Node

def fields (n : Node) : List (String × Json) :=
  [("processors", .list Processor.toJson n.processors), ("memory_size_mb", .nat n.memory.toNat)]

def toJson (n : Node) : Json :=
  .obj n.fields

def ofJson? (place : Json.Place) (j : Json) : Option Node := do
  let field ← j.record? ["processors", "memory_size_mb"] 0
  let processors ← ((field "processors").getD (.arr [])).list? (Processor.ofJson? place)
  let memory ← ((field "memory_size_mb").getD (.nat 0)).uint64?
  return ⟨processors, memory⟩

end Node

namespace Cluster

def fields (c : Cluster) : List (String × Json) :=
  [("member", c.member.toJson), ("limit_of_tasks", .nat c.taskLimit.toNat), ("num_clusters", .nat c.size.toNat)]

def toJson (c : Cluster) : Json :=
  .obj c.fields

def ofJson? (place : Json.Place) (j : Json) : Option Cluster := do
  let field ← j.record? ["member", "limit_of_tasks", "num_clusters"] 3
  let member ← (field "member").bind (Node.ofJson? place)
  let taskLimit ← (field "limit_of_tasks").bind Json.uint32?
  let size ← (field "num_clusters").bind Json.uint32?
  return ⟨member, taskLimit, size⟩

end Cluster

namespace Resource

def toJson : Resource → Json
  | node n => .obj (("type", .str "method") :: n.fields)
  | cluster c => .obj (("type", .str "cluster") :: c.fields)

def ofJson? (j : Json) : Option Resource := do
  match ← j.tagged? "type" with
  | ("method", body) => node <$> Node.ofJson? .insideTagged body
  | ("cluster", body) => cluster <$> Cluster.ofJson? .insideTagged body
  | _ => none

end Resource

end TaskCoordination
