import TaskCoordination.Catalog.Basic

/-!
# Catalog entries as JSON
-/

namespace TaskCoordination

namespace ImplementationKind

def word : ImplementationKind → String
  | method => "METHOD"
  | service => "SERVICE"
  | mpi => "MPI"
  | binary => "BINARY"
  | container => "CONTAINER"
  | http => "HTTP"

def all : List ImplementationKind :=
  [method, service, mpi, binary, container, http]

def toJson (k : ImplementationKind) : Json :=
  .str k.word

def ofJson? (j : Json) : Option ImplementationKind :=
  j.choice? .plain all word

end ImplementationKind

namespace Implementation

def toJson (i : Implementation) : Json :=
  .obj [("signature", .str i.signature), ("implementation_type", i.kind.toJson),
    ("type_args", .list Json.str i.arguments), ("requirements", i.requirements.toJson)]

def ofJson? (j : Json) : Option Implementation := do
  let field ← j.record? ["signature", "implementation_type", "type_args", "requirements"] 4
  let signature ← (field "signature").bind Json.str?
  let kind ← (field "implementation_type").bind ImplementationKind.ofJson?
  let arguments ← (field "type_args").bind (Json.list? Json.str?)
  let requirements ← (field "requirements").bind (Node.ofJson? .plain)
  return ⟨signature, kind, arguments, requirements⟩

end Implementation

namespace Registration

def toJson (r : Registration) : Json :=
  .obj [("ce_signature", .str r.signature), ("implementation", r.implementation.toJson)]

def ofJson? (j : Json) : Option Registration := do
  let field ← j.record? ["ce_signature", "implementation"] 2
  let signature ← (field "ce_signature").bind Json.str?
  let implementation ← (field "implementation").bind Implementation.ofJson?
  return ⟨signature, implementation⟩

end Registration

def CoreElement.toJson (e : CoreElement) : Json :=
  .obj [("id", e.id.toJson), ("signature", .str e.signature),
    ("implementations", .list Implementation.toJson e.implementations)]

end TaskCoordination
