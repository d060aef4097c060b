import TaskCoordination.Json.Basic
import TaskCoordination.Parameter.Basic

/-!
# Parameters as JSON

Directions and data types are written as words, a parameter as a record whose name is left out when it has none.
-/

namespace TaskCoordination

namespace Direction

def word : Direction → String
  | input => "IN"
  | output => "OUT"
  | both => "INOUT"

def all : List Direction :=
  [input, output, both]

def toJson (d : Direction) : Json :=
  .str d.word

def ofJson? (j : Json) : Option Direction :=
  j.choice? .plain all word

end Direction

namespace DataType

def word : DataType → String
  | boolean => "boolean"
  | char => "char"
  | string => "string"
  | byte => "byte"
  | short => "short"
  | int => "int"
  | long => "long"
  | float => "float"
  | double => "double"
  | file => "file"
  | object => "object"
  | psco => "psco"
  | externalPsco => "external_psco"
  | binding => "binding"
  | collection => "collection"
  | stream => "stream"
  | null => "null"

def all : List DataType :=
  [boolean, char, string, byte, short, int, long, float, double, file, object, psco, externalPsco, binding,
   collection, stream, null]

def toJson (t : DataType) : Json :=
  .str t.word

def ofJson? (j : Json) : Option DataType :=
  j.choice? .plain all word

end DataType

namespace Parameter

def toJson (p : Parameter) : Json :=
  .obj ([("direction", p.direction.toJson), ("data_type", p.dataType.toJson)] ++
    (p.name.map fun n => ("name", Json.str n)).toList)

def ofJson? (j : Json) : Option Parameter := do
  let field ← j.record? ["direction", "data_type", "name"] 2
  let direction ← (field "direction").bind Direction.ofJson?
  let dataType ← (field "data_type").bind DataType.ofJson?
  let name ← ((field "name").getD .null).option? Json.str?
  return ⟨direction, dataType, name⟩

end Parameter

end TaskCoordination
