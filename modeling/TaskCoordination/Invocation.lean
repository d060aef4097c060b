import TaskCoordination.Json.Basic
import TaskCoordination.Parameter.Basic
import TaskCoordination.Rejection
import TaskCoordination.Text.Blank

/-!
# Invocations

What a task calls: a method of a class, or an operation of a service. Its signature is a text made of its name, the
types of its parameters and the rest of its identity.
-/

namespace TaskCoordination

inductive Invocation
  | method (owner name : String)
  | service (domain provider port operation : String)
  deriving DecidableEq

namespace Invocation

def name : Invocation → String
  | method _ name => name
  | service _ _ _ operation => operation

/-- What follows the parameter list in a signature. -/
def owner : Invocation → String
  | method owner _ => owner
  | service domain provider port _ => domain ++ "," ++ provider ++ "," ++ port

def render (i : Invocation) (ps : List Parameter) : String :=
  i.name ++ "(" ++ ",".intercalate (ps.map fun p => p.dataType.tag) ++ ")" ++ i.owner

/-- Why an invocation cannot be registered; the name is looked at first. -/
def fault? : Invocation → Option String
  | method owner name =>
    if Text.isBlank name then some "method name is empty"
    else if Text.isBlank owner then some "declaring class is empty"
    else none
  | service domain provider port operation =>
    if Text.isBlank operation then some "operation name is empty"
    else if Text.isBlank domain || Text.isBlank provider || Text.isBlank port then
      some "service namespace, name and port are required"
    else none

def validate (i : Invocation) : Except Rejection Unit :=
  match i.fault? with
  | some reason => .error (.invalidSignature (i.render []) reason)
  | none => .ok ()

def toJson : Invocation → Json
  | method owner name => .obj [("kind", .str "method"), ("declaring_class", .str owner), ("method_name", .str name)]
  | service domain provider port operation =>
    .obj [("kind", .str "service"), ("namespace", .str domain), ("service", .str provider), ("port", .str port),
      ("operation", .str operation)]

def ofJson? (j : Json) : Option Invocation := do
  match ← j.tagged? "kind" with
  | ("method", body) =>
    let field ← body.record? ["declaring_class", "method_name"] 2
    let text := fun name => (field name).bind Json.str?
    return method (← text "declaring_class") (← text "method_name")
  | ("service", body) =>
    let field ← body.record? ["namespace", "service", "port", "operation"] 4
    let text := fun name => (field name).bind Json.str?
    return service (← text "namespace") (← text "service") (← text "port") (← text "operation")
  | _ => none

end Invocation

end TaskCoordination
