import TaskCoordination.Lifecycle.State
import TaskCoordination.Parameter.Json
import TaskCoordination.Profile

/-!
# Lifecycle events

What happens to a task. Every event but one leads to a state of its own; a generated value leaves the state as it is.
-/

namespace TaskCoordination

/-- A value that a task generated, possibly made of further values. -/
inductive GeneratedValue
  | mk (dataType : DataType) (location dataId : String) (parts : List GeneratedValue)

inductive Event
  | creation
  | accessesProcessed
  | schedule
  | submission
  | dataReception
  | valueGenerated (index : Nat) (value : GeneratedValue)
  | successfulExecution (profile : Option Profile)
  | abortedExecution
  | errorExecution
  | failedExecution
  | exception
  | cancellation
  | completion
  | failure

namespace Event

def name : Event → String
  | creation => "creation"
  | accessesProcessed => "accesses_processed"
  | schedule => "schedule"
  | submission => "submission"
  | dataReception => "data_reception"
  | valueGenerated .. => "value_generated"
  | successfulExecution .. => "successful_execution"
  | abortedExecution => "aborted_execution"
  | errorExecution => "error_execution"
  | failedExecution => "failed_execution"
  | exception => "exception"
  | cancellation => "cancellation"
  | completion => "completion"
  | failure => "failure"

/-- The state that an event leads to. -/
def target? : Event → Option State
  | creation => some .created
  | accessesProcessed => some .accessesProcessed
  | schedule => some .scheduled
  | submission => some .submitted
  | dataReception => some .dataReceived
  | valueGenerated .. => none
  | successfulExecution .. => some (.executed .successful)
  | abortedExecution => some (.executed .aborted)
  | errorExecution => some (.executed .error)
  | failedExecution => some (.executed .failed)
  | exception => some (.executed .exception)
  | cancellation => some .cancelled
  | completion => some .completed
  | failure => some .failed

def isCancellation : Event → Bool
  | cancellation => true
  | _ => false

/-- The parameter and the value of an event that has them. -/
def value? : Event → Option (Nat × GeneratedValue)
  | valueGenerated index value => some (index, value)
  | _ => none

def profile? : Event → Option Profile
  | successfulExecution profile => profile
  | _ => none

end Event

mutual

def GeneratedValue.toJson : GeneratedValue → Json
  | .mk dataType location dataId parts =>
    .obj [("data_type", dataType.toJson), ("location", .str location), ("data_id", .str dataId),
      ("sub_values", .arr (GeneratedValue.listToJson parts))]

def GeneratedValue.listToJson : List GeneratedValue → List Json
  | [] => []
  | value :: rest => value.toJson :: GeneratedValue.listToJson rest

end

end TaskCoordination
