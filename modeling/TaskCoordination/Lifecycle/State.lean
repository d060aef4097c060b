import TaskCoordination.Json.Basic
import TaskCoordination.Text.Debug

/-!
# Task states

A task moves forward through its states: each has a rank, and steps may be skipped but not taken back. Two moves
leave that order. An executed task can be scheduled or submitted again; and any task that has not ended can be
cancelled, completed or failed at once, after a cancellation only completed or failed. `State.allows` is this rule.
-/

namespace TaskCoordination

inductive Outcome
  | successful
  | aborted
  | error
  | failed
  | exception
  deriving DecidableEq

inductive State
  | new
  | created
  | accessesProcessed
  | scheduled
  | submitted
  | dataReceived
  | executed (outcome : Outcome)
  | cancelled
  | completed
  | failed
  deriving DecidableEq

namespace Outcome

def word : Outcome → String
  | successful => "SUCCESSFUL"
  | aborted => "ABORTED"
  | error => "ERROR"
  | failed => "FAILED"
  | exception => "EXCEPTION"

def debug : Outcome → String
  | successful => "Successful"
  | aborted => "Aborted"
  | error => "Error"
  | failed => "Failed"
  | exception => "Exception"

end Outcome

namespace State

def rank : State → Nat
  | new => 0
  | created => 1
  | accessesProcessed => 2
  | scheduled => 3
  | submitted => 4
  | dataReceived => 5
  | executed _ => 6
  | cancelled => 7
  | completed | failed => 8

def isTerminal : State → Bool
  | completed | failed => true
  | _ => false

/-- Ends whatever attempt is under way: the outcomes, and the states that no attempt leads out of. -/
def endsAttempt : State → Bool
  | executed _ | cancelled | completed | failed => true
  | _ => false

/-- Whether a task can move from the first state to the second. -/
def allows : State → State → Bool
  | completed, _ | failed, _ => false
  | cancelled, target => target.isTerminal
  | executed _, scheduled | executed _, submitted => true
  | current, target => current.rank < target.rank

/-- The name of a state without its outcome. -/
def word : State → String
  | new => "NEW"
  | created => "CREATED"
  | accessesProcessed => "ACCESSES_PROCESSED"
  | scheduled => "SCHEDULED"
  | submitted => "SUBMITTED"
  | dataReceived => "DATA_RECEIVED"
  | executed _ => "EXECUTED"
  | cancelled => "CANCELLED"
  | completed => "COMPLETED"
  | failed => "FAILED"

def render : State → String
  | executed outcome => "EXECUTED(" ++ outcome.word ++ ")"
  | state => state.word

def toJson : State → Json
  | executed outcome => .obj [("state", .str "EXECUTED"), ("outcome", .str outcome.word)]
  | state => .obj [("state", .str state.word)]

def debug : State → String
  | new => "New"
  | created => "Created"
  | accessesProcessed => "AccessesProcessed"
  | scheduled => "Scheduled"
  | submitted => "Submitted"
  | dataReceived => "DataReceived"
  | executed outcome => Text.Debug.tuple "Executed" outcome.debug
  | cancelled => "Cancelled"
  | completed => "Completed"
  | failed => "Failed"

end State

end TaskCoordination
