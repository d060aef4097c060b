import TaskCoordination.Identifier

/-!
# Rejections

Why a request was turned down. Each cause has a code for programs and a message for people.
-/

namespace TaskCoordination

inductive Rejection
  | invalidSignature (signature reason : String)
  | signatureConflict (signature implementation : String)
  | unknownCoreElement (core : CoreId)
  | invalidTransition (task : TaskId) (state event : String)
  | taskTerminated (task : TaskId) (event : String)
  | duplicateValue (task : TaskId) (index : Nat)
  | barrierAlreadyFired (job : JobId) (operation : String)
  | unmatchedNotification (job : JobId) (operation : String)
  | invalidField (field message : String)
  deriving DecidableEq

namespace Rejection

def code : Rejection → String
  | invalidSignature .. => "INVALID_SIGNATURE"
  | signatureConflict .. => "SIGNATURE_CONFLICT"
  | unknownCoreElement .. => "UNKNOWN_CORE_ELEMENT"
  | invalidTransition .. => "INVALID_TRANSITION"
  | taskTerminated .. => "TASK_TERMINATED"
  | duplicateValue .. => "DUPLICATE_VALUE"
  | barrierAlreadyFired .. => "BARRIER_ALREADY_FIRED"
  | unmatchedNotification .. => "UNMATCHED_NOTIFICATION"
  | invalidField .. => "VALIDATION_ERROR"

def message : Rejection → String
  | invalidSignature signature reason => s!"Invalid signature '{signature}': {reason}"
  | signatureConflict signature implementation =>
    s!"Implementation '{implementation}' of core element '{signature}' conflicts with an existing registration"
  | unknownCoreElement core => s!"Core element {core.index} is not registered"
  | invalidTransition task state event => s!"Task {task.number} cannot handle '{event}' while '{state}'"
  | taskTerminated task event => s!"Task {task.number} already terminated, ignoring '{event}'"
  | duplicateValue task index => s!"Task {task.number} already generated a value for parameter {index}"
  | barrierAlreadyFired job operation =>
    s!"Transfer barrier of job {job.number} already fired, rejecting '{operation}'"
  | unmatchedNotification job operation =>
    s!"Transfer barrier of job {job.number} has no pending operation for '{operation}'"
  | invalidField field message => s!"Validation error for '{field}': {message}"

/-- Causes that a registration in the catalog can have. -/
def isRegistration : Rejection → Bool
  | invalidSignature .. | signatureConflict .. => true
  | _ => false

end Rejection

end TaskCoordination
