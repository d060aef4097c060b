import TaskCoordination.Lifecycle.Event
import TaskCoordination.Rejection

/-!
# The lifecycle of a task

A lifecycle keeps the state of a task, its history, and the accounting of its attempts: a submission opens an
attempt, an outcome or the end of the task closes it. While an attempt is submitted, and until the next one, each
parameter can get one generated value.

`apply` takes an event and answers with its effect on the gauges, or turns it down and leaves the lifecycle as it is.

The number of attempts has no limit here. Where it is kept in 32 bits, the submission after the last number that
fits is an overflow and ends the run, so that a lifecycle stands for the runs of fewer than 2^32 submissions.
-/

namespace TaskCoordination

/-- What an accepted event means for the gauges of the task's core element. -/
structure Effect where
  opened : Bool := false
  closed : Bool := false
  succeeded : Bool := false
  deriving DecidableEq

structure Lifecycle where
  task : TaskId
  state : State
  attempts : Nat
  isOpen : Bool
  generated : List Nat
  history : List State
  deriving DecidableEq

namespace Lifecycle

def start (task : TaskId) : Lifecycle :=
  ⟨task, .new, 0, false, [], []⟩

def invalid (l : Lifecycle) (e : Event) : Rejection :=
  .invalidTransition l.task l.state.render e.name

/-- Enters a state that the current one allows. -/
def enter (l : Lifecycle) (target : State) : Lifecycle × Effect :=
  let submitting := target = .submitted
  ({ l with
      state := target
      attempts := if submitting then l.attempts + 1 else l.attempts
      isOpen := submitting || (l.isOpen && !target.endsAttempt)
      generated := if submitting then [] else l.generated
      history := l.history ++ [target] },
    { opened := submitting
      closed := l.isOpen && target.endsAttempt
      succeeded := target = .executed .successful })

/-- The states in which a task hands over its values. -/
def acceptsValues (l : Lifecycle) : Bool :=
  match l.state with
  | .submitted | .dataReceived | .executed _ => true
  | _ => false

def apply (l : Lifecycle) (e : Event) : Lifecycle × Except Rejection Effect :=
  if l.state.isTerminal then
    (l, .error (.taskTerminated l.task e.name))
  else
    match e with
    | .valueGenerated index _ =>
      if !l.acceptsValues then
        (l, .error (l.invalid e))
      else if l.generated.contains index then
        (l, .error (.duplicateValue l.task index))
      else
        ({ l with generated := index :: l.generated }, .ok {})
    | _ =>
      match e.target? with
      | none => (l, .error (l.invalid e))
      | some target =>
        if l.state.allows target then
          let (l', effect) := l.enter target
          (l', .ok effect)
        else
          (l, .error (l.invalid e))

end Lifecycle

end TaskCoordination
