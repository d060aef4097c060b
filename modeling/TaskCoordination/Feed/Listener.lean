import TaskCoordination.Feed.Queue

/-!
# The feed of a listener

A listener takes records from the queue one by one, a record in each turn. When the feed is closing it only flushes
the queue: it goes on until it finds the queue empty, and ends. It also ends at an empty queue when nobody is left
to offer records. It can break down on a record, and then takes no more. Either way the queue is closed with it.
-/

namespace TaskCoordination

inductive ListenerPhase
  | running
  | flushing
  | finished
  | crashed (record : LifecycleRecord)

/-- Whether a listener that has been given some records breaks down on the next one. -/
abbrev Breakdown : Type :=
  List LifecycleRecord → LifecycleRecord → Bool

structure Listener where
  breaksOn : Breakdown
  collected : List LifecycleRecord
  phase : ListenerPhase

structure Feed where
  queue : RecordQueue
  listener : Option Listener
  closing : Bool
  abandoned : Bool

namespace Listener

def start (breaksOn : Breakdown) : Listener :=
  ⟨breaksOn, [], .running⟩

def isRunning (l : Listener) : Bool :=
  match l.phase with
  | .running | .flushing => true
  | .finished | .crashed _ => false

def isCrashed (l : Listener) : Bool :=
  match l.phase with
  | .crashed _ => true
  | _ => false

/-- All records that the listener was given, with the one that it broke down on. -/
def given (l : Listener) : List LifecycleRecord :=
  match l.phase with
  | .crashed r => l.collected ++ [r]
  | _ => l.collected

def take (l : Listener) (r : LifecycleRecord) : Listener :=
  if l.breaksOn l.collected r then
    { l with phase := .crashed r }
  else
    { l with collected := l.collected ++ [r] }

end Listener

namespace Feed

/-- A feed that drops every record. -/
def silent : Feed :=
  ⟨.closed, none, false, false⟩

/-- A feed whose records are received by hand. -/
def manual (capacity : Nat) : Feed :=
  ⟨.ofCapacity capacity, none, false, false⟩

def heard (capacity : Nat) (breaksOn : Breakdown) : Feed :=
  ⟨.ofCapacity capacity, some (.start breaksOn), false, false⟩

def offer (f : Feed) (r : LifecycleRecord) : Feed × Bool :=
  let (queue, taken) := f.queue.offer r
  ({ f with queue := queue }, taken)

/-- Gives a record to the listener, with the queue that it leaves behind. -/
def hand (f : Feed) (l : Listener) (r : LifecycleRecord) (queue : RecordQueue) : Feed :=
  let l' := l.take r
  { f with queue := if l'.isRunning then queue else queue.close, listener := some l' }

def finish (f : Feed) (l : Listener) : Feed :=
  { f with queue := f.queue.close, listener := some { l with phase := .finished } }

/-- One turn of the listener. That the feed is closing comes before any record. -/
def turn (f : Feed) : Feed :=
  match f.listener with
  | none => f
  | some l =>
    match l.phase with
    | .running =>
      if f.closing then
        { f with listener := some { l with phase := .flushing } }
      else
        match f.queue.take? with
        | some (r, queue) => f.hand l r queue
        | none => if f.abandoned then f.finish l else f
    | .flushing =>
      match f.queue.take? with
      | some (r, queue) => f.hand l r queue
      | none => f.finish l
    | .finished | .crashed _ => f

def turns : Nat → Feed → Feed
  | 0, f => f
  | n + 1, f => turns n f.turn

/-- Lets the listener handle all that waits, with one turn more to see that the feed is closing, and one in which it
finds nothing. -/
def pump (f : Feed) : Feed :=
  f.turns (f.queue.waiting.length + 2)

/-- Tells the listener to end when nothing waits any more. -/
def signal (f : Feed) : Feed :=
  { f with closing := true }

/-- The last one who could offer records is gone. -/
def abandon (f : Feed) : Feed :=
  { f with abandoned := true }

def isRunning (f : Feed) : Bool :=
  !f.closing && match f.listener with
    | some l => l.isRunning
    | none => true

def isCrashed (f : Feed) : Bool :=
  match f.listener with
  | some l => l.isCrashed
  | none => false

end Feed

end TaskCoordination
