import TaskCoordination.Workflow.Basic

/-!
# Events in a workflow

An event reaches a task, and if it is accepted the gauges and the feed hear of it. A cancellation also takes the
attached barrier off the task; `deliver` names that barrier, so that the cancellation can go on there.

* `barriers_deliver`: no event touches a barrier by itself.
-/

namespace TaskCoordination

namespace Workflow

/-- Takes the attached barrier off a task and names it if somebody still holds it. -/
def detach (w : Workflow) (ref : TaskRef) : Workflow × Option BarrierRef :=
  match w.task? ref with
  | none => (w, none)
  | some t => (w.setTask ref { t with barrier := none }, t.barrier.bind w.held?)

/-- What follows from an event that the task at `ref` has accepted. -/
def spread (w : Workflow) (ref : TaskRef) (t : MonitoredTask) (e : Event) (effect : Effect) :
    Workflow × Option BarrierRef :=
  let w := if t.metered then w.mapTelemetry (t.meter e effect) else w
  let w := if t.recorded then { w with feed := (w.feed.offer (t.record e)).1 } else w
  if e.isCancellation then w.detach ref else (w, none)

/-- Hands an event to a task. There is no answer if there is no such task. -/
def deliver (w : Workflow) (ref : TaskRef) (e : Event) :
    Workflow × Option (Except Rejection State) × Option BarrierRef :=
  match w.task? ref with
  | none => (w, none, none)
  | some t =>
    let (lifecycle, result) := t.lifecycle.apply e
    let t := { t with lifecycle := lifecycle }
    let w := w.setTask ref t
    match result with
    | .error r => (w, some (.error r), none)
    | .ok effect =>
      let (w, next) := w.spread ref t e effect
      (w, some (.ok t.state), next)

theorem barriers_detach (w : Workflow) (ref : TaskRef) : (w.detach ref).1.barriers = w.barriers := by
  unfold detach
  split <;> rfl

theorem barriers_spread (w : Workflow) (ref : TaskRef) (t : MonitoredTask) (e : Event) (effect : Effect) :
    (w.spread ref t e effect).1.barriers = w.barriers := by
  unfold spread
  cases t.metered <;> cases t.recorded <;> cases e.isCancellation <;> simp [barriers_detach, mapTelemetry]

theorem barriers_deliver (w : Workflow) (ref : TaskRef) (e : Event) :
    (w.deliver ref e).1.barriers = w.barriers := by
  unfold deliver
  split
  · rfl
  · dsimp only
    split
    · rfl
    · rw [barriers_spread]
      rfl

end Workflow

end TaskCoordination
