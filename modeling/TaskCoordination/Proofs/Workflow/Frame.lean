import TaskCoordination.Proofs.Barrier.Run
import TaskCoordination.Proofs.Lifecycle.Step
import TaskCoordination.Proofs.List
import TaskCoordination.Workflow.Cascade

/-!
# What the parts of a workflow leave alone

Changing a task leaves every barrier as it is, and changing a barrier leaves every task as it is. An event that is
handed to a task changes that task only, as `MonitoredTask.after` says (`tasks_deliver`, `barriers_deliver`), and only
a cancellation goes on at a barrier (`next_deliver`). The two equations of `pursue` end the module.
-/

namespace TaskCoordination

namespace Workflow

variable {w : Workflow}

/-! ### Tasks and barriers -/

theorem task?_setTask {ref : TaskRef} {t : MonitoredTask} (h : w.task? ref = some t) (t' : MonitoredTask) :
    (w.setTask ref t').task? ref = some t' := by
  have hlt : ref.index < w.tasks.length := (List.getElem?_eq_some_iff.1 h).1
  simp [task?, setTask, hlt]

/-- Writing back what is there changes nothing. -/
theorem setTask_self {ref : TaskRef} {t : MonitoredTask} (h : w.task? ref = some t) : w.setTask ref t = w := by
  obtain ⟨hlt, ht⟩ := List.getElem?_eq_some_iff.1 h
  rw [setTask, ← ht, List.set_getElem_self]

private theorem index_ne {ref other : TaskRef} (h : ref ≠ other) : ref.index ≠ other.index :=
  fun hi => h (congrArg TaskRef.mk hi)

theorem task?_setTask_of_ne {ref other : TaskRef} (h : ref ≠ other) (t : MonitoredTask) :
    (w.setTask ref t).task? other = w.task? other :=
  List.getElem?_set_ne (index_ne h)

theorem task?_addTask (w : Workflow) (t : MonitoredTask) (ref : TaskRef) :
    (w.addTask t).1.task? ref = if ref.index = w.tasks.length then some t else w.task? ref :=
  getElem?_concat w.tasks t ref.index

theorem barriers_setTask (ref : TaskRef) (t : MonitoredTask) : (w.setTask ref t).barriers = w.barriers := rfl

theorem task?_setBarrier (ref : BarrierRef) (b : Barrier Continuation) (t : TaskRef) :
    (w.setBarrier ref b).task? t = w.task? t := rfl

theorem calls_setBarrier (ref : BarrierRef) (b : Barrier Continuation) : (w.setBarrier ref b).calls = w.calls := rfl

theorem getElem?_setBarrier {ref : BarrierRef} {held : HeldBarrier} (h : w.barriers[ref.index]? = some held)
    (b : Barrier Continuation) : (w.setBarrier ref b).barriers[ref.index]? = some { held with barrier := b } := by
  simp [setBarrier, h]

theorem barrier?_eq {ref : BarrierRef} {held : HeldBarrier} (h : w.barriers[ref.index]? = some held) :
    w.barrier? ref = some held.barrier := by
  rw [barrier?, h]
  rfl

private theorem exists_held {ref : BarrierRef} {b : Barrier Continuation} (h : w.barrier? ref = some b) :
    ∃ held, w.barriers[ref.index]? = some held ∧ held.barrier = b :=
  Option.map_eq_some_iff.1 h

theorem barrier?_setBarrier {ref : BarrierRef} {b : Barrier Continuation} (h : w.barrier? ref = some b)
    (b' : Barrier Continuation) : (w.setBarrier ref b').barrier? ref = some b' := by
  obtain ⟨held, hheld, -⟩ := exists_held h
  exact barrier?_eq (getElem?_setBarrier hheld b')

/-- Writing back what is there changes nothing. -/
theorem setBarrier_self {ref : BarrierRef} {b : Barrier Continuation} (h : w.barrier? ref = some b) :
    w.setBarrier ref b = w := by
  obtain ⟨held, hheld, rfl⟩ := exists_held h
  have hb : w.barriers.modify ref.index (fun other => { other with barrier := held.barrier }) = w.barriers := by
    rw [modify_congr (g := id), List.modify_id]
    intro other hother
    obtain rfl : held = other := by simpa [hheld] using hother
    rfl
  rw [setBarrier, hb]

theorem task?_addBarrier (w : Workflow) (job : JobId) (k : Continuation) (ref : TaskRef) :
    (w.addBarrier job k).1.task? ref = w.task? ref := rfl

theorem barrier?_addBarrier (w : Workflow) (job : JobId) (k : Continuation) :
    (w.addBarrier job k).1.barriers[(w.addBarrier job k).2.index]? = some ⟨.start job k, true⟩ := by
  simp [addBarrier]

theorem held?_eq {ref : BarrierRef} {b : Barrier Continuation} (h : w.barriers[ref.index]? = some ⟨b, true⟩) :
    w.held? ref = some ref := by
  rw [held?, h]
  rfl

/-! ### Events -/

end Workflow

namespace MonitoredTask

/-- A task after an event: an accepted cancellation also takes off the barrier. -/
def after (t : MonitoredTask) (e : Event) : MonitoredTask :=
  match t.lifecycle.apply e with
  | (l, .ok _) => { t with lifecycle := l, barrier := if e.isCancellation then none else t.barrier }
  | (l, .error _) => { t with lifecycle := l }

theorem after_eq (t : MonitoredTask) (e : Event) :
    (t.after e).lifecycle = (t.lifecycle.apply e).1 ∧ (t.after e).core = t.core ∧ (t.after e).metered = t.metered ∧
      (t.after e).recorded = t.recorded := by
  unfold after
  rcases t.lifecycle.apply e with ⟨l, r | effect⟩ <;> exact ⟨rfl, rfl, rfl, rfl⟩

theorem after_of_allows {t : MonitoredTask} {e : Event} {target : State} (ht : e.target? = some target)
    (ha : t.state.allows target = true) :
    t.after e = { t with
      lifecycle := (t.lifecycle.enter target).1
      barrier := if e.isCancellation then none else t.barrier } := by
  rw [after, Lifecycle.apply_of_allows ht ha]

theorem after_of_not_allows {t : MonitoredTask} {e : Event} {target : State} (ht : e.target? = some target)
    (ha : t.state.allows target = false) : t.after e = t := by
  obtain ⟨r, hr⟩ := Lifecycle.apply_of_not_allows ht ha
  rw [after, hr]

end MonitoredTask

namespace Workflow

variable {w : Workflow}

private theorem detach_eq {ref : TaskRef} {t : MonitoredTask} (h : w.task? ref = some t) :
    w.detach ref = (w.setTask ref { t with barrier := none }, t.barrier.bind w.held?) := by
  rw [detach, h]

private theorem spread_eq {ref : TaskRef} {t : MonitoredTask} (h : w.task? ref = some t) (e : Event)
    (effect : Effect) : (w.spread ref t e effect).1.tasks =
        (if e.isCancellation then w.tasks.set ref.index { t with barrier := none } else w.tasks) ∧
      (w.spread ref t e effect).2 = (if e.isCancellation then t.barrier.bind w.held? else none) := by
  unfold spread
  -- neither the gauges nor the feed touch the tasks or the barriers
  have key : ∀ w' : Workflow, w'.tasks = w.tasks → w'.barriers = w.barriers →
      (if e.isCancellation then w'.detach ref else (w', none)).1.tasks =
          (if e.isCancellation then w.tasks.set ref.index { t with barrier := none } else w.tasks) ∧
        (if e.isCancellation then w'.detach ref else (w', none)).2 =
          (if e.isCancellation then t.barrier.bind w.held? else none) := by
    intro w' ht hb
    cases e.isCancellation with
    | false => exact ⟨ht, rfl⟩
    | true =>
      have h' : w'.task? ref = some t := by rw [task?, ht]; exact h
      have hh : w'.held? = w.held? := by
        funext ref
        rw [held?, held?, hb]
      simp only [if_true, detach_eq h', setTask, ht, hh, and_self]
  dsimp only
  apply key
  · cases t.metered <;> cases t.recorded <;> rfl
  · cases t.metered <;> cases t.recorded <;> rfl

private theorem deliver_of_ok {ref : TaskRef} {t : MonitoredTask} (h : w.task? ref = some t) {e : Event}
    {l : Lifecycle} {effect : Effect} (ha : t.lifecycle.apply e = (l, .ok effect)) :
    w.deliver ref e =
      let spread := (w.setTask ref { t with lifecycle := l }).spread ref { t with lifecycle := l } e effect
      (spread.1, some (.ok l.state), spread.2) := by
  rw [deliver, h]
  dsimp only
  rw [ha]
  rfl

private theorem deliver_of_error {ref : TaskRef} {t : MonitoredTask} (h : w.task? ref = some t) {e : Event}
    {l : Lifecycle} {r : Rejection} (ha : t.lifecycle.apply e = (l, .error r)) :
    w.deliver ref e = (w.setTask ref { t with lifecycle := l }, some (.error r), none) := by
  rw [deliver, h]
  dsimp only
  rw [ha]

theorem tasks_deliver {ref : TaskRef} {t : MonitoredTask} (h : w.task? ref = some t) (e : Event) :
    (w.deliver ref e).1.tasks = w.tasks.set ref.index (t.after e) := by
  unfold MonitoredTask.after
  rcases ha : t.lifecycle.apply e with ⟨l, r | effect⟩
  · rw [deliver_of_error h ha]
    rfl
  · rw [deliver_of_ok h ha]
    have hs := (spread_eq (task?_setTask h { t with lifecycle := l }) e effect).1
    dsimp only at hs ⊢
    rw [hs]
    cases e.isCancellation with
    | false => rfl
    | true => exact List.set_set ..

theorem task?_deliver {ref : TaskRef} {t : MonitoredTask} (h : w.task? ref = some t) (e : Event) :
    (w.deliver ref e).1.task? ref = some (t.after e) := by
  have hlt : ref.index < w.tasks.length := (List.getElem?_eq_some_iff.1 h).1
  rw [task?, tasks_deliver h]
  simp [hlt]

theorem answer_deliver {ref : TaskRef} {t : MonitoredTask} (h : w.task? ref = some t) {e : Event} {target : State}
    (he : e.target? = some target) (ha : t.state.allows target = true) :
    (w.deliver ref e).2.1 = some (.ok target) := by
  rw [deliver_of_ok h (Lifecycle.apply_of_allows he ha)]
  rfl

/-- The answer is that of the lifecycle, with the state it is in afterwards. -/
theorem answer_deliver_eq {ref : TaskRef} {t : MonitoredTask} (h : w.task? ref = some t) (e : Event) :
    (w.deliver ref e).2.1 = some ((t.lifecycle.apply e).2.map fun _ => (t.lifecycle.apply e).1.state) := by
  rcases ha : t.lifecycle.apply e with ⟨l, r | effect⟩
  · rw [deliver_of_error h ha]
    rfl
  · rw [deliver_of_ok h ha]
    rfl

/-- An event that is turned down changes nothing at all. -/
theorem deliver_of_refused {ref : TaskRef} {t : MonitoredTask} (h : w.task? ref = some t) {e : Event} {r : Rejection}
    (hr : (t.lifecycle.apply e).2 = .error r) : w.deliver ref e = (w, some (.error r), none) := by
  have hs : Lifecycle.Step t.lifecycle e (t.lifecycle.apply e).1 (.error r) := hr ▸ t.lifecycle.step_apply e
  have ha : t.lifecycle.apply e = (t.lifecycle, .error r) := Prod.ext hs.of_error hr
  rw [deliver_of_error h ha, setTask_self h]

theorem deliver_of_not_allows {ref : TaskRef} {t : MonitoredTask} (h : w.task? ref = some t) {e : Event}
    {target : State} (he : e.target? = some target) (ha : t.state.allows target = false) :
    ∃ r, w.deliver ref e = (w, some (.error r), none) := by
  obtain ⟨r, hr⟩ := Lifecycle.apply_of_not_allows he ha
  exact ⟨r, deliver_of_refused h (congrArg Prod.snd hr)⟩

theorem deliver_of_none {ref : TaskRef} (h : w.task? ref = none) (e : Event) : w.deliver ref e = (w, none, none) := by
  rw [deliver, h]

private theorem detach_keeps (w : Workflow) (ref : TaskRef) :
    (w.detach ref).1.directory = w.directory ∧ (w.detach ref).1.feed = w.feed := by
  unfold detach
  split <;> exact ⟨rfl, rfl⟩

/-- The directory hears of an accepted event through the gauges of a metered task, and not otherwise. -/
theorem directory_deliver {ref : TaskRef} {t : MonitoredTask} (h : w.task? ref = some t) {e : Event} {l : Lifecycle}
    {effect : Effect} (ha : t.lifecycle.apply e = (l, .ok effect)) :
    (w.deliver ref e).1.directory =
      if t.metered then w.directory.mapTelemetry (t.meter e effect) else w.directory := by
  rw [deliver_of_ok h ha]
  dsimp only
  unfold spread
  cases t.metered <;> cases t.recorded <;> cases e.isCancellation <;> simp [detach_keeps] <;> rfl

/-- The feed is offered the record of an accepted event of a recorded task, and nothing else. -/
theorem feed_deliver {ref : TaskRef} {t : MonitoredTask} (h : w.task? ref = some t) {e : Event} {l : Lifecycle}
    {effect : Effect} (ha : t.lifecycle.apply e = (l, .ok effect)) :
    (w.deliver ref e).1.feed = if t.recorded then (w.feed.offer ((t.after e).record e)).1 else w.feed := by
  have hr : (t.after e).record e = { t with lifecycle := l }.record e := by
    rw [MonitoredTask.after, ha]
    rfl
  rw [hr, deliver_of_ok h ha]
  dsimp only
  unfold spread
  cases t.metered <;> cases t.recorded <;> cases e.isCancellation <;> simp [detach_keeps] <;> rfl

theorem deliver_of_rejection {ref : TaskRef} {t : MonitoredTask} (h : w.task? ref = some t) {e : Event}
    {l : Lifecycle} {r : Rejection} (ha : t.lifecycle.apply e = (l, .error r)) :
    (w.deliver ref e).1.directory = w.directory ∧ (w.deliver ref e).1.feed = w.feed := by
  rw [deliver_of_error h ha]
  exact ⟨rfl, rfl⟩

theorem task?_deliver_of_ne {ref other : TaskRef} (e : Event) (hne : ref ≠ other) :
    (w.deliver ref e).1.task? other = w.task? other := by
  cases h : w.task? ref with
  | none => rw [deliver_of_none h]
  | some t => rw [task?, tasks_deliver h, List.getElem?_set_ne (index_ne hne), task?]

/-- Where a cancellation goes on: at the attached barrier, if somebody holds it. -/
theorem next_deliver {ref : TaskRef} {t : MonitoredTask} (h : w.task? ref = some t) {e : Event} {l : Lifecycle}
    {effect : Effect} (ha : t.lifecycle.apply e = (l, .ok effect)) :
    (w.deliver ref e).2.2 = if e.isCancellation then t.barrier.bind w.held? else none := by
  rw [deliver_of_ok h ha]
  exact (spread_eq (task?_setTask h { t with lifecycle := l }) e effect).2

theorem next_deliver_of_error {ref : TaskRef} {t : MonitoredTask} (h : w.task? ref = some t) {e : Event}
    {l : Lifecycle} {r : Rejection} (ha : t.lifecycle.apply e = (l, .error r)) :
    (w.deliver ref e).2.2 = none := by
  rw [deliver_of_error h ha]

/-! ### Requests -/

theorem ask_of_silent {ref : BarrierRef} {b : Barrier Continuation} (h : w.barrier? ref = some b)
    {r : BarrierRequest} (hf : (b.ask r).2.2 = none) :
    w.ask ref r = (w.setBarrier ref (b.ask r).1, some (b.ask r).2.1) := by
  rcases hr : b.ask r with ⟨b', reply, firing⟩
  rw [hr] at hf
  obtain rfl : firing = none := hf
  simp only [ask, h, hr]

theorem ask_of_firing {ref : BarrierRef} {b : Barrier Continuation} (h : w.barrier? ref = some b)
    {r : BarrierRequest} {f : Firing Continuation} (hf : (b.ask r).2.2 = some f) :
    w.ask ref r =
      let called := (w.setBarrier ref (b.ask r).1).call ref b.job f
      (called.1.pursue called.2, some (b.ask r).2.1) := by
  rcases hr : b.ask r with ⟨b', reply, firing⟩
  rw [hr] at hf
  obtain rfl : firing = some f := hf
  simp only [ask, h, hr]

/-- The barrier replies by itself, whatever follows from the request. -/
theorem reply_ask (w : Workflow) (ref : BarrierRef) (r : BarrierRequest) :
    (w.ask ref r).2 = (w.barrier? ref).map fun b => (b.ask r).2.1 := by
  cases hb : w.barrier? ref with
  | none => simp only [ask, hb, Option.map_none]
  | some b =>
    cases hf : (b.ask r).2.2 with
    | none => rw [ask_of_silent hb hf, Option.map_some]
    | some f => rw [ask_of_firing hb hf, Option.map_some]

/-! ### Cancellations that go on -/

theorem pursue_none (w : Workflow) : w.pursue none = w := by
  rw [pursue]

/-- A barrier that has its verdict ends the chain. -/
theorem pursue_of_verdict {ref : BarrierRef} {b : Barrier Continuation} (h : w.barrier? ref = some b)
    (hv : b.verdict ≠ none) : w.pursue (some ref) = w := by
  have hc := Barrier.cancel_of_verdict hv
  rw [pursue]
  split
  · rfl
  · next b' hb' =>
    obtain rfl : b = b' := Option.some.inj (h.symm.trans hb')
    split
    · next b'' _ hc' =>
      obtain rfl : b = b'' := congrArg Prod.fst (hc.symm.trans hc')
      exact setBarrier_self h
    · next hc' => simp [hc] at hc'

theorem pursue_of_open {ref : BarrierRef} {b : Barrier Continuation} {k : Continuation} (h : w.barrier? ref = some b)
    (hk : b.Holds k) (hv : b.verdict = none) :
    w.pursue (some ref) =
      let called := (w.setBarrier ref b.withdrawn).call ref b.job ⟨k, .cancelled⟩
      called.1.pursue called.2 := by
  have hc := Barrier.cancel_of_open hk hv
  rw [pursue]
  split
  · next hb' => simp [h] at hb'
  · next b' hb' =>
    obtain rfl : b = b' := Option.some.inj (h.symm.trans hb')
    split
    · next hc' => simp [hc] at hc'
    · next b'' f _ hc' =>
      rw [hc] at hc'
      simp only [Prod.mk.injEq, Option.some.injEq] at hc'
      obtain ⟨rfl, rfl, -⟩ := hc'
      rfl

/-- A task that is cancelled already takes the barrier down at once. -/
theorem attach_eq {ref : TaskRef} {t : MonitoredTask} (h : w.task? ref = some t) (b : BarrierRef) :
    w.attach ref b =
      if t.state = .cancelled then (w.setTask ref { t with barrier := none }).pursue (w.held? b)
      else w.setTask ref { t with barrier := some b } := by
  have ht : (w.setTask ref { t with barrier := some b }).task? ref = some { t with barrier := some b } :=
    task?_setTask h _
  have hs : (w.setTask ref { t with barrier := some b }).setTask ref { t with barrier := none } =
      w.setTask ref { t with barrier := none } := by
    simp only [setTask, List.set_set]
  simp only [attach, h, detach_eq ht, hs]
  rfl

end Workflow

end TaskCoordination
