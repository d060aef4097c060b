import TaskCoordination.Proofs.Lifecycle.Attempt
import TaskCoordination.Proofs.Workflow.Change

/-!
# Deliveries

A change of a workflow hands at most one event to a task: an event that comes from outside, or the one that a
barrier hands over when it fires (`Delivery`). A change is its delivery, after all that it does besides
(`change_eq`), and what it does besides leaves the lifecycles of the tasks alone. So the lifecycle of a task tells
of its deliveries; its attempts are the submissions that it has accepted (`attempts_replay`).
-/

namespace TaskCoordination

/-- An event that reaches a task, and the barrier that hands it over if one does. -/
structure Delivery where
  source : Option BarrierRef
  task : TaskRef
  event : Event
  accepted : Bool

/-- An accepted submission of a task. -/
def Delivery.submits (t : TaskRef) (d : Delivery) : Bool :=
  d.task = t && d.event.isSubmission && d.accepted

namespace Workflow

variable {w : Workflow}

/-- The event that a continuation hands to a task. A task that is cancelled already, or has ended, is spared its
cancellation. -/
def handed (w : Workflow) (f : Firing Continuation) : Option (TaskRef × Event) :=
  match f.continuation, f.verdict with
  | .submit t, .ready => some (t, .submission)
  | .submit t, .failed _ => some (t, .failedExecution)
  | .submit t, .cancelled =>
    match w.task? t with
    | none => none
    | some task => if task.state = .cancelled || task.state.isTerminal then none else some (t, .cancellation)
  | _, _ => none

def accepts (w : Workflow) (t : TaskRef) (e : Event) : Bool :=
  match w.task? t with
  | none => false
  | some task =>
    match task.lifecycle.apply e with
    | (_, .ok _) => true
    | (_, .error _) => false

/-- A task accepts the events whose state is allowed. -/
theorem accepts_eq {t : TaskRef} {task : MonitoredTask} (ht : w.task? t = some task) {e : Event} {target : State}
    (he : e.target? = some target) : w.accepts t e = task.state.allows target := by
  rw [accepts, ht]
  cases ha : task.state.allows target with
  | true => simp only [Lifecycle.apply_of_allows he ha]
  | false =>
    obtain ⟨r, hr⟩ := Lifecycle.apply_of_not_allows he ha
    simp only [hr]

/-- The firing that a request brings about. -/
def firing? (w : Workflow) (ref : BarrierRef) (r : BarrierRequest) : Option (Firing Continuation) :=
  (w.barrier? ref).bind fun b => (b.ask r).2.2

def delivery? (w : Workflow) : Change → Option Delivery
  | .event t e => some ⟨none, t, e, w.accepts t e⟩
  | .request ref r => ((w.firing? ref r).bind w.handed).map fun x => ⟨some ref, x.1, x.2, w.accepts x.1 x.2⟩
  | _ => none

/-- What a call does besides handing an event to a task. -/
def attend (w : Workflow) (ref : BarrierRef) (job : JobId) (f : Firing Continuation) : Workflow :=
  match f.continuation with
  | .submit _ => w
  | .callback | .observer _ => (w.call ref job f).1

/-- What a change does besides handing an event to a task. -/
def besides (w : Workflow) : Change → Workflow
  | .event .. => w
  | .request ref r =>
    match w.barrier? ref with
    | none => w
    | some b =>
      match (b.ask r).2.2 with
      | none => w.setBarrier ref (b.ask r).1
      | some f => (w.setBarrier ref (b.ask r).1).attend ref b.job f
  | c => w.change c

/-! ### A change and its delivery -/

private theorem withdraw_fst (w : Workflow) (t : TaskRef) :
    (w.withdraw t).1 = match w.handed ⟨.submit t, .cancelled⟩ with
      | none => w
      | some x => (w.deliver x.1 x.2).1 := by
  cases h : w.task? t with
  | none => simp only [withdraw, handed, h]
  | some task =>
    cases hs : (decide (task.state = .cancelled) || task.state.isTerminal) with
    | true => simp only [withdraw, handed, h, hs, if_true]
    | false => simp only [withdraw, handed, h, hs, Bool.false_eq_true, if_false]

private theorem call_fst (w : Workflow) (ref : BarrierRef) (job : JobId) (f : Firing Continuation) :
    (w.call ref job f).1 = match w.handed f with
      | none => w.attend ref job f
      | some x => ((w.attend ref job f).deliver x.1 x.2).1 := by
  obtain ⟨k, v⟩ := f
  cases k with
  | submit t =>
    cases v with
    | ready | failed => rfl
    | cancelled => exact withdraw_fst w t
  | callback | observer => cases v <;> rfl

theorem change_eq (w : Workflow) (c : Change) :
    w.change c = match w.delivery? c with
      | none => w.besides c
      | some d => ((w.besides c).deliver d.task d.event).1 := by
  cases c with
  | request ref r =>
    show (w.strike ref r).1 = _
    cases hb : w.barrier? ref with
    | none =>
      rw [strike_none hb]
      simp only [delivery?, firing?, besides, hb, Option.bind_none, Option.map_none]
    | some b =>
      cases hf : (b.ask r).2.2 with
      | none =>
        rw [strike_of_silent hb hf]
        simp only [delivery?, firing?, besides, hb, hf, Option.bind_some, Option.bind_none, Option.map_none]
      | some f =>
        -- the barrier changes first, and the tasks are as before when the continuation looks at them
        have hh : (w.setBarrier ref (b.ask r).1).handed f = w.handed f := rfl
        rw [strike_of_firing hb hf, call_fst, hh]
        simp only [delivery?, firing?, besides, hb, hf, Option.bind_some]
        cases w.handed f <;> rfl
  | addTask | addBarrier | link | release | event | directory | feed => rfl

/-! ### What a change does besides -/

private theorem tasks_attend (w : Workflow) (ref : BarrierRef) (job : JobId) (f : Firing Continuation) :
    (w.attend ref job f).tasks = w.tasks ∧ (w.attend ref job f).directory = w.directory ∧
      (w.attend ref job f).feed = w.feed := by
  obtain ⟨k, v⟩ := f
  cases k with
  | submit t => exact ⟨rfl, rfl, rfl⟩
  | callback => cases v <;> exact ⟨rfl, rfl, rfl⟩
  | observer requests =>
    simp only [attend, call, observe]
    cases w.barrier? ref <;> exact ⟨rfl, rfl, rfl⟩

/-- A request concerns barriers and calls, until an event is handed over. -/
theorem besides_request (w : Workflow) (ref : BarrierRef) (r : BarrierRequest) :
    (w.besides (.request ref r)).tasks = w.tasks ∧ (w.besides (.request ref r)).directory = w.directory ∧
      (w.besides (.request ref r)).feed = w.feed := by
  cases hb : w.barrier? ref with
  | none => simp only [besides, hb, and_self]
  | some b =>
    cases hf : (b.ask r).2.2 with
    | none =>
      simp only [besides, hb, hf]
      exact ⟨rfl, rfl, rfl⟩
    | some f =>
      simp only [besides, hb, hf]
      exact tasks_attend _ ref b.job f

/-- What a change does besides attaches barriers to tasks and takes them off, and brings new tasks. -/
theorem task?_besides_of_some {ref : TaskRef} {t : MonitoredTask} (h : w.task? ref = some t) (c : Change) :
    ∃ barrier, (w.besides c).task? ref = some { t with barrier := barrier } := by
  cases c with
  | request b r =>
    have hb : (w.besides (.request b r)).task? ref = w.task? ref := by
      rw [task?, (w.besides_request b r).1, task?]
    exact ⟨t.barrier, hb.trans h⟩
  | addTask id core metered recorded =>
    have hlt : ref.index < w.tasks.length := (List.getElem?_eq_some_iff.1 h).1
    refine ⟨t.barrier, ?_⟩
    show (w.addTask (.start id core metered recorded)).1.task? ref = some t
    rw [task?_addTask, if_neg (Nat.ne_of_lt hlt), h]
  | link other barrier =>
    show ∃ b, (w.link other barrier).task? ref = some { t with barrier := b }
    cases ho : w.task? other with
    | none => exact ⟨t.barrier, by rw [link, ho]; exact h⟩
    | some t' =>
      rw [link, ho]
      by_cases hr : other = ref
      · subst hr
        obtain rfl : t = t' := Option.some.inj (h.symm.trans ho)
        exact ⟨barrier, task?_setTask h _⟩
      · exact ⟨t.barrier, (task?_setTask_of_ne hr _).trans h⟩
  | addBarrier | release | event | directory | feed => exact ⟨t.barrier, h⟩

theorem task?_besides_of_none {ref : TaskRef} (h : w.task? ref = none) (c : Change) :
    (w.besides c).task? ref = none ∨
      ∃ id core metered recorded, (w.besides c).task? ref = some (.start id core metered recorded) := by
  cases c with
  | request b r =>
    left
    rw [task?, (w.besides_request b r).1]
    exact h
  | addTask id core metered recorded =>
    have ha : (w.besides (.addTask id core metered recorded)).task? ref =
        if ref.index = w.tasks.length then some (.start id core metered recorded) else w.task? ref :=
      task?_addTask w _ ref
    by_cases hr : ref.index = w.tasks.length
    · rw [if_pos hr] at ha
      exact Or.inr ⟨id, core, metered, recorded, ha⟩
    · rw [if_neg hr, h] at ha
      exact Or.inl ha
  | link other barrier =>
    left
    show (w.link other barrier).task? ref = none
    cases ho : w.task? other with
    | none => rw [link, ho, h]
    | some t =>
      have hr : other ≠ ref := by
        rintro rfl
        rw [h] at ho
        exact absurd ho (by simp)
      rw [link, ho, task?_setTask_of_ne hr, h]
  | addBarrier | release | event | directory | feed => exact Or.inl h

/-- A sum over the tasks stays as it is where a new task adds nothing and attached barriers make no difference. -/
theorem sum_besides (w : Workflow) (c : Change) {f : MonitoredTask → Nat}
    (hstart : ∀ task core metered recorded, f (.start task core metered recorded) = 0)
    (hlink : ∀ t barrier, f { t with barrier := barrier } = f t) :
    ((w.besides c).tasks.map f).sum = (w.tasks.map f).sum := by
  cases c with
  | request ref r => rw [(w.besides_request ref r).1]
  | addTask task core metered recorded =>
    show ((w.tasks ++ [_]).map f).sum = _
    rw [List.map_append, List.sum_append, List.map_singleton, List.sum_singleton, hstart, Nat.add_zero]
  | link ref barrier =>
    show ((w.link ref barrier).tasks.map f).sum = _
    cases h : w.task? ref with
    | none => rw [link, h]
    | some t =>
      have hsum := sum_set_add f h { t with barrier := barrier }
      rw [hlink t barrier] at hsum
      rw [link, h]
      exact Nat.add_right_cancel hsum
  | addBarrier | release | event | directory | feed => rfl

/-! ### Lists of deliveries -/

/-- What no barrier hands over comes from outside. -/
theorem eq_event_of_source {c : Change} {d : Delivery} (h : w.delivery? c = some d) (hs : d.source = none) :
    c = .event d.task d.event := by
  cases c with
  | event t e =>
    obtain rfl := Option.some.inj h
    rfl
  | request ref r =>
    obtain ⟨x, -, rfl⟩ := Option.map_eq_some_iff.1 h
    exact absurd hs (by simp)
  | addTask | addBarrier | link | release | directory | feed => exact absurd h (by simp [delivery?])

def deliveries (w : Workflow) : List Change → List Delivery
  | [] => []
  | c :: rest => (w.delivery? c).toList ++ (w.change c).deliveries rest

theorem mem_deliveries {log : List Change} {d : Delivery} (h : d ∈ w.deliveries log) :
    ∃ pre c post, log = pre ++ c :: post ∧ (w.replay pre).delivery? c = some d := by
  induction log generalizing w with
  | nil => simp [deliveries] at h
  | cons c log ih =>
    rcases List.mem_append.1 h with h | h
    · exact ⟨[], c, log, rfl, Option.mem_toList.1 h⟩
    · obtain ⟨pre, c', post, rfl, hd⟩ := ih h
      exact ⟨c :: pre, c', post, rfl, hd⟩

/-! ### Attempts -/

/-- How often a task has been submitted; nothing has been submitted of a task that does not exist. -/
def attempts (w : Workflow) (t : TaskRef) : Nat :=
  ((w.task? t).map fun task => task.lifecycle.attempts).getD 0

private theorem accepts_of_tasks_eq {w' : Workflow} (h : w'.tasks = w.tasks) (t : TaskRef) (e : Event) :
    w'.accepts t e = w.accepts t e := by
  rw [accepts, accepts, task?, task?, h]

private theorem attempts_deliver (w : Workflow) (ref : TaskRef) (e : Event) (source : Option BarrierRef)
    (t : TaskRef) : (w.deliver ref e).1.attempts t =
      w.attempts t + if Delivery.submits t ⟨source, ref, e, w.accepts ref e⟩ then 1 else 0 := by
  cases h : w.task? ref with
  | none => simp [deliver_of_none h, Delivery.submits, accepts, h]
  | some task =>
    by_cases ht : ref = t
    · subst ht
      have hs := Lifecycle.step_apply task.lifecycle e
      rw [attempts, task?_deliver h, attempts, h]
      rcases ha : task.lifecycle.apply e with ⟨l, r | effect⟩
      · rw [ha] at hs
        have hl : l = task.lifecycle := hs.of_error
        simp [MonitoredTask.after, ha, Delivery.submits, accepts, h, hl]
      · rw [ha] at hs
        have hl : l.attempts = task.lifecycle.attempts + if e.isSubmission then 1 else 0 := hs.attempts_eq
        simp [MonitoredTask.after, ha, Delivery.submits, accepts, h, hl]
    · have hother : (w.deliver ref e).1.task? t = w.task? t := task?_deliver_of_ne e ht
      rw [attempts, hother, attempts]
      simp [Delivery.submits, ht]

private theorem attempts_besides (w : Workflow) (c : Change) (t : TaskRef) :
    (w.besides c).attempts t = w.attempts t := by
  cases h : w.task? t with
  | some task =>
    obtain ⟨barrier, hb⟩ := task?_besides_of_some h c
    rw [attempts, attempts, hb, h]
    rfl
  | none =>
    -- a new task has not been submitted
    rw [attempts, attempts, h]
    rcases task?_besides_of_none h c with hb | ⟨id, core, metered, recorded, hb⟩
    · rw [hb]
    · rw [hb]
      rfl

theorem delivery?_eq {c : Change} {d : Delivery} (h : w.delivery? c = some d) :
    (w.besides c).tasks = w.tasks ∧ d = ⟨d.source, d.task, d.event, w.accepts d.task d.event⟩ := by
  cases c with
  | event t e =>
    obtain rfl := Option.some.inj h
    exact ⟨rfl, rfl⟩
  | request ref r =>
    obtain ⟨x, -, rfl⟩ := Option.map_eq_some_iff.1 h
    exact ⟨(w.besides_request ref r).1, rfl⟩
  | addTask | addBarrier | link | release | directory | feed => simp [delivery?] at h

theorem attempts_change (w : Workflow) (c : Change) (t : TaskRef) :
    (w.change c).attempts t = w.attempts t + (w.delivery? c).toList.countP (Delivery.submits t) := by
  rw [change_eq]
  cases hd : w.delivery? c with
  | none => exact w.attempts_besides c t
  | some d =>
    obtain ⟨hb, hd⟩ := delivery?_eq hd
    have ha := attempts_deliver (w.besides c) d.task d.event d.source t
    rw [accepts_of_tasks_eq hb, ← hd, w.attempts_besides c t] at ha
    rw [ha, Option.toList_some, List.countP_singleton]

theorem attempts_replay (w : Workflow) (log : List Change) (t : TaskRef) :
    (w.replay log).attempts t = w.attempts t + (w.deliveries log).countP (Delivery.submits t) := by
  induction log generalizing w with
  | nil => rfl
  | cons c log ih => rw [replay, ih, attempts_change, deliveries, List.countP_append, Nat.add_assoc]

end Workflow

end TaskCoordination
