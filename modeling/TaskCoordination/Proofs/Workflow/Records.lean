import Mathlib.Algebra.Order.BigOperators.Group.List
import Mathlib.Algebra.Order.Group.Nat
import TaskCoordination.Proofs.Lifecycle.Outcome
import TaskCoordination.Proofs.Workflow.Delivery

/-!
# The records of a workflow

The changes of a workflow make records, one for each accepted event of a recorded task (`records`). A feed keeps no
others (`kept_replay`). The records settle what comes of an attempt (`Settles`): one that has begun owes an outcome,
and a schedule makes another one due. So the records of its outcomes are at most as many as the tasks that go by the
identifier and the records of schedules together (`outcomes_replay`).
-/

namespace TaskCoordination

def outcomeNames : List String :=
  ["successful_execution", "aborted_execution", "error_execution", "failed_execution", "exception"]

theorem Event.contains_name (e : Event) : outcomeNames.contains e.name = e.isOutcome := by
  cases e <;> rfl

theorem Event.name_eq_schedule_iff (e : Event) : e.name = "schedule" ↔ e.target? = some .scheduled := by
  cases e <;> simp [name, target?]

namespace LifecycleRecord

/-- The record of an outcome of an attempt. -/
def isOutcomeOf (id : TaskId) (n : Nat) (r : LifecycleRecord) : Bool :=
  r.task = id && r.attempt = n && outcomeNames.contains r.event

/-- The record of a schedule that comes after an attempt, or within it. -/
def isScheduleOf (id : TaskId) (n : Nat) (r : LifecycleRecord) : Bool :=
  r.task = id && r.attempt = n && r.event = "schedule"

end LifecycleRecord

namespace MonitoredTask

variable {id : TaskId} {n : Nat} {t : MonitoredTask}

private theorem isOutcomeOf_record (h : t.lifecycle.task = id) (e : Event) (effect : Effect) :
    (t.record e).isOutcomeOf id n = Acceptance.reports n ⟨e, t.lifecycle.attempts, effect⟩ := by
  rw [LifecycleRecord.isOutcomeOf, Acceptance.reports, ← e.contains_name]
  simp [record, h]

private theorem isScheduleOf_record (h : t.lifecycle.task = id) (e : Event) (effect : Effect) :
    (t.record e).isScheduleOf id n = Acceptance.schedules n ⟨e, t.lifecycle.attempts, effect⟩ := by
  simp [record, h, LifecycleRecord.isScheduleOf, Acceptance.schedules, e.name_eq_schedule_iff]

/-- The task makes records under the identifier. -/
def isRecordedAs (id : TaskId) (t : MonitoredTask) : Bool :=
  t.recorded && t.lifecycle.task = id

/-- An attempt of the task that is open, or an outcome that it can report all the same. -/
def dues (id : TaskId) (n : Nat) (t : MonitoredTask) : Nat :=
  if t.isRecordedAs id then t.lifecycle.owing n + t.lifecycle.holding n else 0

def begun (id : TaskId) (n : Nat) (t : MonitoredTask) : Nat :=
  if t.isRecordedAs id then t.lifecycle.started n else 0

theorem isRecordedAs_after (t : MonitoredTask) (e : Event) (id : TaskId) :
    (t.after e).isRecordedAs id = t.isRecordedAs id := by
  obtain ⟨hl, -, -, hr⟩ := t.after_eq e
  rw [isRecordedAs, isRecordedAs, hr, hl, (Lifecycle.step_apply t.lifecycle e).task_eq]

/-- A record carries the identifier of its task. -/
private theorem isRecordedAs_of_isOutcomeOf (h : t.recorded = true) {e : Event}
    (ho : ((t.after e).record e).isOutcomeOf id n = true) : t.isRecordedAs id = true := by
  simp only [LifecycleRecord.isOutcomeOf, Bool.and_eq_true, decide_eq_true_eq] at ho
  have hid : (t.after e).lifecycle.task = id := ho.1.1
  rw [← t.isRecordedAs_after e, isRecordedAs, (t.after_eq e).2.2.2, h, hid]
  simp

end MonitoredTask

namespace Workflow

variable {w : Workflow}

/-- The record that an event makes at a task. -/
def record? (w : Workflow) (ref : TaskRef) (e : Event) : Option LifecycleRecord :=
  match w.task? ref with
  | none => none
  | some t => if t.recorded && w.accepts ref e then some ((t.after e).record e) else none

/-- The record that a change makes. -/
def recordOf? (w : Workflow) (c : Change) : Option LifecycleRecord :=
  (w.delivery? c).bind fun d => w.record? d.task d.event

/-- The records that the changes make, in their order. -/
def records (w : Workflow) : List Change → List LifecycleRecord
  | [] => []
  | c :: rest => (w.recordOf? c).toList ++ (w.change c).records rest

theorem record?_of_error {ref : TaskRef} {t : MonitoredTask} (h : w.task? ref = some t) {e : Event} {l : Lifecycle}
    {r : Rejection} (ha : t.lifecycle.apply e = (l, .error r)) : w.record? ref e = none := by
  simp [record?, accepts, h, ha]

theorem record?_of_ok {ref : TaskRef} {t : MonitoredTask} (h : w.task? ref = some t) {e : Event} {l : Lifecycle}
    {effect : Effect} (ha : t.lifecycle.apply e = (l, .ok effect)) :
    w.record? ref e = if t.recorded then some ((t.after e).record e) else none := by
  simp [record?, accepts, h, ha]

theorem record?_besides {c : Change} {d : Delivery} (h : w.delivery? c = some d) :
    (w.besides c).record? d.task d.event = w.record? d.task d.event := by
  rw [record?, record?, accepts, accepts, task?, task?, (delivery?_eq h).1]

/-! ### The feed -/

private theorem feed_deliver_eq (w : Workflow) (ref : TaskRef) (e : Event) :
    (w.deliver ref e).1.feed = (w.record? ref e).elim w.feed fun r => (w.feed.offer r).1 := by
  cases ht : w.task? ref with
  | none =>
    rw [deliver_of_none ht, record?, ht]
    rfl
  | some t =>
    rcases ha : t.lifecycle.apply e with ⟨l, r | effect⟩
    · rw [(deliver_of_rejection ht ha).2, record?_of_error ht ha]
      rfl
    · rw [feed_deliver ht ha, record?_of_ok ht ha]
      cases t.recorded <;> rfl

/-- The feed is offered the record of a change, and nothing else happens to it. -/
theorem feed_change (w : Workflow) {c : Change} (hc : ∀ a, c ≠ .feed a) :
    (w.change c).feed = (w.recordOf? c).elim w.feed fun r => (w.feed.offer r).1 := by
  have hb : (w.besides c).feed = w.feed := by
    cases c with
    | request ref r => exact (w.besides_request ref r).2.2
    | link ref barrier => exact (w.link_keeps ref barrier).2.2
    | feed a => exact absurd rfl (hc a)
    | addTask | addBarrier | release | event | directory => rfl
  rw [change_eq, recordOf?]
  cases hd : w.delivery? c with
  | none => exact hb
  | some d =>
    have hf := (w.besides c).feed_deliver_eq d.task d.event
    rwa [record?_besides hd, hb] at hf

theorem kept_change (w : Workflow) {c : Change} (hc : ∀ r, c ≠ .feed (.offer r)) :
    (w.change c).feed.kept.Sublist (w.feed.kept ++ (w.recordOf? c).toList) := by
  by_cases hf : ∃ a, c = .feed a
  · obtain ⟨a, rfl⟩ := hf
    have ha := w.feed.kept_act fun r hr => hc r (congrArg Change.feed hr)
    exact ha.trans (List.sublist_append_left _ _)
  · rw [w.feed_change fun a ha => hf ⟨a, ha⟩]
    cases w.recordOf? c with
    | none => exact List.sublist_append_left _ _
    | some r => exact w.feed.kept_offer r

/-- A feed keeps no records but those of the changes, as long as nobody else offers any. -/
theorem kept_replay {log : List Change} (hlog : ∀ c ∈ log, ∀ r, c ≠ .feed (.offer r)) :
    (w.replay log).feed.kept.Sublist (w.feed.kept ++ w.records log) := by
  induction log generalizing w with
  | nil => exact List.sublist_append_left _ _
  | cons c log ih =>
    obtain ⟨hc, hlog⟩ := List.forall_mem_cons.1 hlog
    rw [records, ← List.append_assoc]
    exact (ih hlog).trans (List.Sublist.append_right (w.kept_change hc) _)

/-! ### Outcomes and schedules -/

variable (id : TaskId) (n : Nat)

def dues (w : Workflow) : Nat :=
  (w.tasks.map (MonitoredTask.dues id n)).sum

def begun (w : Workflow) : Nat :=
  (w.tasks.map (MonitoredTask.begun id n)).sum

/-- The records that lead from one workflow to the other have outcomes only where attempts have begun, where an
outcome was due, and after schedules. -/
def Settles (w : Workflow) (rs : List LifecycleRecord) (w' : Workflow) : Prop :=
  rs.countP (LifecycleRecord.isOutcomeOf id n) + w'.dues id n + w.begun id n ≤
    rs.countP (LifecycleRecord.isScheduleOf id n) + w.dues id n + w'.begun id n

theorem Settles.refl (w : Workflow) : w.Settles id n [] w :=
  Nat.le_refl _

variable {id n}

theorem Settles.trans {w' w'' : Workflow} {rs rs' : List LifecycleRecord} (h : w.Settles id n rs w')
    (h' : w'.Settles id n rs' w'') : w.Settles id n (rs ++ rs') w'' := by
  unfold Settles at *
  rw [List.countP_append, List.countP_append]
  omega

variable (id n)

theorem settles_deliver (w : Workflow) (ref : TaskRef) (e : Event) :
    w.Settles id n (w.record? ref e).toList (w.deliver ref e).1 := by
  cases ht : w.task? ref with
  | none =>
    rw [deliver_of_none ht, record?, ht]
    exact .refl id n w
  | some t =>
    have hdues := sum_set_add (MonitoredTask.dues id n) ht (t.after e)
    have hbegun := sum_set_add (MonitoredTask.begun id n) ht (t.after e)
    rw [← tasks_deliver ht] at hdues hbegun
    rw [MonitoredTask.dues, MonitoredTask.dues, t.isRecordedAs_after, (t.after_eq e).1] at hdues
    rw [MonitoredTask.begun, MonitoredTask.begun, t.isRecordedAs_after, (t.after_eq e).1] at hbegun
    unfold Settles dues begun
    have hs := Lifecycle.step_apply t.lifecycle e
    rcases ha : t.lifecycle.apply e with ⟨l, r | effect⟩
    · rw [ha] at hs hdues hbegun
      obtain rfl : l = t.lifecycle := hs.of_error
      dsimp only at hdues hbegun
      rw [record?_of_error ht ha]
      simp only [Option.toList_none, List.countP_nil]
      omega
    · rw [ha] at hs hdues hbegun
      dsimp only at hs hdues hbegun
      have hl : (t.after e).lifecycle = l := by rw [(t.after_eq e).1, ha]
      rw [record?_of_ok ht ha]
      cases hrecorded : t.isRecordedAs id with
      | false =>
        -- whatever record there is, it tells of another task
        have hnone : (if t.recorded then some ((t.after e).record e) else none).toList.countP
            (LifecycleRecord.isOutcomeOf id n) = 0 := by
          rw [List.countP_eq_zero]
          intro r hr ho
          cases hr' : t.recorded with
          | false => exact absurd hr (by simp [hr'])
          | true =>
            obtain rfl : (t.after e).record e = r := by simpa [hr', eq_comm] using hr
            exact absurd (MonitoredTask.isRecordedAs_of_isOutcomeOf hr' ho) (by simp [hrecorded])
        simp only [hrecorded, Bool.false_eq_true, if_false] at hdues hbegun
        omega
      | true =>
        obtain ⟨hr, hid⟩ := Bool.and_eq_true_iff.1 hrecorded
        have hid : (t.after e).lifecycle.task = id := by rw [hl, hs.task_eq, of_decide_eq_true hid]
        have hb := Lifecycle.outcome_balance n hs
        rw [if_pos hr, Option.toList_some, List.countP_singleton, List.countP_singleton,
          MonitoredTask.isOutcomeOf_record hid e effect, MonitoredTask.isScheduleOf_record hid e effect, hl]
        simp only [hrecorded, if_true] at hdues hbegun
        omega

/-! ### Changes -/

private theorem dues_besides (w : Workflow) (c : Change) : (w.besides c).dues id (n + 1) = w.dues id (n + 1) := by
  refine w.sum_besides c ?_ fun _ _ => rfl
  intro task core metered recorded
  simp [MonitoredTask.dues, MonitoredTask.start, Lifecycle.owing, Lifecycle.holding, Lifecycle.start]

private theorem begun_besides (w : Workflow) (c : Change) : (w.besides c).begun id (n + 1) = w.begun id (n + 1) := by
  refine w.sum_besides c ?_ fun _ _ => rfl
  intro task core metered recorded
  simp [MonitoredTask.begun, MonitoredTask.start, Lifecycle.started, Lifecycle.start]

theorem settles_change (w : Workflow) (c : Change) : w.Settles id (n + 1) (w.recordOf? c).toList (w.change c) := by
  have hb : w.Settles id (n + 1) [] (w.besides c) := by
    rw [Settles, dues_besides, begun_besides]
    exact Nat.le_refl _
  rw [change_eq, recordOf?]
  cases hd : w.delivery? c with
  | none => exact hb
  | some d =>
    have h := hb.trans (settles_deliver id (n + 1) (w.besides c) d.task d.event)
    rwa [record?_besides hd] at h

theorem settles_replay (w : Workflow) (log : List Change) : w.Settles id (n + 1) (w.records log) (w.replay log) := by
  induction log generalizing w with
  | nil => exact .refl id (n + 1) w
  | cons c log ih => exact (w.settles_change id n c).trans (ih (w.change c))

/-- An attempt begins once at most in each task. -/
theorem begun_le (w : Workflow) : w.begun id n ≤ w.tasks.countP (MonitoredTask.isRecordedAs id) := by
  rw [begun, countP_eq_sum]
  refine List.sum_le_sum fun t _ => ?_
  unfold MonitoredTask.begun Lifecycle.started
  split
  · split <;> omega
  · exact Nat.le_refl _

/-- In a workflow that starts without tasks, the outcomes of an attempt are at most as many as the tasks that make
records under the identifier and the schedules of the attempt together. -/
theorem outcomes_replay (h : w.tasks = []) (log : List Change) :
    (w.records log).countP (LifecycleRecord.isOutcomeOf id (n + 1)) ≤
      (w.replay log).tasks.countP (MonitoredTask.isRecordedAs id) +
        (w.records log).countP (LifecycleRecord.isScheduleOf id (n + 1)) := by
  have hb : _ ≤ _ := w.settles_replay id n log
  have hbegun := (w.replay log).begun_le id (n + 1)
  have hdues : w.dues id (n + 1) = 0 := by
    rw [dues, h]
    rfl
  omega

end Workflow

end TaskCoordination
