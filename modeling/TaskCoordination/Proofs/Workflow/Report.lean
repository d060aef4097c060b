import TaskCoordination.Proofs.Workflow.Records

/-!
# Reports

A task reports an event that it has accepted with a record, and the feed has room for the record or not (`Report`).
The record tells of the task as the event has left it (`tells_of_report?`). So the states in the reports of a task
are its history, those aside that tell of a generated value (`entries_reports`).
-/

namespace TaskCoordination

theorem Event.name_eq_valueGenerated_iff (e : Event) : e.name = "value_generated" ↔ e.target? = none := by
  cases e <;> simp [name, target?]

theorem Event.value?_eq_some_iff (e : Event) (v : Nat × GeneratedValue) :
    e.value? = some v ↔ e = .valueGenerated v.1 v.2 := by
  cases e <;> simp [value?, Prod.ext_iff]

/-- The record of a state that a task has entered; only the records of generated values are others. -/
def LifecycleRecord.isEntry (r : LifecycleRecord) : Bool :=
  r.event != "value_generated"

theorem MonitoredTask.isEntry_record (t : MonitoredTask) (e : Event) : (t.record e).isEntry = e.target?.isSome := by
  have hn := e.name_eq_valueGenerated_iff
  cases ht : e.target? with
  | none => simp [LifecycleRecord.isEntry, record, hn.2 ht]
  | some target =>
    have hne : e.name ≠ "value_generated" := fun h => by simp [hn.1 h] at ht
    simp [LifecycleRecord.isEntry, record, hne]

/-- The record that a task makes of an event, and whether the feed takes it. -/
structure Report where
  task : TaskRef
  record : LifecycleRecord
  isTaken : Bool

namespace Report

/-- The report tells of an accepted event and of the task after it, which has been submitted so many times. -/
structure Tells (x : Report) (d : Delivery) (t : MonitoredTask) (submissions : Nat) : Prop where
  accepted : d.accepted = true
  task : x.task = d.task
  id : x.record.task = t.lifecycle.task
  core : x.record.core = t.core
  event : x.record.event = d.event.name
  state : x.record.state = t.state
  attempt : x.record.attempt = submissions
  value : ∀ v, x.record.value = some v ↔ d.event = .valueGenerated v.1 v.2

/-- The states that a task reports to have entered. -/
def entries (ref : TaskRef) (xs : List Report) : List State :=
  (xs.filter fun x => x.task = ref && x.record.isEntry).map fun x => x.record.state

theorem entries_append (ref : TaskRef) (xs ys : List Report) :
    entries ref (xs ++ ys) = entries ref xs ++ entries ref ys := by
  rw [entries, List.filter_append, List.map_append, entries, entries]

/-- An event that leads to a state makes an entry. -/
theorem entries_record (ref : TaskRef) (t : MonitoredTask) (e : Event) (taken : Bool) :
    entries ref [⟨ref, t.record e, taken⟩] = (e.target?.map fun _ => t.state).toList := by
  cases ht : e.target? with
  | none =>
    have he : (t.record e).isEntry = false := by rw [t.isEntry_record, ht]; rfl
    simp [entries, he]
  | some target =>
    have he : (t.record e).isEntry = true := by rw [t.isEntry_record, ht]; rfl
    have hs : (t.record e).state = t.state := rfl
    simp [entries, he, hs]

end Report

namespace Workflow

variable {w : Workflow} {ref : TaskRef}

/-- What single changes bring forth, for a list of changes in turn. -/
def collect {α : Type} (f : Workflow → Change → List α) (w : Workflow) : List Change → List α
  | [] => []
  | c :: rest => f w c ++ collect f (w.change c) rest

theorem collect_append {α : Type} (f : Workflow → Change → List α) (w : Workflow) (log log' : List Change) :
    collect f w (log ++ log') = collect f w log ++ collect f (w.replay log) log' := by
  induction log generalizing w with
  | nil => rfl
  | cons c log ih => rw [List.cons_append, collect, ih, collect, List.append_assoc, replay]

theorem collect_concat {α : Type} (f : Workflow → Change → List α) (w : Workflow) (log : List Change) (c : Change) :
    collect f w (log ++ [c]) = collect f w log ++ f (w.replay log) c := by
  rw [collect_append, collect, collect, List.append_nil]

theorem mem_collect {α : Type} {f : Workflow → Change → List α} {log : List Change} {a : α}
    (h : a ∈ collect f w log) : ∃ pre c post, log = pre ++ c :: post ∧ a ∈ f (w.replay pre) c := by
  induction log generalizing w with
  | nil => exact absurd h (by simp [collect])
  | cons c log ih =>
    rcases List.mem_append.1 h with h | h
    · exact ⟨[], c, log, rfl, h⟩
    · obtain ⟨pre, c', post, rfl, ha⟩ := ih h
      exact ⟨c :: pre, c', post, rfl, ha⟩

def report? (w : Workflow) (c : Change) : Option Report :=
  (w.delivery? c).bind fun d => (w.record? d.task d.event).map fun r => ⟨d.task, r, (w.feed.offer r).2⟩

/-- The reports of the changes, in their order. -/
def reports (w : Workflow) (log : List Change) : List Report :=
  w.collect (fun w c => (w.report? c).toList) log

theorem map_report? (w : Workflow) (c : Change) : (w.report? c).map Report.record = w.recordOf? c := by
  rw [report?, recordOf?]
  cases w.delivery? c with
  | none => rfl
  | some d => cases h : w.record? d.task d.event <;> simp [h]

/-! ### What a report tells -/

private theorem record?_eq_some_iff {e : Event} {r : LifecycleRecord} :
    w.record? ref e = some r ↔
      w.accepts ref e = true ∧ ∃ t, w.task? ref = some t ∧ t.recorded = true ∧ (t.after e).record e = r := by
  cases ht : w.task? ref with
  | none => simp [record?, ht]
  | some t =>
    simp only [record?, ht, Option.some.injEq, exists_eq_left']
    cases t.recorded <;> cases w.accepts ref e <;> simp

/-- There is a report of every accepted event of a recorded task, and of no other. -/
theorem report?_eq_some_iff {c : Change} {x : Report} : w.report? c = some x ↔
    ∃ d t, w.delivery? c = some d ∧ d.accepted = true ∧ w.task? d.task = some t ∧ t.recorded = true ∧
      x = ⟨d.task, (t.after d.event).record d.event, (w.feed.offer ((t.after d.event).record d.event)).2⟩ := by
  have haccepted : ∀ {d}, w.delivery? c = some d → d.accepted = w.accepts d.task d.event :=
    fun hd => congrArg Delivery.accepted (delivery?_eq hd).2
  constructor
  · intro h
    obtain ⟨d, hd, h⟩ := Option.bind_eq_some_iff.1 h
    obtain ⟨r, hr, rfl⟩ := Option.map_eq_some_iff.1 h
    obtain ⟨ha, t, ht, hrecorded, rfl⟩ := record?_eq_some_iff.1 hr
    exact ⟨d, t, hd, (haccepted hd).trans ha, ht, hrecorded, rfl⟩
  · rintro ⟨d, t, hd, ha, ht, hrecorded, rfl⟩
    have hr := record?_eq_some_iff.2 ⟨(haccepted hd).symm.trans ha, t, ht, hrecorded, rfl⟩
    rw [report?, hd, Option.bind_some, hr]
    rfl

theorem isSome_report?_iff {c : Change} : (w.report? c).isSome = true ↔
    ∃ d t, w.delivery? c = some d ∧ d.accepted = true ∧ w.task? d.task = some t ∧ t.recorded = true := by
  rw [Option.isSome_iff_exists]
  constructor
  · rintro ⟨x, hx⟩
    obtain ⟨d, t, hd, ha, ht, hr, -⟩ := report?_eq_some_iff.1 hx
    exact ⟨d, t, hd, ha, ht, hr⟩
  · rintro ⟨d, t, hd, ha, ht, hr⟩
    exact ⟨_, report?_eq_some_iff.2 ⟨d, t, hd, ha, ht, hr, rfl⟩⟩

/-- The task that an event has reached. -/
private theorem task?_change_of_delivery {c : Change} {d : Delivery} (hd : w.delivery? c = some d) {t : MonitoredTask}
    (ht : w.task? d.task = some t) : (w.change c).task? d.task = some (t.after d.event) := by
  have hb : (w.besides c).task? d.task = some t := by
    rw [task?, (delivery?_eq hd).1]
    exact ht
  rw [change_eq, hd]
  exact task?_deliver hb d.event

theorem tells_of_report? {c : Change} {x : Report} (h : w.report? c = some x) :
    ∃ d t, w.delivery? c = some d ∧ (w.change c).task? d.task = some t ∧ t.recorded = true ∧
      x.Tells d t ((w.change c).attempts d.task) := by
  obtain ⟨d, t, hd, ha, ht, hr, rfl⟩ := report?_eq_some_iff.1 h
  have ht' := task?_change_of_delivery hd ht
  have hattempts : (w.change c).attempts d.task = (t.after d.event).lifecycle.attempts := by
    rw [attempts, ht']
    rfl
  have hr' : (t.after d.event).recorded = true := by rw [(t.after_eq d.event).2.2.2, hr]
  exact ⟨d, t.after d.event, hd, ht', hr', ha, rfl, rfl, rfl, rfl, rfl, hattempts.symm, d.event.value?_eq_some_iff⟩

/-- In a workflow that starts without tasks, a record gives the number of submissions that its task has accepted. -/
theorem tells_of_report?_replay (h : w.tasks = []) {pre : List Change} {c : Change} {x : Report}
    (hx : (w.replay pre).report? c = some x) :
    ∃ d t, (w.replay pre).delivery? c = some d ∧ ((w.replay pre).change c).task? d.task = some t ∧
      x.Tells d t ((w.deliveries (pre ++ [c])).countP (Delivery.submits d.task)) := by
  obtain ⟨d, t, hd, ht, -, htells⟩ := tells_of_report? hx
  have hzero : w.attempts d.task = 0 := by simp [attempts, task?, h]
  have hattempts := w.attempts_replay (pre ++ [c]) d.task
  rw [hzero, Nat.zero_add, replay_concat] at hattempts
  rw [hattempts] at htells
  exact ⟨d, t, hd, ht, htells⟩

/-! ### The tasks of reports -/

/-- A task stays, with its identifier and its records. -/
theorem task?_change_of_some {t : MonitoredTask} (h : w.task? ref = some t) (c : Change) :
    ∃ t', (w.change c).task? ref = some t' ∧ t'.lifecycle.task = t.lifecycle.task ∧ t'.recorded = t.recorded := by
  obtain ⟨barrier, hb⟩ := task?_besides_of_some h c
  rw [change_eq]
  cases hd : w.delivery? c with
  | none => exact ⟨_, hb, rfl, rfl⟩
  | some d =>
    dsimp only
    by_cases hr : d.task = ref
    · subst hr
      obtain ⟨hl, -, -, hrecorded⟩ := MonitoredTask.after_eq { t with barrier := barrier } d.event
      refine ⟨_, task?_deliver hb d.event, ?_, hrecorded⟩
      rw [hl]
      exact (Lifecycle.step_apply t.lifecycle d.event).task_eq
    · exact ⟨_, (task?_deliver_of_ne d.event hr).trans hb, rfl, rfl⟩

theorem task?_replay_of_some {t : MonitoredTask} (h : w.task? ref = some t) (log : List Change) :
    ∃ t', (w.replay log).task? ref = some t' ∧ t'.lifecycle.task = t.lifecycle.task ∧ t'.recorded = t.recorded := by
  induction log generalizing w t with
  | nil => exact ⟨t, h, rfl, rfl⟩
  | cons c log ih =>
    obtain ⟨t', ht', hid, hr⟩ := task?_change_of_some h c
    obtain ⟨t'', ht'', hid', hr'⟩ := ih ht'
    exact ⟨t'', ht'', hid'.trans hid, hr'.trans hr⟩

/-- Whoever has made a report is there, with the identifier that the report gives. -/
theorem task?_of_mem_reports {log : List Change} {x : Report} (h : x ∈ w.reports log) :
    ∃ t, (w.replay log).task? x.task = some t ∧ t.recorded = true ∧ t.lifecycle.task = x.record.task := by
  obtain ⟨pre, c, post, rfl, hx⟩ := mem_collect h
  obtain ⟨d, t, -, ht, hr, htells⟩ := tells_of_report? (Option.mem_toList.1 hx)
  obtain ⟨t', ht', hid, hr'⟩ := task?_replay_of_some ht post
  rw [replay_append, htells.task]
  exact ⟨t', ht', hr'.trans hr, hid.trans htells.id.symm⟩

/-! ### Histories -/

/-- The history of a task that makes records. -/
def recordedHistory (w : Workflow) (ref : TaskRef) : List State :=
  match w.task? ref with
  | some t => if t.recorded then t.lifecycle.history else []
  | none => []

private theorem recordedHistory_congr {w' : Workflow} (h : w'.task? ref = w.task? ref) :
    w'.recordedHistory ref = w.recordedHistory ref := by
  rw [recordedHistory, recordedHistory, h]

private theorem recordedHistory_besides (w : Workflow) (c : Change) (ref : TaskRef) :
    (w.besides c).recordedHistory ref = w.recordedHistory ref := by
  cases h : w.task? ref with
  | some t =>
    obtain ⟨barrier, hb⟩ := task?_besides_of_some h c
    rw [recordedHistory, hb, recordedHistory, h]
  | none =>
    -- a new task has no history
    rcases task?_besides_of_none h c with hb | ⟨id, core, metered, recorded, hb⟩
    · exact recordedHistory_congr (hb.trans h.symm)
    · rw [recordedHistory, hb, recordedHistory, h]
      cases recorded <;> rfl

private theorem recordedHistory_deliver (w : Workflow) (ref other : TaskRef) (e : Event)
    (taken : LifecycleRecord → Bool) : (w.deliver other e).1.recordedHistory ref = w.recordedHistory ref ++
      Report.entries ref ((w.record? other e).map fun r => ⟨other, r, taken r⟩).toList := by
  cases ht : w.task? other with
  | none => simp [deliver_of_none ht, record?, ht, Report.entries]
  | some t =>
    by_cases hr : other = ref
    · subst hr
      have hs := Lifecycle.step_apply t.lifecycle e
      obtain ⟨hl, -, -, hrecorded⟩ := t.after_eq e
      rw [recordedHistory, task?_deliver ht, recordedHistory, ht]
      dsimp only
      rw [hrecorded, hl]
      rcases ha : t.lifecycle.apply e with ⟨l, r | effect⟩
      · rw [ha] at hs
        rw [record?_of_error ht ha, hs.of_error]
        exact (List.append_nil _).symm
      · rw [ha] at hs
        rw [record?_of_ok ht ha, hs.history_eq]
        cases t.recorded with
        | false => rfl
        | true =>
          have hstate : (t.after e).state = l.state := by rw [MonitoredTask.state, hl, ha]
          rw [← hstate]
          exact congrArg _ (Report.entries_record other (t.after e) e _).symm
    · have hnone : Report.entries ref ((w.record? other e).map fun r => ⟨other, r, taken r⟩).toList = [] := by
        cases w.record? other e <;> simp [Report.entries, hr]
      rw [recordedHistory_congr (task?_deliver_of_ne e hr), hnone, List.append_nil]

theorem recordedHistory_change (w : Workflow) (c : Change) (ref : TaskRef) :
    (w.change c).recordedHistory ref = w.recordedHistory ref ++ Report.entries ref (w.report? c).toList := by
  rw [change_eq, report?]
  cases hd : w.delivery? c with
  | none => exact (w.recordedHistory_besides c ref).trans (List.append_nil _).symm
  | some d =>
    have h := (w.besides c).recordedHistory_deliver ref d.task d.event fun r => (w.feed.offer r).2
    rwa [recordedHistory_besides, record?_besides hd] at h

/-- The history of a task is what it has reported to have entered. -/
theorem entries_reports (h : w.tasks = []) (log : List Change) (ref : TaskRef) :
    Report.entries ref (w.reports log) = (w.replay log).recordedHistory ref := by
  have hrun : ∀ v : Workflow, (v.replay log).recordedHistory ref =
      v.recordedHistory ref ++ Report.entries ref (v.reports log) := by
    induction log with
    | nil => exact fun v => (List.append_nil _).symm
    | cons c log ih =>
      intro v
      have hreports : v.reports (c :: log) = (v.report? c).toList ++ (v.change c).reports log := rfl
      rw [replay, ih, recordedHistory_change, hreports, Report.entries_append, List.append_assoc]
  have hnone : w.recordedHistory ref = [] := by simp [recordedHistory, task?, h]
  rw [hrun, hnone, List.nil_append]

/-- Where a task shares its identifier with nobody, its reports are told from the others by their records. -/
theorem entries_of_unique {t : MonitoredTask} {log : List Change}
    (hunique : ∀ other t', (w.replay log).task? other = some t' → t'.recorded = true →
      t'.lifecycle.task = t.lifecycle.task → other = ref) (ht : (w.replay log).task? ref = some t) :
    ((((w.reports log).map Report.record).filter fun r => r.task = t.lifecycle.task && r.isEntry).map
      LifecycleRecord.state) = Report.entries ref (w.reports log) := by
  have hsame : ∀ x ∈ w.reports log, x.record.task = t.lifecycle.task ↔ x.task = ref := by
    intro x hx
    obtain ⟨t', ht', hr, hid⟩ := task?_of_mem_reports hx
    constructor
    · intro h
      exact hunique x.task t' ht' hr (hid.trans h)
    · rintro rfl
      obtain rfl : t = t' := Option.some.inj (ht.symm.trans ht')
      exact hid.symm
  rw [List.filter_map, List.map_map, Report.entries]
  refine congrArg _ (List.filter_congr fun x hx => ?_)
  simp [hsame x hx]

end Workflow

end TaskCoordination
