import TaskCoordination.Proofs.Workflow.Delivery

/-!
# Workflows without observers

The telemetry table and the feed look on at what happens in a workflow. Without them a workflow is `unobserved`:
nothing is announced, measured or recorded. A change of a workflow comes to the same whether it is observed or not
(`unobserved_change`), and so does a list of changes (`unobserved_replay`), but for the changes that concern
observers only. The tasks and barriers answer the same, and the changes that follow from an event or a request are
the same.
-/

namespace TaskCoordination

namespace MonitoredTask

def unobserved (t : MonitoredTask) : MonitoredTask :=
  { t with metered := false, recorded := false }

theorem state_unobserved (t : MonitoredTask) : t.unobserved.state = t.state := rfl

end MonitoredTask

namespace Directory

def unobserved (d : Directory) : Directory :=
  ⟨d.catalog, .empty, false⟩

/-- What is asked of a directory is answered from its catalog. -/
theorem unobserved_coreId (d : Directory) (i : Invocation) (target ret : Bool) (ps : List Parameter) :
    d.unobserved.coreId i target ret ps =
      ((d.coreId i target ret ps).1.unobserved, (d.coreId i target ret ps).2) := rfl

theorem unobserved_register (d : Directory) (r : Registration) :
    d.unobserved.register r = ((d.register r).1.unobserved, (d.register r).2) := rfl

theorem unobserved_describe (d : Directory) (i : Invocation) (options : TaskOptions) (target : Bool)
    (ps : List Parameter) :
    d.unobserved.describe i options target ps =
      ((d.describe i options target ps).1.unobserved, (d.describe i options target ps).2) := by
  unfold describe
  dsimp only
  rw [unobserved_coreId]
  rcases d.coreId i target (hasReturn ps) ps with ⟨d', r | core⟩ <;> rfl

theorem unobserved_describeMethod (d : Directory) (owner name : String) (options : TaskOptions) (target : Bool)
    (ps : List Parameter) :
    d.unobserved.describeMethod owner name options target ps =
      ((d.describeMethod owner name options target ps).1.unobserved,
        (d.describeMethod owner name options target ps).2) := by
  unfold describeMethod
  split
  · rfl
  · exact unobserved_describe ..

theorem unobserved_describeService (d : Directory) (domain provider port operation : String) (priority target : Bool)
    (ps : List Parameter) :
    d.unobserved.describeService domain provider port operation priority target ps =
      ((d.describeService domain provider port operation priority target ps).1.unobserved,
        (d.describeService domain provider port operation priority target ps).2) :=
  unobserved_describe ..

theorem unobserved_resetTelemetry (d : Directory) : d.resetTelemetry.unobserved = d.unobserved := by
  unfold resetTelemetry
  split <;> rfl

theorem unobserved_act (d : Directory) {a : DirectoryAction} (h : ∀ b, a ≠ .table b) :
    (d.act a).unobserved = d.unobserved.act a := by
  cases a with
  | ask q => cases q <;> rfl
  | describeMethod owner name options target ps =>
    exact (congrArg Prod.fst (d.unobserved_describeMethod owner name options target ps)).symm
  | describeService domain provider port operation priority target ps =>
    exact (congrArg Prod.fst
      (d.unobserved_describeService domain provider port operation priority target ps)).symm
  | reset => exact d.unobserved_resetTelemetry
  | table b => exact absurd rfl (h b)

end Directory

namespace Workflow

def unobserved (w : Workflow) : Workflow :=
  { w with directory := w.directory.unobserved, feed := .silent, tasks := w.tasks.map MonitoredTask.unobserved }

/-! ### Tasks -/

theorem task?_unobserved (w : Workflow) (t : TaskRef) :
    w.unobserved.task? t = (w.task? t).map MonitoredTask.unobserved :=
  List.getElem?_map ..

theorem lifecycles_unobserved (w : Workflow) :
    w.unobserved.tasks.map MonitoredTask.lifecycle = w.tasks.map MonitoredTask.lifecycle :=
  List.map_map ..

private theorem unobserved_setTask (w : Workflow) (t : TaskRef) (task : MonitoredTask) :
    (w.setTask t task).unobserved = w.unobserved.setTask t task.unobserved := by
  simp only [unobserved, setTask, List.map_set]

private theorem unobserved_detach (w : Workflow) (t : TaskRef) :
    w.unobserved.detach t = ((w.detach t).1.unobserved, (w.detach t).2) := by
  unfold detach
  rw [task?_unobserved]
  cases w.task? t with
  | none => rfl
  | some task =>
    dsimp only [Option.map_some]
    rw [unobserved_setTask]
    rfl

/-- What follows from an event for the gauges and the feed is not seen here. -/
private theorem unobserved_spread (w : Workflow) (t : TaskRef) (task : MonitoredTask) (e : Event) (effect : Effect) :
    w.unobserved.spread t task.unobserved e effect =
      ((w.spread t task e effect).1.unobserved, (w.spread t task e effect).2) := by
  have key : ∀ w' : Workflow, w'.unobserved = w.unobserved →
      (if e.isCancellation then w.unobserved.detach t else (w.unobserved, none)) =
        ((if e.isCancellation then w'.detach t else (w', none)).1.unobserved,
          (if e.isCancellation then w'.detach t else (w', none)).2) := by
    intro w' hw
    cases e.isCancellation with
    | false => simp [hw]
    | true =>
      rw [← hw]
      exact unobserved_detach w' t
  unfold spread
  apply key
  cases task.metered <;> cases task.recorded <;> rfl

theorem unobserved_deliver (w : Workflow) (t : TaskRef) (e : Event) :
    w.unobserved.deliver t e = ((w.deliver t e).1.unobserved, (w.deliver t e).2) := by
  unfold deliver
  rw [task?_unobserved]
  cases w.task? t with
  | none => rfl
  | some task =>
    dsimp only [Option.map_some]
    have hl : task.unobserved.lifecycle = task.lifecycle := rfl
    rw [hl]
    rcases task.lifecycle.apply e with ⟨l, r | effect⟩
    · dsimp only
      rw [unobserved_setTask]
      rfl
    · have hs := unobserved_spread (w.setTask t { task with lifecycle := l }) t { task with lifecycle := l } e effect
      rw [unobserved_setTask] at hs
      dsimp only
      exact congrArg (fun s : Workflow × Option BarrierRef => (s.1, some (Except.ok l.state), s.2)) hs

/-! ### Barriers -/

theorem barrier?_unobserved (w : Workflow) (b : BarrierRef) : w.unobserved.barrier? b = w.barrier? b := rfl

private theorem unobserved_withdraw (w : Workflow) (t : TaskRef) :
    w.unobserved.withdraw t = ((w.withdraw t).1.unobserved, (w.withdraw t).2) := by
  unfold withdraw
  rw [task?_unobserved]
  cases w.task? t with
  | none => rfl
  | some task =>
    dsimp only [Option.map_some]
    rw [MonitoredTask.state_unobserved, unobserved_deliver]
    split <;> rfl

private theorem unobserved_call (w : Workflow) (ref : BarrierRef) (job : JobId) (f : Firing Continuation) :
    w.unobserved.call ref job f = ((w.call ref job f).1.unobserved, (w.call ref job f).2) := by
  obtain ⟨k, v⟩ := f
  cases k with
  | submit t =>
    cases v with
    | ready | failed report => simp only [call, unobserved_deliver]
    | cancelled => exact unobserved_withdraw w t
  | callback => cases v <;> rfl
  | observer requests =>
    simp only [call, observe, barrier?_unobserved]
    cases w.barrier? ref <;> rfl

theorem unobserved_strike (w : Workflow) (ref : BarrierRef) (r : BarrierRequest) :
    w.unobserved.strike ref r = ((w.strike ref r).1.unobserved, (w.strike ref r).2) := by
  cases hb : w.barrier? ref with
  | none =>
    have hb' : w.unobserved.barrier? ref = none := hb
    rw [strike_none hb, strike_none hb']
  | some b =>
    have hb' : w.unobserved.barrier? ref = some b := hb
    cases hf : (b.ask r).2.2 with
    | none =>
      rw [strike_of_silent hb hf, strike_of_silent hb' hf]
      rfl
    | some f =>
      rw [strike_of_firing hb hf, strike_of_firing hb' hf]
      exact unobserved_call (w.setBarrier ref (b.ask r).1) ref b.job f

theorem cancellations_unobserved (w : Workflow) (next : Option BarrierRef) :
    w.unobserved.cancellations next = w.cancellations next := by
  cases next with
  | none => rfl
  | some ref =>
    rw [cancellations_some, cancellations_some, unobserved_strike]
    show _ :: (w.strike ref .cancel).1.unobserved.cancellations (w.strike ref .cancel).2 = _
    cases h : (w.strike ref .cancel).2 with
    | none => rfl
    | some next => rw [cancellations_unobserved (w.strike ref .cancel).1 (some next)]
termination_by w.openBarriers
decreasing_by exact openBarriers_strike h

/-! ### Changes -/

theorem handling_unobserved (w : Workflow) (t : TaskRef) (e : Event) :
    w.unobserved.handling t e = w.handling t e := by
  rw [handling, unobserved_deliver]
  dsimp only
  rw [cancellations_unobserved, handling]

theorem asking_unobserved (w : Workflow) (b : BarrierRef) (r : BarrierRequest) :
    w.unobserved.asking b r = w.asking b r := by
  rw [asking, unobserved_strike]
  dsimp only
  rw [cancellations_unobserved, asking]

private theorem unobserved_link (w : Workflow) (t : TaskRef) (b : Option BarrierRef) :
    (w.link t b).unobserved = w.unobserved.link t b := by
  unfold link
  rw [task?_unobserved]
  cases w.task? t with
  | none => rfl
  | some task => exact unobserved_setTask w t _

theorem attaching_unobserved (w : Workflow) (t : TaskRef) (b : BarrierRef) :
    w.unobserved.attaching t b = w.attaching t b := by
  unfold attaching
  rw [task?_unobserved]
  cases w.task? t with
  | none => rfl
  | some task =>
    dsimp only [Option.map_some]
    rw [MonitoredTask.state_unobserved, ← unobserved_link, cancellations_unobserved]
    rfl

end Workflow

/-- A change as it is without observers, unless it concerns them only. -/
def Change.unobserved? : Change → Option Change
  | .addTask id core _ _ => some (.addTask id core false false)
  | .directory (.table _) | .feed _ => none
  | c => some c

namespace Workflow

theorem unobserved_addTask (w : Workflow) (id : TaskId) (core : CoreId) (metered recorded : Bool) :
    (w.addTask (.start id core metered recorded)).1.unobserved =
      (w.unobserved.addTask (.start id core false false)).1 := by
  simp only [unobserved, addTask, List.map_append]
  rfl

private theorem unobserved_directory (w : Workflow) {a : DirectoryAction} (ha : ∀ b, a ≠ .table b) :
    unobserved { w with directory := w.directory.act a } =
      { w.unobserved with directory := w.unobserved.directory.act a } := by
  rw [unobserved, Directory.unobserved_act _ ha]
  rfl

/-- Observers make no difference to a change. -/
theorem unobserved_change (w : Workflow) (c : Change) :
    (w.change c).unobserved = w.unobserved.replay c.unobserved?.toList := by
  cases c with
  | event t e => exact (congrArg Prod.fst (unobserved_deliver w t e)).symm
  | request b r => exact (congrArg Prod.fst (unobserved_strike w b r)).symm
  | link t b => exact unobserved_link w t b
  | addTask id core metered recorded => exact unobserved_addTask w id core metered recorded
  | directory a =>
    cases a with
    | table b => rfl
    | ask | describeMethod | describeService | reset => exact unobserved_directory w (by simp)
  | addBarrier | release | feed => rfl

theorem unobserved_replay (w : Workflow) (cs : List Change) :
    (w.replay cs).unobserved = w.unobserved.replay (cs.filterMap Change.unobserved?) := by
  induction cs generalizing w with
  | nil => rfl
  | cons c cs ih =>
    rw [replay, ih, unobserved_change, ← replay_append, List.filterMap_cons]
    cases c.unobserved? <;> rfl

/-! ### Operations -/

/-- Observers have no part in events, requests and links. -/
private theorem filterMap_unobserved? {cs : List Change}
    (h : ∀ c ∈ cs, (∃ t e, c = .event t e) ∨ (∃ b r, c = .request b r) ∨ ∃ t b, c = .link t b) :
    cs.filterMap Change.unobserved? = cs := by
  have hsome : ∀ c ∈ cs, c.unobserved? = some c := by
    intro c hc
    rcases h c hc with ⟨t, e, rfl⟩ | ⟨b, r, rfl⟩ | ⟨t, b, rfl⟩ <;> rfl
  rw [List.filterMap_congr hsome, List.filterMap_some]

theorem unobserved_handle (w : Workflow) (t : TaskRef) (e : Event) :
    w.unobserved.handle t e = ((w.handle t e).1.unobserved, (w.handle t e).2) := by
  have hcs : (w.handling t e).filterMap Change.unobserved? = w.handling t e := by
    refine filterMap_unobserved? fun c hc => ?_
    rcases mem_handling hc with rfl | hr
    · exact Or.inl ⟨t, e, rfl⟩
    · exact Or.inr (Or.inl hr)
  have hw : (w.unobserved.handle t e).1 = (w.handle t e).1.unobserved := by
    rw [← replay_handling, ← replay_handling, unobserved_replay, hcs, handling_unobserved]
  have hanswer : (w.unobserved.deliver t e).2.1 = (w.deliver t e).2.1 := by rw [unobserved_deliver]
  exact Prod.ext hw hanswer

theorem unobserved_ask (w : Workflow) (b : BarrierRef) (r : BarrierRequest) :
    w.unobserved.ask b r = ((w.ask b r).1.unobserved, (w.ask b r).2) := by
  have hcs : (w.asking b r).filterMap Change.unobserved? = w.asking b r :=
    filterMap_unobserved? fun c hc => Or.inr (Or.inl (mem_asking hc))
  have hw : (w.unobserved.ask b r).1 = (w.ask b r).1.unobserved := by
    rw [← replay_asking, ← replay_asking, unobserved_replay, hcs, asking_unobserved]
  have hanswer : (w.unobserved.ask b r).2 = (w.ask b r).2 := by rw [reply_ask, reply_ask, barrier?_unobserved]
  exact Prod.ext hw hanswer

theorem unobserved_attach (w : Workflow) (t : TaskRef) (b : BarrierRef) :
    w.unobserved.attach t b = (w.attach t b).unobserved := by
  have hcs : (w.attaching t b).filterMap Change.unobserved? = w.attaching t b := by
    refine filterMap_unobserved? fun c hc => ?_
    rcases mem_attaching hc with ⟨barrier, rfl⟩ | hr
    · exact Or.inr (Or.inr ⟨t, barrier, rfl⟩)
    · exact Or.inr (Or.inl hr)
  rw [← replay_attaching, ← replay_attaching, unobserved_replay, hcs, attaching_unobserved]

/-! ### Workflows that are not measured -/

/-- Nothing reaches the telemetry table. -/
structure IsUnmetered (w : Workflow) : Prop where
  telemetry : w.telemetry = .empty
  announces : w.directory.announces = false
  tasks : ∀ task ∈ w.tasks, task.metered = false

end Workflow

/-- A change that goes for the telemetry table, or adds a task that will. -/
def Change.isMetered : Change → Bool
  | .addTask _ _ metered _ => metered
  | .directory (.table _) => true
  | _ => false

namespace Workflow

variable {w : Workflow}

private theorem IsUnmetered.congr {w' : Workflow} (h : w.IsUnmetered) (hd : w'.directory = w.directory)
    (ht : ∀ task ∈ w'.tasks, task.metered = false) : w'.IsUnmetered :=
  ⟨(congrArg Directory.telemetry hd).trans h.telemetry, (congrArg Directory.announces hd).trans h.announces, ht⟩

private theorem IsUnmetered.deliver (h : w.IsUnmetered) (t : TaskRef) (e : Event) :
    (w.deliver t e).1.IsUnmetered := by
  cases ht : w.task? t with
  | none =>
    rw [deliver_of_none ht]
    exact h
  | some task =>
    have hm : task.metered = false := h.tasks task (List.mem_of_getElem? ht)
    have hd : (w.deliver t e).1.directory = w.directory := by
      rcases ha : task.lifecycle.apply e with ⟨l, r | effect⟩
      · exact (deliver_of_rejection ht ha).1
      · simp [directory_deliver ht ha, hm]
    refine h.congr hd fun task' htask' => ?_
    rw [tasks_deliver ht] at htask'
    rcases List.mem_or_eq_of_mem_set htask' with hmem | rfl
    · exact h.tasks task' hmem
    · rw [(task.after_eq e).2.2.1, hm]

private theorem IsUnmetered.act (h : w.IsUnmetered) {a : DirectoryAction} (ha : ∀ b, a ≠ .table b) :
    IsUnmetered { w with directory := w.directory.act a } := by
  refine ⟨?_, ?_, h.tasks⟩
  · show (w.directory.act a).telemetry = .empty
    generalize hd : w.directory.act a = d
    cases hd ▸ w.directory.step_act a with
    | @asked _ q =>
      have ht : (w.directory.adopt (w.directory.catalog.ask q).1).telemetry = w.directory.telemetry := by
        simp [Directory.adopt, h.announces]
      rw [ht]
      exact h.telemetry
    | refused => exact h.telemetry
    | reset =>
      have hr : w.directory.resetTelemetry = w.directory := by simp [Directory.resetTelemetry, h.announces]
      rw [hr]
      exact h.telemetry
    | table b => exact absurd rfl (ha b)
  · show (w.directory.act a).announces = false
    rw [Directory.announces_act, h.announces]

theorem IsUnmetered.change (h : w.IsUnmetered) {c : Change} (hc : c.isMetered = false) :
    (w.change c).IsUnmetered := by
  cases c with
  | event t e => exact h.deliver t e
  | request b r =>
    obtain ⟨ht, hd, -⟩ := w.besides_request b r
    have hb : (w.besides (.request b r)).IsUnmetered := h.congr hd (by rw [ht]; exact h.tasks)
    rw [change_eq]
    cases w.delivery? (.request b r) with
    | none => exact hb
    | some d => exact hb.deliver d.task d.event
  | addTask id core metered recorded =>
    exact h.congr rfl (forall_mem_concat.2 ⟨h.tasks, hc⟩)
  | link t b =>
    cases ht : w.task? t with
    | none =>
      rw [Workflow.change, Workflow.link, ht]
      exact h
    | some task =>
      rw [Workflow.change, Workflow.link, ht]
      refine h.congr rfl fun task' htask' => ?_
      rcases List.mem_or_eq_of_mem_set htask' with hmem | rfl
      · exact h.tasks task' hmem
      · exact h.tasks task (List.mem_of_getElem? ht)
  | directory a => exact h.act fun b hb => absurd hc (by simp [hb, Change.isMetered])
  | addBarrier | release | feed => exact h.congr rfl h.tasks

theorem IsUnmetered.replay (h : w.IsUnmetered) {cs : List Change} (hcs : ∀ c ∈ cs, c.isMetered = false) :
    (w.replay cs).IsUnmetered := by
  induction cs generalizing w with
  | nil => exact h
  | cons c cs ih =>
    obtain ⟨hc, hcs⟩ := List.forall_mem_cons.1 hcs
    exact ih (h.change hc) hcs

end Workflow

end TaskCoordination
