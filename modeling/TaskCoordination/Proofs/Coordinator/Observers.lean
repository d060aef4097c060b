import TaskCoordination.Proofs.Coordinator.Command
import TaskCoordination.Proofs.Coordinator.Setup
import TaskCoordination.Proofs.Workflow.Unobserved

/-!
# Observers do not interfere

The metrics and the listener of a coordinator look on at its tasks and barriers. A coordinator that is `unobserved`
has neither, and does and answers the same: a command comes to the same, whatever observes it and whenever the
listener takes its turns (`serve_unobserved`). Which changes follow on an event, a request or a link is not for the
listener to decide, since they are the same without any feed (`handling_unobserved`, `asking_unobserved`,
`attaching_unobserved`); its turns only come between them. So two coordinators that differ in their observers only
go through the same commands with the same answers, and with the same tasks and barriers
(`observers_never_interfere`). Where metrics are disabled, nothing reaches the telemetry table at all
(`IsUnmetered`).
-/

namespace TaskCoordination

/-- The turns of the listener concern observers only. -/
private theorem filterMap_amid (turns : List Nat) (cs : List Change) :
    (amid turns cs).filterMap Change.unobserved? = cs.filterMap Change.unobserved? := by
  induction turns generalizing cs with
  | nil => rfl
  | cons n turns ih =>
    have hn : (List.replicate n (Change.feed .turn)).filterMap Change.unobserved? = [] := by
      rw [List.filterMap_replicate]
      rfl
    cases cs with
    | nil => rw [amid, List.filterMap_append, hn, ih, List.nil_append]
    | cons c cs =>
      rw [amid, List.filterMap_append, hn, List.nil_append, List.filterMap_cons, List.filterMap_cons, ih]

private theorem mem_amid {turns : List Nat} {cs : List Change} {c : Change} (h : c ∈ amid turns cs) :
    c = .feed .turn ∨ c ∈ cs := by
  induction turns generalizing cs with
  | nil => exact Or.inr h
  | cons n turns ih =>
    cases cs with
    | nil =>
      rcases List.mem_append.1 h with h | h
      · exact Or.inl (List.eq_of_mem_replicate h)
      · exact ih h
    | cons c' cs =>
      rcases List.mem_append.1 h with h | h
      · exact Or.inl (List.eq_of_mem_replicate h)
      · rcases List.mem_cons.1 h with rfl | h
        · exact Or.inr List.mem_cons_self
        · exact (ih h).imp_right (List.mem_cons_of_mem c')

namespace Coordinator

variable {c c' : Coordinator}

def unobserved (c : Coordinator) : Coordinator :=
  { c with workflow := c.workflow.unobserved, metricsEnabled := false, metricsPort := 0 }

/-! ### Commands -/

theorem updateNode_of_cpuUnits (c : Coordinator) {node : Resource} {units : Nat} (h : node.cpuUnits = .ok units) :
    ∃ table, c.updateNode node = .ok { c with workflow := c.workflow.mapTelemetry fun _ => table, node := node } := by
  cases hm : c.metricsEnabled with
  | false => exact ⟨c.workflow.telemetry, by simp [updateNode, hm, pure, Except.pure, bind, Except.bind]⟩
  | true =>
    have hd : c.workflow.telemetry.describeNode node = .ok { c.workflow.telemetry with computingUnits := units } := by
      rw [Telemetry.describeNode, h]
      rfl
    exact ⟨_, by simp only [updateNode, hm, if_true, hd]; rfl⟩

private theorem withDirectory_unobserved (c : Coordinator) {α : Type} (f : Directory → Directory × α)
    (hf : ∀ d : Directory, f d.unobserved = ((f d).1.unobserved, (f d).2)) :
    c.unobserved.withDirectory f = ((c.withDirectory f).1.unobserved, (c.withDirectory f).2) := by
  have hd := hf c.workflow.directory
  simp only [withDirectory, unobserved, Workflow.unobserved, hd]

private theorem newTask_unobserved (c : Coordinator) (d : Descriptor) :
    c.unobserved.newTask d = ((c.newTask d).1.unobserved, (c.newTask d).2) := by
  have ht := c.workflow.unobserved_addTask ⟨c.nextTask⟩ d.core c.metricsEnabled c.workflow.feed.listener.isSome
  have hr : c.workflow.unobserved.tasks.length = c.workflow.tasks.length := List.length_map ..
  show (({ c.unobserved with
      workflow := (c.workflow.unobserved.addTask (.start ⟨c.nextTask⟩ d.core false false)).1
      nextTask := c.nextTask + 1 } : Coordinator), TaskId.mk c.nextTask,
    TaskRef.mk c.workflow.unobserved.tasks.length) = _
  rw [← ht, hr]
  rfl

private theorem submitOnReady_unobserved (c : Coordinator) (t : TaskRef) :
    c.unobserved.submitOnReady t = ((c.submitOnReady t).1.unobserved, (c.submitOnReady t).2) := by
  have ha := Workflow.unobserved_attach (c.newBarrier (.submit t)).1.workflow t (c.newBarrier (.submit t)).2.2
  show ((c.newBarrier (.submit t)).1.unobserved.withWorkflow
      ((c.newBarrier (.submit t)).1.workflow.unobserved.attach t (c.newBarrier (.submit t)).2.2),
    (c.newBarrier (.submit t)).2) = _
  rw [ha]
  rfl

/-- A command comes to the same without observers. -/
theorem obey_unobserved (c : Coordinator) {x : Command} (hx : x.Fits) :
    c.unobserved.obey x = ((c.obey x).1.unobserved, (c.obey x).2) := by
  cases x with
  | register r =>
    have h := c.withDirectory_unobserved (fun d => d.register r) fun d => d.unobserved_register r
    simp only [obey, h]
  | describeMethod owner name options target ps =>
    have h := c.withDirectory_unobserved (fun d => d.describeMethod owner name options target ps)
      fun d => d.unobserved_describeMethod owner name options target ps
    simp only [obey, h]
  | describeService domain provider port operation priority target ps =>
    have h := c.withDirectory_unobserved
      (fun d => d.describeService domain provider port operation priority target ps)
      fun d => d.unobserved_describeService domain provider port operation priority target ps
    simp only [obey, h]
  | newTask d => simp only [obey, newTask_unobserved]
  | submitOnReady t => simp only [obey, submitOnReady_unobserved]
  | attach t b =>
    show (c.unobserved.withWorkflow (c.workflow.unobserved.attach t b), Answer.done) = _
    rw [Workflow.unobserved_attach]
    rfl
  | handle t e =>
    show (c.unobserved.withWorkflow (c.workflow.unobserved.handle t e).1,
      Answer.state (c.workflow.unobserved.handle t e).2) = _
    rw [Workflow.unobserved_handle]
    rfl
  | ask b r =>
    show (c.unobserved.withWorkflow (c.workflow.unobserved.ask b r).1,
      Answer.reply (c.workflow.unobserved.ask b r).2) = _
    rw [Workflow.unobserved_ask]
    rfl
  | resetTelemetry =>
    have hd := c.workflow.directory.unobserved_resetTelemetry
    show (c.unobserved.withWorkflow { c.workflow.unobserved with directory := c.workflow.directory.unobserved },
      Answer.done) = _
    rw [← hd]
    rfl
  | updateNode node =>
    obtain ⟨units, hunits⟩ := hx
    obtain ⟨table, hu⟩ := c.updateNode_of_cpuUnits hunits
    simp only [obey, hu]
    rfl
  | newBarrier | release => rfl

/-- The turns of the listener make no difference either. -/
theorem unobserved_serve (c : Coordinator) (x : Command × List Nat) :
    (c.serve x).1.unobserved = (c.obey x.1).1.unobserved := by
  have hw : (c.workflow.replay (amid x.2 (c.steps x.1))).unobserved = (c.obey x.1).1.workflow.unobserved := by
    rw [workflow_obey, Workflow.unobserved_replay, Workflow.unobserved_replay, filterMap_amid]
  show ((c.obey x.1).1.withWorkflow (c.workflow.replay (amid x.2 (c.steps x.1)))).unobserved = _
  simp only [unobserved, withWorkflow, hw]

theorem serve_unobserved (c : Coordinator) {x : Command × List Nat} (hx : x.1.Fits) :
    c.unobserved.obey x.1 = ((c.serve x).1.unobserved, (c.serve x).2) := by
  rw [obey_unobserved c hx, unobserved_serve]
  rfl

/-- Coordinators that are the same but for their observers stay so, and answer the same. -/
theorem run_congr {xs xs' : List (Command × List Nat)} (hc : c.unobserved = c'.unobserved)
    (hx : xs.map Prod.fst = xs'.map Prod.fst) (hfits : ∀ x ∈ xs, x.1.Fits) :
    (c.run xs).1.unobserved = (c'.run xs').1.unobserved ∧ (c.run xs).2 = (c'.run xs').2 := by
  induction xs generalizing c c' xs' with
  | nil =>
    obtain rfl := List.map_eq_nil_iff.1 hx.symm
    exact ⟨hc, rfl⟩
  | cons x xs ih =>
    obtain ⟨x', xs', rfl, hxx, hxs⟩ := List.map_eq_cons_iff.1 hx.symm
    obtain ⟨hfit, hfits⟩ := List.forall_mem_cons.1 hfits
    have hserve : ((c.serve x).1.unobserved, (c.serve x).2) = ((c'.serve x').1.unobserved, (c'.serve x').2) := by
      rw [← serve_unobserved c hfit, ← serve_unobserved c' (hxx ▸ hfit), hc, hxx]
    obtain ⟨hs, ha⟩ := Prod.mk.inj hserve
    obtain ⟨hrun, hanswers⟩ := ih hs hxs.symm hfits
    exact ⟨hrun, by rw [run, run, ha, hanswers]⟩

/-! ### Disabled metrics -/

private theorem metricsEnabled_obey (h : c.metricsEnabled = false) (x : Command) :
    (c.obey x).1.metricsEnabled = false := by
  cases x with
  | updateNode node =>
    simp only [obey, updateNode, h, Bool.false_eq_true, if_false]
    rfl
  | _ => exact h

private theorem isMetered_steps (h : c.metricsEnabled = false) (x : Command) :
    ∀ y ∈ c.steps x, y.isMetered = false := by
  have hattaching : ∀ {w : Workflow} {t : TaskRef} {b : BarrierRef}, ∀ y ∈ w.attaching t b, y.isMetered = false := by
    intro w t b y hy
    rcases Workflow.mem_attaching hy with ⟨barrier, rfl⟩ | ⟨ref, r, rfl⟩ <;> rfl
  intro y hy
  cases x with
  | newTask d =>
    obtain rfl := List.mem_singleton.1 hy
    exact h
  | submitOnReady t =>
    rcases List.mem_cons.1 hy with rfl | hy
    · rfl
    · exact hattaching y hy
  | attach t b => exact hattaching y hy
  | handle t e => rcases Workflow.mem_handling hy with rfl | ⟨ref, r, rfl⟩ <;> rfl
  | ask b r =>
    obtain ⟨ref, r, rfl⟩ := Workflow.mem_asking hy
    rfl
  | updateNode node => exact absurd hy (by simp [steps, Command.action, Session.changes, changes, h])
  | register | describeMethod | describeService | newBarrier | release | resetTelemetry =>
    obtain rfl := List.mem_singleton.1 hy
    rfl

theorem isUnmetered_run (hm : c.metricsEnabled = false) (h : c.workflow.IsUnmetered)
    (xs : List (Command × List Nat)) : (c.run xs).1.workflow.IsUnmetered := by
  induction xs generalizing c with
  | nil => exact h
  | cons x xs ih =>
    refine ih (metricsEnabled_obey hm x.1) (h.replay fun y hy => ?_)
    rcases mem_amid hy with rfl | hy
    · rfl
    · exact isMetered_steps hm x.1 y hy

/-! ### New coordinators -/

/-- A plan that has been built can be started, whatever observes the coordinator. -/
theorem start_of_build {s : Setup} {host : UInt32} {p : Plan} (h : s.build host = .ok p) :
    ∃ c, p.start = .ok c ∧
      c.unobserved = ⟨.start (.empty false) .silent, .empty, s.node.getD (.node (.withCpus host)), 1, 1, false, 0⟩ ∧
      (s.metricsEnabled = false → c.metricsEnabled = false ∧ c.workflow.IsUnmetered) := by
  obtain ⟨hnode, hmetrics, units, hunits⟩ := Setup.build_eq_ok h
  obtain ⟨table, hstart, htable⟩ := Plan.start_of_cpuUnits hunits
  refine ⟨_, hstart, ?_, ?_⟩
  · rw [← hnode]
    rfl
  · intro hm
    rw [hm] at hmetrics
    exact ⟨hmetrics, htable hmetrics, hmetrics, fun task htask => absurd htask (by simp [Workflow.start])⟩

/-- Two coordinators that differ in what observes them, and in when their listeners take their turns, answer the
same and have the same catalogs, nodes, tasks, barriers and calls. -/
theorem observers_never_interfere {s s' : Setup} {host : UInt32} {p p' : Plan} (hnode : s.node = s'.node)
    (hp : s.build host = .ok p) (hp' : s'.build host = .ok p') :
    ∃ c c', p.start = .ok c ∧ p'.start = .ok c' ∧
      ∀ xs xs' : List (Command × List Nat), xs.map Prod.fst = xs'.map Prod.fst → (∀ x ∈ xs, x.1.Fits) →
        let ran := c.run xs
        let ran' := c'.run xs'
        ran.2 = ran'.2 ∧ ran.1.node = ran'.1.node ∧
          ran.1.workflow.directory.catalog = ran'.1.workflow.directory.catalog ∧
          ran.1.workflow.tasks.map MonitoredTask.lifecycle = ran'.1.workflow.tasks.map MonitoredTask.lifecycle ∧
          ran.1.workflow.barriers = ran'.1.workflow.barriers ∧ ran.1.workflow.calls = ran'.1.workflow.calls ∧
          (s.metricsEnabled = false → ran.1.workflow.telemetry = .empty) ∧
          (s'.metricsEnabled = false → ran'.1.workflow.telemetry = .empty) := by
  obtain ⟨c, hstart, hc, hm⟩ := start_of_build hp
  obtain ⟨c', hstart', hc', hm'⟩ := start_of_build hp'
  refine ⟨c, c', hstart, hstart', ?_⟩
  intro xs xs' hxs hfits ran ran'
  obtain ⟨hran, hanswers⟩ : ran.1.unobserved = ran'.1.unobserved ∧ ran.2 = ran'.2 :=
    run_congr (by rw [hc, hc', hnode]) hxs hfits
  have hw : ran.1.workflow.unobserved = ran'.1.workflow.unobserved := congrArg Coordinator.workflow hran
  have hran_node : ran.1.unobserved.node = ran'.1.unobserved.node := congrArg Coordinator.node hran
  have hcatalog : ran.1.workflow.unobserved.directory.catalog = ran'.1.workflow.unobserved.directory.catalog :=
    congrArg (fun w : Workflow => w.directory.catalog) hw
  have hbarriers : ran.1.workflow.unobserved.barriers = ran'.1.workflow.unobserved.barriers :=
    congrArg Workflow.barriers hw
  have hcalls : ran.1.workflow.unobserved.calls = ran'.1.workflow.unobserved.calls := congrArg Workflow.calls hw
  refine ⟨hanswers, hran_node, hcatalog, ?_, hbarriers, hcalls, ?_, ?_⟩
  · rw [← Workflow.lifecycles_unobserved ran.1.workflow, hw, Workflow.lifecycles_unobserved]
  · intro h
    exact (isUnmetered_run (hm h).1 (hm h).2 xs).telemetry
  · intro h
    exact (isUnmetered_run (hm' h).1 (hm' h).2 xs').telemetry

/-- One coordinator with metrics and a listener that falls behind and breaks down on its second record, and one with
neither. -/
theorem observers_never_interfere_slow_listener :
    let node : Resource := .node (.withCpus 4)
    let s : Setup := { node := some node, listener := some fun given _ => given.length = 1, listenerQueue := 1 }
    let s' : Setup := { node := some node, listenerQueue := 8, metricsEnabled := false }
    let p : Plan := ⟨node, s.listener, 1, true, s.metricsPort⟩
    let p' : Plan := ⟨node, none, 8, false, s'.metricsPort⟩
    let d : Descriptor := ⟨.method, "m", ⟨0⟩, {}, [], false, false⟩
    let xs : List (Command × List Nat) := [(.newTask d, []), (.submitOnReady ⟨0⟩, [1]), (.ask ⟨0⟩ .enable, []),
      (.handle ⟨0⟩ .cancellation, [0, 2]), (.updateNode (.node (.withCpus 8)), []), (.resetTelemetry, [3])]
    let xs' : List (Command × List Nat) := xs.map fun x => (x.1, [])
    ∃ c c', p.start = .ok c ∧ p'.start = .ok c' ∧ (c.run xs).2 = (c'.run xs').2 ∧
      (c.run xs).1.workflow.tasks.map MonitoredTask.lifecycle =
        (c'.run xs').1.workflow.tasks.map MonitoredTask.lifecycle ∧
      (c'.run xs').1.workflow.telemetry = .empty := by
  intro node s s' p p' d xs xs'
  have hp : s.build 1 = .ok p := rfl
  have hp' : s'.build 1 = .ok p' := rfl
  have hnode : s.node = s'.node := rfl
  obtain ⟨c, c', hstart, hstart', hall⟩ := observers_never_interfere hnode hp hp'
  have hunits : ∃ units, (Resource.node (.withCpus 8)).cpuUnits = .ok units := ⟨8, rfl⟩
  have hfits : ∀ x ∈ xs, x.1.Fits := by simpa [xs, Command.Fits] using hunits
  obtain ⟨hanswers, -, -, htasks, -, -, -, hempty⟩ := hall xs xs' rfl hfits
  exact ⟨c, c', hstart, hstart', hanswers, htasks, hempty rfl⟩

end Coordinator

end TaskCoordination
