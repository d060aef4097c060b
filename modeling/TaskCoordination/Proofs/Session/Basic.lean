import TaskCoordination.Coordinator.Basic
import TaskCoordination.Proofs.Workflow.Change

/-!
# Sessions

A session is a workflow in use, with a coordinator that runs it or, after a shutdown or without a coordinator from the
start, by itself. All that can be done to a workflow in a session is data (`Action`), and its trace says which changes
of the workflow an action comes to. The workflow after a run is the one that replays the trace (`workflow_run`).
-/

namespace TaskCoordination

inductive Session
  | running (c : Coordinator)
  | bare (w : Workflow)

/-- What only a coordinator can do. -/
inductive CoordinatorAction
  | newTask (d : Descriptor)
  | newBarrier (k : Continuation)
  | submitOnReady (t : TaskRef)
  | updateNode (node : Resource)
  | shutdown
  | drop

inductive Action
  | coordinator (a : CoordinatorAction)
  | addTask (id : TaskId) (core : CoreId) (metered recorded : Bool)
  | addBarrier (job : JobId) (k : Continuation)
  | attach (t : TaskRef) (b : BarrierRef)
  | release (b : BarrierRef)
  | handle (t : TaskRef) (e : Event)
  | ask (b : BarrierRef) (r : BarrierRequest)
  | directory (a : DirectoryAction)
  | feed (a : FeedAction)

/-- Nothing has happened yet. -/
structure Workflow.IsNew (w : Workflow) : Prop where
  tasks : w.tasks = []
  barriers : w.barriers = []
  blocks : w.telemetry.blocks = []

namespace Coordinator

/-- A description of a node whose units overflow changes nothing. -/
def act (c : Coordinator) : CoordinatorAction → Session
  | .newTask d => .running (c.newTask d).1
  | .newBarrier k => .running (c.newBarrier k).1
  | .submitOnReady t => .running (c.submitOnReady t).1
  | .updateNode node =>
    match c.updateNode node with
    | .ok c' => .running c'
    | .error _ => .running c
  | .shutdown => .bare c.shutdown.1
  | .drop => .bare c.drop

def changes (c : Coordinator) : CoordinatorAction → List Change
  | .newTask d => [.addTask ⟨c.nextTask⟩ d.core c.metricsEnabled c.workflow.feed.listener.isSome]
  | .newBarrier k => [.addBarrier ⟨c.nextJob⟩ k]
  | .submitOnReady t =>
    let added := c.workflow.addBarrier ⟨c.nextJob⟩ (.submit t)
    .addBarrier ⟨c.nextJob⟩ (.submit t) :: added.1.attaching t added.2
  | .updateNode node => if c.metricsEnabled then [.directory (.table (.describeNode node))] else []
  | .shutdown => [.feed .signal, .feed .pump, .directory (.table .clear)]
  | .drop => [.feed .signal]

end Coordinator

namespace Session

def workflow : Session → Workflow
  | running c => c.workflow
  | bare w => w

def withWorkflow (s : Session) (w : Workflow) : Session :=
  match s with
  | running c => running { c with workflow := w }
  | bare _ => bare w

/-- Without a coordinator its actions come to nothing. -/
def act (s : Session) : Action → Session
  | .coordinator a =>
    match s with
    | running c => c.act a
    | bare w => bare w
  | .addTask id core metered recorded => s.withWorkflow (s.workflow.addTask (.start id core metered recorded)).1
  | .addBarrier job k => s.withWorkflow (s.workflow.addBarrier job k).1
  | .attach t b => s.withWorkflow (s.workflow.attach t b)
  | .release b => s.withWorkflow (s.workflow.release b)
  | .handle t e => s.withWorkflow (s.workflow.handle t e).1
  | .ask b r => s.withWorkflow (s.workflow.ask b r).1
  | .directory a => s.withWorkflow { s.workflow with directory := s.workflow.directory.act a }
  | .feed a => s.withWorkflow { s.workflow with feed := s.workflow.feed.act a }

/-- What an action comes to in the workflow. -/
def changes (s : Session) : Action → List Change
  | .coordinator a =>
    match s with
    | running c => c.changes a
    | bare _ => []
  | .addTask id core metered recorded => [.addTask id core metered recorded]
  | .addBarrier job k => [.addBarrier job k]
  | .attach t b => s.workflow.attaching t b
  | .release b => [.release b]
  | .handle t e => s.workflow.handling t e
  | .ask b r => s.workflow.asking b r
  | .directory a => [.directory a]
  | .feed a => [.feed a]

def run (s : Session) : List Action → Session
  | [] => s
  | a :: rest => (s.act a).run rest

/-- The changes of a run, in their order. -/
def trace (s : Session) : List Action → List Change
  | [] => []
  | a :: rest => s.changes a ++ (s.act a).trace rest

theorem run_append (s : Session) (as as' : List Action) : s.run (as ++ as') = (s.run as).run as' := by
  induction as generalizing s with
  | nil => rfl
  | cons a as ih => exact ih (s.act a)

/-! ### The workflow of a run -/

theorem workflow_withWorkflow (s : Session) (w : Workflow) : (s.withWorkflow w).workflow = w := by
  cases s <;> rfl

/-- The node is described anew in the table, if it can be and if anything is measured. -/
private theorem workflow_updateNode (c : Coordinator) (node : Resource) :
    (c.act (.updateNode node)).workflow = c.workflow.replay (c.changes (.updateNode node)) := by
  cases hm : c.metricsEnabled with
  | false =>
    have hu : c.updateNode node = .ok { c with node := node } := by
      simp [Coordinator.updateNode, hm, pure, Except.pure, bind, Except.bind]
      rfl
    simp only [Coordinator.act, hu, Coordinator.changes, hm, Bool.false_eq_true, if_false]
    rfl
  | true =>
    have hr : c.workflow.replay (c.changes (.updateNode node)) =
        c.workflow.mapTelemetry fun _ => c.workflow.telemetry.act (.describeNode node) := by
      simp only [Coordinator.changes, hm, if_true]
      rfl
    cases hd : c.workflow.telemetry.describeNode node with
    | error e =>
      have hu : c.updateNode node = .error e := by simp [Coordinator.updateNode, hm, hd, bind, Except.bind]
      rw [hr, Telemetry.act_describeNode_of_error hd, Coordinator.act, hu]
      rfl
    | ok table =>
      have hu : c.updateNode node =
          .ok { c with workflow := c.workflow.mapTelemetry fun _ => table, node := node } := by
        simp [Coordinator.updateNode, hm, hd, pure, Except.pure, bind, Except.bind]
      rw [hr, Telemetry.act_describeNode_of_ok hd, Coordinator.act, hu]
      rfl

theorem workflow_act (s : Session) (a : Action) : (s.act a).workflow = s.workflow.replay (s.changes a) := by
  cases a with
  | coordinator a =>
    cases s with
    | bare w => rfl
    | running c =>
      cases a with
      | updateNode node => exact workflow_updateNode c node
      | submitOnReady t => exact (Workflow.replay_attaching _ t _).symm
      | newTask | newBarrier | shutdown | drop => rfl
  | attach t b => exact (workflow_withWorkflow s _).trans (Workflow.replay_attaching ..).symm
  | handle t e => exact (workflow_withWorkflow s _).trans (Workflow.replay_handling ..).symm
  | ask b r => exact (workflow_withWorkflow s _).trans (Workflow.replay_asking ..).symm
  | addTask | addBarrier | release | directory | feed => exact workflow_withWorkflow s _

theorem workflow_run (s : Session) (as : List Action) : (s.run as).workflow = s.workflow.replay (s.trace as) := by
  induction as generalizing s with
  | nil => rfl
  | cons a as ih => rw [run, ih, workflow_act, trace, Workflow.replay_append]

/-! ### Where changes come from -/

/-- The changes that an action can come to. Tasks, links and requests are let pass for any. -/
inductive Causes : Action → Change → Prop
  | event (t : TaskRef) (e : Event) : Causes (.handle t e) (.event t e)
  | directory (d : DirectoryAction) : Causes (.directory d) (.directory d)
  | updateNode (node : Resource) : Causes (.coordinator (.updateNode node)) (.directory (.table (.describeNode node)))
  | shutdown : Causes (.coordinator .shutdown) (.directory (.table .clear))
  | addBarrier (job : JobId) (k : Continuation) : Causes (.addBarrier job k) (.addBarrier job k)
  | newBarrier (job : JobId) (k : Continuation) : Causes (.coordinator (.newBarrier k)) (.addBarrier job k)
  | submitOnReady (job : JobId) (t : TaskRef) :
    Causes (.coordinator (.submitOnReady t)) (.addBarrier job (.submit t))
  | addTask (a : Action) (id : TaskId) (core : CoreId) (metered recorded : Bool) :
    Causes a (.addTask id core metered recorded)
  | link (a : Action) (t : TaskRef) (b : Option BarrierRef) : Causes a (.link t b)
  | release (a : Action) (b : BarrierRef) : Causes a (.release b)
  | request (a : Action) (b : BarrierRef) (r : BarrierRequest) : Causes a (.request b r)
  | feed (f : FeedAction) : Causes (.feed f) (.feed f)
  | signal (a : CoordinatorAction) : Causes (.coordinator a) (.feed .signal)
  | pump (a : CoordinatorAction) : Causes (.coordinator a) (.feed .pump)

private theorem causes_of_mem_attaching {w : Workflow} {t : TaskRef} {b : BarrierRef} {c : Change} (a : Action)
    (h : c ∈ w.attaching t b) : Causes a c := by
  rcases Workflow.mem_attaching h with ⟨barrier, rfl⟩ | ⟨ref, r, rfl⟩
  · exact .link a t barrier
  · exact .request a ref r

private theorem causes_of_mem_coordinator {c : Coordinator} {a : CoordinatorAction} {x : Change}
    (h : x ∈ c.changes a) : Causes (.coordinator a) x := by
  cases a with
  | newTask d =>
    obtain rfl := List.mem_singleton.1 h
    exact .addTask ..
  | newBarrier k =>
    obtain rfl := List.mem_singleton.1 h
    exact .newBarrier _ k
  | submitOnReady t =>
    rcases List.mem_cons.1 h with rfl | h
    · exact .submitOnReady _ t
    · exact causes_of_mem_attaching _ h
  | updateNode node =>
    cases hm : c.metricsEnabled with
    | false => exact absurd h (by simp [Coordinator.changes, hm])
    | true =>
      obtain rfl : x = .directory (.table (.describeNode node)) := by simpa [Coordinator.changes, hm] using h
      exact .updateNode node
  | shutdown =>
    simp only [Coordinator.changes, List.mem_cons, List.not_mem_nil, or_false] at h
    rcases h with rfl | rfl | rfl
    · exact .signal .shutdown
    · exact .pump .shutdown
    · exact .shutdown
  | drop =>
    obtain rfl := List.mem_singleton.1 h
    exact .signal .drop

theorem causes_of_mem {s : Session} {a : Action} {c : Change} (h : c ∈ s.changes a) : Causes a c := by
  cases a with
  | coordinator a =>
    cases s with
    | running coordinator => exact causes_of_mem_coordinator h
    | bare w => exact absurd h (by simp [changes])
  | attach t b => exact causes_of_mem_attaching _ h
  | handle t e =>
    rcases Workflow.mem_handling h with rfl | ⟨b, r, rfl⟩
    · exact .event t e
    · exact .request _ b r
  | ask b r =>
    obtain ⟨b, r, rfl⟩ := Workflow.mem_asking h
    exact .request _ b r
  | addTask | addBarrier | release | directory | feed =>
    obtain rfl := List.mem_singleton.1 h
    constructor

/-- The changes of a run all come from its actions. -/
theorem exists_of_mem_trace {s : Session} {as : List Action} {c : Change} (h : c ∈ s.trace as) :
    ∃ a ∈ as, Causes a c := by
  induction as generalizing s with
  | nil => exact absurd h (by simp [trace])
  | cons a as ih =>
    rcases List.mem_append.1 h with h | h
    · exact ⟨a, List.mem_cons_self, causes_of_mem h⟩
    · obtain ⟨a', ha', hc⟩ := ih h
      exact ⟨a', List.mem_cons_of_mem a ha', hc⟩

/-- Records are offered by the tasks, or by somebody else. -/
theorem not_offer_trace {s : Session} {as : List Action} (h : ∀ a ∈ as, ∀ r, a ≠ .feed (.offer r)) :
    ∀ c ∈ s.trace as, ∀ r, c ≠ .feed (.offer r) := by
  rintro c hc r rfl
  obtain ⟨a, ha, hcause⟩ := exists_of_mem_trace hc
  cases hcause
  exact h _ ha r rfl

/-! ### New sessions -/

theorem isNew_start (announces : Bool) (feed : Feed) : (Workflow.start (.empty announces) feed).IsNew :=
  ⟨rfl, rfl, rfl⟩

/-- A coordinator starts with nothing to do. -/
theorem isNew_of_start {p : Plan} {c : Coordinator} (h : p.start = .ok c) : c.workflow.IsNew := by
  unfold Plan.start at h
  cases hm : p.metricsEnabled with
  | false =>
    simp only [hm, Bool.false_eq_true, if_false, pure, Except.pure, bind, Except.bind, Except.ok.injEq] at h
    rw [← h]
    exact ⟨rfl, rfl, rfl⟩
  | true =>
    cases hd : (Directory.empty true).telemetry.describeNode p.node with
    | error e => simp [hm, hd, bind, Except.bind] at h
    | ok table =>
      simp only [hm, if_true, hd, pure, Except.pure, bind, Except.bind, Except.ok.injEq] at h
      rw [← h]
      exact ⟨rfl, rfl, Telemetry.blocks_describeNode hd⟩

end Session

end TaskCoordination
