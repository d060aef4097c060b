import TaskCoordination.Coordinator.Basic
import TaskCoordination.Proofs.Workflow.Frame

/-!
# Tasks and barriers agree

A task and the barrier that submits it act on each other: the verdict of the barrier moves the task on, and a
cancellation of either one cancels the other. `Wired` says that they find each other, and `Joined` that the history
of the task tells the verdict of the barrier. A request to the barrier keeps this (`Joined.ask`), as does a
cancellation of the task (`Joined.handle_cancellation`), and so do any moves from a new barrier on (`agreement`).
The barrier does not notice the task: it goes through the moves like a barrier alone.
-/

namespace TaskCoordination

namespace Lifecycle

/-- The lifecycle has entered the `states` since it was as in `before`. -/
def Follows (before after : Lifecycle) (states : List State) : Prop :=
  after.history = before.history ++ states ∧ after.state = states.getLastD before.state

/-- What a task has gone through when the barrier that submits it has the given verdict. -/
def Agrees (before after : Lifecycle) : Option Verdict → Prop
  | none => Follows before after []
  | some .ready => Follows before after [.submitted] ∨ Follows before after [.submitted, .cancelled]
  | some (.failed _) =>
    Follows before after [.executed .failed] ∨ Follows before after [.executed .failed, .cancelled]
  | some .cancelled => Follows before after [.cancelled]

theorem Follows.enter {before after : Lifecycle} {states : List State} (h : Follows before after states)
    (target : State) : Follows before (after.enter target).1 (states ++ [target]) := by
  constructor
  · show after.history ++ [target] = before.history ++ (states ++ [target])
    rw [h.1, List.append_assoc]
  · show target = (states ++ [target]).getLastD before.state
    simp

end Lifecycle

/-- The states before a submission. -/
def State.isEarly (s : State) : Bool :=
  s ∈ [.new, .created, .accessesProcessed, .scheduled]

namespace State

variable {s : State}

theorem allows_of_isEarly (h : s.isEarly = true) :
    s.allows .submitted = true ∧ s.allows (.executed .failed) = true ∧ s.allows .cancelled = true := by
  simp only [isEarly, List.mem_cons, List.not_mem_nil, or_false, decide_eq_true_eq] at h
  rcases h with rfl | rfl | rfl | rfl <;> decide

theorem ne_cancelled_of_allows (h : s.allows .cancelled = true) : s ≠ .cancelled := by
  rintro rfl
  exact absurd h (by decide)

theorem ne_cancelled_of_isEarly (h : s.isEarly = true) : s ≠ .cancelled :=
  ne_cancelled_of_allows (allows_of_isEarly h).2.2

end State

namespace Lifecycle

variable {before after : Lifecycle} {verdict : Option Verdict}

/-- Whatever the verdict, a task that is not cancelled can still be cancelled. -/
theorem Agrees.allows_cancelled (h : before.Agrees after verdict) (h0 : before.state.isEarly = true)
    (hs : after.state ≠ .cancelled) : after.state.allows .cancelled = true := by
  cases verdict with
  | none =>
    have hb : after.state = before.state := h.2
    rw [hb]
    exact (State.allows_of_isEarly h0).2.2
  | some v =>
    cases v with
    | ready | failed report =>
      rcases h with h | h
      · rw [h.2]
        rfl
      · exact absurd h.2 hs
    | cancelled => exact absurd h.2 hs

/-- A cancellation after the verdict leaves it as it is. -/
theorem Agrees.enter_cancelled (h : before.Agrees after verdict) (hs : after.state ≠ .cancelled)
    (hv : verdict ≠ none) : before.Agrees (after.enter .cancelled).1 verdict := by
  cases verdict with
  | none => exact absurd rfl hv
  | some v =>
    cases v with
    | ready | failed report =>
      rcases h with h | h
      · exact Or.inr (h.enter .cancelled)
      · exact absurd h.2 hs
    | cancelled => exact absurd h.2 hs

theorem Agrees.verdict_ne_none (h : before.Agrees after verdict) (h0 : before.state.isEarly = true)
    (hs : after.state = .cancelled) : verdict ≠ none := by
  rintro rfl
  have hb : after.state = before.state := h.2
  exact State.ne_cancelled_of_isEarly h0 (hb ▸ hs)

end Lifecycle

namespace Workflow

variable {w : Workflow} {task : TaskRef} {ref : BarrierRef}

/-- What can happen to a task and its barrier from outside. -/
inductive Move
  | request (r : BarrierRequest)
  | cancelTask

/-- What a move comes to at the barrier. -/
def Move.asked : Move → BarrierRequest
  | request r => r
  | cancelTask => .cancel

def move (w : Workflow) (task : TaskRef) (ref : BarrierRef) : Move → Workflow
  | .request r => (w.ask ref r).1
  | .cancelTask => (w.handle task .cancellation).1

def moves (w : Workflow) (task : TaskRef) (ref : BarrierRef) : List Move → Workflow
  | [] => w
  | m :: rest => (w.move task ref m).moves task ref rest

/-- The task `t` and the barrier `b` that submits it find each other: the barrier has the task for its continuation,
and a task that can still be cancelled has the barrier attached. -/
structure Wired (w : Workflow) (task : TaskRef) (ref : BarrierRef) (t : MonitoredTask) (b : Barrier Continuation) :
    Prop where
  task_eq : w.task? task = some t
  barrier_eq : w.barriers[ref.index]? = some ⟨b, true⟩
  holds : b.Holds (.submit task)
  attached : t.state = .cancelled ∨ t.barrier = some ref

/-- They also agree on what has happened since the lifecycle of the task was `before`. -/
structure Joined (w : Workflow) (task : TaskRef) (ref : BarrierRef) (before : Lifecycle) (t : MonitoredTask)
    (b : Barrier Continuation) : Prop extends Wired w task ref t b where
  agrees : before.Agrees t.lifecycle b.verdict

section

variable {before : Lifecycle} {t : MonitoredTask} {b : Barrier Continuation}

/-! ### Events that reach the task -/

theorem Wired.barrier?_eq (h : Wired w task ref t b) : w.barrier? ref = some b :=
  Workflow.barrier?_eq h.barrier_eq

theorem Wired.setBarrier (h : Wired w task ref t b) {b' : Barrier Continuation} (hk : b'.Holds (.submit task)) :
    Wired (w.setBarrier ref b') task ref t b' := by
  refine ⟨?_, getElem?_setBarrier h.barrier_eq b', hk, h.attached⟩
  rw [task?_setBarrier]
  exact h.task_eq

/-- Where a cancellation goes on. -/
private theorem Wired.next_eq (h : Wired w task ref t b) (hs : t.state ≠ .cancelled) {e : Event} {target : State}
    (ht : e.target? = some target) (ha : t.state.allows target = true) :
    (w.deliver task e).2.2 = if e.isCancellation then some ref else none := by
  rw [next_deliver h.task_eq (Lifecycle.apply_of_allows ht ha), h.attached.resolve_left hs]
  show (if e.isCancellation then w.held? ref else none) = _
  rw [held?_eq h.barrier_eq]

private theorem Wired.deliver (h : Wired w task ref t b) (hs : t.state ≠ .cancelled) {e : Event} {target : State}
    (ht : e.target? = some target) (ha : t.state.allows target = true) (he : e.isCancellation = false) :
    Wired (w.deliver task e).1 task ref (t.after e) b := by
  refine ⟨task?_deliver h.task_eq e, ?_, h.holds, Or.inr ?_⟩
  · rw [barriers_deliver]
    exact h.barrier_eq
  · rw [MonitoredTask.after_of_allows ht ha, he]
    exact h.attached.resolve_left hs

private theorem Wired.deliver_cancellation (h : Wired w task ref t b) (ha : t.state.allows .cancelled = true) :
    Wired (w.deliver task .cancellation).1 task ref (t.after .cancellation) b := by
  refine ⟨task?_deliver h.task_eq .cancellation, ?_, h.holds, Or.inl ?_⟩
  · rw [barriers_deliver]
    exact h.barrier_eq
  · rw [MonitoredTask.after_of_allows (e := .cancellation) rfl ha]
    rfl

/-- A cancellation goes on to a barrier that has its verdict, and ends there. -/
private theorem Wired.pursue_cancellation (h : Wired w task ref t b) (ha : t.state.allows .cancelled = true)
    (hv : b.verdict ≠ none) :
    Wired ((w.deliver task .cancellation).1.pursue (w.deliver task .cancellation).2.2) task ref
      (t.after .cancellation) b := by
  have hd := h.deliver_cancellation ha
  rw [h.next_eq (State.ne_cancelled_of_allows ha) rfl ha]
  show Wired ((w.deliver task .cancellation).1.pursue (some ref)) task ref (t.after .cancellation) b
  rw [pursue_of_verdict hd.barrier?_eq hv]
  exact hd

private theorem withdraw_of_allows (h : w.task? task = some t) (ha : t.state.allows .cancelled = true) :
    w.withdraw task = ((w.deliver task .cancellation).1, (w.deliver task .cancellation).2.2) := by
  have hs := State.ne_cancelled_of_allows ha
  have ht := State.not_isTerminal_of_allows ha
  simp [withdraw, h, hs, ht]

private theorem withdraw_of_cancelled (h : w.task? task = some t) (hs : t.state = .cancelled) :
    w.withdraw task = (w, none) := by
  simp [withdraw, h, hs]

/-- A barrier that fires for a cancelled task finds the task cancelled already. -/
theorem Wired.pursue_of_cancelled (h : Wired w task ref t b) (hs : t.state = .cancelled) (hv : b.verdict = none) :
    w.pursue (some ref) = w.setBarrier ref b.withdrawn := by
  have hset : Wired (w.setBarrier ref b.withdrawn) task ref t b.withdrawn := h.setBarrier rfl
  rw [pursue_of_open h.barrier?_eq h.holds hv]
  show ((w.setBarrier ref b.withdrawn).withdraw task).1.pursue ((w.setBarrier ref b.withdrawn).withdraw task).2 = _
  rw [withdraw_of_cancelled hset.task_eq hs, pursue_none]

/-! ### Moves of the barrier -/

/-- The task hears of the verdict that its barrier has just got. -/
private theorem Wired.call (h : Wired w task ref t b) (h0 : before.state.isEarly = true)
    (hf : before.Follows t.lifecycle []) (job : JobId) {v : Verdict} (hv : b.verdict = some v) :
    ∃ t', Joined ((w.call ref job ⟨.submit task, v⟩).1.pursue (w.call ref job ⟨.submit task, v⟩).2) task ref before
      t' b := by
  have hstate : t.state = before.state := hf.2
  obtain ⟨hsub, hfail, hcan⟩ := State.allows_of_isEarly (hstate ▸ h0)
  have hs : t.state ≠ .cancelled := State.ne_cancelled_of_allows hcan
  cases v with
  | ready =>
    refine ⟨t.after .submission, ?_⟩
    show Joined ((w.deliver task .submission).1.pursue none) task ref before (t.after .submission) b
    rw [pursue_none]
    refine ⟨h.deliver hs rfl hsub rfl, ?_⟩
    rw [hv, MonitoredTask.after_of_allows (e := .submission) rfl hsub]
    exact Or.inl (hf.enter .submitted)
  | failed report =>
    refine ⟨t.after .failedExecution, ?_⟩
    show Joined ((w.deliver task .failedExecution).1.pursue none) task ref before (t.after .failedExecution) b
    rw [pursue_none]
    refine ⟨h.deliver hs rfl hfail rfl, ?_⟩
    rw [hv, MonitoredTask.after_of_allows (e := .failedExecution) rfl hfail]
    exact Or.inl (hf.enter (.executed .failed))
  | cancelled =>
    refine ⟨t.after .cancellation, ?_⟩
    show Joined ((w.withdraw task).1.pursue (w.withdraw task).2) task ref before (t.after .cancellation) b
    rw [withdraw_of_allows h.task_eq hcan]
    refine ⟨h.pursue_cancellation hcan (by simp [hv]), ?_⟩
    rw [hv, MonitoredTask.after_of_allows (e := .cancellation) rfl hcan]
    exact hf.enter .cancelled

theorem Joined.ask (h : Joined w task ref before t b) (h0 : before.state.isEarly = true) (r : BarrierRequest) :
    ∃ t', Joined (w.ask ref r).1 task ref before t' (b.ask r).1 ∧ (t.state = .cancelled → t'.state = .cancelled) := by
  obtain ⟨hk, ho⟩ := Barrier.outcome_ask h.holds r
  have hset := h.toWired.setBarrier hk
  rcases ho with ⟨hf, hv⟩ | ⟨hn, v, hf, hv⟩
  · refine ⟨t, ?_, id⟩
    rw [ask_of_silent h.barrier?_eq hf]
    refine ⟨hset, ?_⟩
    rw [hv]
    exact h.agrees
  · have hag : before.Follows t.lifecycle [] := by
      have := h.agrees
      rwa [hn] at this
    obtain ⟨t', ht'⟩ := hset.call h0 hag b.job hv
    refine ⟨t', ?_, fun hs => absurd hn (h.agrees.verdict_ne_none h0 hs)⟩
    rw [ask_of_firing h.barrier?_eq hf]
    exact ht'

/-! ### Cancellations of the task -/

private theorem handle_eq (w : Workflow) (task : TaskRef) (e : Event) :
    (w.handle task e).1 = (w.deliver task e).1.pursue (w.deliver task e).2.2 := rfl

/-- A cancelled task stays as it is, and so does its barrier. -/
private theorem Joined.handle_of_cancelled (h : Joined w task ref before t b) (hs : t.state = .cancelled) :
    Joined (w.handle task .cancellation).1 task ref before (t.after .cancellation) b ∧
      (t.after .cancellation).state = .cancelled := by
  have ha : t.state.allows .cancelled = false := by
    rw [hs]
    rfl
  have hafter := MonitoredTask.after_of_not_allows (e := .cancellation) rfl ha
  obtain ⟨r, hr⟩ := Lifecycle.apply_of_not_allows (e := .cancellation) rfl ha
  rw [handle_eq, next_deliver_of_error h.task_eq hr, pursue_none, hafter]
  refine ⟨⟨⟨?_, ?_, h.holds, h.attached⟩, h.agrees⟩, hs⟩
  · rw [task?_deliver h.task_eq, hafter]
  · rw [barriers_deliver]
    exact h.barrier_eq

/-- The first cancellation of the task takes its open barrier down. -/
private theorem Joined.handle_of_open (h : Joined w task ref before t b) (ha : t.state.allows .cancelled = true)
    (hv : b.verdict = none) :
    Joined (w.handle task .cancellation).1 task ref before (t.after .cancellation) b.withdrawn := by
  have hag : before.Follows t.lifecycle [] := by
    have := h.agrees
    rwa [hv] at this
  have hafter := MonitoredTask.after_of_allows (e := .cancellation) rfl ha
  have hd := h.deliver_cancellation ha
  have hstate : (t.after .cancellation).state = .cancelled := by
    rw [hafter]
    rfl
  have hw : (w.handle task .cancellation).1 = (w.deliver task .cancellation).1.setBarrier ref b.withdrawn := by
    rw [handle_eq, h.next_eq (State.ne_cancelled_of_allows ha) rfl ha]
    exact hd.pursue_of_cancelled hstate hv
  rw [hw]
  refine ⟨hd.setBarrier rfl, ?_⟩
  rw [hafter]
  exact hag.enter .cancelled

/-- The barrier takes a cancellation of the task as one of its own. -/
theorem Joined.handle_cancellation (h : Joined w task ref before t b) (h0 : before.state.isEarly = true) :
    Joined (w.handle task .cancellation).1 task ref before (t.after .cancellation) (b.ask .cancel).1 ∧
      (t.after .cancellation).state = .cancelled := by
  by_cases hs : t.state = .cancelled
  · have hv := h.agrees.verdict_ne_none h0 hs
    rw [Barrier.ask, Barrier.cancel_of_verdict hv]
    exact h.handle_of_cancelled hs
  · have ha : t.state.allows .cancelled = true := h.agrees.allows_cancelled h0 hs
    have hafter := MonitoredTask.after_of_allows (e := .cancellation) rfl ha
    have hstate : (t.after .cancellation).state = .cancelled := by
      rw [hafter]
      rfl
    refine ⟨?_, hstate⟩
    by_cases hv : b.verdict = none
    · rw [Barrier.ask, Barrier.cancel_of_open h.holds hv]
      exact h.handle_of_open ha hv
    · rw [Barrier.ask, Barrier.cancel_of_verdict hv]
      refine ⟨h.pursue_cancellation ha hv, ?_⟩
      rw [hafter]
      exact h.agrees.enter_cancelled hs hv

/-! ### Any moves -/

theorem Joined.move (h : Joined w task ref before t b) (h0 : before.state.isEarly = true) (m : Move) :
    ∃ t', Joined (w.move task ref m) task ref before t' (b.ask m.asked).1 ∧
      (t.state = .cancelled ∨ m = .cancelTask → t'.state = .cancelled) := by
  cases m with
  | request r =>
    obtain ⟨t', h', hs⟩ := h.ask h0 r
    refine ⟨t', h', ?_⟩
    rintro (ht | hm)
    · exact hs ht
    · exact absurd hm (by simp)
  | cancelTask =>
    obtain ⟨h', hs⟩ := h.handle_cancellation h0
    exact ⟨t.after .cancellation, h', fun _ => hs⟩

/-- The barrier goes through the moves as if it were alone, and a cancellation of the task is never lost. -/
theorem Joined.moves (h : Joined w task ref before t b) (h0 : before.state.isEarly = true) (ms : List Move) :
    ∃ t', Joined (w.moves task ref ms) task ref before t' (b.run (ms.map Move.asked)).1 ∧
      (t.state = .cancelled ∨ .cancelTask ∈ ms → t'.state = .cancelled) := by
  induction ms generalizing w t b with
  | nil => exact ⟨t, h, fun hs => hs.resolve_right (by simp)⟩
  | cons m ms ih =>
    obtain ⟨t₁, h₁, hs₁⟩ := h.move h0 m
    obtain ⟨t', h', hs'⟩ := ih h₁
    refine ⟨t', h', ?_⟩
    intro hs
    apply hs'
    rcases hs with hs | hs
    · exact Or.inl (hs₁ (Or.inl hs))
    · rcases List.mem_cons.1 hs with hm | hm
      · exact Or.inl (hs₁ (Or.inr hm.symm))
      · exact Or.inr hm

end

end Workflow

namespace Coordinator

variable {c : Coordinator} {task : TaskRef} {t : MonitoredTask}

private theorem submitOnReady_eq (h : c.workflow.task? task = some t) :
    let added := c.workflow.addBarrier ⟨c.nextJob⟩ (.submit task)
    (c.submitOnReady task).2.2 = added.2 ∧
      (c.submitOnReady task).1.workflow =
        if t.state = .cancelled then (added.1.setTask task { t with barrier := none }).pursue (some added.2)
        else added.1.setTask task { t with barrier := some added.2 } := by
  intro added
  have ht : added.1.task? task = some t := h
  have hb : added.1.barriers[added.2.index]? = some ⟨.start ⟨c.nextJob⟩ (.submit task), true⟩ :=
    Workflow.barrier?_addBarrier c.workflow ⟨c.nextJob⟩ (.submit task)
  refine ⟨rfl, ?_⟩
  show added.1.attach task added.2 = _
  rw [Workflow.attach_eq ht, Workflow.held?_eq hb]

/-- A new barrier is wired to its task once it is attached, and to a cancelled task in any case. -/
private theorem wired_setTask (h : c.workflow.task? task = some t) (job : JobId) (barrier : Option BarrierRef)
    (hb : t.state = .cancelled ∨ barrier = some (c.workflow.addBarrier job (.submit task)).2) :
    let added := c.workflow.addBarrier job (.submit task)
    Workflow.Wired (added.1.setTask task { t with barrier := barrier }) task added.2 { t with barrier := barrier }
      (.start job (.submit task)) := by
  intro added
  constructor
  · exact Workflow.task?_setTask ((Workflow.task?_addBarrier c.workflow job (.submit task) task).trans h) _
  · rw [Workflow.barriers_setTask]
    exact Workflow.barrier?_addBarrier c.workflow job (.submit task)
  · exact Barrier.holds_start job _
  · exact hb

/-- A new barrier joins a task that has not been submitted. -/
theorem joined_submitOnReady (h : c.workflow.task? task = some t) (h0 : t.state.isEarly = true) :
    ∃ t', Workflow.Joined (c.submitOnReady task).1.workflow task (c.submitOnReady task).2.2 t.lifecycle t'
      (.start ⟨c.nextJob⟩ (.submit task)) := by
  obtain ⟨href, hw⟩ := submitOnReady_eq h
  rw [href, hw, if_neg (State.ne_cancelled_of_isEarly h0)]
  refine ⟨_, wired_setTask h _ _ (Or.inr rfl), ?_⟩
  exact ⟨(List.append_nil _).symm, rfl⟩

/-- A new barrier for a task that is cancelled already is cancelled at once. -/
theorem verdict_submitOnReady_of_cancelled (h : c.workflow.task? task = some t) (hs : t.state = .cancelled) :
    ∃ b, (c.submitOnReady task).1.workflow.barrier? (c.submitOnReady task).2.2 = some b ∧
      b.verdict = some .cancelled := by
  obtain ⟨href, hw⟩ := submitOnReady_eq h
  rw [href, hw, if_pos hs]
  have hwired := wired_setTask h ⟨c.nextJob⟩ none (Or.inl hs)
  rw [hwired.pursue_of_cancelled hs rfl]
  exact ⟨_, Workflow.barrier?_setBarrier hwired.barrier?_eq _, rfl⟩

/-- In whatever order a task and the barrier that submits it are asked, reported to and cancelled, the history of the
task tells the verdict of the barrier. The verdict is that of a barrier alone that is cancelled where the task is. -/
theorem agreement (h : c.workflow.task? task = some t) :
    (t.state.isEarly = true → ∀ ms : List Workflow.Move,
      let joined := c.submitOnReady task
      let w := joined.1.workflow.moves task joined.2.2 ms
      let b := ((Barrier.start ⟨c.nextJob⟩ (Continuation.submit task)).run (ms.map Workflow.Move.asked)).1
      w.barrier? joined.2.2 = some b ∧ ∃ t', w.task? task = some t' ∧ t.lifecycle.Agrees t'.lifecycle b.verdict ∧
        (t'.state = .cancelled → b.verdict ≠ none) ∧ (.cancelTask ∈ ms → t'.state = .cancelled)) ∧
      (t.state = .cancelled → ∃ b,
        (c.submitOnReady task).1.workflow.barrier? (c.submitOnReady task).2.2 = some b ∧
          b.verdict = some .cancelled) := by
  constructor
  · intro h0 ms joined w b
    obtain ⟨t₀, hj⟩ := joined_submitOnReady h h0
    obtain ⟨t', hj, hs⟩ := hj.moves h0 ms
    refine ⟨hj.barrier?_eq, t', hj.task_eq, hj.agrees, hj.agrees.verdict_ne_none h0, ?_⟩
    intro hm
    exact hs (Or.inr hm)
  · exact verdict_submitOnReady_of_cancelled h

/-- A new task that ends cancelled, submitted or failed with its barrier, and one that has been cancelled before. -/
theorem agreement_new_and_cancelled :
    let waiting := MonitoredTask.start ⟨1⟩ ⟨0⟩ false false
    let gone : MonitoredTask := { waiting with lifecycle := ((Lifecycle.start ⟨2⟩).apply .cancellation).1 }
    let workflow := (((Workflow.start (.empty false) .silent).addTask waiting).1.addTask gone).1
    let c : Coordinator := ⟨workflow, .empty, .node (.withCpus 1), 3, 1, false, 0⟩
    let joined := c.submitOnReady ⟨0⟩
    let moved := joined.1.workflow.moves ⟨0⟩ joined.2.2
    let ends (ms : List Workflow.Move) (v : Verdict) (state : State) : Prop :=
      ∃ t b, (moved ms).task? ⟨0⟩ = some t ∧ (moved ms).barrier? joined.2.2 = some b ∧ b.verdict = some v ∧
        waiting.lifecycle.Agrees t.lifecycle b.verdict ∧ t.state = state
    ends [.request .register, .cancelTask, .request .enable] .cancelled .cancelled ∧
      ends [.request .register, .request .enable, .request (.complete ⟨0, "a"⟩)] .ready .submitted ∧
      ends [.request .register, .request .enable, .request (.fail ⟨0, "a"⟩)] (.failed ⟨1, 1⟩) (.executed .failed) ∧
      ∃ b, (c.submitOnReady ⟨1⟩).1.workflow.barrier? (c.submitOnReady ⟨1⟩).2.2 = some b ∧
        b.verdict = some .cancelled := by
  intro waiting gone workflow c joined moved ends
  have h0 : c.workflow.task? ⟨0⟩ = some waiting := rfl
  have h1 : c.workflow.task? ⟨1⟩ = some gone := rfl
  have hends : ∀ ms v state,
      ((Barrier.start ⟨1⟩ (Continuation.submit ⟨0⟩)).run (ms.map Workflow.Move.asked)).1.verdict = some v →
      ((moved ms).task? ⟨0⟩).map MonitoredTask.state = some state → ends ms v state := by
    intro ms v state hv hstate
    obtain ⟨hb, t, ht, hag, -⟩ := (agreement h0).1 (by decide) ms
    obtain ⟨t', ht', rfl⟩ := Option.map_eq_some_iff.1 hstate
    obtain rfl : t = t' := Option.some.inj (ht.symm.trans ht')
    exact ⟨t, _, ht, hb, hv, hag, rfl⟩
  refine ⟨hends _ _ _ rfl ?_, hends _ _ _ rfl ?_, hends _ _ _ rfl ?_, (agreement h1).2 rfl⟩ <;> decide +kernel

end Coordinator

end TaskCoordination
