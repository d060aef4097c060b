import TaskCoordination.Proofs.Lifecycle.Outcome
import TaskCoordination.Proofs.Session.Basic
import TaskCoordination.Proofs.Workflow.Agreement
import TaskCoordination.Proofs.Workflow.Delivery

/-!
# What a verdict does to a task

A barrier that fires hands its task a submission if it is ready and a failed execution if it is not. A state that
allows the one allows the other, but for a task that has reported an outcome (`State.allows_failed_eq`): it can be
submitted again, while a failure of the transfers for that is turned down and leaves no trace
(`failure_lost_after_outcome`). `verdict_delivered` says what becomes of either verdict.
-/

namespace TaskCoordination

namespace State

variable {s : State}

/-- A task can be submitted before its first submission, and after an outcome. -/
theorem allows_submitted_eq (s : State) : s.allows .submitted = (s.isEarly || s.isExecuted) := by
  cases s <;> rfl

/-- Where a submission is allowed, so is a failure to execute, except after an outcome. -/
theorem allows_failed_eq (h : s.allows .submitted = true) : s.allows (.executed .failed) = !s.isExecuted := by
  cases hx : s.isExecuted with
  | true =>
    cases s with
    | executed outcome => rfl
    | _ => exact absurd hx (by simp [isExecuted])
  | false =>
    rw [allows_submitted_eq, hx, Bool.or_false] at h
    exact (allows_of_isEarly h).2.1

end State

namespace Workflow

variable {w : Workflow} {t : TaskRef} {task : MonitoredTask}

/-- The verdict of a barrier comes down to one event for its task, unless it is a cancellation. -/
private theorem task?_ask_of_firing (ht : w.task? t = some task) {ref : BarrierRef} {r : BarrierRequest} {v : Verdict}
    (hf : w.firing? ref r = some ⟨.submit t, v⟩) :
    (v = .ready → (w.ask ref r).1.task? t = some (task.after .submission)) ∧
      ∀ report, v = .failed report → (w.ask ref r).1.task? t = some (task.after .failedExecution) := by
  obtain ⟨b, hb, hask⟩ := Option.bind_eq_some_iff.1 hf
  have ht' : (w.setBarrier ref (b.ask r).1).task? t = some task := ht
  rw [ask_of_firing hb hask]
  constructor
  · rintro rfl
    simp only [call, pursue_none]
    exact task?_deliver ht' .submission
  · rintro report rfl
    simp only [call, pursue_none]
    exact task?_deliver ht' .failedExecution

/-- A ready barrier brings its task another attempt. One that has failed makes the task report a failed execution,
unless it has reported an outcome already. -/
theorem verdict_delivered {ref : BarrierRef} {r : BarrierRequest} {v : Verdict} (ht : w.task? t = some task)
    (hs : w.accepts t .submission = true) (hf : w.firing? ref r = some ⟨.submit t, v⟩) :
    (v = .ready → ∃ task', (w.ask ref r).1.task? t = some task' ∧
        task.lifecycle.Follows task'.lifecycle [.submitted] ∧
        task'.lifecycle.attempts = task.lifecycle.attempts + 1) ∧
      ∀ report, v = .failed report → w.accepts t .failedExecution = !task.state.isExecuted ∧
        ∃ task', (w.ask ref r).1.task? t = some task' ∧
          (task.state.isExecuted = false → task.lifecycle.Follows task'.lifecycle [.executed .failed]) ∧
          (task.state.isExecuted = true → task' = task) := by
  have hallows : task.state.allows .submitted = true := by rwa [accepts_eq ht rfl] at hs
  have hfailed : w.accepts t .failedExecution = !task.state.isExecuted := by
    rw [accepts_eq ht rfl, State.allows_failed_eq hallows]
  have hstart : task.lifecycle.Follows task.lifecycle [] := ⟨(List.append_nil _).symm, rfl⟩
  obtain ⟨hready, hfail⟩ := task?_ask_of_firing ht hf
  constructor
  · intro hv
    refine ⟨_, hready hv, ?_⟩
    rw [MonitoredTask.after_of_allows (e := .submission) rfl hallows]
    exact ⟨hstart.enter .submitted, rfl⟩
  · intro report hv
    refine ⟨hfailed, _, hfail report hv, ?_, ?_⟩
    · intro hx
      have ha : task.state.allows (.executed .failed) = true := by rw [State.allows_failed_eq hallows, hx]; rfl
      rw [MonitoredTask.after_of_allows (e := .failedExecution) rfl ha]
      exact hstart.enter (.executed .failed)
    · intro hx
      have ha : task.state.allows (.executed .failed) = false := by rw [State.allows_failed_eq hallows, hx]; rfl
      exact MonitoredTask.after_of_not_allows rfl ha

/-- The barrier of a new task is ready, and that of a task scheduled again has failed: both are heard. -/
theorem verdict_delivered_new_and_scheduled_again :
    let s : Session := .bare (.start (.empty false) .silent)
    let w := (s.run [.addTask ⟨1⟩ ⟨0⟩ false false, .addBarrier ⟨1⟩ (.submit ⟨0⟩), .attach ⟨0⟩ ⟨0⟩]).workflow
    let w' := (s.run [.addTask ⟨1⟩ ⟨0⟩ false false, .handle ⟨0⟩ .submission, .handle ⟨0⟩ .errorExecution,
      .handle ⟨0⟩ .schedule, .addBarrier ⟨1⟩ (.submit ⟨0⟩), .attach ⟨0⟩ ⟨0⟩, .ask ⟨0⟩ .register,
      .ask ⟨0⟩ (.fail ⟨0, "d1v1"⟩)]).workflow
    (∃ task, (w.ask ⟨0⟩ .enable).1.task? ⟨0⟩ = some task ∧ task.lifecycle.history = [.submitted] ∧
        task.lifecycle.attempts = 1) ∧
      ∃ task, (w'.ask ⟨0⟩ .enable).1.task? ⟨0⟩ = some task ∧
        task.lifecycle.history = [.submitted, .executed .error, .scheduled, .executed .failed] := by
  intro s w w'
  constructor
  · have hw : (w.task? ⟨0⟩).map MonitoredTask.lifecycle = some (.start ⟨1⟩) := by decide +kernel
    obtain ⟨task, ht, hl⟩ := Option.map_eq_some_iff.1 hw
    have hf : w.firing? ⟨0⟩ .enable = some ⟨.submit ⟨0⟩, .ready⟩ := rfl
    obtain ⟨hready, -⟩ := verdict_delivered ht (by decide +kernel) hf
    obtain ⟨task', ht', ⟨hh, -⟩, hn⟩ := hready rfl
    rw [hl] at hh hn
    exact ⟨task', ht', hh, hn⟩
  · have hw : (w'.task? ⟨0⟩).map MonitoredTask.lifecycle =
        some ((Lifecycle.start ⟨1⟩).run [.submission, .errorExecution, .schedule]) := by decide +kernel
    obtain ⟨task, ht, hl⟩ := Option.map_eq_some_iff.1 hw
    have hf : (w'.firing? ⟨0⟩ .enable).map (fun f => (f.continuation, f.verdict)) =
        some (.submit ⟨0⟩, .failed ⟨1, 1⟩) := by decide +kernel
    obtain ⟨⟨k, v⟩, hf, hk⟩ := Option.map_eq_some_iff.1 hf
    obtain ⟨rfl, rfl⟩ := Prod.mk.inj hk
    obtain ⟨-, hfailed⟩ := verdict_delivered ht (by decide +kernel) hf
    obtain ⟨-, task', ht', hfollows, -⟩ := hfailed ⟨1, 1⟩ rfl
    have hx : task.state.isExecuted = false := by rw [MonitoredTask.state, hl]; rfl
    obtain ⟨hh, -⟩ := hfollows hx
    rw [hl] at hh
    exact ⟨task', ht', hh⟩

/-- An executed task accepts a submission, but not the failure of its barrier: the verdict leaves no trace on it. -/
theorem failure_lost_after_outcome :
    let s : Session := .bare (.start (.empty false) .silent)
    let w := (s.run [.addTask ⟨1⟩ ⟨0⟩ false false, .handle ⟨0⟩ .submission, .handle ⟨0⟩ .errorExecution,
      .addBarrier ⟨1⟩ (.submit ⟨0⟩), .attach ⟨0⟩ ⟨0⟩, .ask ⟨0⟩ .register, .ask ⟨0⟩ (.fail ⟨0, "d1v1"⟩)]).workflow
    w.accepts ⟨0⟩ .submission = true ∧ w.accepts ⟨0⟩ .failedExecution = false ∧
      (w.ask ⟨0⟩ .enable).2 = some (.verdict (some (.failed ⟨1, 1⟩))) ∧
      ((w.ask ⟨0⟩ .enable).1.task? ⟨0⟩).map (fun task => task.lifecycle.history) =
        some [.submitted, .executed .error] := by
  decide +kernel

end Workflow

end TaskCoordination
