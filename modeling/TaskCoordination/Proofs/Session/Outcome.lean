import TaskCoordination.Proofs.Session.Basic
import TaskCoordination.Proofs.Workflow.Records

/-!
# Reported outcomes in a session

An attempt of a task reports one outcome, and another one only after a schedule. A listener is given records of what
its tasks have accepted and of nothing else, so it hears of no more outcomes than that (`reported_outcomes`).

Tasks may share an identifier: the outcomes that go by the number of an attempt are no more than the recorded tasks
of the identifier and the schedules.
-/

namespace TaskCoordination

namespace Session

variable {s : Session}

/-- An attempt has at most one outcome more than schedules, and so a listener, which is given some of the records in
their order, hears of no more. -/
theorem reported_outcomes (hs : s.workflow.IsNew) (hf : s.workflow.feed.kept = []) (as : List Action)
    (has : ∀ a ∈ as, ∀ r, a ≠ .feed (.offer r)) (id : TaskId) (n : Nat) :
    (∀ es, ((Lifecycle.start id).acceptances es).countP (Acceptance.reports (n + 1)) ≤
      1 + ((Lifecycle.start id).acceptances es).countP (Acceptance.schedules (n + 1))) ∧
      let w := (s.run as).workflow
      let records := s.workflow.records (s.trace as)
      w.feed.given.Sublist records ∧
        records.countP (LifecycleRecord.isOutcomeOf id (n + 1)) ≤
          w.tasks.countP (MonitoredTask.isRecordedAs id) +
            records.countP (LifecycleRecord.isScheduleOf id (n + 1)) := by
  constructor
  · intro es
    obtain ⟨hcloses, hreports⟩ := Lifecycle.outcomes_of_attempt id es n
    omega
  · intro w records
    have hw : w = s.workflow.replay (s.trace as) := workflow_run s as
    have hkept : w.feed.kept.Sublist (s.workflow.feed.kept ++ records) := by
      rw [hw]
      exact Workflow.kept_replay (not_offer_trace has)
    rw [hf, List.nil_append] at hkept
    refine ⟨w.feed.given_sublist.trans hkept, ?_⟩
    rw [hw]
    exact Workflow.outcomes_replay id n hs.tasks (s.trace as)

/-- The listener of a started coordinator is given two outcomes of a first attempt, with the schedule between them. -/
theorem reported_outcomes_scheduled_again :
    let p : Plan := ⟨.node (.withCpus 1), some fun _ _ => false, 8, false, 0⟩
    let c : Coordinator := ⟨.start (.empty false) p.feed, .empty, p.node, 1, 1, false, 0⟩
    let s : Session := .running c
    let as : List Action := [.coordinator (.newTask ⟨.method, "m", ⟨0⟩, {}, [], false, false⟩),
      .handle ⟨0⟩ .submission, .handle ⟨0⟩ .errorExecution, .handle ⟨0⟩ .schedule, .handle ⟨0⟩ .failedExecution,
      .feed .pump]
    let records := s.workflow.records (s.trace as)
    p.start = .ok c ∧
      (s.run as).workflow.feed.given.countP (LifecycleRecord.isOutcomeOf ⟨1⟩ 1) = 2 ∧
      records.countP (LifecycleRecord.isOutcomeOf ⟨1⟩ 1) ≤
        1 + records.countP (LifecycleRecord.isScheduleOf ⟨1⟩ 1) := by
  intro p c s as records
  have hstart : p.start = .ok c := rfl
  have hnew : s.workflow.IsNew := isNew_of_start hstart
  obtain ⟨-, -, hle⟩ := reported_outcomes hnew rfl as (by simp [as]) ⟨1⟩ 0
  have hone : (s.run as).workflow.tasks.countP (MonitoredTask.isRecordedAs ⟨1⟩) = 1 := by decide +kernel
  rw [hone] at hle
  exact ⟨hstart, by decide +kernel, hle⟩

end Session

end TaskCoordination
