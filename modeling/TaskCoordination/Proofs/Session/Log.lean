import TaskCoordination.Proofs.Session.Basic
import TaskCoordination.Proofs.Workflow.Log

/-!
# The log of a session

The records of a session are received by hand, one by one, while its tasks make others. What has been received and
what still waits is a log of the accepted events in which only those are missing that found the queue full, or
nobody receiving any more (`faithful_log`).

Every accepted event of a recorded task makes a report, and no other. Those that are not lost are received, or wait,
or have waited until nobody received any more. A record tells of its task as the event has left it, and what a task
reports to have entered is its history. So where nothing is lost and nobody shares the identifier of a task, the
history is in the log.
-/

namespace TaskCoordination

namespace Session

variable {s : Session}

/-- The log consists of records of accepted events in their order. Only those are missing that found the queue full
or closed, and where none is the histories are in it. -/
theorem faithful_log (hs : s.workflow.IsNew) {capacity : Nat} (hf : s.workflow.feed = .manual capacity)
    (as : List Action) (has : ∀ a ∈ as, ∀ r, a ≠ .feed (.offer r)) :
    let start := s.workflow
    let changes := s.trace as
    let w := (s.run as).workflow
    let reports := start.reports changes
    let log := start.received changes ++ w.feed.queue.waiting
    log.Sublist (reports.map Report.record) ∧
    start.received changes ++ start.dropped changes ++ w.feed.queue.waiting =
      (reports.filter Report.isTaken).map Report.record ∧
    (Change.feed .close ∉ changes → start.dropped changes = []) ∧
    (∀ pre c post, changes = pre ++ c :: post →
      let v := start.replay pre
      ((v.report? c).isSome = true ↔
        ∃ d t, v.delivery? c = some d ∧ d.accepted = true ∧ v.task? d.task = some t ∧ t.recorded = true) ∧
      ∀ x, v.report? c = some x →
        (x.isTaken = false ↔ v.feed.queue.waiting.length = max capacity 1 ∨ Change.feed .close ∈ pre) ∧
        ∃ d t, v.delivery? c = some d ∧ (v.change c).task? d.task = some t ∧
          x.Tells d t ((start.deliveries (pre ++ [c])).countP (Delivery.submits d.task))) ∧
    ∀ ref t, w.task? ref = some t → t.recorded = true →
      Report.entries ref reports = t.lifecycle.history ∧
      ((∀ x ∈ reports, x.isTaken = true) → Change.feed .close ∉ changes →
        (∀ other t', w.task? other = some t' → t'.recorded = true → t'.lifecycle.task = t.lifecycle.task →
          other = ref) →
        (log.filter fun r => r.task = t.lifecycle.task && r.isEntry).map LifecycleRecord.state =
          t.lifecycle.history) := by
  intro start changes w reports log
  have hw : w = start.replay changes := workflow_run s as
  have hoffer : ∀ c ∈ changes, ∀ r, c ≠ .feed (.offer r) := not_offer_trace has
  have hledger := (Workflow.ledger_replay hf hoffer).2
  rw [← hw] at hledger
  refine ⟨hledger.sublist, hledger.balance, hledger.dropped_eq_nil, ?_, ?_⟩
  · intro pre c post hsplit v
    have hc : ∀ r, c ≠ .feed (.offer r) := hoffer c (by simp [hsplit])
    have hpre : ∀ c ∈ pre, ∀ r, c ≠ .feed (.offer r) := fun c hc => hoffer c (by simp [hsplit, hc])
    refine ⟨Workflow.isSome_report?_iff, ?_⟩
    intro x hx
    exact ⟨Workflow.isTaken_replay_eq_false_iff hf hpre hc hx, Workflow.tells_of_report?_replay hs.tasks hx⟩
  · intro ref t ht hr
    have hhistory : Report.entries ref reports = t.lifecycle.history := by
      rw [Workflow.entries_reports hs.tasks, ← hw, Workflow.recordedHistory, ht]
      simp only [hr, if_true]
    refine ⟨hhistory, ?_⟩
    intro htaken hopen hunique
    have hlog : log = reports.map Report.record := hledger.eq_of_isTaken htaken hopen
    rw [hw] at ht hunique
    rw [hlog, Workflow.entries_of_unique hunique ht, hhistory]

/-- A queue with room for one record: the second record is lost, unless the first one is received before it comes. -/
theorem faithful_log_room_for_one :
    let s : Session := .bare (.start (.empty false) (.manual 0))
    let as : List Action := [.addTask ⟨1⟩ ⟨0⟩ false true, .handle ⟨0⟩ .submission, .handle ⟨0⟩ .dataReception]
    let as' : List Action :=
      [.addTask ⟨1⟩ ⟨0⟩ false true, .handle ⟨0⟩ .submission, .feed .receive, .handle ⟨0⟩ .dataReception]
    ((s.workflow.received (s.trace as) ++ (s.run as).workflow.feed.queue.waiting).length = 1 ∧
      Report.entries ⟨0⟩ (s.workflow.reports (s.trace as)) = [.submitted, .dataReceived]) ∧
    ((s.workflow.received (s.trace as') ++ (s.run as').workflow.feed.queue.waiting).filter fun r =>
      r.task = ⟨1⟩ && r.isEntry).map LifecycleRecord.state = [.submitted, .dataReceived] := by
  intro s as as'
  have hnew : s.workflow.IsNew := isNew_start false _
  have hopen : ∀ as, Action.feed .close ∉ as → Change.feed .close ∉ s.trace as := by
    intro as has hc
    obtain ⟨a, ha, hcause⟩ := exists_of_mem_trace hc
    cases hcause
    exact has ha
  have htask : ∀ w : Workflow, (w.task? ⟨0⟩).map (fun t => (t.lifecycle.task, t.recorded, t.lifecycle.history)) =
      some (⟨1⟩, true, [.submitted, .dataReceived]) → ∃ t, w.task? ⟨0⟩ = some t ∧ t.lifecycle.task = ⟨1⟩ ∧
        t.recorded = true ∧ t.lifecycle.history = [.submitted, .dataReceived] := by
    intro w hw
    obtain ⟨t, ht, hfields⟩ := Option.map_eq_some_iff.1 hw
    exact ⟨t, ht, by simpa using hfields⟩
  constructor
  · obtain ⟨-, hbalance, hdropped, -, hhistory⟩ := faithful_log hnew rfl as (by simp [as])
    obtain ⟨t, ht, -, hr, hh⟩ := htask (s.run as).workflow (by decide +kernel)
    rw [hdropped (hopen as (by simp [as])), List.append_nil] at hbalance
    refine ⟨?_, (hhistory ⟨0⟩ t ht hr).1.trans hh⟩
    rw [hbalance]
    decide +kernel
  · obtain ⟨-, -, -, -, hhistory⟩ := faithful_log hnew rfl as' (by simp [as'])
    obtain ⟨t, ht, hid, hr, hh⟩ := htask (s.run as').workflow (by decide +kernel)
    have hlength : (s.run as').workflow.tasks.length = 1 := by decide +kernel
    have htaken : ∀ x ∈ s.workflow.reports (s.trace as'), x.isTaken = true := by decide +kernel
    rw [← hid, ← hh]
    refine (hhistory ⟨0⟩ t ht hr).2 htaken (hopen as' (by simp [as'])) ?_
    rintro ⟨_ | n⟩ t' ht' - -
    · rfl
    · have hlt : n + 1 < _ := (List.getElem?_eq_some_iff.1 ht').1
      omega

end Session

end TaskCoordination
