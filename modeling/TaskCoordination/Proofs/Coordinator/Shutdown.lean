import TaskCoordination.Proofs.Coordinator.Command
import TaskCoordination.Proofs.Workflow.Dispatch

/-!
# Shutdown

A coordinator that is shut down signals to its listener that the feed is closing, waits for it to end and clears the
table. Meanwhile tasks and others go on with its workflow and dispatch records (`shutdownAmid`). However all this is
interleaved with the turns of the listener, nothing that was accepted is lost or given twice (`shutdown_delivers`).

A listener may break down on any records it likes. As long as it is at work, all records that have been accepted are
with it or wait. When it has ended, no record is accepted any more; if the shutdown succeeds, it has been given
exactly the accepted records, in their order; if not, those up to the first one that it breaks down on. The table is
left without entries. A listener ends that takes enough turns, and a shutdown by itself lets it do so.
-/

namespace TaskCoordination

def Action.isByHand : Action → Bool
  | .feed a => a.isByHand
  | _ => false

namespace Session

variable {s : Session} {as : List Action}

theorem isByHand_trace (h : ∀ a ∈ as, a.isByHand = false) : ∀ c ∈ s.trace as, c.isByHand = false := by
  intro c hc
  obtain ⟨a, ha, hcause⟩ := exists_of_mem_trace hc
  cases hcause with
  | feed f => exact h _ ha
  | _ => rfl

end Session

namespace Coordinator

/-- Ends the coordinator while others go on with the workflow that it leaves. The answer comes when the listener has
ended. -/
def shutdownAmid (c : Coordinator) (during : List Action) : Workflow × Bool :=
  let w := ((Session.bare c.drop).run during).workflow
  (w.mapTelemetry Telemetry.clear, !w.feed.isCrashed)

/-- A shutdown that nothing interferes with. -/
theorem shutdown_eq (c : Coordinator) : c.shutdown = c.shutdownAmid [.feed .pump] := rfl

/-- The changes that lead up to a shutdown, and those that come while it waits. -/
private theorem replay_shutdown {s : Session} {before : List Action} {c : Coordinator}
    (hc : s.run before = .running c) (during : List Action) :
    s.workflow.replay (s.trace before ++ .feed .signal :: (Session.bare c.drop).trace during) =
      ((Session.bare c.drop).run during).workflow := by
  have hbefore : s.workflow.replay (s.trace before) = c.workflow := by
    rw [← Session.workflow_run, hc]
    rfl
  rw [Workflow.replay_append, hbefore, Session.workflow_run]
  rfl

/-- Whatever else is done while a coordinator is shut down, its listener is given exactly the accepted records, or
those up to the first one that it breaks down on. -/
theorem shutdown_delivers {s : Session} {capacity : Nat} {breaksOn : Breakdown}
    (hs : s.workflow.feed = .heard capacity breaksOn) {before during : List Action}
    (hown : ∀ a ∈ before ++ during, a.isByHand = false) {c : Coordinator} (hc : s.run before = .running c) :
    let w := (c.shutdownAmid during).1
    let changes := (Session.bare c.drop).trace during
    let accepted := s.workflow.accepted (s.trace before ++ .feed .signal :: changes)
    (w.feed.isAttended = true → w.feed.given ++ w.feed.queue.waiting = accepted) ∧
    (w.feed.isAttended = false →
      (∀ later, ∀ x ∈ w.dispatches later, x.isTaken = false) ∧
      ((c.shutdownAmid during).2 = true → w.feed.given = accepted ∧ Withstands breaksOn accepted) ∧
      ((c.shutdownAmid during).2 = false → ∃ pre r rest, Withstands breaksOn pre ∧ breaksOn pre r = true ∧
        w.feed.given = pre ++ [r] ∧ accepted = pre ++ r :: rest)) ∧
    w.telemetry.blocks = [] ∧
    (c.workflow.feed.queue.waiting.length + (c.drop.accepted changes).length + 2 ≤ changes.countP Change.isTurn →
      w.feed.isAttended = false) ∧
    c.shutdown = c.shutdownAmid [.feed .pump] ∧ c.shutdown.1.feed.isAttended = false := by
  intro w changes accepted
  have hlog : ∀ x ∈ s.trace before ++ .feed .signal :: changes, x.isByHand = false := by
    have hbefore : ∀ x ∈ s.trace before, x.isByHand = false :=
      Session.isByHand_trace fun a ha => hown a (List.mem_append_left _ ha)
    have hduring : ∀ x ∈ changes, x.isByHand = false :=
      Session.isByHand_trace fun a ha => hown a (List.mem_append_right _ ha)
    intro x hx
    rcases List.mem_append.1 hx with hx | hx
    · exact hbefore x hx
    · rcases List.mem_cons.1 hx with rfl | hx
      · rfl
      · exact hduring x hx
  have hdelivers : w.feed.Delivers breaksOn accepted := by
    have hstart : s.workflow.feed.Delivers breaksOn [] := hs ▸ Feed.delivers_heard capacity breaksOn
    have hreplay := Workflow.delivers_replay hstart hlog
    rwa [replay_shutdown hc during] at hreplay
  have hanswer : (c.shutdownAmid during).2 = !w.feed.isCrashed := rfl
  have hfeed : w.feed = (c.drop.replay changes).feed := by
    show ((Session.bare c.drop).run during).workflow.feed = _
    rw [Session.workflow_run]
    rfl
  refine ⟨hdelivers.given_append_waiting, ?_, rfl, ?_, c.shutdown_eq, ?_⟩
  · intro hended
    refine ⟨?_, ?_, ?_⟩
    · intro later x hx
      exact Workflow.isTaken_eq_false_of_mem_dispatches (hdelivers.isOpen_eq_false hended) hx
    · intro hok
      rw [hanswer, Bool.not_eq_true'] at hok
      exact hdelivers.given_eq hended hok
    · intro hfailed
      rw [hanswer, Bool.not_eq_false'] at hfailed
      exact hdelivers.exists_of_isCrashed hfailed
  · intro hturns
    rw [hfeed]
    exact Workflow.isAttended_replay (w := c.drop) rfl (fun x hx => hlog x (by simp [hx])) hturns
  · exact Feed.isAttended_pump (f := c.workflow.feed.signal) rfl

/-- A record waits when the signal comes, and two others come while the queue is flushed, the second of which finds
no room. Of two listeners one breaks down on the first record. -/
theorem shutdown_delivers_while_flushing :
    let plan := fun b : Breakdown => (⟨.node (.withCpus 1), some b, 1, true, 0⟩ : Plan)
    let started := fun b : Breakdown =>
      (⟨.start ⟨.empty, { Telemetry.empty with computingUnits := 1 }, true⟩ (plan b).feed, .empty, (plan b).node, 1,
        1, true, 0⟩ : Coordinator)
    let before : List Action := [.addTask ⟨1⟩ ⟨0⟩ true true, .handle ⟨0⟩ .submission]
    let during : List Action := [.feed .turn, .feed .turn, .handle ⟨0⟩ .dataReception, .handle ⟨0⟩ .cancellation,
      .feed .turn, .feed .turn, .handle ⟨0⟩ .completion]
    let reached := fun b : Breakdown => (started b).withWorkflow ((Session.running (started b)).run before).workflow
    let ended := fun b : Breakdown => (reached b).shutdownAmid during
    let steady : Breakdown := fun _ _ => false
    let delicate : Breakdown := fun _ r => r.event = "submission"
    (∀ b, (plan b).start = .ok (started b)) ∧ (∀ a ∈ before ++ during, a.isByHand = false) ∧
    ((ended steady).2 = true ∧
      (ended steady).1.feed.given.map LifecycleRecord.event = ["submission", "data_reception"] ∧
      (ended steady).1.telemetry.blocks = []) ∧
    (ended delicate).2 = false ∧ (ended delicate).1.feed.given.length = 1 ∧
      ∃ pre r, delicate pre r = true ∧ (ended delicate).1.feed.given = pre ++ [r] := by
  intro plan started before during reached ended steady delicate
  have hown : ∀ a ∈ before ++ during, a.isByHand = false := by decide
  have hdelivers := fun b => @shutdown_delivers (.running (started b)) 1 b rfl before during hown (reached b) rfl
  refine ⟨fun _ => rfl, hown, ?_, ?_⟩
  · obtain ⟨-, hended, hcleared, -⟩ := hdelivers steady
    have hok : (ended steady).2 = true := by decide +kernel
    obtain ⟨-, hgiven, -⟩ := hended (by decide +kernel)
    refine ⟨hok, ?_, hcleared⟩
    have hevents := congrArg (List.map LifecycleRecord.event) (hgiven hok).1
    exact hevents.trans (by decide +kernel)
  · obtain ⟨-, hended, -⟩ := hdelivers delicate
    have hfailed : (ended delicate).2 = false := by decide +kernel
    obtain ⟨-, -, hlast⟩ := hended (by decide +kernel)
    obtain ⟨pre, r, -, -, hr, hgiven, -⟩ := hlast hfailed
    exact ⟨hfailed, by decide +kernel, pre, r, hr, hgiven⟩

end Coordinator

end TaskCoordination
