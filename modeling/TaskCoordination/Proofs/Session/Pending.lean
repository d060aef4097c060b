import TaskCoordination.Proofs.Session.Basic
import TaskCoordination.Proofs.Workflow.Pending

/-!
# The pending gauge in a session

In a session whose attempts are opened and closed by events alone, the pending gauge of a core element never exceeds
the number of open attempts of its tasks, whatever is registered, cleared or reset on the way. A gauge that was there
before the first submission, and whose table is not cleared afterwards, equals that number, and so comes back to zero
with the last attempt (`pending_gauge`).
-/

namespace TaskCoordination

namespace Action

/-- An attempt is opened or closed past the tasks. -/
def isAttempt : Action → Bool
  | directory a => a.isAttempt
  | _ => false

/-- The blocks of the table are dropped. -/
def clears (announces : Bool) : Action → Bool
  | directory a => a.clears announces
  | coordinator .shutdown => true
  | _ => false

end Action

namespace Workflow

/-- The table covers the core element, and none of its tasks has been submitted. -/
structure IsUnused (core : CoreId) (w : Workflow) : Prop where
  covered : w.telemetry.pending? core ≠ none
  attempts : ∀ t ∈ w.tasks, t.isMeteredFor core = true → t.lifecycle.attempts = 0

variable {w : Workflow}

theorem IsNew.isSound (h : w.IsNew) : w.IsSound := by
  intro t ht
  rw [h.tasks] at ht
  exact absurd ht (by simp)

theorem IsNew.isBounded (h : w.IsNew) : w.IsBounded := by
  intro core n hn
  rw [Telemetry.pending?_eq, h.blocks] at hn
  exact absurd hn (by simp)

/-- Where no attempt has been opened, a gauge that counts no more than the open attempts counts them all. -/
theorem IsUnused.isBalanced {core : CoreId} (h : w.IsUnused core) (hs : w.IsSound) (hb : w.IsBounded) :
    w.IsBalanced core := by
  obtain ⟨n, hn⟩ := Option.ne_none_iff_exists'.1 h.covered
  have hz : w.openTasks core = 0 := by
    refine openTasks_eq_zero fun t ht hm => ?_
    cases ho : t.lifecycle.isOpen with
    | false => rfl
    | true =>
      have hp := (hs t ht).attempts_pos ho
      rw [h.attempts t ht hm] at hp
      exact absurd hp (by simp)
  have hle := hb core n hn
  have hn0 : n = 0 := by omega
  rw [IsBalanced, hn, hz, hn0]

end Workflow

namespace Session

variable {s : Session}

private theorem isAttempt_trace {as : List Action} (h : ∀ a ∈ as, a.isAttempt = false) :
    ∀ c ∈ s.trace as, c.isAttempt = false := by
  intro c hc
  obtain ⟨a, ha, hcause⟩ := exists_of_mem_trace hc
  have := h a ha
  cases hcause with
  | directory => exact this
  | _ => rfl

private theorem clears_trace {announces : Bool} {as : List Action} (h : ∀ a ∈ as, a.clears announces = false) :
    ∀ c ∈ s.trace as, c.clears announces = false := by
  intro c hc
  obtain ⟨a, ha, hcause⟩ := exists_of_mem_trace hc
  have := h a ha
  cases hcause with
  | directory | shutdown => exact this
  | _ => rfl

/-- Whatever is done in a session, the pending gauges count no more than the open attempts, which are no more than the
submissions; and from a gauge that has counted from the start on they count them all. -/
theorem pending_gauge (hs : s.workflow.IsNew) (as : List Action) (has : ∀ a ∈ as, a.isAttempt = false) :
    let w := (s.run as).workflow
    (∀ core n, w.telemetry.pending? core = some n →
      n ≤ w.openTasks core ∧ (w.submissions ≤ gaugeMax → n ≤ gaugeMax)) ∧
      ∀ core before after, as = before ++ after → (s.run before).workflow.IsUnused core →
        (∀ a ∈ after, a.clears s.workflow.directory.announces = false) →
        w.telemetry.pending? core = some (w.openTasks core) ∧
          ((∀ t ∈ w.tasks, t.isMeteredFor core = true → t.state.isUnderWay = false) →
            w.telemetry.pending? core = some 0) := by
  intro w
  have hsound : ∀ as, (s.run as).workflow.IsSound := by
    intro as
    rw [workflow_run]
    exact Workflow.isSound_replay hs.isSound _
  have hbounded : ∀ as, (∀ a ∈ as, a.isAttempt = false) → (s.run as).workflow.IsBounded := by
    intro as has
    rw [workflow_run]
    exact hs.isBounded.replay hs.isSound (isAttempt_trace has)
  constructor
  · intro core n hn
    have hle : n ≤ w.openTasks core := hbounded as has core n hn
    have hsub := Workflow.openTasks_le_submissions (hsound as) core
    exact ⟨hle, fun hmax => Nat.le_trans hle (Nat.le_trans hsub hmax)⟩
  · rintro core before after rfl hunused hclears
    have hw : w = (s.run before).workflow.replay ((s.run before).trace after) := by
      show (s.run (before ++ after)).workflow = _
      rw [run_append, workflow_run]
    have hannounces : (s.run before).workflow.directory.announces = s.workflow.directory.announces := by
      rw [workflow_run, Workflow.announces_replay]
    have hbefore := hbounded before fun a ha => has a (List.mem_append_left _ ha)
    have hbalanced : w.IsBalanced core := by
      rw [hw]
      refine (hunused.isBalanced (hsound before) hbefore).replay (hsound before) ?_ ?_
      · exact isAttempt_trace fun a ha => has a (List.mem_append_right _ ha)
      · rw [hannounces]
        exact clears_trace hclears
    refine ⟨hbalanced, fun hidle => ?_⟩
    -- an open attempt would be under way
    have hz : w.openTasks core = 0 := by
      refine Workflow.openTasks_eq_zero fun t ht hm => ?_
      cases ho : t.lifecycle.isOpen with
      | false => rfl
      | true =>
        have hu := (hsound (before ++ after) t ht).isUnderWay ho
        rw [show t.lifecycle.state.isUnderWay = false from hidle t ht hm] at hu
        exact absurd hu (by simp)
    rw [hbalanced, hz]

/-- Of two tasks, one submitted by its barrier and again after an error, the other cancelled, an attempt is left open
until the first task ends. -/
theorem pending_gauge_two_tasks :
    let p : Plan := ⟨.node (.withCpus 4), none, 8, true, 0⟩
    let c : Coordinator := ⟨.start ⟨.empty, { Telemetry.empty with computingUnits := 4 }, true⟩ p.feed, .empty,
      p.node, 1, 1, true, 0⟩
    let s : Session := .running c
    let before : List Action := [.directory (.table (.grow 1)), .addTask ⟨1⟩ ⟨0⟩ true false,
      .addTask ⟨2⟩ ⟨0⟩ true false, .addBarrier ⟨1⟩ (.submit ⟨0⟩), .attach ⟨0⟩ ⟨0⟩]
    let after : List Action := [.ask ⟨0⟩ .enable, .handle ⟨1⟩ .submission, .handle ⟨0⟩ .errorExecution,
      .handle ⟨0⟩ .submission, .handle ⟨1⟩ .cancellation]
    p.start = .ok c ∧ (s.run (before ++ after)).workflow.telemetry.pending? ⟨0⟩ = some 1 ∧
      (s.run (before ++ (after ++ [.handle ⟨0⟩ .completion]))).workflow.telemetry.pending? ⟨0⟩ = some 0 := by
  intro p c s before after
  have hstart : p.start = .ok c := rfl
  have hnew : s.workflow.IsNew := isNew_of_start hstart
  have hunused : (s.run before).workflow.IsUnused ⟨0⟩ := ⟨by decide, by decide⟩
  have hopen : (s.run (before ++ after)).workflow.openTasks ⟨0⟩ = 1 := by decide +kernel
  refine ⟨hstart, ?_, ?_⟩
  · have h := (pending_gauge hnew (before ++ after) (by decide)).2 ⟨0⟩ before after rfl hunused (by decide)
    rw [h.1, hopen]
  · have h := (pending_gauge hnew (before ++ (after ++ [.handle ⟨0⟩ .completion])) (by decide)).2 ⟨0⟩ before
      (after ++ [.handle ⟨0⟩ .completion]) rfl hunused (by decide)
    exact h.2 (by decide +kernel)

end Session

end TaskCoordination
