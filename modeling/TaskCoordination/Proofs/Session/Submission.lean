import TaskCoordination.Proofs.Session.Basic
import TaskCoordination.Proofs.Workflow.Submission

/-!
# Submissions in a session

A task that is submitted by the barriers of its coordinator alone is never submitted without its inputs: each accepted
submission comes from a barrier of its own that has been cleared, and there are no more attempts than barriers that
are ready (`submissions_cleared`).
-/

namespace TaskCoordination

/-- The action submits the task, or makes a barrier that does, past `submitOnReady`. -/
def Action.submitsPast (t : TaskRef) : Action → Bool
  | handle t' e => t' = t && e.isSubmission
  | addBarrier _ k | coordinator (.newBarrier k) => k = .submit t
  | _ => false

namespace Session

variable {s : Session} {t : TaskRef}

/-- The barrier that an action makes for the task, if it is `submitOnReady`. -/
def barrierFor? (s : Session) (t : TaskRef) : Action → Option BarrierRef
  | .coordinator (.submitOnReady t') =>
    match s with
    | running c => if t' = t then some (c.submitOnReady t').2.2 else none
    | bare _ => none
  | _ => none

/-- The barriers that `submitOnReady` makes for the task in a run. -/
def barriersFor (s : Session) (t : TaskRef) : List Action → List BarrierRef
  | [] => []
  | a :: rest => (s.barrierFor? t a).toList ++ (s.act a).barriersFor t rest

private theorem submitters_submitOnReady (c : Coordinator) (t t' : TaskRef) :
    c.workflow.submitters t (c.changes (.submitOnReady t')) =
      ((running c).barrierFor? t (.coordinator (.submitOnReady t'))).toList := by
  have hattaching : ∀ w w' b, Workflow.submitters w t (Workflow.attaching w' t' b) = [] := by
    intro w w' b
    refine Workflow.submitters_eq_nil ?_
    rintro x hx job rfl
    rcases Workflow.mem_attaching hx with ⟨barrier, hx⟩ | ⟨ref, r, hx⟩ <;> exact absurd hx (by simp)
  show (Workflow.submitter? _ t _).toList ++ _ = _
  rw [hattaching, List.append_nil, Workflow.submitter?, barrierFor?]
  by_cases ht : t' = t
  · subst ht
    simp only [if_true]
    rfl
  · have hk : Continuation.submit t' ≠ .submit t := fun hk => ht (Continuation.submit.inj hk)
    simp only [ht, hk, if_false]

private theorem submitters_changes (s : Session) {a : Action} (h : a.submitsPast t = false) :
    s.workflow.submitters t (s.changes a) = (s.barrierFor? t a).toList := by
  by_cases ha : ∃ t', a = .coordinator (.submitOnReady t')
  · obtain ⟨t', rfl⟩ := ha
    cases s with
    | running c => exact submitters_submitOnReady c t t'
    | bare w => rfl
  · have hnone : s.barrierFor? t a = none := by
      unfold barrierFor?
      split
      · next t' => exact absurd ⟨t', rfl⟩ ha
      · rfl
    rw [hnone]
    refine Workflow.submitters_eq_nil ?_
    rintro c hc job rfl
    cases causes_of_mem hc with
    | addBarrier | newBarrier => exact absurd h (by simp [Action.submitsPast])
    | submitOnReady => exact ha ⟨t, rfl⟩

theorem submitters_trace (s : Session) {as : List Action} (h : ∀ a ∈ as, a.submitsPast t = false) :
    s.workflow.submitters t (s.trace as) = s.barriersFor t as := by
  induction as generalizing s with
  | nil => rfl
  | cons a as ih =>
    obtain ⟨ha, has⟩ := List.forall_mem_cons.1 h
    rw [trace, Workflow.submitters_append, submitters_changes s ha, ← workflow_act, ih (s.act a) has, barriersFor]

/-- Past the barriers nothing submits the task. -/
private theorem source_ne_none {as : List Action} (h : ∀ a ∈ as, a.submitsPast t = false) {pre post : List Change}
    {c : Change} (htrace : s.trace as = pre ++ c :: post) {d : Delivery}
    (hd : (s.workflow.replay pre).delivery? c = some d) (hsubmits : d.submits t = true) : d.source ≠ none := by
  intro hsource
  obtain rfl := Workflow.eq_event_of_source hd hsource
  have hmem : .event d.task d.event ∈ s.trace as := by simp [htrace]
  obtain ⟨a, ha, hcause⟩ := exists_of_mem_trace hmem
  have hpast := h a ha
  cases hcause
  simp only [Delivery.submits, Bool.and_eq_true] at hsubmits
  simp [Action.submitsPast, hsubmits.1.1, hsubmits.1.2] at hpast

/-- Each accepted submission is handed over by a cleared barrier that `submitOnReady` made for the task, one by
each, and there are no more attempts than barriers that are ready. -/
theorem submissions_cleared (hs : s.workflow.IsNew) (t : TaskRef) (as : List Action)
    (has : ∀ a ∈ as, a.submitsPast t = false) :
    let w := s.workflow
    let log := s.trace as
    (∀ pre c post d, log = pre ++ c :: post → (w.replay pre).delivery? c = some d → d.submits t = true →
      ∃ ref ∈ s.barriersFor t as, d.source = some ref ∧
        ∃ b, (w.replay (pre ++ [c])).barrier? ref = some b ∧ b.IsCleared (w.transcript ref (pre ++ [c]))) ∧
      (∀ ref, (w.deliveries log).countP (fun d => d.source = some ref) ≤ 1) ∧
      (s.barriersFor t as).Nodup ∧
      (s.run as).workflow.attempts t ≤ (s.barriersFor t as).countP (s.run as).workflow.isReady := by
  intro w log
  have hmade : w.submitters t log = s.barriersFor t as := submitters_trace s has
  have hattempts : w.attempts t = 0 := by
    rw [Workflow.attempts, Workflow.task?, hs.tasks]
    rfl
  refine ⟨?_, fun ref => Workflow.deliveries_of_barrier hs.barriers log ref, ?_, ?_⟩
  · intro pre c post d hlog hd hsubmits
    obtain ⟨ref, hsource⟩ := Option.ne_none_iff_exists'.1 (source_ne_none has hlog hd hsubmits)
    have hcleared := Workflow.IsClearedFor.of_delivery hs.barriers hd hsubmits hsource
    refine ⟨ref, ?_, hsource, hcleared.cleared⟩
    rw [← hmade, hlog, List.append_cons, Workflow.submitters_append]
    exact List.mem_append_left _ hcleared.made
  · rw [← hmade]
    exact Workflow.nodup_submitters w t log
  · rw [← hmade, workflow_run]
    refine Workflow.attempts_le_countP_isReady hs.barriers hattempts fun d hd hsubmits => ?_
    obtain ⟨pre, c, post, hlog, hd⟩ := Workflow.mem_deliveries hd
    exact source_ne_none has hlog hd hsubmits

/-- Two attempts, each with a barrier of its own, and a third barrier that comes too late for the cancelled task. -/
theorem submissions_cleared_after_error :
    let p : Plan := ⟨.node (.withCpus 1), none, 8, false, 0⟩
    let c : Coordinator := ⟨.start (.empty false) p.feed, .empty, p.node, 1, 1, false, 0⟩
    let s : Session := .running c
    let as : List Action := [.addTask ⟨1⟩ ⟨0⟩ false false, .coordinator (.submitOnReady ⟨0⟩), .ask ⟨0⟩ .enable,
      .handle ⟨0⟩ .errorExecution, .coordinator (.submitOnReady ⟨0⟩), .ask ⟨1⟩ .register, .ask ⟨1⟩ .enable,
      .ask ⟨1⟩ (.complete ⟨0, "a"⟩), .handle ⟨0⟩ .cancellation, .coordinator (.submitOnReady ⟨0⟩)]
    p.start = .ok c ∧ s.barriersFor ⟨0⟩ as = [⟨0⟩, ⟨1⟩, ⟨2⟩] ∧ (s.run as).workflow.attempts ⟨0⟩ = 2 ∧
      2 ≤ (s.barriersFor ⟨0⟩ as).countP (s.run as).workflow.isReady ∧
      ∃ pre c post d, s.trace as = pre ++ c :: post ∧ (s.workflow.replay pre).delivery? c = some d ∧
        d.submits ⟨0⟩ = true ∧ ∃ ref ∈ s.barriersFor ⟨0⟩ as, d.source = some ref ∧
          ∃ b, (s.workflow.replay (pre ++ [c])).barrier? ref = some b ∧
            b.IsCleared (s.workflow.transcript ref (pre ++ [c])) := by
  intro p c s as
  have hstart : p.start = .ok c := rfl
  have hnew : s.workflow.IsNew := isNew_of_start hstart
  obtain ⟨hcleared, -, -, hle⟩ := submissions_cleared hnew ⟨0⟩ as (by decide)
  have hattempts : (s.run as).workflow.attempts ⟨0⟩ = 2 := by decide +kernel
  have hsubmitted : (s.workflow.deliveries (s.trace as)).any (Delivery.submits ⟨0⟩) = true := by decide +kernel
  obtain ⟨d, hd, hsubmits⟩ := List.any_eq_true.1 hsubmitted
  obtain ⟨pre, c, post, hlog, hd⟩ := Workflow.mem_deliveries hd
  rw [hattempts] at hle
  refine ⟨hstart, by decide +kernel, hattempts, hle, pre, c, post, d, hlog, hd, hsubmits, ?_⟩
  exact hcleared pre c post d hlog hd hsubmits

end Session

end TaskCoordination
