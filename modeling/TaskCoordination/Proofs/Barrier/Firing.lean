import Mathlib.Data.List.Basic
import TaskCoordination.Proofs.Barrier.Run
import TaskCoordination.Proofs.List

/-!
# Firings

A barrier hands out its continuation once, with the verdict that it gives (`firings_run`); the request that brings
this about is told the verdict, and no other request is (`announced_run`). `Account` collects what holds of a barrier
and its log after any run (`account_run`).
-/

namespace TaskCoordination

namespace Barrier

variable {κ : Type}

theorem judgement_ne_cancelled (b : Barrier κ) : b.judgement ≠ .cancelled := by
  unfold judgement
  split <;> simp

theorem judgement_eq_ready {b : Barrier κ} (h : b.judgement = .ready) : b.errors = 0 := by
  unfold judgement at h
  split at h
  · next he => exact he
  · exact absurd h (by simp)

theorem judgement_eq_failed {b : Barrier κ} {report : FailureReport} (h : b.judgement = .failed report) :
    report.errors = b.errors ∧ 1 ≤ b.errors ∧ report.total = b.total := by
  unfold judgement at h
  split at h
  · exact absurd h (by simp)
  · next he =>
    obtain rfl : ⟨b.errors, b.total⟩ = report := by simpa using h
    exact ⟨rfl, Nat.pos_of_ne_zero he, rfl⟩

private theorem map_verdict_fire (b : Barrier κ) (v : Verdict) :
    (b.fire v).2.map Firing.verdict = b.continuation.map fun _ => v := by
  rw [fire, Option.map_map]
  rfl

private theorem map_verdict_settle_ne (b : Barrier κ) : b.settle.2.map Firing.verdict ≠ some .cancelled := by
  by_cases h : b.IsDue
  · rw [settle_of_isDue h, map_verdict_fire]
    cases b.continuation with
    | none => simp
    | some k => simpa using b.judgement_ne_cancelled
  · rw [settle_of_not_isDue h]
    simp

/-- A request is told of a verdict exactly if it has brought it about: a cancellation by its flag, any other verdict
as such. -/
theorem Step.announced {k : κ} {b b' : Barrier κ} {x : Exchange κ} (hk : b.Holds k) (hs : Step b x b') :
    x.announced = x.firing.map Firing.verdict ∧ x.reply ≠ .verdict (some .cancelled) := by
  cases hs with
  | @resolved _ n _ _ =>
    refine ⟨rfl, ?_⟩
    intro h
    exact map_verdict_settle_ne (b.resolved n) (by simpa using h)
  | enabled _ _ =>
    refine ⟨rfl, ?_⟩
    intro h
    exact map_verdict_settle_ne b.opened (by simpa using h)
  | cancelled h =>
    rw [fire_of_holds hk h]
    exact ⟨rfl, (by simp)⟩
  | isFired => exact ⟨by cases b.isFired <;> rfl, (by simp)⟩
  | refused | registered | enabledBefore | cancelledLate | job | debug => exact ⟨rfl, (by simp)⟩

private theorem toList_outcome {k : κ} {b b' : Barrier κ} {firing : Option (Firing κ)}
    (h : Outcome k b firing b') :
    (b'.verdict.map (Firing.mk k)).toList = (b.verdict.map (Firing.mk k)).toList ++ firing.toList := by
  rcases h with ⟨rfl, hv⟩ | ⟨hb, v, rfl, hv⟩
  · rw [hv]
    simp
  · rw [hv, hb]
    rfl

private theorem filterMap_append_singleton {α β : Type} (f : α → Option β) (l : List α) (a : α) :
    (l ++ [a]).filterMap f = l.filterMap f ++ (f a).toList := by
  rw [List.filterMap_append]
  cases h : f a <;> simp [h]

/-- The firings of a run: the one that goes with the verdict, if there is one. -/
theorem firings_run {k : κ} {b : Barrier κ} (log : List (Exchange κ)) (hk : b.Holds k)
    (h : log.filterMap Exchange.firing = (b.verdict.map (Firing.mk k)).toList) (rs : List BarrierRequest) :
    (log ++ (b.run rs).2).filterMap Exchange.firing = ((b.run rs).1.verdict.map (Firing.mk k)).toList := by
  refine (run_induction (P := fun b log => b.Holds k ∧
    log.filterMap Exchange.firing = (b.verdict.map (Firing.mk k)).toList) ?_ log ⟨hk, h⟩ rs).2
  intro b x b' log ⟨hk, hlog⟩ hs
  have ho := hs.outcome hk
  refine ⟨ho.1, ?_⟩
  rw [filterMap_append_singleton, hlog, toList_outcome ho.2]

theorem announced_run {k : κ} {b : Barrier κ} (hk : b.Holds k) (rs : List BarrierRequest) :
    ∀ x ∈ (b.run rs).2, x.announced = x.firing.map Firing.verdict ∧ x.reply ≠ .verdict (some .cancelled) := by
  refine (run_induction (P := fun b log => b.Holds k ∧ ∀ x ∈ log, x.announced = x.firing.map Firing.verdict ∧
    x.reply ≠ .verdict (some .cancelled)) ?_ [] ⟨hk, by simp⟩ rs).2
  intro b x b' log ⟨hk, hlog⟩ hs
  exact ⟨(hs.outcome hk).1, forall_mem_concat.2 ⟨hlog, hs.announced hk⟩⟩

/-- What holds of a barrier with the continuation `k` after the exchanges of a log. -/
structure Account (k : κ) (b : Barrier κ) (log : List (Exchange κ)) : Prop where
  /-- The continuation is called once if there is a verdict, with that verdict, and else not at all. -/
  firings : log.filterMap Exchange.firing = (b.verdict.map (Firing.mk k)).toList
  /-- One request is told of the verdict if there is one, and none before. -/
  announcements : log.filterMap Exchange.announced = b.verdict.toList
  /-- A request is told of the verdict that it brings about: a cancellation by its flag, any other as such. -/
  announced : ∀ x ∈ log, x.announced = x.firing.map Firing.verdict ∧ x.reply ≠ .verdict (some .cancelled)
  ready : b.verdict = some .ready → b.enabled = true ∧ b.pending = 0 ∧ b.errors = 0
  failed : ∀ report, b.verdict = some (.failed report) → b.enabled = true ∧ b.pending = 0 ∧
    report.errors = b.errors ∧ 1 ≤ b.errors ∧ report.total = b.total
  waiting : b.verdict = none → b.enabled = false ∨ 0 < b.pending
  enabled : b.enabled = true ↔ ∃ x ∈ log, x.isEnabled = true
  total : b.total = b.pending + log.countP Exchange.isNotified
  errors : b.errors = log.countP Exchange.isFailed
  bound : b.errors + b.pending ≤ b.total

private theorem isNotified_of_isFailed {x : Exchange κ} (h : x.isFailed = true) : x.isNotified = true := by
  obtain ⟨r, reply, firing⟩ := x
  cases r <;> simp_all [Exchange.isFailed, Exchange.isNotified, BarrierRequest.isFailure,
    BarrierRequest.isNotification, BarrierRequest.failures?]

theorem account_run (job : JobId) (k : κ) (rs : List BarrierRequest) :
    ((start job k).run rs).1.Account k ((start job k).run rs).2 := by
  have hf := firings_run [] (holds_start job k) rfl rs
  have ha := announced_run (holds_start job k) rs
  have hc := coherent_run (coherent_start job k) rs
  have ht := tallied_run (tallied_start job k) rs
  rw [List.nil_append] at hf ht
  generalize ((start job k).run rs).1 = b at *
  generalize ((start job k).run rs).2 = log at *
  refine ⟨hf, ?_, ha, ?_, ?_, hc.waiting, ?_, ht.total, ht.errors, ?_⟩
  · -- each firing is announced, so the announcements are the firings over again
    have hm : log.filterMap Exchange.announced = (log.filterMap Exchange.firing).map Firing.verdict := by
      rw [List.map_filterMap]
      exact List.filterMap_congr fun x hx => (ha x hx).1
    rw [hm, hf]
    cases b.verdict <;> rfl
  · intro hv
    obtain ⟨he, hp, hj⟩ := hc.decided _ hv (by simp)
    exact ⟨he, hp, judgement_eq_ready hj.symm⟩
  · intro report hv
    obtain ⟨he, hp, hj⟩ := hc.decided _ hv (by simp)
    exact ⟨he, hp, judgement_eq_failed hj.symm⟩
  · rw [ht.enabled, List.any_eq_true]
  · have hle : log.countP Exchange.isFailed ≤ log.countP Exchange.isNotified :=
      List.countP_mono_left fun x _ h => isNotified_of_isFailed h
    have htotal := ht.total
    have herrors := ht.errors
    omega

end Barrier

end TaskCoordination
