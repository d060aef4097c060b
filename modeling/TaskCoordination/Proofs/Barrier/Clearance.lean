import TaskCoordination.Proofs.Barrier.Firing

/-!
# Cleared barriers

A barrier `Records` the log of its requests if it has come from a new one by them; it then has an account of the log,
and makes at most one firing (`Records.firings_le`). One that is ready has been cleared: it is enabled, and each
transfer that was registered has been completed (`Records.isCleared`).
-/

namespace TaskCoordination

namespace Exchange

variable {κ : Type}

/-- An accepted registration of a transfer. -/
def isRegistered (x : Exchange κ) : Bool :=
  x.request = .register && x.reply.isAccepted

/-- An accepted report of a transfer that has come to its end without a failure. -/
def isCompleted (x : Exchange κ) : Bool :=
  x.request.failures? = some 0 && x.reply.isAccepted

end Exchange

namespace Barrier

variable {κ : Type} {b b' : Barrier κ} {log : List (Exchange κ)}

theorem total_settle (b : Barrier κ) : b.settle.1.total = b.total :=
  congrArg BarrierStatus.total (status_settle b)

/-- The total goes up with each registration. -/
theorem Step.total_eq {x : Exchange κ} (hs : Step b x b') : b'.total = b.total + if x.isRegistered then 1 else 0 := by
  cases hs with
  | registered => rfl
  | @resolved r n hr _ =>
    have hne : r ≠ .register := fun h => by simp [h, BarrierRequest.failures?] at hr
    rw [total_settle]
    simp [Exchange.isRegistered, hne, Barrier.resolved]
  | enabled => exact total_settle b.opened
  | refused => simp [Exchange.isRegistered, BarrierReply.isAccepted]
  | enabledBefore | cancelled | cancelledLate | isFired | job | debug => rfl

theorem total_run (job : JobId) (k : κ) (rs : List BarrierRequest) :
    ((start job k).run rs).1.total = ((start job k).run rs).2.countP Exchange.isRegistered := by
  refine run_induction (P := fun b log => b.total = log.countP Exchange.isRegistered) ?_ [] rfl rs
  intro b x b' log h hs
  rw [hs.total_eq, h, List.countP_append, List.countP_singleton]

/-- Transfers that end complete or fail. -/
private theorem countP_isNotified (log : List (Exchange κ)) :
    log.countP Exchange.isNotified = log.countP Exchange.isCompleted + log.countP Exchange.isFailed := by
  induction log with
  | nil => rfl
  | cons x log ih =>
    have hx : (if x.isNotified then 1 else 0) = (if x.isCompleted then 1 else 0) + if x.isFailed then 1 else 0 := by
      obtain ⟨r, reply, firing⟩ := x
      cases r <;> simp [Exchange.isNotified, Exchange.isCompleted, Exchange.isFailed, BarrierRequest.isNotification,
        BarrierRequest.isFailure, BarrierRequest.failures?]
    rw [List.countP_cons, List.countP_cons, List.countP_cons, hx, ih]
    omega

/-- The barrier has come from a new one by the exchanges of the log. -/
def Records (b : Barrier κ) (log : List (Exchange κ)) : Prop :=
  ∃ job k rs, b = ((start job k).run rs).1 ∧ log = ((start job k).run rs).2

theorem records_start (job : JobId) (k : κ) : (start job k).Records [] :=
  ⟨job, k, [], rfl, rfl⟩

theorem Records.run (h : b.Records log) (rs : List BarrierRequest) :
    (b.run rs).1.Records (log ++ (b.run rs).2) := by
  obtain ⟨job, k, rs', rfl, rfl⟩ := h
  refine ⟨job, k, rs' ++ rs, ?_, ?_⟩ <;> rw [run_append]

theorem Records.holds (h : b.Records log) : ∃ k, b.Holds k := by
  obtain ⟨job, k, rs, rfl, -⟩ := h
  exact ⟨k, holds_run (holds_start job k) rs⟩

theorem Records.firings_le (h : b.Records log) : (log.filterMap Exchange.firing).length ≤ 1 := by
  obtain ⟨job, k, rs, rfl, rfl⟩ := h
  rw [(account_run job k rs).firings, Option.length_toList]
  split <;> omega

/-- Nothing is in the way of the job: the barrier is enabled, nothing is pending, nothing has failed, and as many
transfers have been completed as were registered. -/
structure IsCleared (b : Barrier κ) (log : List (Exchange κ)) : Prop where
  enabled : b.enabled = true
  pending : b.pending = 0
  errors : b.errors = 0
  completions : log.countP Exchange.isCompleted = log.countP Exchange.isRegistered

theorem Records.isCleared (h : b.Records log) (hv : b.verdict = some .ready) : b.IsCleared log := by
  obtain ⟨job, k, rs, rfl, rfl⟩ := h
  have ha := account_run job k rs
  obtain ⟨henabled, hpending, herrors⟩ := ha.ready hv
  refine ⟨henabled, hpending, herrors, ?_⟩
  have htotal := ha.total
  have hfailed := ha.errors
  have hsplit := countP_isNotified ((start job k).run rs).2
  rw [total_run] at htotal
  omega

end Barrier

end TaskCoordination
