import Mathlib.Data.List.Dedup
import TaskCoordination.Proofs.Barrier.Clearance

/-!
# Operations that are notified twice

A barrier counts the transfers that come to an end and does not tell them apart. A notification is turned down if
every transfer that was registered has been notified, and is accepted otherwise, whether or not the operation that
it names has been notified before (`notifications_counted`). So a barrier that is ready has been told of as many
completions as there are transfers. They are completions of different operations if no operation was notified twice,
but two completions of one operation also make up for two transfers (`ready_after_repeated_completion`).
-/

namespace TaskCoordination

namespace Exchange

variable {κ : Type}

theorem isNotified_of_isCompleted {x : Exchange κ} (h : x.isCompleted = true) : x.isNotified = true := by
  obtain ⟨r, reply, firing⟩ := x
  simp only [isCompleted, Bool.and_eq_true, decide_eq_true_eq] at h
  simp [isNotified, BarrierRequest.isNotification, h.1, h.2]

end Exchange

namespace Barrier

variable {κ : Type}

/-- The operations that the log has accepted notifications of, in their order. -/
def notified (log : List (Exchange κ)) : List DataOperation :=
  (log.filter Exchange.isNotified).filterMap fun x => x.request.operation?

/-- The operations that the log has accepted completions of, in their order. -/
def completed (log : List (Exchange κ)) : List DataOperation :=
  (log.filter Exchange.isCompleted).filterMap fun x => x.request.operation?

/-- Each notification names an operation. -/
private theorem length_filterMap_operation? {p : Exchange κ → Bool} (hp : ∀ x, p x = true → x.isNotified = true)
    (log : List (Exchange κ)) :
    ((log.filter p).filterMap fun x => x.request.operation?).length = log.countP p := by
  rw [List.length_filterMap_eq_countP, List.countP_filter]
  refine List.countP_congr fun x _ => ?_
  have hx : p x = true → x.request.isNotification = true := fun h => (Bool.and_eq_true_iff.1 (hp x h)).1
  simp only [BarrierRequest.isSome_operation?, Bool.and_eq_true]
  exact ⟨fun h => h.2, fun h => ⟨hx h, h⟩⟩

theorem length_notified (log : List (Exchange κ)) : (notified log).length = log.countP Exchange.isNotified :=
  length_filterMap_operation? (fun _ h => h) log

theorem length_completed (log : List (Exchange κ)) : (completed log).length = log.countP Exchange.isCompleted :=
  length_filterMap_operation? (fun _ => Exchange.isNotified_of_isCompleted) log

theorem completed_sublist (log : List (Exchange κ)) : (completed log).Sublist (notified log) := by
  refine List.Sublist.filterMap _ ?_
  exact List.monotone_filter_right log fun _ => Exchange.isNotified_of_isCompleted

private theorem job_run (job : JobId) (k : κ) (rs : List BarrierRequest) : ((start job k).run rs).1.job = job := by
  refine run_induction (P := fun b _ => b.job = job) ?_ [] rfl rs
  intro b x b' log h hs
  rw [hs.job_eq, h]

/-- What is pending after a run is the difference between registrations and notifications. -/
private theorem registered_run (job : JobId) (k : κ) (rs : List BarrierRequest) :
    ((start job k).run rs).2.countP Exchange.isRegistered =
      ((start job k).run rs).1.pending + (notified ((start job k).run rs).2).length := by
  rw [← total_run, length_notified]
  exact (account_run job k rs).total

/-- Whether another notification is due depends on the numbers alone, and a barrier that is ready has been told of
as many completions as transfers were registered. -/
theorem notifications_counted (job : JobId) (k : κ) (rs : List BarrierRequest) :
    let b := ((start job k).run rs).1
    let log := ((start job k).run rs).2
    let registered := log.countP Exchange.isRegistered
    (∀ r d, r.operation? = some d →
      ((notified log).length = registered →
        b.ask r = (b, .rejected (.unmatchedNotification job d.name), none)) ∧
      ((notified log).length ≠ registered →
        (b.ask r).2.1.isAccepted = true ∧ (b.ask r).1.pending + 1 = b.pending)) ∧
      (b.verdict = some .ready → (completed log).length = registered ∧
        ((completed log).dedup.length = registered ↔ (notified log).Nodup)) := by
  intro b log registered
  have hjob : b.job = job := job_run job k rs
  have hpending : registered = b.pending + (notified log).length := registered_run job k rs
  constructor
  · intro r d hd
    constructor
    · intro hn
      have hp : b.pending = 0 := by omega
      have he : b.refusal? r = some (.unmatchedNotification job d.name) := by
        rw [refusal?_of_operation? b hd, if_pos hp, hjob]
      exact ask_of_refusal? he
    · intro hn
      have hp : 0 < b.pending := by omega
      obtain ⟨n, hr⟩ := BarrierRequest.failures?_of_operation? hd
      rw [ask_of_failures? hr hp]
      refine ⟨rfl, ?_⟩
      have hs : (b.resolved n).settle.1.pending = b.pending - 1 :=
        congrArg BarrierStatus.pending (status_settle (b.resolved n))
      show (b.resolved n).settle.1.pending + 1 = b.pending
      omega
  · intro hv
    have hcleared : b.IsCleared log := Records.isCleared ⟨job, k, rs, rfl, rfl⟩ hv
    have hlength : (completed log).length = registered := by rw [length_completed, hcleared.completions]
    have hp : b.pending = 0 := hcleared.pending
    -- nothing has failed, so what was notified has been completed
    have heq : completed log = notified log := (completed_sublist log).eq_of_length (by omega)
    refine ⟨hlength, ?_⟩
    rw [← heq, ← List.dedup_eq_self, ← hlength]
    exact ⟨(List.dedup_sublist _).eq_of_length, fun h => by rw [h]⟩

/-- Two transfers are registered, and one operation is completed twice: the second notification is accepted while the
other operation is pending, and the barrier is ready. -/
theorem ready_after_repeated_completion :
    let d : DataOperation := ⟨0, "d1v1"⟩
    let ran := (start ⟨1⟩ ()).run [.register, .register, .enable, .complete d, .complete d]
    ran.2.map Exchange.reply =
        [.done, .done, .verdict none, .verdict none, .verdict (some .ready)] ∧
      ran.1.verdict = some .ready ∧ ran.2.countP Exchange.isRegistered = 2 ∧ completed ran.2 = [d, d] ∧
      (completed ran.2).dedup = [d] := by
  decide

end Barrier

end TaskCoordination
