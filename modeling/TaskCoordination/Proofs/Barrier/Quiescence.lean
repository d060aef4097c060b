import Mathlib.Data.List.Induction
import Mathlib.Data.List.Infix
import TaskCoordination.Proofs.Barrier.Firing

/-!
# Quiescence

A schedule registers some transfers, reports the end of each and enables the barrier, in any order in which no report
comes before its registration and, once the barrier is enabled, something stays pending until the end (`IsSchedule`).
While the schedule goes on the barrier only counts (`run_of_prefix`); its last request makes the barrier fire, with a
verdict that does not depend on the order (`quiescence`).
-/

namespace TaskCoordination

open BarrierRequest (failures? failures?_eq isNotification isFailure)

/-- The requests for `total` transfers, `errors` of which fail. -/
structure IsSchedule (total errors : Nat) (rs : List BarrierRequest) : Prop where
  kinds : ∀ r ∈ rs, r = .register ∨ r.isNotification = true ∨ r = .enable
  registrations : rs.count .register = total
  notifications : rs.countP isNotification = total
  failures : rs.countP isFailure = errors
  enables : rs.count .enable = 1
  /-- No transfer ends before it is registered. -/
  covered : ∀ p, p <+: rs → p.countP isNotification ≤ p.count .register
  /-- Before the end an enabled barrier has something to wait for. -/
  ahead : ∀ p, p <+: rs → p.length < rs.length → .enable ∈ p → p.countP isNotification < p.count .register

instance (total errors : Nat) (rs : List BarrierRequest) : Decidable (IsSchedule total errors rs) :=
  decidable_of_iff
    ((∀ r ∈ rs, r = .register ∨ r.isNotification = true ∨ r = .enable) ∧ rs.count .register = total ∧
      rs.countP isNotification = total ∧ rs.countP isFailure = errors ∧ rs.count .enable = 1 ∧
      ∀ p ∈ rs.inits, p.countP isNotification ≤ p.count .register ∧
        (p.length < rs.length → .enable ∈ p → p.countP isNotification < p.count .register)) <| by
    constructor
    · rintro ⟨hk, hr, hn, hf, he, hp⟩
      exact ⟨hk, hr, hn, hf, he, fun p h => (hp p ((List.mem_inits p rs).2 h)).1,
        fun p h => (hp p ((List.mem_inits p rs).2 h)).2⟩
    · intro h
      refine ⟨h.kinds, h.registrations, h.notifications, h.failures, h.enables, fun p hp => ?_⟩
      have hp := (List.mem_inits p rs).1 hp
      exact ⟨h.covered p hp, h.ahead p hp⟩

namespace Barrier

variable {κ : Type}

/-- The barrier that has counted all the requests and not fired yet. -/
def counted (job : JobId) (k : κ) (rs : List BarrierRequest) : Barrier κ where
  job := job
  pending := rs.count .register - rs.countP isNotification
  errors := rs.countP isFailure
  total := rs.count .register
  enabled := decide (.enable ∈ rs)
  verdict := none
  continuation := some k

/-! ### One request more -/

private theorem counted_register (job : JobId) (k : κ) {p : List BarrierRequest} {r : BarrierRequest}
    (h : r = .register) (hc : p.countP isNotification ≤ p.count .register) :
    counted job k (p ++ [r]) =
      { counted job k p with pending := (counted job k p).pending + 1, total := (counted job k p).total + 1 } := by
  have hr : (p ++ [r]).count .register = p.count .register + 1 := by simp [h]
  have hn : (p ++ [r]).countP isNotification = p.countP isNotification := by simp [h, isNotification, failures?]
  have hf : (p ++ [r]).countP isFailure = p.countP isFailure := by simp [h, isFailure, failures?]
  have he : .enable ∈ p ++ [r] ↔ .enable ∈ p := by simp [h]
  have hp : p.count .register + 1 - p.countP isNotification = p.count .register - p.countP isNotification + 1 := by
    omega
  simp only [counted, hr, hn, hf, he, hp]

private theorem counted_notification (job : JobId) (k : κ) (p : List BarrierRequest) {r : BarrierRequest} {n : Nat}
    (h : r.failures? = some n) : counted job k (p ++ [r]) = (counted job k p).resolved n := by
  have hr : r ≠ .register := fun hr => by simp [hr, failures?] at h
  have he : r ≠ .enable := fun he => by simp [he, failures?] at h
  have ha : (p ++ [r]).count .register = p.count .register := by simp [hr]
  have hn : (p ++ [r]).countP isNotification = p.countP isNotification + 1 := by simp [isNotification, h]
  have hf : (p ++ [r]).countP isFailure = p.countP isFailure + n := by
    rw [failures?_eq h, List.countP_append, List.countP_singleton]
  have hm : .enable ∈ p ++ [r] ↔ .enable ∈ p := by simp [he.symm]
  simp only [counted, resolved, ha, hn, hf, hm, Nat.sub_add_eq]

private theorem counted_enable (job : JobId) (k : κ) (p : List BarrierRequest) {r : BarrierRequest}
    (h : r = .enable) : counted job k (p ++ [r]) = (counted job k p).opened := by
  have ha : (p ++ [r]).count .register = p.count .register := by simp [h]
  have hn : (p ++ [r]).countP isNotification = p.countP isNotification := by simp [h, isNotification, failures?]
  have hf : (p ++ [r]).countP isFailure = p.countP isFailure := by simp [h, isFailure, failures?]
  have hm : .enable ∈ p ++ [r] := by simp [h]
  simp only [counted, opened, ha, hn, hf, hm, decide_true]

/-- The barrier is due when it is enabled and all that was registered has ended. -/
theorem isDue_counted_iff (job : JobId) (k : κ) (p : List BarrierRequest) :
    (counted job k p).IsDue ↔ .enable ∈ p ∧ p.count .register ≤ p.countP isNotification := by
  constructor
  · intro h
    exact ⟨of_decide_eq_true h.enabled, Nat.le_of_sub_eq_zero h.pending⟩
  · rintro ⟨he, hp⟩
    exact ⟨decide_eq_true he, Nat.sub_eq_zero_of_le hp, rfl⟩

/-- What a schedule demands of a request `r` that follows the requests `p`. -/
structure Admits (p : List BarrierRequest) (r : BarrierRequest) : Prop where
  kind : r = .register ∨ r.isNotification = true ∨ r = .enable
  covered : p.countP isNotification ≤ p.count .register
  pending : r.isNotification = true → p.countP isNotification < p.count .register
  fresh : r = .enable → .enable ∉ p

/-- Such a request is accepted and counted, and the barrier fires if that makes it due. -/
private theorem ask_counted (job : JobId) (k : κ) {p : List BarrierRequest} {r : BarrierRequest} (h : Admits p r) :
    (counted job k p).ask r = ((counted job k (p ++ [r])).settle.1,
      if r = .register then .done else .verdict ((counted job k (p ++ [r])).settle.2.map Firing.verdict),
      (counted job k (p ++ [r])).settle.2) := by
  rcases h.kind with hr | hn | he
  · have hc := counted_register job k hr h.covered
    -- what has just been registered is still pending
    have hd : ¬ (counted job k (p ++ [r])).IsDue := by
      intro hd
      have hp := hd.pending
      rw [hc] at hp
      exact Nat.succ_ne_zero _ hp
    rw [settle_of_not_isDue hd, if_pos hr, hr, ask_register rfl, ← hr, hc]
  · obtain ⟨n, hr⟩ := Option.isSome_iff_exists.1 hn
    have hne : r ≠ .register := fun hr' => by simp [hr', failures?] at hr
    have hp : 0 < (counted job k p).pending := Nat.sub_pos_of_lt (h.pending hn)
    rw [if_neg hne, ask_of_failures? hr hp, ← counted_notification job k p hr]
  · have hb : (counted job k p).enabled = false := decide_eq_false (h.fresh he)
    have hne : r ≠ .register := by simp [he]
    have hv : (counted job k p).verdict ≠ some .cancelled := by simp [counted]
    rw [if_neg hne, counted_enable job k p he, he, ask_enable hb hv]

end Barrier

/-! ### Schedules -/

namespace IsSchedule

variable {total errors : Nat} {rs : List BarrierRequest}

theorem admits (h : IsSchedule total errors rs) {p : List BarrierRequest} {r : BarrierRequest}
    (hp : p ++ [r] <+: rs) : Barrier.Admits p r := by
  refine ⟨h.kinds r (hp.subset (by simp)), h.covered p ((List.prefix_append p [r]).trans hp), ?_, ?_⟩
  · intro hn
    have hr : r ≠ .register := fun hr => by simp [hr, isNotification, failures?] at hn
    have h0 : [r].count .register = 0 := by simp [hr]
    have hc := h.covered (p ++ [r]) hp
    rw [List.countP_append, List.countP_singleton, if_pos hn, List.count_append, h0] at hc
    omega
  · -- a second one would be one too many
    intro hr he
    have hle := hp.sublist.count_le .enable
    have hpos := List.count_pos_iff.2 he
    rw [h.enables, hr, List.count_append, List.count_singleton_self] at hle
    omega

end IsSchedule

namespace Barrier

variable {κ : Type}

/-- Until the last request the barrier accepts all and does not fire. -/
theorem run_of_prefix (job : JobId) (k : κ) {total errors : Nat} {rs : List BarrierRequest}
    (h : IsSchedule total errors rs) {p : List BarrierRequest} (hp : p <+: rs) (hlt : p.length < rs.length) :
    ((start job k).run p).1 = counted job k p ∧
      ∀ x ∈ ((start job k).run p).2, x.reply.isAccepted = true ∧ x.firing = none := by
  induction p using List.reverseRecOn with
  | nil => exact ⟨rfl, by simp [run]⟩
  | append_singleton p r ih =>
    have hp' : p <+: rs := (List.prefix_append p [r]).trans hp
    rw [List.length_append, List.length_singleton] at hlt
    obtain ⟨hb, hlog⟩ := ih hp' (by omega)
    -- the schedule has not come to its end, so something is pending if the barrier is enabled
    have hd : ¬ (counted job k (p ++ [r])).IsDue := by
      rw [isDue_counted_iff]
      rintro ⟨he, hle⟩
      have := h.ahead (p ++ [r]) hp (by simpa using hlt) he
      omega
    have ha := ask_counted job k (h.admits hp)
    rw [settle_of_not_isDue hd] at ha
    rw [run_append, hb]
    simp only [run, exchange, ha, true_and]
    refine forall_mem_concat.2 ⟨hlog, ?_, rfl⟩
    dsimp only
    split <;> rfl

/-- Whatever the order, the barrier accepts all requests of a schedule and fires at the last of them, with the verdict
that the number of failures gives. -/
theorem quiescence (job : JobId) (k : κ) {total errors : Nat} {rs : List BarrierRequest}
    (h : IsSchedule total errors rs) :
    let verdict : Verdict := if errors = 0 then .ready else .failed ⟨errors, total⟩
    ((start job k).run rs).1.status = ⟨0, errors, total, true, some verdict⟩ ∧
      ∃ log r, log.map Exchange.request ++ [r] = rs ∧
        ((start job k).run rs).2 = log ++ [⟨r, .verdict (some verdict), some ⟨k, verdict⟩⟩] ∧
        ∀ x ∈ log, x.reply.isAccepted = true ∧ x.firing = none := by
  intro verdict
  have he : .enable ∈ rs := List.count_pos_iff.1 (by rw [h.enables]; omega)
  obtain ⟨p, r, rfl⟩ := (List.eq_nil_or_concat rs).resolve_left (List.ne_nil_of_mem he)
  rw [List.concat_eq_append] at *
  obtain ⟨hb, hlog⟩ := run_of_prefix job k h (List.prefix_append p [r]) (by simp)
  have hd : (counted job k (p ++ [r])).IsDue := by
    rw [isDue_counted_iff, h.registrations, h.notifications]
    exact ⟨he, le_rfl⟩
  have hv : (counted job k (p ++ [r])).judgement = verdict := by
    simp only [judgement, counted, h.failures, h.registrations, verdict]
  -- were a registration the last request, one more transfer would have ended before than were registered
  have hr : r ≠ .register := by
    intro hr
    have hc := (h.admits List.prefix_rfl).covered
    have ha := h.registrations
    have hn := h.notifications
    rw [hr, List.count_append, List.count_singleton_self] at ha
    rw [hr, List.countP_append, List.countP_singleton, if_neg (by simp [isNotification, failures?])] at hn
    omega
  have ha := ask_counted job k (h.admits List.prefix_rfl)
  rw [settle_of_isDue hd, hv, if_neg hr] at ha
  rw [run_append, hb]
  simp only [run, exchange, ha]
  refine ⟨?_, _, r, by rw [map_request_run], rfl, hlog⟩
  simp only [fire, status, counted, h.registrations, h.notifications, h.failures, decide_eq_true he, Nat.sub_self]

/-- A failure between the two registrations, and a success at the end. -/
theorem quiescence_failure_between :
    let rs := [.register, .enable, .register, .fail ⟨0, "a"⟩, .complete ⟨1, "b"⟩]
    IsSchedule 2 1 rs ∧ ((start ⟨7⟩ ()).run rs).1.status = ⟨0, 1, 2, true, some (.failed ⟨1, 2⟩)⟩ := by
  intro rs
  have h : IsSchedule 2 1 rs := by decide
  exact ⟨h, (quiescence ⟨7⟩ () h).1⟩

end Barrier

end TaskCoordination
