import TaskCoordination.Proofs.Barrier.Run
import TaskCoordination.Proofs.List

/-!
# After the verdict

A barrier that has decided, for `ready` or `failed`, is enabled and has nothing pending (`Coherent.isDecided`). No
request changes it any more, though no request looks for its verdict but the registration: notifications find nothing
pending, and it has been enabled before (`Step.eq_of_isDecided`). A barrier that was cancelled goes on counting. It
takes notifications as long as transfers are pending, and everything else leaves it as it is (`Step.of_cancelled`); so
of all that is notified afterwards it takes the first ones, as many as were pending (`notified_of_cancelled`).

`verdicts_final` says so over all runs. A cancellation leaves the counters as they are; from then on the verdict,
the total and the enabling stay, registrations and the enabling are turned down, and nothing fires. Each
notification that is taken takes one from the pending transfers, and adds one to the errors if it is a failure.
-/

namespace TaskCoordination

namespace Barrier

variable {κ : Type} {b b' : Barrier κ} {x : Exchange κ}

/-- What is turned down changes nothing and calls nothing. -/
theorem Step.of_rejected {e : Rejection} (he : x.reply = .rejected e) (hs : Step b x b') :
    b' = b ∧ x.firing = none := by
  cases hs with
  | refused => exact ⟨rfl, rfl⟩
  | registered | resolved | enabled | enabledBefore | cancelled | cancelledLate | isFired | job | debug =>
    exact absurd he (by simp)

theorem ask_of_rejected {r : BarrierRequest} {e : Rejection} (he : (b.ask r).2.1 = .rejected e) :
    b.ask r = (b, .rejected e, none) := by
  obtain ⟨hb, hf⟩ := (step_ask b r).of_rejected he
  exact Prod.ext hb (Prod.ext he hf)

/-! ### Ready or failed -/

/-- The barrier has a verdict of its own, and so it was enabled and waited for nothing. -/
structure IsDecided (b : Barrier κ) : Prop where
  verdict_ne_none : b.verdict ≠ none
  verdict_ne_cancelled : b.verdict ≠ some .cancelled
  enabled : b.enabled = true
  pending : b.pending = 0

theorem Coherent.isDecided (hc : b.Coherent) {v : Verdict} (hv : b.verdict = some v) (hne : v ≠ .cancelled) :
    b.IsDecided := by
  obtain ⟨henabled, hpending, -⟩ := hc.decided v hv hne
  exact ⟨by simp [hv], by simpa [hv] using hne, henabled, hpending⟩

/-- What a barrier that has decided replies, whatever it was asked before. -/
def lastReply (b : Barrier κ) : BarrierRequest → BarrierReply
  | .register => .rejected (.barrierAlreadyFired b.job "add_operation")
  | .complete operation | .fail operation => .rejected (.unmatchedNotification b.job operation.name)
  | .enable => .verdict none
  | .cancel => .flag false
  | .isFired => .flag true
  | .job => .job b.job
  | .debug => .text b.debug

private theorem reply_of_refusal? (hd : b.IsDecided) {r : BarrierRequest} {e : Rejection}
    (h : b.refusal? r = some e) : b.lastReply r = .rejected e := by
  cases r with
  | register =>
    simp only [refusal?, hd.verdict_ne_none, if_false, Option.some.injEq] at h
    rw [lastReply, h]
  | complete operation | fail operation =>
    simp only [refusal?, hd.pending, if_true, Option.some.injEq] at h
    rw [lastReply, h]
  | enable => exact absurd h (by simp [refusal?, hd.verdict_ne_cancelled])
  | cancel | isFired | job | debug => exact absurd h (by simp [refusal?])

theorem Step.eq_of_isDecided (hd : b.IsDecided) (hs : Step b x b') :
    b' = b ∧ x = ⟨x.request, b.lastReply x.request, none⟩ := by
  cases hs with
  | refused h => exact ⟨rfl, by rw [reply_of_refusal? hd h]⟩
  | registered h | cancelled h => exact absurd h hd.verdict_ne_none
  | resolved _ hp => exact absurd hd.pending (Nat.ne_of_gt hp)
  | enabled h => exact absurd hd.enabled (by simp [h])
  | isFired => exact ⟨rfl, by rw [lastReply, isFired_iff.2 hd.verdict_ne_none]⟩
  | enabledBefore | cancelledLate | job | debug => exact ⟨rfl, rfl⟩

theorem IsDecided.run_eq (hd : b.IsDecided) (rs : List BarrierRequest) :
    b.run rs = (b, rs.map fun r => ⟨r, b.lastReply r, none⟩) := by
  induction rs with
  | nil => rfl
  | cons r rs ih =>
    obtain ⟨hb, hx⟩ := (step_ask b r).eq_of_isDecided hd
    rw [run, hb, ih, exchange, hx]
    rfl

/-! ### Cancelled -/

/-- A cancelled barrier takes a notification while something is pending, and nothing fires; all else leaves it as it
is. -/
theorem Step.of_cancelled (hv : b.verdict = some .cancelled) (hs : Step b x b') :
    (x.isNotified = false ∧ (x.request.isNotification = true → b.pending = 0) ∧ b' = b ∧ x.firing = none) ∨
      ∃ n, x.request.failures? = some n ∧ 0 < b.pending ∧ b' = b.resolved n ∧ x.reply = .verdict none ∧
        x.firing = none := by
  cases hs with
  | @refused r e h =>
    refine Or.inl ⟨by simp [Exchange.isNotified, BarrierReply.isAccepted], fun hr => ?_, rfl, rfl⟩
    obtain ⟨d, hd⟩ := Option.isSome_iff_exists.1 ((BarrierRequest.isSome_operation? r).trans hr)
    by_cases hp : b.pending = 0
    · exact hp
    · rw [refusal?_of_operation? b hd, if_neg hp] at h
      exact absurd h (by simp)
  | @resolved r n hr hp =>
    have hdue : ¬ (b.resolved n).IsDue := fun hd => absurd (hd.verdict.symm.trans hv) (by simp)
    rw [settle_of_not_isDue hdue]
    exact Or.inr ⟨n, hr, hp, rfl, rfl, rfl⟩
  | registered h | cancelled h => exact absurd (h.symm.trans hv) (by simp)
  | enabled _ h | enabledBefore _ h => exact absurd hv h
  | cancelledLate | isFired | job | debug => exact Or.inl ⟨rfl, by simp [BarrierRequest.isNotification,
      BarrierRequest.failures?], rfl, rfl⟩

theorem ask_of_cancelled (hv : b.verdict = some .cancelled) {r : BarrierRequest} {n : Nat} (hr : r.failures? = some n)
    (hp : 0 < b.pending) : b.ask r = (b.resolved n, .verdict none, none) := by
  rcases (step_ask b r).of_cancelled hv with ⟨-, hz, -⟩ | ⟨n', hr', -, hb, hreply, hfiring⟩
  · have hz : b.pending = 0 := hz (by simp [BarrierRequest.isNotification, hr])
    omega
  · obtain rfl : n = n' := Option.some.inj (hr.symm.trans hr')
    exact Prod.ext hb (Prod.ext hreply hfiring)

/-- Of the notifications after a cancellation the first ones are taken, as many as were pending. -/
theorem notified_of_cancelled (hv : b.verdict = some .cancelled) (rs : List BarrierRequest) :
    ((b.run rs).2.filter Exchange.isNotified).map Exchange.request =
      (rs.filter BarrierRequest.isNotification).take b.pending := by
  induction rs generalizing b with
  | nil => simp [run]
  | cons r rs ih =>
    have ih := ih ((step_ask b r).verdict_eq hv)
    rcases (step_ask b r).of_cancelled hv with ⟨hn, hz, hb, -⟩ | ⟨n, hr, hp, hb, hreply, -⟩
    · have hx : (b.exchange r).isNotified = false := hn
      rw [hb] at ih
      rw [run, List.filter_cons_of_neg (by simp [hx]), hb, ih]
      cases hr : r.isNotification with
      | false => rw [List.filter_cons_of_neg (by simp [hr])]
      | true =>
        -- nothing is pending, and nothing is taken any more
        have hz : b.pending = 0 := hz hr
        rw [hz, List.take_zero, List.take_zero]
    · have hr : r.isNotification = true := by
        have hr : r.failures? = some n := hr
        simp [BarrierRequest.isNotification, hr]
      have hx : (b.exchange r).isNotified = true := by
        have hreply : (b.exchange r).reply = .verdict none := hreply
        have hreq : (b.exchange r).request = r := rfl
        simp [Exchange.isNotified, hreq, hr, hreply, BarrierReply.isAccepted]
      have hpending : (b.ask r).1.pending = b.pending - 1 := by
        rw [hb]
        rfl
      rw [hpending] at ih
      rw [run, List.filter_cons_of_pos hx, List.map_cons, ih, List.filter_cons_of_pos hr]
      obtain ⟨p, hp⟩ := Nat.exists_eq_add_of_lt hp
      rw [Nat.zero_add] at hp
      rw [hp, List.take_succ_cons, Nat.add_sub_cancel]
      rfl

/-- A barrier that was cancelled before, as it is after the exchanges of a log. -/
structure StaysCancelled (b b' : Barrier κ) (log : List (Exchange κ)) : Prop where
  job : b'.job = b.job
  verdict : b'.verdict = some .cancelled
  total : b'.total = b.total
  enabled : b'.enabled = b.enabled
  firing : ∀ x ∈ log, x.firing = none
  register : ∀ x ∈ log, x.request = .register → x.reply = .rejected (.barrierAlreadyFired b.job "add_operation")
  enable : ∀ x ∈ log, x.request = .enable → x.reply = .rejected (.barrierAlreadyFired b.job "enable")

theorem StaysCancelled.step {b'' : Barrier κ} {log : List (Exchange κ)} (h : b.StaysCancelled b' log)
    (hs : Step b' x b'') : b.StaysCancelled b'' (log ++ [x]) := by
  have hcounts : b''.total = b'.total ∧ b''.enabled = b'.enabled ∧ x.firing = none := by
    rcases hs.of_cancelled h.verdict with ⟨-, -, rfl, hf⟩ | ⟨n, -, -, rfl, -, hf⟩
    · exact ⟨rfl, rfl, hf⟩
    · exact ⟨rfl, rfl, hf⟩
  have hregister : x.request = .register → x.reply = .rejected (.barrierAlreadyFired b.job "add_operation") := by
    intro hx
    refine (hs.of_refusal? ?_).2.1
    simp [hx, refusal?, h.verdict, h.job]
  have henable : x.request = .enable → x.reply = .rejected (.barrierAlreadyFired b.job "enable") := by
    intro hx
    refine (hs.of_refusal? ?_).2.1
    simp [hx, refusal?, h.verdict, h.job]
  exact ⟨hs.job_eq.trans h.job, hs.verdict_eq h.verdict, hcounts.1.trans h.total, hcounts.2.1.trans h.enabled,
    forall_mem_concat.2 ⟨h.firing, hcounts.2.2⟩, forall_mem_concat.2 ⟨h.register, hregister⟩,
    forall_mem_concat.2 ⟨h.enable, henable⟩⟩

theorem staysCancelled_run (hv : b.verdict = some .cancelled) (rs : List BarrierRequest) :
    b.StaysCancelled (b.run rs).1 (b.run rs).2 := by
  refine run_induction (P := fun b' log => b.StaysCancelled b' log) (fun h hs => h.step hs) [] ?_ rs
  exact ⟨rfl, hv, rfl, rfl, by simp, by simp, by simp⟩

/-- What is counted further on, when nothing more is registered. -/
theorem Tallied.counts {log log' : List (Exchange κ)} (h : b.Tallied log) (h' : b'.Tallied (log ++ log'))
    (ht : b'.total = b.total) :
    b'.pending + log'.countP Exchange.isNotified = b.pending ∧
      b'.errors = b.errors + log'.countP Exchange.isFailed := by
  have htotal := h.total
  have htotal' := h'.total
  have herrors := h.errors
  have herrors' := h'.errors
  rw [List.countP_append] at htotal' herrors'
  omega

/-- Over all runs: what is turned down changes nothing, a barrier that has decided stays as it is, and one that was
cancelled takes no more than the notifications that were pending. -/
theorem verdicts_final (job : JobId) (k : κ) (rs : List BarrierRequest) :
    let b := ((start job k).run rs).1
    (∀ r e, (b.ask r).2.1 = .rejected e → b.ask r = (b, .rejected e, none)) ∧
      (∀ v, b.verdict = some v → v ≠ .cancelled → ∀ later,
        b.run later = (b, later.map fun r => ⟨r, b.lastReply r, none⟩)) ∧
      (b.verdict = none → (b.ask .cancel).1.status = { b.status with verdict := some .cancelled }) ∧
      (b.verdict = some .cancelled → ∀ later,
        let c := (b.run later).1
        let log := (b.run later).2
        b.StaysCancelled c log ∧
          (log.filter Exchange.isNotified).map Exchange.request =
            (later.filter BarrierRequest.isNotification).take b.pending ∧
          c.pending + log.countP Exchange.isNotified = b.pending ∧
          c.errors = b.errors + log.countP Exchange.isFailed ∧
          ∀ r n, r.failures? = some n → 0 < c.pending →
            c.ask r = ({ c with pending := c.pending - 1, errors := c.errors + n }, .verdict none, none)) := by
  intro b
  have hb : b.Tallied ((start job k).run rs).2 := tallied_run (tallied_start job k) rs
  have hcoherent : b.Coherent := coherent_run (coherent_start job k) rs
  have hholds : b.Holds k := holds_run (holds_start job k) rs
  refine ⟨fun r e => ask_of_rejected, ?_, ?_, ?_⟩
  · intro v hv hne later
    exact (hcoherent.isDecided hv hne).run_eq later
  · intro hv
    rw [ask, cancel_of_open hholds hv]
    rfl
  · intro hv later c log
    have hstays : b.StaysCancelled c log := staysCancelled_run hv later
    obtain ⟨hpending, herrors⟩ := hb.counts (tallied_run hb later) hstays.total
    exact ⟨hstays, notified_of_cancelled hv later, hpending, herrors, fun r n => ask_of_cancelled hstays.verdict⟩

/-- Of three transfers two are notified after the cancellation, in failure and in success, and a third notification
comes once nothing is pending any more. Beside it a barrier that is ready is asked all over again. -/
theorem verdicts_final_cancelled_and_ready :
    let d : DataOperation := ⟨0, "d1v1"⟩
    let b := ((start ⟨1⟩ ()).run [.register, .register, .register, .complete d, .cancel]).1
    let later : List BarrierRequest := [.fail d, .register, .complete d, .enable, .complete d]
    let b' := ((start ⟨2⟩ ()).run [.enable]).1
    b.verdict = some .cancelled ∧ b.pending = 2 ∧
      ((b.run later).2.filter Exchange.isNotified).map Exchange.request = [.fail d, .complete d] ∧
      (b.run later).1.verdict = some .cancelled ∧ (b.run later).1.total = 3 ∧
      b'.verdict = some .ready ∧ (b'.run [.register, .fail d, .enable, .cancel]).1.status = b'.status ∧
      (b'.run [.register, .fail d, .enable, .cancel]).2.map Exchange.reply =
        [.rejected (.barrierAlreadyFired ⟨2⟩ "add_operation"), .rejected (.unmatchedNotification ⟨2⟩ "d1v1"),
          .verdict none, .flag false] := by
  intro d b later b'
  have hv : b.verdict = some .cancelled := by decide
  have hp : b.pending = 2 := by decide
  have hv' : b'.verdict = some .ready := by decide
  obtain ⟨-, -, -, hcancelled⟩ := verdicts_final ⟨1⟩ () [.register, .register, .register, .complete d, .cancel]
  obtain ⟨-, hready, -, -⟩ := verdicts_final ⟨2⟩ () [.enable]
  obtain ⟨hstays, hnotified, -⟩ := hcancelled hv later
  have hrun := hready .ready hv' (by simp) [.register, .fail d, .enable, .cancel]
  refine ⟨hv, hp, ?_, ?_, ?_, hv', ?_, ?_⟩
  · rw [hnotified]
    decide
  · rw [hstays.verdict]
  · rw [hstays.total]
    decide
  · rw [hrun]
  · rw [hrun]
    rfl

end Barrier

end TaskCoordination
