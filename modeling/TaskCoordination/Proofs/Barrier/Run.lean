import TaskCoordination.Proofs.Barrier.Step

/-!
# Runs of requests

A run makes a list of requests to a barrier and logs each with what came of it. What one step preserves holds after
every run (`run_induction`). The invariants of a barrier:

* `Holds k`: the continuation `k` is there as long as there is no verdict (`holds_run`); a step hands it out together
  with the verdict that it gives, and otherwise leaves the verdict alone (`Step.outcome`);
* `Coherent`: a verdict of its own fits the counters, and without one the barrier is not due (`coherent_run`);
* `Tallied`: the counters count what the log says (`tallied_run`).
-/

namespace TaskCoordination

namespace Barrier

variable {κ : Type}

def exchange (b : Barrier κ) (r : BarrierRequest) : Exchange κ :=
  ⟨r, (b.ask r).2.1, (b.ask r).2.2⟩

def run (b : Barrier κ) : List BarrierRequest → Barrier κ × List (Exchange κ)
  | [] => (b, [])
  | r :: rest => (((b.ask r).1.run rest).1, b.exchange r :: ((b.ask r).1.run rest).2)

theorem run_append (b : Barrier κ) (rs rs' : List BarrierRequest) :
    b.run (rs ++ rs') = (((b.run rs).1.run rs').1, (b.run rs).2 ++ ((b.run rs).1.run rs').2) := by
  induction rs generalizing b with
  | nil => rfl
  | cons r rs ih => simp only [List.cons_append, run, ih]

/-- The log of a run holds the requests in their order. -/
theorem map_request_run (b : Barrier κ) (rs : List BarrierRequest) : (b.run rs).2.map Exchange.request = rs := by
  induction rs generalizing b with
  | nil => rfl
  | cons r rs ih => simp only [run, List.map_cons, ih, exchange]

theorem askAll_eq_run (b : Barrier κ) (rs : List BarrierRequest) :
    b.askAll rs = ((b.run rs).1, (b.run rs).2.map Exchange.reply) := by
  induction rs generalizing b with
  | nil => rfl
  | cons r rs ih => simp only [askAll, run, ih, List.map_cons, exchange]

/-- What each step preserves, with the log so far, holds after a run. -/
theorem run_induction {P : Barrier κ → List (Exchange κ) → Prop}
    (hP : ∀ {b x b' log}, P b log → Step b x b' → P b' (log ++ [x])) {b : Barrier κ} (log : List (Exchange κ))
    (h : P b log) (rs : List BarrierRequest) : P (b.run rs).1 (log ++ (b.run rs).2) := by
  induction rs generalizing b log with
  | nil => simpa only [run, List.append_nil] using h
  | cons r rs ih =>
    -- the requests are taken from the front, and the log grows at its end
    have := ih (log ++ [b.exchange r]) (hP h (step_ask b r))
    rwa [List.append_assoc] at this

/-! ### The continuation -/

/-- The barrier has the continuation `k` for as long as it has no verdict. -/
def Holds (k : κ) (b : Barrier κ) : Prop :=
  b.continuation = if b.verdict = none then some k else none

theorem holds_start (job : JobId) (k : κ) : (start job k).Holds k := rfl

theorem fire_of_holds {k : κ} {b : Barrier κ} (hk : b.Holds k) (h : b.verdict = none) (v : Verdict) :
    b.fire v = ({ b with verdict := some v, continuation := none }, some ⟨k, v⟩) := by
  have hc : b.continuation = some k := by rw [hk, if_pos h]
  rw [fire, hc]
  rfl

/-- The barrier after its cancellation. -/
def withdrawn (b : Barrier κ) : Barrier κ :=
  { b with verdict := some .cancelled, continuation := none }

theorem cancel_of_open {k : κ} {b : Barrier κ} (hk : b.Holds k) (h : b.verdict = none) :
    b.cancel = (b.withdrawn, some ⟨k, .cancelled⟩, true) := by
  rw [cancel, isFired_eq_false_iff.2 h, fire_of_holds hk h]
  rfl

theorem cancel_of_verdict {b : Barrier κ} (h : b.verdict ≠ none) : b.cancel = (b, none, false) := by
  rw [cancel, isFired_iff.2 h]
  rfl

/-- What a step does to the verdict: nothing, without a firing, or it gives one and hands out the continuation. -/
def Outcome (k : κ) (b : Barrier κ) (firing : Option (Firing κ)) (b' : Barrier κ) : Prop :=
  (firing = none ∧ b'.verdict = b.verdict) ∨
    (b.verdict = none ∧ ∃ v, firing = some ⟨k, v⟩ ∧ b'.verdict = some v)

private theorem outcome_fire {k : κ} {b : Barrier κ} (hk : b.Holds k) (h : b.verdict = none) (v : Verdict) :
    (b.fire v).1.Holds k ∧ Outcome k b (b.fire v).2 (b.fire v).1 := by
  rw [fire_of_holds hk h]
  exact ⟨rfl, Or.inr ⟨h, v, rfl, rfl⟩⟩

private theorem outcome_settle {k : κ} {b : Barrier κ} (hk : b.Holds k) :
    b.settle.1.Holds k ∧ Outcome k b b.settle.2 b.settle.1 := by
  by_cases h : b.IsDue
  · rw [settle_of_isDue h]
    exact outcome_fire hk h.verdict _
  · rw [settle_of_not_isDue h]
    exact ⟨hk, Or.inl ⟨rfl, rfl⟩⟩

theorem Step.outcome {k : κ} {b b' : Barrier κ} {x : Exchange κ} (hk : b.Holds k) (hs : Step b x b') :
    b'.Holds k ∧ Outcome k b x.firing b' := by
  cases hs with
  | registered h => exact ⟨hk, Or.inl ⟨rfl, rfl⟩⟩
  | @resolved _ n _ _ => exact outcome_settle (b := b.resolved n) hk
  | enabled _ _ => exact outcome_settle (b := b.opened) hk
  | cancelled h => exact outcome_fire hk h .cancelled
  | refused | enabledBefore | cancelledLate | isFired | job | debug => exact ⟨hk, Or.inl ⟨rfl, rfl⟩⟩

theorem outcome_ask {k : κ} {b : Barrier κ} (hk : b.Holds k) (r : BarrierRequest) :
    (b.ask r).1.Holds k ∧ Outcome k b (b.ask r).2.2 (b.ask r).1 :=
  (step_ask b r).outcome hk

theorem holds_run {k : κ} {b : Barrier κ} (hk : b.Holds k) (rs : List BarrierRequest) : (b.run rs).1.Holds k := by
  refine run_induction (P := fun b _ => b.Holds k) ?_ [] hk rs
  intro b x b' log h hs
  exact (hs.outcome h).1

/-- A verdict is final. -/
theorem Step.verdict_eq {b b' : Barrier κ} {x : Exchange κ} {v : Verdict} (h : b.verdict = some v)
    (hs : Step b x b') : b'.verdict = some v := by
  -- a barrier with a verdict is never due
  have settled {b : Barrier κ} (h : b.verdict = some v) : b.settle.1.verdict = some v := by
    have hd : ¬ b.IsDue := by
      intro hd
      rw [hd.verdict] at h
      exact absurd h (by simp)
    rw [settle_of_not_isDue hd]
    exact h
  cases hs with
  | @resolved _ n _ _ => exact settled (b := b.resolved n) h
  | enabled _ _ => exact settled (b := b.opened) h
  | registered hv | cancelled hv =>
    rw [hv] at h
    exact absurd h (by simp)
  | refused | enabledBefore | cancelledLate | isFired | job | debug => exact h

theorem verdict_run {b : Barrier κ} {v : Verdict} (h : b.verdict = some v) (rs : List BarrierRequest) :
    (b.run rs).1.verdict = some v := by
  refine run_induction (P := fun b _ => b.verdict = some v) ?_ [] h rs
  intro b x b' log h hs
  exact hs.verdict_eq h

private theorem job_settle (b : Barrier κ) : b.settle.1.job = b.job := by
  by_cases h : b.IsDue
  · rw [settle_of_isDue h]
    rfl
  · rw [settle_of_not_isDue h]

theorem Step.job_eq {b b' : Barrier κ} {x : Exchange κ} (hs : Step b x b') : b'.job = b.job := by
  cases hs with
  | @resolved _ n _ _ => exact job_settle (b.resolved n)
  | enabled _ _ => exact job_settle b.opened
  | registered | cancelled | refused | enabledBefore | cancelledLate | isFired | job | debug => rfl

/-! ### The verdict and the counters -/

/-- A verdict other than a cancellation is the judgement of an enabled barrier at which nothing is pending, and a
barrier without a verdict is still waiting. -/
structure Coherent (b : Barrier κ) : Prop where
  decided : ∀ v, b.verdict = some v → v ≠ .cancelled → b.enabled = true ∧ b.pending = 0 ∧ v = b.judgement
  waiting : b.verdict = none → b.enabled = false ∨ 0 < b.pending

theorem coherent_start (job : JobId) (k : κ) : (start job k).Coherent := by
  constructor
  · intro v hv
    exact absurd hv (by simp [start])
  · intro _
    exact Or.inl rfl

private theorem coherent_settle {b : Barrier κ} (h : b.verdict = none ∨ b.verdict = some .cancelled) :
    b.settle.1.Coherent := by
  by_cases hd : b.IsDue
  · rw [settle_of_isDue hd]
    constructor
    · intro v hv _
      have hj : b.judgement = v := Option.some.inj hv
      exact ⟨hd.enabled, hd.pending, hj.symm⟩
    · intro hv
      exact absurd hv (by simp [fire])
  · rw [settle_of_not_isDue hd]
    constructor
    · intro v hv hne
      rcases h with h | h
      · rw [h] at hv
        exact absurd hv (by simp)
      · rw [h] at hv
        exact absurd (Option.some.inj hv).symm hne
    · intro hv
      cases he : b.enabled with
      | false => exact Or.inl rfl
      | true =>
        -- with nothing pending it would be due
        have hp : b.pending ≠ 0 := fun hp => hd ⟨he, hp, hv⟩
        right
        show 0 < b.pending
        omega

/-- Of the verdicts only a cancellation leaves a barrier that is disabled or has transfers pending. -/
theorem Coherent.none_or_cancelled {b : Barrier κ} (hc : b.Coherent) (h : b.enabled = false ∨ 0 < b.pending) :
    b.verdict = none ∨ b.verdict = some .cancelled := by
  cases hv : b.verdict with
  | none => exact Or.inl rfl
  | some v =>
    by_cases hne : v = .cancelled
    · right
      rw [hne]
    · obtain ⟨he, hp, -⟩ := hc.decided v hv hne
      rcases h with h | h
      · rw [he] at h
        exact absurd h (by simp)
      · omega

theorem Step.coherent {b b' : Barrier κ} {x : Exchange κ} (hc : b.Coherent) (hs : Step b x b') : b'.Coherent := by
  cases hs with
  | registered h =>
    constructor
    · intro v hv
      exact absurd hv (by simp [h])
    · intro _
      exact Or.inr (Nat.succ_pos _)
  | @resolved _ n _ hp => exact coherent_settle (b := b.resolved n) (hc.none_or_cancelled (Or.inr hp))
  | enabled h _ => exact coherent_settle (b := b.opened) (hc.none_or_cancelled (Or.inl h))
  | cancelled h =>
    constructor
    · intro v hv hne
      exact absurd (Option.some.inj hv).symm hne
    · intro hv
      exact absurd hv (by simp [fire])
  | refused | enabledBefore | cancelledLate | isFired | job | debug => exact hc

theorem coherent_run {b : Barrier κ} (hc : b.Coherent) (rs : List BarrierRequest) : (b.run rs).1.Coherent := by
  refine run_induction (P := fun b _ => b.Coherent) ?_ [] hc rs
  intro b x b' log h hs
  exact hs.coherent h

/-! ### The log and the counters -/

/-- The counters of a barrier say what happened in its log. -/
structure Tallied (b : Barrier κ) (log : List (Exchange κ)) : Prop where
  enabled : b.enabled = log.any Exchange.isEnabled
  total : b.total = b.pending + log.countP Exchange.isNotified
  errors : b.errors = log.countP Exchange.isFailed

theorem tallied_start (job : JobId) (k : κ) : (start job k).Tallied [] :=
  ⟨rfl, rfl, rfl⟩

/-- The counters do not tell whether the barrier has fired. -/
theorem Tallied.congr {b b' : Barrier κ} {log : List (Exchange κ)} (h : b.Tallied log)
    (hb : b'.status = { b.status with verdict := b'.verdict }) : b'.Tallied log := by
  simp only [status, BarrierStatus.mk.injEq] at hb
  obtain ⟨hp, he, ht, hn, -⟩ := hb
  exact ⟨by rw [hn, h.enabled], by rw [ht, hp, h.total], by rw [he, h.errors]⟩

theorem status_settle (b : Barrier κ) : b.settle.1.status = { b.status with verdict := b.settle.1.verdict } := by
  by_cases h : b.IsDue
  · rw [settle_of_isDue h]
    rfl
  · rw [settle_of_not_isDue h]
    rfl

/-- A step that counts nothing leaves the counters as they are. -/
private theorem Tallied.append {b : Barrier κ} {log : List (Exchange κ)} (h : b.Tallied log) (x : Exchange κ)
    (he : x.isEnabled = true → b.enabled = true) (hn : x.isNotified = false) (hf : x.isFailed = false) :
    b.Tallied (log ++ [x]) := by
  constructor
  · rw [List.any_append, ← h.enabled]
    cases hx : x.isEnabled with
    | false => simp [hx]
    | true =>
      -- enabled once more
      simp [he hx]
  · rw [List.countP_append, List.countP_singleton, hn, h.total]
    simp
  · rw [List.countP_append, List.countP_singleton, hf, h.errors]
    simp

private theorem tallied_resolved {b : Barrier κ} {log : List (Exchange κ)} (h : b.Tallied log) {x : Exchange κ}
    {n : Nat} (hr : x.request.failures? = some n) (ha : x.reply.isAccepted = true) (hp : 0 < b.pending) :
    (b.resolved n).Tallied (log ++ [x]) := by
  have hn : x.isNotified = true := by simp [Exchange.isNotified, BarrierRequest.isNotification, hr, ha]
  have hf : x.isFailed = x.request.isFailure := by simp [Exchange.isFailed, ha]
  have he : x.isEnabled = false := by
    have hne : x.request ≠ .enable := fun hx => by simp [hx, BarrierRequest.failures?] at hr
    simp [Exchange.isEnabled, hne]
  constructor
  · simp [resolved, ← h.enabled, he]
  · have ht := h.total
    simp only [resolved, List.countP_append, List.countP_singleton, hn, if_true]
    omega
  · have he := h.errors
    have hn := BarrierRequest.failures?_eq hr
    simp only [resolved, List.countP_append, List.countP_singleton, hf]
    omega

theorem Step.tallied {b b' : Barrier κ} {x : Exchange κ} {log : List (Exchange κ)} (h : b.Tallied log)
    (hs : Step b x b') : b'.Tallied (log ++ [x]) := by
  cases hs with
  | refused =>
    apply h.append <;> simp [Exchange.isEnabled, Exchange.isNotified, Exchange.isFailed, BarrierReply.isAccepted]
  | registered hv =>
    have hx := h.append ⟨.register, .done, none⟩ (by simp [Exchange.isEnabled]) rfl rfl
    have ht := hx.total
    exact ⟨hx.enabled, by simp only at ht ⊢; omega, hx.errors⟩
  | @resolved r n hr hp =>
    exact (tallied_resolved h hr rfl hp).congr (status_settle _)
  | enabled hb hv =>
    have hx : b.opened.Tallied
        (log ++ [⟨.enable, .verdict (b.opened.settle.2.map Firing.verdict), b.opened.settle.2⟩]) := by
      constructor
      · simp [opened, Exchange.isEnabled, BarrierReply.isAccepted]
      · simp [opened, h.total, Exchange.isNotified, BarrierRequest.isNotification, BarrierRequest.failures?]
      · simp [opened, h.errors, Exchange.isFailed, BarrierRequest.isFailure, BarrierRequest.failures?]
    exact hx.congr (status_settle _)
  | enabledBefore hb hv => exact h.append _ (fun _ => hb) rfl rfl
  | cancelled hv =>
    have hx := h.append ⟨.cancel, .flag true, (b.fire .cancelled).2⟩ (by simp [Exchange.isEnabled]) rfl rfl
    exact hx.congr rfl
  | cancelledLate | isFired | job | debug => exact h.append _ (by simp [Exchange.isEnabled]) rfl rfl

theorem tallied_run {b : Barrier κ} {log : List (Exchange κ)} (h : b.Tallied log) (rs : List BarrierRequest) :
    (b.run rs).1.Tallied (log ++ (b.run rs).2) := by
  refine run_induction ?_ log h rs
  intro b x b' log h hs
  exact hs.tallied h

end Barrier

end TaskCoordination
