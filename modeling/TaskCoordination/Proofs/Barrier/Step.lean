import TaskCoordination.Barrier.Request

/-!
# What a request does to a barrier

`Barrier.Step` lists all that can come of one request, with the reply and the firing, and `step_ask` says that
nothing else does. Reasoning about a barrier goes by cases over it and does not look into `ask` again.

Two of the outcomes end in `settle`: the barrier has counted something and fires if it `IsDue`, with its `judgement`.
-/

namespace TaskCoordination

namespace BarrierRequest

/-- How many failures a request reports, if it reports the end of a transfer. -/
def failures? : BarrierRequest → Option Nat
  | complete _ => some 0
  | fail _ => some 1
  | _ => none

def isNotification (r : BarrierRequest) : Bool :=
  r.failures?.isSome

def isFailure (r : BarrierRequest) : Bool :=
  r.failures? = some 1

/-- A report counts no failure or one. -/
theorem failures?_eq {r : BarrierRequest} {n : Nat} (h : r.failures? = some n) :
    n = if r.isFailure then 1 else 0 := by
  cases r <;> simp only [failures?, Option.some.injEq, reduceCtorEq] at h <;> subst h <;> rfl

/-- The operation whose end is reported. -/
def operation? : BarrierRequest → Option DataOperation
  | complete operation | fail operation => some operation
  | _ => none

theorem isSome_operation? (r : BarrierRequest) : r.operation?.isSome = r.isNotification := by
  cases r <;> rfl

theorem failures?_of_operation? {r : BarrierRequest} {d : DataOperation} (h : r.operation? = some d) :
    ∃ n, r.failures? = some n := by
  cases r with
  | complete operation => exact ⟨0, rfl⟩
  | fail operation => exact ⟨1, rfl⟩
  | register | enable | cancel | isFired | job | debug => exact absurd h (by simp [operation?])

end BarrierRequest

namespace BarrierReply

def isAccepted : BarrierReply → Bool
  | rejected _ => false
  | _ => true

end BarrierReply

/-- A request with what came of it. -/
structure Exchange (κ : Type) where
  request : BarrierRequest
  reply : BarrierReply
  firing : Option (Firing κ)

namespace Exchange

variable {κ : Type}

/-- An accepted report of the end of a transfer. -/
def isNotified (x : Exchange κ) : Bool :=
  x.request.isNotification && x.reply.isAccepted

/-- An accepted report of a failure. -/
def isFailed (x : Exchange κ) : Bool :=
  x.request.isFailure && x.reply.isAccepted

/-- An accepted request to enable the barrier. -/
def isEnabled (x : Exchange κ) : Bool :=
  x.request = .enable && x.reply.isAccepted

/-- The verdict that the caller learns it has brought about. -/
def announced (x : Exchange κ) : Option Verdict :=
  match x.reply with
  | .verdict v => v
  | .flag true => if x.request = .cancel then some .cancelled else none
  | _ => none

end Exchange

namespace Barrier

variable {κ : Type}

/-- The verdict of a barrier whose transfers have all come to an end. -/
def judgement (b : Barrier κ) : Verdict :=
  if b.errors = 0 then .ready else .failed ⟨b.errors, b.total⟩

/-- The barrier has to fire: it is enabled, nothing is pending, and there is no verdict yet. -/
structure IsDue (b : Barrier κ) : Prop where
  enabled : b.enabled = true
  pending : b.pending = 0
  verdict : b.verdict = none

/-- One transfer more has come to an end, `failures` of it in failure. -/
def resolved (b : Barrier κ) (failures : Nat) : Barrier κ :=
  { b with pending := b.pending - 1, errors := b.errors + failures }

def opened (b : Barrier κ) : Barrier κ :=
  { b with enabled := true }

/-- Why a request is turned down, if it is. -/
def refusal? (b : Barrier κ) : BarrierRequest → Option Rejection
  | .register => if b.verdict = none then none else some (.barrierAlreadyFired b.job "add_operation")
  | .complete operation | .fail operation =>
    if b.pending = 0 then some (.unmatchedNotification b.job operation.name) else none
  | .enable => if b.verdict = some .cancelled then some (.barrierAlreadyFired b.job "enable") else none
  | _ => none

inductive Step (b : Barrier κ) : Exchange κ → Barrier κ → Prop
  | refused {r : BarrierRequest} {e : Rejection} (h : b.refusal? r = some e) : Step b ⟨r, .rejected e, none⟩ b
  | registered (h : b.verdict = none) :
    Step b ⟨.register, .done, none⟩ { b with pending := b.pending + 1, total := b.total + 1 }
  | resolved {r : BarrierRequest} {n : Nat} (hr : r.failures? = some n) (h : 0 < b.pending) :
    Step b ⟨r, .verdict ((b.resolved n).settle.2.map Firing.verdict), (b.resolved n).settle.2⟩ (b.resolved n).settle.1
  | enabled (h : b.enabled = false) (hv : b.verdict ≠ some .cancelled) :
    Step b ⟨.enable, .verdict (b.opened.settle.2.map Firing.verdict), b.opened.settle.2⟩ b.opened.settle.1
  | enabledBefore (h : b.enabled = true) (hv : b.verdict ≠ some .cancelled) : Step b ⟨.enable, .verdict none, none⟩ b
  | cancelled (h : b.verdict = none) :
    Step b ⟨.cancel, .flag true, (b.fire .cancelled).2⟩ (b.fire .cancelled).1
  | cancelledLate (h : b.verdict ≠ none) : Step b ⟨.cancel, .flag false, none⟩ b
  | isFired : Step b ⟨.isFired, .flag b.isFired, none⟩ b
  | job : Step b ⟨.job, .job b.job, none⟩ b
  | debug : Step b ⟨.debug, .text b.debug, none⟩ b

theorem isFired_iff {b : Barrier κ} : b.isFired = true ↔ b.verdict ≠ none := by
  rw [isFired, Option.isSome_iff_ne_none]

theorem isFired_eq_false_iff {b : Barrier κ} : b.isFired = false ↔ b.verdict = none := by
  rw [isFired, Option.isSome_eq_false_iff, Option.isNone_iff_eq_none]

theorem settle_of_isDue {b : Barrier κ} (h : b.IsDue) : b.settle = b.fire b.judgement := by
  have hf : b.isFired = false := isFired_eq_false_iff.2 h.verdict
  simp [settle, h.enabled, h.pending, hf, judgement]

theorem settle_of_not_isDue {b : Barrier κ} (h : ¬ b.IsDue) : b.settle = (b, none) := by
  unfold settle
  split
  · rfl
  · next hc =>
    -- what makes `settle` fire is what makes the barrier due
    simp only [Bool.or_eq_true, decide_eq_true_eq, Bool.not_eq_true', not_or, Bool.not_eq_false] at hc
    exact absurd ⟨hc.1.2, Decidable.not_not.1 hc.1.1, isFired_eq_false_iff.1 (by simpa using hc.2)⟩ h

/-! ### Requests that are accepted -/

theorem ask_register {b : Barrier κ} (h : b.verdict = none) :
    b.ask .register = ({ b with pending := b.pending + 1, total := b.total + 1 }, .done, none) := by
  simp only [ask, register, isFired_eq_false_iff.2 h, Bool.false_eq_true, if_false]

/-- The requests that report the end of a transfer differ in the number of failures only. -/
private theorem ask_eq_resolve (b : Barrier κ) {r : BarrierRequest} {n : Nat} (hr : r.failures? = some n) :
    ∃ operation : DataOperation,
      (b.refusal? r = if b.pending = 0 then some (.unmatchedNotification b.job operation.name) else none) ∧
      b.ask r = match b.resolve operation n with
        | (b', .ok firing) => (b', .verdict (firing.map Firing.verdict), firing)
        | (b', .error e) => (b', .rejected e, none) := by
  cases r with
  | complete operation | fail operation =>
    obtain rfl := Option.some.inj hr
    exact ⟨operation, rfl, rfl⟩
  | _ => exact absurd hr (by simp [BarrierRequest.failures?])

theorem ask_of_failures? {b : Barrier κ} {r : BarrierRequest} {n : Nat} (hr : r.failures? = some n)
    (hp : 0 < b.pending) :
    b.ask r = ((b.resolved n).settle.1, .verdict ((b.resolved n).settle.2.map Firing.verdict),
      (b.resolved n).settle.2) := by
  obtain ⟨operation, -, ha⟩ := ask_eq_resolve b hr
  have he : b.resolve operation n = ((b.resolved n).settle.1, .ok (b.resolved n).settle.2) := by
    simp [resolve, Nat.ne_of_gt hp, resolved]
  rw [ha, he]

theorem ask_enable {b : Barrier κ} (h : b.enabled = false) (hv : b.verdict ≠ some .cancelled) :
    b.ask .enable = (b.opened.settle.1, .verdict (b.opened.settle.2.map Firing.verdict), b.opened.settle.2) := by
  have he : b.enable = (b.opened.settle.1, .ok b.opened.settle.2) := by simp [enable, hv, h, opened]
  rw [ask, he]
  rfl

/-! ### All requests -/

private theorem step_notification (b : Barrier κ) {r : BarrierRequest} {n : Nat} (hr : r.failures? = some n) :
    Step b ⟨r, (b.ask r).2.1, (b.ask r).2.2⟩ (b.ask r).1 := by
  by_cases hp : b.pending = 0
  · obtain ⟨operation, he, ha⟩ := ask_eq_resolve b hr
    have hb : b.resolve operation n = (b, .error (.unmatchedNotification b.job operation.name)) := by
      simp [resolve, hp]
    rw [ha, hb]
    exact .refused (by simp [he, hp])
  · rw [ask_of_failures? hr (Nat.pos_of_ne_zero hp)]
    exact .resolved hr (Nat.pos_of_ne_zero hp)

private theorem step_enable (b : Barrier κ) :
    Step b ⟨.enable, (b.ask .enable).2.1, (b.ask .enable).2.2⟩ (b.ask .enable).1 := by
  by_cases hv : b.verdict = some .cancelled
  · have he : b.enable = (b, .error (.barrierAlreadyFired b.job "enable")) := by simp [enable, hv]
    rw [ask, he]
    exact .refused (by simp [refusal?, hv])
  · cases h : b.enabled with
    | true =>
      have he : b.enable = (b, .ok none) := by simp [enable, hv, h]
      rw [ask, he]
      exact .enabledBefore h hv
    | false =>
      rw [ask_enable h hv]
      exact .enabled h hv

/-- Every request takes one of the steps. -/
theorem step_ask (b : Barrier κ) (r : BarrierRequest) :
    Step b ⟨r, (b.ask r).2.1, (b.ask r).2.2⟩ (b.ask r).1 := by
  cases r with
  | register =>
    by_cases h : b.verdict = none
    · rw [ask_register h]
      exact .registered h
    · have hf := isFired_iff.2 h
      simp only [ask, register, hf, if_true]
      exact .refused (by simp [refusal?, h])
  | complete operation => exact step_notification b rfl
  | fail operation => exact step_notification b rfl
  | enable => exact step_enable b
  | cancel =>
    by_cases h : b.verdict = none
    · have hf := isFired_eq_false_iff.2 h
      simp only [ask, cancel, hf, Bool.false_eq_true, if_false]
      exact .cancelled h
    · have hf := isFired_iff.2 h
      simp only [ask, cancel, hf, if_true]
      exact .cancelledLate h
  | isFired => exact .isFired
  | job => exact .job
  | debug => exact .debug

/-! ### Requests that are refused -/

theorem refusal?_of_operation? (b : Barrier κ) {r : BarrierRequest} {d : DataOperation} (h : r.operation? = some d) :
    b.refusal? r = if b.pending = 0 then some (.unmatchedNotification b.job d.name) else none := by
  cases r with
  | complete operation | fail operation =>
    obtain rfl := Option.some.inj h
    rfl
  | register | enable | cancel | isFired | job | debug => exact absurd h (by simp [BarrierRequest.operation?])

/-- What is refused changes nothing. -/
theorem Step.of_refusal? {b b' : Barrier κ} {x : Exchange κ} {e : Rejection} (h : b.refusal? x.request = some e)
    (hs : Step b x b') : b' = b ∧ x.reply = .rejected e ∧ x.firing = none := by
  cases hs with
  | refused he =>
    obtain rfl := Option.some.inj (h.symm.trans he)
    exact ⟨rfl, rfl, rfl⟩
  | @resolved r _ hn hp =>
    have hne := Nat.ne_of_gt hp
    cases r with
    | complete operation | fail operation => exact absurd h (by simp [refusal?, hne])
    | register | enable | cancel | isFired | job | debug => exact absurd hn (by simp [BarrierRequest.failures?])
  | registered hv | enabled _ hv | enabledBefore _ hv => exact absurd h (by simp [refusal?, hv])
  | cancelled | cancelledLate | isFired | job | debug => exact absurd h (by simp [refusal?])

theorem ask_of_refusal? {b : Barrier κ} {r : BarrierRequest} {e : Rejection} (h : b.refusal? r = some e) :
    b.ask r = (b, .rejected e, none) := by
  obtain ⟨hb, hreply, hfiring⟩ := (step_ask b r).of_refusal? h
  exact Prod.ext hb (Prod.ext hreply hfiring)

end Barrier

end TaskCoordination
