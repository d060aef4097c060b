import Mathlib.Data.List.Basic
import TaskCoordination.Proofs.Lifecycle.Step
import TaskCoordination.Proofs.List

/-!
# The outcomes of an attempt

A log of what a lifecycle accepts says for each event which attempt it belongs to. An attempt is closed once at most,
but this does not bound its outcomes: an executed task that is scheduled again can report another outcome before it
is submitted, and that one still carries the number of the old attempt (`two_outcomes_of_attempt`). Schedules are the
only way to that, so an attempt has as many outcomes as it has closings and schedules, or fewer
(`outcomes_of_attempt`).

Both bounds are balances. A step keeps them (`closes_balance`, `reports_balance`), and so does a run.
-/

namespace TaskCoordination

namespace State

def isExecuted : State → Bool
  | executed _ => true
  | _ => false

/-- From where an attempt has ended only a new schedule or submission leads on to another outcome. -/
theorem allows_of_endsAttempt {s target : State} (hs : s.endsAttempt = true) (ha : s.allows target = true) :
    target.isExecuted = false ∧ (target.endsAttempt = true ∨ target = .scheduled ∨ target = .submitted) := by
  cases s <;> cases target <;> simp_all [endsAttempt, allows, isExecuted, rank, isTerminal]

theorem endsAttempt_of_isExecuted {s : State} (h : s.isExecuted = true) : s.endsAttempt = true := by
  cases s <;> simp_all [isExecuted, endsAttempt]

end State

/-- The event tells how an execution came out. -/
def Event.isOutcome (e : Event) : Bool :=
  (e.target?.map State.isExecuted).getD false

/-- An accepted event, with the number of the attempt that it belongs to. -/
structure Acceptance where
  event : Event
  attempt : Nat
  effect : Effect

namespace Acceptance

variable (n : Nat) (a : Acceptance)

/-- An outcome of the attempt `n`. -/
def reports : Bool :=
  a.attempt = n && a.event.isOutcome

/-- The end of the attempt `n`. -/
def closes : Bool :=
  a.attempt = n && a.effect.closed

/-- A schedule that comes after the attempt `n`, or within it. -/
def schedules : Bool :=
  a.attempt = n && a.event.target? = some .scheduled

end Acceptance

namespace Lifecycle

variable {l l' : Lifecycle} {e : Event}

/-- What is accepted of the events that are handed over in turn. -/
def acceptances (l : Lifecycle) : List Event → List Acceptance
  | [] => []
  | e :: rest =>
    match l.apply e with
    | (l', .ok effect) => ⟨e, l'.attempts, effect⟩ :: l'.acceptances rest
    | (l', .error _) => l'.acceptances rest

/-! ### Balances of a step -/

/-- The attempt `n` is open. -/
def holding (n : Nat) (l : Lifecycle) : Nat :=
  if l.attempts = n ∧ l.isOpen = true then 1 else 0

/-- The attempt `n` has started. -/
def started (n : Nat) (l : Lifecycle) : Nat :=
  if n ≤ l.attempts then 1 else 0

/-- No attempt is open after the attempt `n`, and the task is where it can report an outcome all the same. -/
def owing (n : Nat) (l : Lifecycle) : Nat :=
  if l.attempts = n ∧ l.isOpen = false ∧ l.state.endsAttempt = false then 1 else 0

private theorem closes_balance (n : Nat) {effect : Effect} (hs : Step l e l' (.ok effect)) :
    (if Acceptance.closes n ⟨e, l'.attempts, effect⟩ then 1 else 0) + l'.holding n + l.started n ≤
      l.holding n + l'.started n := by
  rcases hs.of_ok with ⟨-, rfl, -, ha, ho⟩ | ⟨target, -, -, rfl, rfl⟩
  · simp [Acceptance.closes, holding, started, ha, ho]
  · by_cases hsub : target = .submitted
    · -- another attempt starts, and it is open
      subst hsub
      simp only [Acceptance.closes, holding, started, enter, State.endsAttempt]
      grind
    · cases ho : l.isOpen <;> cases he : target.endsAttempt <;>
        simp [Acceptance.closes, holding, started, enter, hsub, ho, he]

private theorem reports_balance (n : Nat) {effect : Effect} (hs : Step l e l' (.ok effect)) :
    (if Acceptance.reports n ⟨e, l'.attempts, effect⟩ then 1 else 0) + l'.owing n ≤
      (if Acceptance.closes n ⟨e, l'.attempts, effect⟩ then 1 else 0) +
        (if Acceptance.schedules n ⟨e, l'.attempts, effect⟩ then 1 else 0) + l.owing n := by
  rcases hs.of_ok with ⟨ht, rfl, hstate, ha, ho⟩ | ⟨target, ht, hallows, rfl, rfl⟩
  · simp [Acceptance.reports, Event.isOutcome, owing, ht, ha, ho, hstate]
  · by_cases hsub : target = .submitted
    · -- the attempt that starts is open, and nothing is reported
      subst hsub
      simp [Acceptance.reports, Event.isOutcome, owing, enter, ht, State.isExecuted]
    · by_cases hn : l.attempts = n
      · have hx : target.isExecuted = true → target.endsAttempt = true := State.endsAttempt_of_isExecuted
        simp only [Acceptance.reports, Event.isOutcome, Acceptance.closes, Acceptance.schedules, owing, enter, ht,
          hsub, hn]
        cases ho : l.isOpen with
        | true =>
          -- the outcome of an open attempt closes it
          cases hr : target.isExecuted <;> cases he : target.endsAttempt <;> simp_all
        | false =>
          cases hs : l.state.endsAttempt with
          | true =>
            -- the attempt has ended, and only a schedule leads on
            obtain ⟨hx, he | rfl | hsub'⟩ := State.allows_of_endsAttempt hs hallows
            · simp [hx, he]
            · simp [State.isExecuted, State.endsAttempt]
            · exact absurd hsub' hsub
          | false => cases hr : target.isExecuted <;> cases he : target.endsAttempt <;> simp_all
      · simp [Acceptance.reports, owing, enter, hsub, hn]

/-- Both balances in one: an outcome comes of an attempt that has started, or after a schedule. -/
theorem outcome_balance (n : Nat) {effect : Effect} (hs : Step l e l' (.ok effect)) :
    (if Acceptance.reports n ⟨e, l'.attempts, effect⟩ then 1 else 0) + (l'.owing n + l'.holding n) + l.started n ≤
      (if Acceptance.schedules n ⟨e, l'.attempts, effect⟩ then 1 else 0) + (l.owing n + l.holding n) +
        l'.started n := by
  have hc := closes_balance n hs
  have hr := reports_balance n hs
  omega

/-! ### Balances of a run -/

/-- What is accepted after a first event. -/
private theorem acceptances_cons (l : Lifecycle) (e : Event) (es : List Event) :
    (∃ r, Step l e l (.error r) ∧ (l.apply e).1 = l ∧ l.acceptances (e :: es) = l.acceptances es) ∨
      ∃ effect, Step l e (l.apply e).1 (.ok effect) ∧
        l.acceptances (e :: es) = ⟨e, (l.apply e).1.attempts, effect⟩ :: (l.apply e).1.acceptances es := by
  have hs := step_apply l e
  rcases ha : l.apply e with ⟨l', r | effect⟩
  · rw [ha] at hs
    obtain rfl : l' = l := hs.of_error
    left
    exact ⟨r, hs, rfl, by rw [acceptances, ha]⟩
  · rw [ha] at hs
    right
    exact ⟨effect, hs, by rw [acceptances, ha]⟩

/-- What each accepted event preserves, with the acceptances so far, holds after a run. -/
theorem acceptances_induction {P : Lifecycle → List Acceptance → Prop}
    (hP : ∀ {l e l' effect log}, P l log → Step l e l' (.ok effect) → P l' (log ++ [⟨e, l'.attempts, effect⟩]))
    (log : List Acceptance) (h : P l log) (es : List Event) : P (l.run es) (log ++ l.acceptances es) := by
  induction es generalizing l log with
  | nil => rwa [acceptances, List.append_nil]
  | cons e es ih =>
    rcases acceptances_cons l e es with ⟨r, -, hl, hlog⟩ | ⟨effect, hs, hlog⟩
    · rw [run, hl, hlog]
      exact ih log h
    · rw [run, hlog]
      have := ih _ (hP h hs)
      rwa [List.append_assoc] at this

/-- What holds of every event when it is accepted holds of all that is accepted. -/
theorem forall_mem_acceptances {P : Acceptance → Prop}
    (hP : ∀ {l e l' effect}, Step l e l' (.ok effect) → P ⟨e, l'.attempts, effect⟩) (l : Lifecycle)
    (es : List Event) : ∀ a ∈ l.acceptances es, P a := by
  refine acceptances_induction (P := fun _ log => ∀ a ∈ log, P a) ?_ [] (by simp) es
  intro l e l' effect log h hs
  exact forall_mem_concat.2 ⟨h, hP hs⟩

/-- What the log says of the attempt `n`: it is closed once it has started and is no longer open, and an outcome comes
with its closing or after a schedule. -/
structure Ledger (n : Nat) (l : Lifecycle) (log : List Acceptance) : Prop where
  closings : log.countP (Acceptance.closes n) + l.holding n ≤ l.started n
  outcomes : log.countP (Acceptance.reports n) + l.owing n ≤
    log.countP (Acceptance.closes n) + log.countP (Acceptance.schedules n)

theorem Step.ledger {n : Nat} {effect : Effect} {log : List Acceptance} (h : Ledger n l log)
    (hs : Step l e l' (.ok effect)) : Ledger n l' (log ++ [⟨e, l'.attempts, effect⟩]) := by
  have hc := closes_balance n hs
  have hr := reports_balance n hs
  have hclosings := h.closings
  have houtcomes := h.outcomes
  constructor
  · rw [List.countP_append, List.countP_singleton]
    omega
  · rw [List.countP_append, List.countP_append, List.countP_append, List.countP_singleton, List.countP_singleton,
      List.countP_singleton]
    omega

theorem ledger_run (task : TaskId) (es : List Event) (n : Nat) :
    Ledger (n + 1) ((start task).run es) ((start task).acceptances es) := by
  refine acceptances_induction (fun h hs => hs.ledger h) [] ⟨?_, ?_⟩ es
  · exact Nat.zero_le _
  · exact Nat.zero_le _

/-- An attempt is closed once at most, and has no more outcomes than closings and schedules. -/
theorem outcomes_of_attempt (task : TaskId) (es : List Event) (n : Nat) :
    let log := (start task).acceptances es
    log.countP (Acceptance.closes (n + 1)) ≤ 1 ∧
      log.countP (Acceptance.reports (n + 1)) ≤
        log.countP (Acceptance.closes (n + 1)) + log.countP (Acceptance.schedules (n + 1)) := by
  intro log
  obtain ⟨hc, hr⟩ : Ledger (n + 1) ((start task).run es) log := ledger_run task es n
  have hstarted : ((start task).run es).started (n + 1) ≤ 1 := by
    unfold started
    split <;> omega
  exact ⟨by omega, by omega⟩

/-- The first attempt of this task has two outcomes. -/
theorem two_outcomes_of_attempt :
    let log := (start ⟨1⟩).acceptances [.submission, .errorExecution, .schedule, .failedExecution]
    log.countP (Acceptance.reports 1) = 2 ∧ log.countP (Acceptance.closes 1) = 1 := by
  decide

end Lifecycle

end TaskCoordination
