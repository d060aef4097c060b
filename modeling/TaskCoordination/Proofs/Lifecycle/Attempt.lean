import TaskCoordination.Proofs.Lifecycle.Step

/-!
# The attempts of a lifecycle

The attempts of a lifecycle are the submissions that it has accepted (`Step.attempts_eq`). An attempt is open only
while its task is under way (`Step.isSound`), so no submission is accepted before the attempt is closed: what an
accepted event opens and closes is the difference that it makes (`Step.open_balance`).
-/

namespace TaskCoordination

def Event.isSubmission : Event → Bool
  | submission => true
  | _ => false

theorem Event.isSubmission_eq {e : Event} {target : State} (h : e.target? = some target) :
    e.isSubmission = decide (target = .submitted) := by
  cases e <;> simp only [target?, Option.some.injEq, reduceCtorEq] at h <;> subst h <;> rfl

namespace State

/-- A task is under way from its submission until it reports an outcome or ends. -/
def isUnderWay : State → Bool
  | submitted | dataReceived => true
  | _ => false

theorem isUnderWay_iff {s : State} : s.isUnderWay = true ↔ s = submitted ∨ s = dataReceived := by
  cases s <;> simp [isUnderWay]

/-- While a task is under way it cannot be submitted, and what does not end its attempt keeps it under way. -/
theorem allows_of_isUnderWay {s target : State} (hs : s.isUnderWay = true) (ha : s.allows target = true) :
    target ≠ .submitted ∧ (target.endsAttempt = false → target.isUnderWay = true) := by
  cases s <;> cases target <;> simp_all [isUnderWay, allows, endsAttempt, rank]

end State

namespace Lifecycle

variable {l l' : Lifecycle} {e : Event}

theorem Step.attempts_eq {effect : Effect} (hs : Step l e l' (.ok effect)) :
    l'.attempts = l.attempts + if e.isSubmission then 1 else 0 := by
  rcases hs.of_ok with ⟨ht, -, -, ha, -⟩ | ⟨target, ht, -, rfl, -⟩
  · obtain ⟨index, value, rfl⟩ := Event.target?_eq_none_iff.1 ht
    exact ha
  · rw [Event.isSubmission_eq ht]
    by_cases h : target = .submitted <;> simp [enter, h]

/-- An open attempt has been submitted, and its task is under way. -/
structure IsSound (l : Lifecycle) : Prop where
  isUnderWay : l.isOpen = true → l.state.isUnderWay = true
  attempts_pos : l.isOpen = true → 0 < l.attempts

theorem isSound_start (task : TaskId) : (start task).IsSound :=
  ⟨fun h => absurd h (by simp [start]), fun h => absurd h (by simp [start])⟩

private theorem isSound_enter (h : l.IsSound) {target : State} (ha : l.state.allows target = true) :
    (l.enter target).1.IsSound := by
  by_cases hsub : target = .submitted
  · subst hsub
    exact ⟨fun _ => rfl, fun _ => Nat.succ_pos _⟩
  · -- the attempt was open before, and `target` does not end it
    have hopen : (l.enter target).1.isOpen = true → l.isOpen = true ∧ target.endsAttempt = false := by
      simp [enter, hsub]
    constructor
    · intro ho
      obtain ⟨ho, he⟩ := hopen ho
      exact (State.allows_of_isUnderWay (h.isUnderWay ho) ha).2 he
    · intro ho
      have hp := h.attempts_pos (hopen ho).1
      simpa [enter, hsub] using hp

theorem Step.isSound {answer : Except Rejection Effect} (h : l.IsSound) (hs : Step l e l' answer) : l'.IsSound := by
  cases hs with
  | entered _ ha => exact isSound_enter h ha
  | generated => exact ⟨h.isUnderWay, h.attempts_pos⟩
  | terminated | misplaced | repeated | forbidden => exact h

/-- A task with an open attempt is not submitted. -/
theorem IsSound.isOpen_eq_false (h : l.IsSound) (ha : l.state.allows .submitted = true) : l.isOpen = false := by
  cases ho : l.isOpen with
  | false => rfl
  | true => exact absurd rfl (State.allows_of_isUnderWay (h.isUnderWay ho) ha).1

theorem Step.open_balance {effect : Effect} (h : l.IsSound) (hs : Step l e l' (.ok effect)) :
    (if l'.isOpen then 1 else 0) + (if effect.closed then 1 else 0) =
      (if l.isOpen then 1 else 0) + if effect.opened then 1 else 0 := by
  rcases hs.of_ok with ⟨-, rfl, -, -, ho⟩ | ⟨target, -, ha, rfl, rfl⟩
  · simp [ho]
  · by_cases hsub : target = .submitted
    · subst hsub
      simp [enter, h.isOpen_eq_false ha]
    · cases ho : l.isOpen <;> cases he : target.endsAttempt <;> simp [enter, hsub, ho, he]

end Lifecycle

end TaskCoordination
