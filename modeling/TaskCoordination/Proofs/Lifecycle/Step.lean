import TaskCoordination.Lifecycle.Basic

/-!
# What an event does to a lifecycle

`Lifecycle.Step` lists all that can come of one event, with the answer, and `step_apply` says that nothing else does.
A run hands over a list of events; `run_induction` carries over what each step preserves.

* `apply_of_allows`: an event whose state the rule allows is accepted.
* `isCurrent_run`: the state is the last one of the history.
-/

namespace TaskCoordination

/-- An event has a state of its own or a value. -/
theorem Event.target?_eq_none_iff {e : Event} :
    e.target? = none ↔ ∃ index value, e = .valueGenerated index value := by
  cases e <;> simp [target?]

namespace State

theorem isTerminal_iff {s : State} : s.isTerminal = true ↔ s = completed ∨ s = failed := by
  cases s <;> simp [isTerminal]

theorem not_isTerminal_of_allows {s target : State} (h : s.allows target = true) : s.isTerminal = false := by
  cases s with
  | completed | failed => simp [allows] at h
  | _ => rfl

end State

namespace Lifecycle

inductive Step (l : Lifecycle) : Event → Lifecycle → Except Rejection Effect → Prop
  | terminated {e : Event} (h : l.state.isTerminal = true) : Step l e l (.error (.taskTerminated l.task e.name))
  | misplaced {index : Nat} {value : GeneratedValue} (h : l.state.isTerminal = false) (ha : l.acceptsValues = false) :
    Step l (.valueGenerated index value) l (.error (l.invalid (.valueGenerated index value)))
  | repeated {index : Nat} {value : GeneratedValue} (ha : l.acceptsValues = true) (hg : index ∈ l.generated) :
    Step l (.valueGenerated index value) l (.error (.duplicateValue l.task index))
  | generated {index : Nat} {value : GeneratedValue} (ha : l.acceptsValues = true) (hg : index ∉ l.generated) :
    Step l (.valueGenerated index value) { l with generated := index :: l.generated } (.ok {})
  | forbidden {e : Event} {target : State} (h : l.state.isTerminal = false) (ht : e.target? = some target)
    (ha : l.state.allows target = false) : Step l e l (.error (l.invalid e))
  | entered {e : Event} {target : State} (ht : e.target? = some target) (ha : l.state.allows target = true) :
    Step l e (l.enter target).1 (.ok (l.enter target).2)

private theorem apply_of_target? {l : Lifecycle} {e : Event} {target : State} (h : l.state.isTerminal = false)
    (ht : e.target? = some target) :
    l.apply e = if l.state.allows target then ((l.enter target).1, .ok (l.enter target).2)
      else (l, .error (l.invalid e)) := by
  cases e <;> simp only [Event.target?, Option.some.injEq, reduceCtorEq] at ht <;> subst ht <;>
    simp only [apply, h, Event.target?, Bool.false_eq_true, if_false]

/-- An event whose state is allowed is accepted. -/
theorem apply_of_allows {l : Lifecycle} {e : Event} {target : State} (ht : e.target? = some target)
    (ha : l.state.allows target = true) : l.apply e = ((l.enter target).1, .ok (l.enter target).2) := by
  rw [apply_of_target? (State.not_isTerminal_of_allows ha) ht, if_pos ha]

/-- An event whose state is not allowed is turned down and changes nothing. -/
theorem apply_of_not_allows {l : Lifecycle} {e : Event} {target : State} (ht : e.target? = some target)
    (ha : l.state.allows target = false) : ∃ r, l.apply e = (l, .error r) := by
  by_cases h : l.state.isTerminal = true
  · exact ⟨.taskTerminated l.task e.name, by simp only [apply, h, if_true]⟩
  · refine ⟨l.invalid e, ?_⟩
    rw [apply_of_target? (by simpa using h) ht, ha]
    rfl

/-- Every event takes one of the steps. -/
theorem step_apply (l : Lifecycle) (e : Event) : Step l e (l.apply e).1 (l.apply e).2 := by
  by_cases h : l.state.isTerminal = true
  · have he : l.apply e = (l, .error (.taskTerminated l.task e.name)) := by simp only [apply, h, if_true]
    rw [he]
    exact .terminated h
  · have h : l.state.isTerminal = false := by simpa using h
    -- either the event carries a value, or the rule decides
    cases ht : e.target? with
    | none =>
      obtain ⟨index, value, rfl⟩ := Event.target?_eq_none_iff.1 ht
      cases ha : l.acceptsValues with
      | false =>
        have he : l.apply (.valueGenerated index value) = (l, .error (l.invalid (.valueGenerated index value))) := by
          simp [apply, h, ha]
        rw [he]
        exact .misplaced h ha
      | true =>
        by_cases hg : index ∈ l.generated
        · have he : l.apply (.valueGenerated index value) = (l, .error (.duplicateValue l.task index)) := by
            simp [apply, h, ha, hg]
          rw [he]
          exact .repeated ha hg
        · have he : l.apply (.valueGenerated index value) =
              ({ l with generated := index :: l.generated }, .ok {}) := by
            simp [apply, h, ha, hg]
          rw [he]
          exact .generated ha hg
    | some target =>
      rw [apply_of_target? h ht]
      cases ha : l.state.allows target with
      | false => exact .forbidden h ht ha
      | true => exact .entered ht ha

/-- A value that is generated, or turned down, is no step to another state. -/
theorem Step.eq_of_target?_eq_none {l l' : Lifecycle} {e : Event} {answer : Except Rejection Effect}
    (he : e.target? = none) (hs : Step l e l' answer) : l'.state = l.state ∧ l'.history = l.history := by
  cases hs with
  | entered ht _ => rw [he] at ht; exact absurd ht (by simp)
  | terminated | misplaced | repeated | generated | forbidden => exact ⟨rfl, rfl⟩

/-- An accepted event is a value, which changes nothing else, or enters its state. -/
theorem Step.of_ok {l l' : Lifecycle} {e : Event} {effect : Effect} (hs : Step l e l' (.ok effect)) :
    (e.target? = none ∧ effect = {} ∧ l'.state = l.state ∧ l'.attempts = l.attempts ∧ l'.isOpen = l.isOpen) ∨
      ∃ target, e.target? = some target ∧ l.state.allows target = true ∧ l' = (l.enter target).1 ∧
        effect = (l.enter target).2 := by
  cases hs with
  | generated => exact Or.inl ⟨rfl, rfl, rfl, rfl, rfl⟩
  | entered ht ha => exact Or.inr ⟨_, ht, ha, rfl, rfl⟩

/-- The history goes on with the state that is entered; a value enters none. -/
theorem Step.history_eq {l l' : Lifecycle} {e : Event} {effect : Effect} (hs : Step l e l' (.ok effect)) :
    l'.history = l.history ++ (e.target?.map fun _ => l'.state).toList := by
  cases hs with
  | generated => exact (List.append_nil _).symm
  | entered ht _ =>
    rw [ht]
    rfl

theorem Step.task_eq {l l' : Lifecycle} {e : Event} {answer : Except Rejection Effect} (hs : Step l e l' answer) :
    l'.task = l.task := by
  cases hs with
  | terminated | misplaced | repeated | generated | forbidden | entered => rfl

/-- What is turned down leaves the lifecycle as it is. -/
theorem Step.of_error {l l' : Lifecycle} {e : Event} {r : Rejection} (hs : Step l e l' (.error r)) : l' = l := by
  cases hs with
  | terminated | misplaced | repeated | forbidden => rfl

/-! ### Runs -/

/-- Hands over events in turn, whether they are accepted or not. -/
def run (l : Lifecycle) : List Event → Lifecycle
  | [] => l
  | e :: rest => (l.apply e).1.run rest

theorem run_append (l : Lifecycle) (es es' : List Event) : l.run (es ++ es') = (l.run es).run es' := by
  induction es generalizing l with
  | nil => rfl
  | cons e es ih => exact ih (l.apply e).1

theorem run_induction {P : Lifecycle → Prop} (hP : ∀ {l e l' answer}, P l → Step l e l' answer → P l')
    {l : Lifecycle} (h : P l) (es : List Event) : P (l.run es) := by
  induction es generalizing l with
  | nil => exact h
  | cons e es ih => exact ih (hP h (step_apply l e))

theorem task_run (task : TaskId) (es : List Event) : ((start task).run es).task = task :=
  run_induction (P := fun l => l.task = task) (fun h hs => hs.task_eq.trans h) rfl es

/-- The history ends with the state; it is empty for a new task. -/
def IsCurrent (l : Lifecycle) : Prop :=
  l.history.getLastD .new = l.state

theorem Step.isCurrent {l l' : Lifecycle} {e : Event} {answer : Except Rejection Effect} (h : l.IsCurrent)
    (hs : Step l e l' answer) : l'.IsCurrent := by
  cases hs with
  | entered => simp [IsCurrent, enter]
  | terminated | misplaced | repeated | generated | forbidden => exact h

theorem isCurrent_start (task : TaskId) : (start task).IsCurrent := rfl

theorem isCurrent_run (task : TaskId) (es : List Event) : ((start task).run es).IsCurrent :=
  run_induction (fun h hs => hs.isCurrent h) (isCurrent_start task) es

end Lifecycle

end TaskCoordination
