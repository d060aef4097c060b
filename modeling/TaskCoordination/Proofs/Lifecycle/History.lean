import Mathlib.Data.List.Chain
import TaskCoordination.Proofs.Lifecycle.Step

/-!
# The histories of a lifecycle

The histories that a lifecycle can have are known without it (`IsHistory`): first a walk through the stages of
attempts, forward or back to another attempt, then possibly a cancellation, then possibly an end.

The proof goes by paths of `State.allows` from `new`. A history is such a path (`isPath_run`), each path is the
history of some run (`exists_run`), and the paths have the shape of a history (`isPath_iff`).
-/

namespace TaskCoordination

namespace State

/-- How far an attempt has come. A new task has not set out, and one that is cancelled or has ended is out of it. -/
def stage? : State → Option Nat
  | created => some 1
  | accessesProcessed => some 2
  | scheduled => some 3
  | submitted => some 4
  | dataReceived => some 5
  | executed _ => some 6
  | new | cancelled | completed | failed => none

/-- One state is strictly further than the other. -/
def Advances (s target : State) : Prop :=
  ∃ i j, s.stage? = some i ∧ target.stage? = some j ∧ i < j

/-- Another attempt after an outcome. -/
inductive Retries : State → State → Prop
  | schedule (outcome : Outcome) : Retries (executed outcome) scheduled
  | submit (outcome : Outcome) : Retries (executed outcome) submitted

end State

/-- The shape of a history: stages in order or with retries, a cancellation at most, an end at most. -/
def IsHistory (h : List State) : Prop :=
  ∃ stages cancellation ending : List State, h = stages ++ cancellation ++ ending ∧
    (∀ s ∈ stages, s.stage? ≠ none) ∧ stages.IsChain (fun s t => s.Advances t ∨ s.Retries t) ∧
    (cancellation = [] ∨ cancellation = [.cancelled]) ∧
    (ending = [] ∨ ending = [.completed] ∨ ending = [.failed])

namespace State

/-! ### The rule, stage by stage -/

private theorem rank_of_stage? {s : State} {i : Nat} (h : s.stage? = some i) : s.rank = i := by
  cases s <;> simp only [stage?, Option.some.injEq, reduceCtorEq] at h <;> exact h

private theorem advances_iff {s t : State} (hs : s.stage? ≠ none) (ht : t.stage? ≠ none) :
    s.Advances t ↔ s.rank < t.rank := by
  obtain ⟨i, hi⟩ := Option.ne_none_iff_exists'.1 hs
  obtain ⟨j, hj⟩ := Option.ne_none_iff_exists'.1 ht
  rw [rank_of_stage? hi, rank_of_stage? hj]
  constructor
  · rintro ⟨i', j', hi', hj', hlt⟩
    obtain rfl : i = i' := Option.some.inj (hi.symm.trans hi')
    obtain rfl : j = j' := Option.some.inj (hj.symm.trans hj')
    exact hlt
  · intro hlt
    exact ⟨i, j, hi, hj, hlt⟩

/-- Between stages the rule allows what advances and what retries. -/
theorem allows_iff_of_stage? {s t : State} (hs : s.stage? ≠ none) (ht : t.stage? ≠ none) :
    s.allows t = true ↔ s.Advances t ∨ s.Retries t := by
  rw [advances_iff hs ht]
  constructor
  · intro h
    cases s with
    | new | cancelled | completed | failed => exact absurd rfl hs
    | executed outcome =>
      cases t with
      | scheduled => exact Or.inr (.schedule outcome)
      | submitted => exact Or.inr (.submit outcome)
      | _ => exact Or.inl (by simpa [allows] using h)
    | _ => exact Or.inl (by simpa [allows] using h)
  · rintro (h | ⟨outcome⟩ | ⟨outcome⟩)
    · cases s with
      | new | cancelled | completed | failed => exact absurd rfl hs
      | executed outcome =>
        -- no stage lies beyond an outcome
        cases t <;> simp_all [rank, stage?]
      | _ => simpa [allows] using h
    · rfl
    · rfl

theorem allows_of_new {t : State} (ht : t.stage? ≠ none) : new.allows t = true := by
  cases t with
  | new | cancelled | completed | failed => exact absurd rfl ht
  | _ => rfl

theorem ne_new_of_allows {s t : State} (h : s.allows t = true) : t ≠ new := by
  rintro rfl
  cases s <;> simp [allows, rank, isTerminal] at h

/-- Whoever has not been cancelled and has not ended can be cancelled or end. -/
theorem allows_of_stage? {s t : State} (hs : s = new ∨ s.stage? ≠ none) (ht : t = cancelled ∨ t.isTerminal = true) :
    s.allows t = true := by
  have hrank : s.rank < 7 ∧ 7 ≤ t.rank := by
    constructor
    · rcases hs with rfl | hs
      · decide
      · cases s <;> simp [stage?, rank] at hs ⊢
    · rcases ht with rfl | ht
      · decide
      · cases t <;> simp [isTerminal, rank] at ht ⊢
  have hlt : s.rank < t.rank := by omega
  cases s with
  | cancelled | completed | failed => simp [rank] at hrank
  | executed outcome =>
    cases t with
    | scheduled | submitted => rfl
    | _ => simpa [allows] using hlt
  | _ => simpa [allows] using hlt

/-- After a cancellation there is only an end. -/
theorem eq_cancelled_or_isTerminal {s : State} (hs : s.stage? = none) (hn : s ≠ new) :
    s = cancelled ∨ s.isTerminal = true := by
  cases s <;> simp_all [stage?, isTerminal]

theorem exists_event_of_allows {s t : State} (h : s.allows t = true) : ∃ e : Event, e.target? = some t := by
  cases t with
  | new => exact absurd rfl (ne_new_of_allows h)
  | created => exact ⟨.creation, rfl⟩
  | accessesProcessed => exact ⟨.accessesProcessed, rfl⟩
  | scheduled => exact ⟨.schedule, rfl⟩
  | submitted => exact ⟨.submission, rfl⟩
  | dataReceived => exact ⟨.dataReception, rfl⟩
  | executed outcome =>
    cases outcome with
    | successful => exact ⟨.successfulExecution none, rfl⟩
    | aborted => exact ⟨.abortedExecution, rfl⟩
    | error => exact ⟨.errorExecution, rfl⟩
    | failed => exact ⟨.failedExecution, rfl⟩
    | exception => exact ⟨.exception, rfl⟩
  | cancelled => exact ⟨.cancellation, rfl⟩
  | completed => exact ⟨.completion, rfl⟩
  | failed => exact ⟨.failure, rfl⟩

end State

/-! ### Paths -/

/-- The states are entered one after the other from `new`. -/
def IsPath (h : List State) : Prop :=
  (State.new :: h).IsChain fun s t => s.allows t = true

theorem isPath_concat {h : List State} {t : State} :
    IsPath (h ++ [t]) ↔ IsPath h ∧ (h.getLastD .new).allows t = true := by
  have hl : (State.new :: h).getLast? = some (h.getLastD .new) := by
    rw [List.getLast?_cons, List.getLastD_eq_getLast?]
  rw [IsPath, ← List.cons_append, List.isChain_append, hl]
  simp [IsPath]

namespace Lifecycle

theorem Step.isPath {l l' : Lifecycle} {e : Event} {answer : Except Rejection Effect}
    (h : l.IsCurrent ∧ IsPath l.history) (hs : Step l e l' answer) : IsPath l'.history := by
  cases hs with
  | @entered _ target _ ha =>
    have hlast : (l.history.getLastD .new).allows target = true := by rw [h.1]; exact ha
    exact isPath_concat.2 ⟨h.2, hlast⟩
  | terminated | misplaced | repeated | generated | forbidden => exact h.2

theorem isPath_run (task : TaskId) (es : List Event) : IsPath ((start task).run es).history := by
  refine (run_induction (P := fun l => l.IsCurrent ∧ IsPath l.history) ?_ ⟨isCurrent_start task, ?_⟩ es).2
  · intro l e l' answer h hs
    exact ⟨hs.isCurrent h.1, hs.isPath h⟩
  · exact List.isChain_singleton _

/-- Every path is walked by some run. -/
theorem exists_run {task : TaskId} {h : List State} (hp : IsPath h) :
    ∃ es, ((start task).run es).history = h := by
  induction h using List.reverseRecOn with
  | nil => exact ⟨[], rfl⟩
  | append_singleton h t ih =>
    obtain ⟨hp, ha⟩ := isPath_concat.1 hp
    obtain ⟨es, hes⟩ := ih hp
    obtain ⟨e, he⟩ := State.exists_event_of_allows ha
    -- the rule looks at the state, which is the last of the path
    have hstate : ((start task).run es).state = h.getLastD .new := by rw [← hes, isCurrent_run task es]
    refine ⟨es ++ [e], ?_⟩
    rw [run_append, run, run, apply_of_allows he (by rw [hstate]; exact ha)]
    show ((start task).run es).history ++ [t] = h ++ [t]
    rw [hes]

end Lifecycle

/-! ### The shape of a path -/

/-- What follows on the stages: a cancellation, an end, or both. -/
private theorem ending_of_isChain {s : State} {rest : List State} (hs : s.stage? = none) (hn : s ≠ .new)
    (hc : (s :: rest).IsChain fun s t => s.allows t = true) :
    ∃ cancellation ending : List State, s :: rest = cancellation ++ ending ∧
      (cancellation = [] ∨ cancellation = [.cancelled]) ∧
      (ending = [] ∨ ending = [.completed] ∨ ending = [.failed]) := by
  -- nothing follows an end
  have closed : ∀ {t : State} {rest : List State}, t.isTerminal = true →
      ((t :: rest).IsChain fun s t => s.allows t = true) → rest = [] := by
    intro t rest ht hc
    cases rest with
    | nil => rfl
    | cons u rest =>
      have hu := State.not_isTerminal_of_allows (List.isChain_cons_cons.1 hc).1
      rw [ht] at hu
      exact absurd hu (by simp)
  rcases State.eq_cancelled_or_isTerminal hs hn with rfl | ht
  · cases rest with
    | nil => exact ⟨[.cancelled], [], rfl, Or.inr rfl, Or.inl rfl⟩
    | cons t rest =>
      obtain ⟨ha, hc⟩ := List.isChain_cons_cons.1 hc
      have ht : t.isTerminal = true := ha
      rw [closed ht hc]
      refine ⟨[.cancelled], [t], rfl, Or.inr rfl, Or.inr ?_⟩
      simpa using State.isTerminal_iff.1 ht
  · rw [closed ht hc]
    refine ⟨[], [s], rfl, Or.inl rfl, Or.inr ?_⟩
    simpa using State.isTerminal_iff.1 ht

/-- On stages the steps of the rule are those of a history. -/
private theorem isChain_stages_iff {l : List State} (hl : ∀ s ∈ l, s.stage? ≠ none) :
    (l.IsChain fun s t => s.allows t = true) ↔ l.IsChain fun s t => s.Advances t ∨ s.Retries t :=
  List.IsChain.iff_of_mem_imp fun s t hs ht => State.allows_iff_of_stage? (hl s hs) (hl t ht)

/-- A path from `new` splits where it leaves the stages. -/
private theorem isPath_append_iff {stages rest : List State} (hs : ∀ s ∈ stages, s.stage? ≠ none) :
    IsPath (stages ++ rest) ↔ (stages.IsChain fun s t => s.Advances t ∨ s.Retries t) ∧
      (rest.IsChain fun s t => s.allows t = true) ∧
      ∀ t ∈ rest.head?, (stages.getLastD .new).allows t = true := by
  have hl : (State.new :: stages).getLast? = some (stages.getLastD .new) := by
    rw [List.getLast?_cons, List.getLastD_eq_getLast?]
  have hn : (State.new :: stages).IsChain (fun s t => s.allows t = true) ↔
      stages.IsChain fun s t => s.Advances t ∨ s.Retries t := by
    rw [List.isChain_cons, isChain_stages_iff hs]
    refine and_iff_right fun t ht => ?_
    exact State.allows_of_new (hs t (List.mem_of_mem_head? ht))
  rw [IsPath, ← List.cons_append, List.isChain_append, hl, hn]
  simp

private theorem exists_stages (h : List State) : ∃ stages rest : List State, h = stages ++ rest ∧
    (∀ s ∈ stages, s.stage? ≠ none) ∧ ∀ t ∈ rest.head?, t.stage? = none := by
  induction h with
  | nil => exact ⟨[], [], rfl, by simp, by simp⟩
  | cons s h ih =>
    by_cases hs : s.stage? = none
    · refine ⟨[], s :: h, rfl, by simp, ?_⟩
      intro t ht
      obtain rfl : s = t := by simpa using ht
      exact hs
    · obtain ⟨stages, rest, rfl, hstages, hrest⟩ := ih
      refine ⟨s :: stages, rest, rfl, ?_, hrest⟩
      intro t ht
      rcases List.mem_cons.1 ht with rfl | ht
      · exact hs
      · exact hstages t ht

theorem isHistory_of_isPath {h : List State} (hp : IsPath h) : IsHistory h := by
  obtain ⟨stages, rest, rfl, hs, hrest⟩ := exists_stages h
  obtain ⟨hstages, hc, hlink⟩ := (isPath_append_iff hs).1 hp
  cases rest with
  | nil => exact ⟨stages, [], [], by simp, hs, hstages, Or.inl rfl, Or.inl rfl⟩
  | cons t rest =>
    obtain ⟨cancellation, ending, he, hcancel, hend⟩ :=
      ending_of_isChain (hrest t rfl) (State.ne_new_of_allows (hlink t rfl)) hc
    refine ⟨stages, cancellation, ending, ?_, hs, hstages, hcancel, hend⟩
    rw [he, List.append_assoc]

theorem isPath_of_isHistory {h : List State} (hh : IsHistory h) : IsPath h := by
  obtain ⟨stages, cancellation, ending, rfl, hs, hstages, hcancel, hend⟩ := hh
  have hlast : stages.getLastD .new = .new ∨ (stages.getLastD .new).stage? ≠ none := by
    rw [List.getLastD_eq_getLast?]
    cases hl : stages.getLast? with
    | none => exact Or.inl rfl
    | some s => exact Or.inr (hs s (List.mem_of_getLast? hl))
  rw [List.append_assoc]
  refine (isPath_append_iff hs).2 ⟨hstages, ?_, ?_⟩
  · rcases hcancel with rfl | rfl <;> rcases hend with rfl | rfl | rfl <;> decide
  · intro t ht
    apply State.allows_of_stage? hlast
    rw [State.isTerminal_iff]
    rcases hcancel with rfl | rfl <;> rcases hend with rfl | rfl | rfl <;> simp at ht <;> simp [← ht]

theorem isPath_iff {h : List State} : IsPath h ↔ IsHistory h :=
  ⟨isHistory_of_isPath, isPath_of_isHistory⟩

namespace Lifecycle

/-- The histories of a lifecycle, over all its runs, are those of the right shape. In each of its states the history
ends with the state, and a generated value changes neither. -/
theorem histories (task : TaskId) :
    (∀ h, (∃ es, ((start task).run es).history = h) ↔ IsHistory h) ∧
      ∀ es, ((start task).run es).history.getLastD .new = ((start task).run es).state ∧
        ∀ index value, (((start task).run es).apply (.valueGenerated index value)).1.state =
            ((start task).run es).state ∧
          (((start task).run es).apply (.valueGenerated index value)).1.history = ((start task).run es).history := by
  refine ⟨fun h => ?_, fun es => ⟨isCurrent_run task es, fun index value => ?_⟩⟩
  · constructor
    · rintro ⟨es, rfl⟩
      exact isPath_iff.1 (isPath_run task es)
    · intro hh
      exact exists_run (isPath_iff.2 hh)
  · exact (step_apply _ (.valueGenerated index value)).eq_of_target?_eq_none rfl

end Lifecycle

end TaskCoordination
