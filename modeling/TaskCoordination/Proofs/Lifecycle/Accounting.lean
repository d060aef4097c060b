import Mathlib.Data.List.Chain
import TaskCoordination.Proofs.Lifecycle.Attempt
import TaskCoordination.Proofs.Lifecycle.Outcome
import TaskCoordination.Proofs.List

/-!
# The accounting of attempts

The attempts of a lifecycle can be read off its history (`submissions_run`, `endsOpen_run`) and off the effects of
what it has accepted. The effects leave marks: openings and closings, in turn, and the open attempt is what the last
opening is still short of (`marks_run`). How many of either there are follows from that alone.

An attempt is open as long as its submission ends the history, or its submission and the data that came next. No
effect opens and closes, and the successes are what successful executions report (`attempts_accounted`).
-/

namespace TaskCoordination

/-- What an effect does to the attempts of a task. -/
inductive Mark
  | opening
  | closing
  deriving DecidableEq

/-- The marks of an effect; if it left both, the opening would come first. -/
def Effect.marks (f : Effect) : List Mark :=
  (if f.opened then [.opening] else []) ++ if f.closed then [.closing] else []

/-- The marks that the accepted events leave, in turn. -/
def marks (log : List Acceptance) : List Mark :=
  log.flatMap fun a => a.effect.marks

/-- No mark is like the one before, and the first is an opening. -/
def Alternates (ms : List Mark) : Prop :=
  ms.head? ≠ some .closing ∧ ms.IsChain (· ≠ ·)

/-- The last attempt of a history is submitted, and after that no more than its data have come. -/
def EndsOpen (history : List State) : Prop :=
  [.submitted] <:+ history ∨ [.submitted, .dataReceived] <:+ history

/-! ### Marks -/

/-- The effect leaves the mark. -/
def Effect.leaves (f : Effect) : Mark → Bool
  | .opening => f.opened
  | .closing => f.closed

theorem marks_concat (log : List Acceptance) (a : Acceptance) : marks (log ++ [a]) = marks log ++ a.effect.marks := by
  simp [marks]

private theorem count_marks (f : Effect) (m : Mark) : f.marks.count m = if f.leaves m then 1 else 0 := by
  cases m <;> cases ho : f.opened <;> cases hc : f.closed <;> simp [Effect.marks, Effect.leaves, ho, hc]

/-- As many marks of a kind as effects that leave it. -/
theorem countP_leaves (log : List Acceptance) (m : Mark) :
    log.countP (fun a => a.effect.leaves m) = (marks log).count m := by
  induction log with
  | nil => rfl
  | cons a log ih =>
    have hcons : marks (a :: log) = a.effect.marks ++ marks log := List.flatMap_cons
    rw [List.countP_cons, ih, hcons, List.count_append, count_marks, Nat.add_comm]

/-- The marks of attempts that are over. -/
def rounds (n : Nat) : List Mark :=
  (List.replicate n [Mark.opening, .closing]).flatten

theorem rounds_succ (n : Nat) : rounds (n + 1) = rounds n ++ [.opening, .closing] := by
  rw [rounds, List.replicate_succ', List.flatten_append]
  rfl

theorem count_rounds (n : Nat) (m : Mark) : (rounds n).count m = n := by
  induction n with
  | zero => rfl
  | succ n ih =>
    rw [rounds_succ, List.count_append, ih]
    cases m <;> rfl

theorem alternates_rounds (n : Nat) : Alternates (rounds n) := by
  induction n with
  | zero => exact ⟨by decide, List.isChain_nil⟩
  | succ n ih =>
    have hcons : rounds (n + 1) = .opening :: .closing :: rounds n := by
      rw [rounds, List.replicate_succ, List.flatten_cons]
      rfl
    rw [hcons]
    refine ⟨by simp, List.isChain_cons_cons.2 ⟨by decide, List.isChain_cons.2 ⟨?_, ih.2⟩⟩⟩
    rintro m hm rfl
    exact ih.1 hm

theorem Alternates.of_append {ms ms' : List Mark} (h : Alternates (ms ++ ms')) : Alternates ms := by
  refine ⟨?_, h.2.left_of_append⟩
  cases ms with
  | nil => simp
  | cons m ms => exact h.1

/-! ### The end of a history -/

/-- A history that goes on to `target` ends with an open attempt if `target` submits it, or brings its data at once.
-/
theorem endsOpen_concat {h : List State} {target : State} :
    EndsOpen (h ++ [target]) ↔ target = .submitted ∨ [.submitted] <:+ h ∧ target = .dataReceived := by
  have hs : [State.submitted] <:+ h ++ [target] ↔ State.submitted = target := by simp
  have hd : [State.submitted, .dataReceived] <:+ h ++ [target] ↔ [.submitted] <:+ h ∧ State.dataReceived = target :=
    concat_suffix_concat (s := [State.submitted])
  rw [EndsOpen, hs, hd, eq_comm, @eq_comm _ target .dataReceived]

namespace Lifecycle

variable {l l' : Lifecycle} {e : Event}

/-- Data come only to a task that has none yet: if its attempt is open, then it has just been submitted. -/
private theorem endsOpen_of_dataReceived (hcurrent : l.IsCurrent) (ha : l.state.allows .dataReceived = true) :
    EndsOpen l.history ↔ [.submitted] <:+ l.history := by
  refine ⟨?_, Or.inl⟩
  rintro (h | ⟨earlier, h⟩)
  · exact h
  · have hstate : l.state = .dataReceived := by
      rw [← hcurrent, ← h]
      simp
    rw [hstate] at ha
    exact absurd ha (by decide)

theorem Step.endsOpen {answer : Except Rejection Effect} (hsound : l.IsSound) (hcurrent : l.IsCurrent)
    (h : l.isOpen = true ↔ EndsOpen l.history) (hs : Step l e l' answer) :
    l'.isOpen = true ↔ EndsOpen l'.history := by
  cases hs with
  | terminated | misplaced | repeated | generated | forbidden => exact h
  | @entered _ target ht ha =>
    have hsound' : (l.enter target).1.IsSound := (Step.entered ht ha).isSound hsound
    rw [show (l.enter target).1.history = l.history ++ [target] from rfl, endsOpen_concat]
    by_cases hsub : target = .submitted
    · simp [enter, hsub]
    · by_cases hdata : target = .dataReceived
      · subst hdata
        rw [endsOpen_of_dataReceived hcurrent ha] at h
        simpa [enter, State.endsAttempt] using h
      · -- an attempt is open only while it is under way, which is one of these two stages
        have hclosed : ¬ (l.enter target).1.isOpen = true := fun ho =>
          (State.isUnderWay_iff.1 (hsound'.isUnderWay ho)).elim hsub hdata
        simp [hclosed, hsub, hdata]

/-- The open attempt is what the marks are short of. -/
def outstanding (l : Lifecycle) : List Mark :=
  if l.isOpen then [.closing] else []

/-- The marks are those of all attempts, except for the one that is still open. -/
theorem Step.marks_eq {effect : Effect} {log : List Acceptance} (hsound : l.IsSound)
    (h : marks log ++ l.outstanding = rounds l.attempts) (hs : Step l e l' (.ok effect)) :
    marks (log ++ [⟨e, l'.attempts, effect⟩]) ++ l'.outstanding = rounds l'.attempts := by
  rw [marks_concat]
  rcases hs.of_ok with ⟨-, rfl, -, ha, ho⟩ | ⟨target, -, ha, rfl, rfl⟩
  · rw [ha, ← h, outstanding, ho]
    simp [Effect.marks, outstanding]
  · by_cases hsub : target = .submitted
    · subst hsub
      have hclosed : l.isOpen = false := hsound.isOpen_eq_false ha
      -- so nothing was outstanding, and another round begins
      have hlog : marks log = rounds l.attempts := by simpa [outstanding, hclosed] using h
      simp [Effect.marks, outstanding, enter, hclosed, hlog, rounds_succ]
    · rw [show (l.enter target).1.attempts = l.attempts by simp [enter, hsub], ← h, List.append_assoc]
      congr 1
      -- what was outstanding is left now, or outstanding still
      cases ho : l.isOpen <;> cases he : target.endsAttempt <;>
        simp [Effect.marks, outstanding, enter, hsub, ho, he]

/-- No effect opens and closes at once. -/
theorem Step.not_opened_and_closed {effect : Effect} (hs : Step l e l' (.ok effect)) :
    ¬ (effect.opened = true ∧ effect.closed = true) := by
  rcases hs.of_ok with ⟨-, rfl, -⟩ | ⟨target, -, -, -, rfl⟩
  · simp
  · rintro ⟨ho, hc⟩
    obtain rfl : target = .submitted := by simpa [enter] using ho
    simp [enter, State.endsAttempt] at hc

/-- An effect succeeds if the event reports a success. -/
theorem Step.succeeded_iff {effect : Effect} (hs : Step l e l' (.ok effect)) :
    effect.succeeded = true ↔ ∃ profile, e = .successfulExecution profile := by
  rcases hs.of_ok with ⟨ht, rfl, -⟩ | ⟨target, ht, -, -, rfl⟩
  · obtain ⟨index, value, rfl⟩ := Event.target?_eq_none_iff.1 ht
    simp
  · cases e <;> simp only [Event.target?, Option.some.injEq, reduceCtorEq] at ht <;> subst ht <;> simp [enter]

/-! ### Runs -/

theorem submissions_run (task : TaskId) (es : List Event) :
    ((start task).run es).attempts = ((start task).run es).history.count .submitted := by
  refine run_induction (P := fun l => l.attempts = l.history.count .submitted) ?_ rfl es
  intro l e l' answer h hs
  cases hs with
  | terminated | misplaced | repeated | generated | forbidden => exact h
  | @entered _ target _ _ =>
    show _ = (l.history ++ [target]).count .submitted
    rw [List.count_append, ← h]
    by_cases hsub : target = .submitted <;> simp [enter, hsub]

theorem endsOpen_run (task : TaskId) (es : List Event) :
    ((start task).run es).isOpen = true ↔ EndsOpen ((start task).run es).history := by
  refine (run_induction (P := fun l => l.IsSound ∧ l.IsCurrent ∧ (l.isOpen = true ↔ EndsOpen l.history)) ?_ ?_ es).2.2
  · rintro l e l' answer ⟨hsound, hcurrent, h⟩ hs
    exact ⟨hs.isSound hsound, hs.isCurrent hcurrent, hs.endsOpen hsound hcurrent h⟩
  · exact ⟨isSound_start task, isCurrent_start task, by simp [start, EndsOpen]⟩

theorem marks_run (task : TaskId) (es : List Event) :
    marks ((start task).acceptances es) ++ ((start task).run es).outstanding =
      rounds ((start task).run es).attempts := by
  refine (acceptances_induction (P := fun l log => l.IsSound ∧ marks log ++ l.outstanding = rounds l.attempts) ?_ []
    ⟨isSound_start task, rfl⟩ es).2
  rintro l e l' effect log ⟨hsound, h⟩ hs
  exact ⟨hs.isSound hsound, hs.marks_eq hsound h⟩

/-- Over all runs: attempts are submissions and openings, closings are as many but for the open attempt, and
openings and closings come in turn. -/
theorem attempts_accounted (task : TaskId) (es : List Event) :
    let l := (start task).run es
    let log := (start task).acceptances es
    (l.attempts = l.history.count .submitted ∧ l.attempts = log.countP fun a => a.effect.opened) ∧
      l.attempts = (log.countP fun a => a.effect.closed) + (if l.isOpen then 1 else 0) ∧
      (l.isOpen = true ↔ EndsOpen l.history) ∧
      (∀ a ∈ log, ¬ (a.effect.opened = true ∧ a.effect.closed = true)) ∧
      (∀ a ∈ log, a.effect.succeeded = true ↔ ∃ profile, a.event = .successfulExecution profile) ∧
      Alternates (marks log) := by
  intro l log
  have hmarks : marks log ++ l.outstanding = rounds l.attempts := marks_run task es
  -- each mark is counted on both sides
  have hcount : ∀ m, (log.countP fun a => a.effect.leaves m) + l.outstanding.count m = l.attempts := by
    intro m
    rw [countP_leaves, ← List.count_append, hmarks, count_rounds]
  have hopened : (log.countP fun a => a.effect.opened) = l.attempts := by
    have := hcount .opening
    cases ho : l.isOpen <;> simpa [outstanding, ho, Effect.leaves] using this
  have hclosed : (log.countP fun a => a.effect.closed) + (if l.isOpen then 1 else 0) = l.attempts := by
    have := hcount .closing
    cases ho : l.isOpen <;> simpa [outstanding, ho, Effect.leaves] using this
  refine ⟨⟨submissions_run task es, hopened.symm⟩, hclosed.symm, endsOpen_run task es, ?_, ?_, ?_⟩
  · exact forall_mem_acceptances (fun hs => hs.not_opened_and_closed) (start task) es
  · exact forall_mem_acceptances (fun hs => hs.succeeded_iff) (start task) es
  · have := alternates_rounds l.attempts
    rw [← hmarks] at this
    exact this.of_append

/-- A task that is submitted again after an error, and has the data of its second attempt. -/
theorem attempts_accounted_second_attempt :
    let es := [.submission, .errorExecution, .schedule, .submission, .dataReception]
    let l := (start ⟨1⟩).run es
    let log := (start ⟨1⟩).acceptances es
    let error : Acceptance := ⟨.errorExecution, 1, { closed := true }⟩
    l.attempts = 2 ∧ l.history.count .submitted = 2 ∧ l.isOpen = true ∧ EndsOpen l.history ∧
      error ∈ log ∧ ¬ (error.effect.opened = true ∧ error.effect.closed = true) ∧
      marks log = [.opening, .closing, .opening] ∧ Alternates (marks log) := by
  intro es l log error
  obtain ⟨⟨hsubmitted, -⟩, -, hends, hone, -, halternates⟩ := attempts_accounted ⟨1⟩ es
  have herror : error ∈ log := List.mem_cons_of_mem _ List.mem_cons_self
  exact ⟨rfl, hsubmitted.symm, rfl, hends.1 rfl, herror, hone error herror, rfl, halternates⟩

end Lifecycle

end TaskCoordination
