import TaskCoordination.Proofs.Lifecycle.Outcome

/-!
# The values of an attempt

A task hands over its values while it is submitted and until it is scheduled or submitted again, one for each
parameter. What a lifecycle remembers of them are the parameters that have had a value in the current attempt
(`Remembers`): a submission begins a new attempt and forgets them, and nothing else does. So what is turned down as
repeated is what was accepted before under the same number of attempts (`values_once`).

A value that was accepted before is turned down as a repetition; once the task has ended it is turned down for that,
and elsewhere as out of place. Another submission makes room for every value again.
-/

namespace TaskCoordination

namespace State

/-- The task is where it hands over its values. -/
def HandsOver (s : State) : Prop :=
  s = submitted ∨ s = dataReceived ∨ ∃ outcome, s = executed outcome

theorem HandsOver.isTerminal_eq_false {s : State} (h : s.HandsOver) : s.isTerminal = false := by
  rcases h with rfl | rfl | ⟨outcome, rfl⟩ <;> rfl

end State

/-- The attempt and the parameter of an accepted value. -/
def Acceptance.entry? (a : Acceptance) : Option (Nat × Nat) :=
  a.event.value?.map fun v => (a.attempt, v.1)

/-- What has had a value, attempt by attempt. -/
def handedOver (log : List Acceptance) : List (Nat × Nat) :=
  log.filterMap Acceptance.entry?

theorem handedOver_concat (log : List Acceptance) (a : Acceptance) :
    handedOver (log ++ [a]) = handedOver log ++ a.entry?.toList := by
  rw [handedOver, List.filterMap_append]
  cases h : a.entry? <;> simp [handedOver, h]

namespace Lifecycle

variable {l l' : Lifecycle} {e : Event}

theorem acceptsValues_iff : l.acceptsValues = true ↔ l.state.HandsOver := by
  unfold acceptsValues
  cases l.state <;> simp [State.HandsOver]

/-! ### What becomes of a value -/

/-- The answers to a value, each with the reason for it. -/
theorem Step.answer_value {index : Nat} {value : GeneratedValue} {answer : Except Rejection Effect}
    (hs : Step l (.valueGenerated index value) l' answer) :
    (l.state.isTerminal = true ∧ answer = .error (.taskTerminated l.task "value_generated")) ∨
      (l.state.isTerminal = false ∧ ¬ l.state.HandsOver ∧
        answer = .error (.invalidTransition l.task l.state.render "value_generated")) ∨
      (l.state.HandsOver ∧ index ∈ l.generated ∧ answer = .error (.duplicateValue l.task index)) ∨
      (l.state.HandsOver ∧ index ∉ l.generated ∧ answer = .ok {}) := by
  cases hs with
  | terminated h => exact Or.inl ⟨h, rfl⟩
  | misplaced h ha =>
    have hn : ¬ l.state.HandsOver := fun hh => absurd (acceptsValues_iff.2 hh) (by simp [ha])
    exact Or.inr (Or.inl ⟨h, hn, rfl⟩)
  | repeated ha hg => exact Or.inr (Or.inr (Or.inl ⟨acceptsValues_iff.1 ha, hg, rfl⟩))
  | generated ha hg => exact Or.inr (Or.inr (Or.inr ⟨acceptsValues_iff.1 ha, hg, rfl⟩))
  | forbidden _ ht => exact absurd ht (by simp [Event.target?])
  | entered ht => exact absurd ht (by simp [Event.target?])

/-- After a submission every parameter can get a value. -/
theorem Step.ok_value_of_submission {effect : Effect} (hs : Step l .submission l' (.ok effect)) (index : Nat)
    (value : GeneratedValue) : (l'.apply (.valueGenerated index value)).2 = .ok {} := by
  rcases hs.of_ok with ⟨ht, -⟩ | ⟨target, ht, -, rfl, -⟩
  · exact absurd ht (by simp [Event.target?])
  · obtain rfl : State.submitted = target := Option.some.inj ht
    rfl

/-! ### What is remembered -/

/-- A lifecycle remembers what has had a value in the current attempt. Nothing has had one in an attempt to come, and
nothing has had two in one attempt. -/
structure Remembers (l : Lifecycle) (log : List Acceptance) : Prop where
  mem_iff : ∀ index, index ∈ l.generated ↔ (l.attempts, index) ∈ handedOver log
  attempt_le : ∀ p ∈ handedOver log, p.1 ≤ l.attempts
  nodup : (handedOver log).Nodup

/-- A new attempt remembers nothing, and any other state what was remembered before. -/
private theorem Remembers.enter {log : List Acceptance} (h : l.Remembers log) (target : State) :
    Remembers (l.enter target).1 log := by
  by_cases hsub : target = .submitted
  · subst hsub
    refine ⟨fun index => ?_, fun p hp => Nat.le_succ_of_le (h.attempt_le p hp), h.nodup⟩
    have hfresh : (l.attempts + 1, index) ∉ handedOver log := fun hm => absurd (h.attempt_le _ hm) (by simp)
    simpa [Lifecycle.enter] using hfresh
  · have hsame : (l.enter target).1.attempts = l.attempts ∧ (l.enter target).1.generated = l.generated := by
      simp [Lifecycle.enter, hsub]
    exact ⟨by rw [hsame.1, hsame.2]; exact h.mem_iff, by rw [hsame.1]; exact h.attempt_le, h.nodup⟩

/-- A value that is new to the attempt is remembered from then on. -/
private theorem Remembers.generate {log : List Acceptance} (h : l.Remembers log) {index : Nat}
    {value : GeneratedValue} (hg : index ∉ l.generated) : Remembers { l with generated := index :: l.generated }
      (log ++ [⟨.valueGenerated index value, l.attempts, {}⟩]) := by
  have hnew : (l.attempts, index) ∉ handedOver log := fun hm => hg ((h.mem_iff index).2 hm)
  have hlog : handedOver (log ++ [⟨.valueGenerated index value, l.attempts, {}⟩]) =
      handedOver log ++ [(l.attempts, index)] := handedOver_concat _ _
  constructor
  · intro i
    rw [hlog]
    simp [h.mem_iff, or_comm]
  · rw [hlog]
    exact forall_mem_concat.2 ⟨h.attempt_le, Nat.le_refl l.attempts⟩
  · rw [hlog]
    refine List.nodup_append.2 ⟨h.nodup, by simp, ?_⟩
    rintro p hp q hq rfl
    obtain rfl := List.mem_singleton.1 hq
    exact hnew hp

theorem Step.remembers {effect : Effect} {log : List Acceptance} (h : l.Remembers log)
    (hs : Step l e l' (.ok effect)) : l'.Remembers (log ++ [⟨e, l'.attempts, effect⟩]) := by
  cases hs with
  | generated _ hg => exact h.generate hg
  | @entered _ target ht _ =>
    have hvalue : e.value? = none := by
      cases e with
      | valueGenerated => exact absurd ht (by simp [Event.target?])
      | _ => rfl
    have hlog : handedOver (log ++ [⟨e, (l.enter target).1.attempts, (l.enter target).2⟩]) = handedOver log := by
      simp [handedOver_concat, Acceptance.entry?, hvalue]
    obtain ⟨hmem, hle, hnodup⟩ := h.enter target
    rw [← hlog] at hle hnodup
    exact ⟨by rw [hlog]; exact hmem, hle, hnodup⟩

theorem remembers_run (task : TaskId) (es : List Event) :
    Remembers ((start task).run es) ((start task).acceptances es) := by
  refine acceptances_induction (fun h hs => hs.remembers h) [] ⟨?_, ?_, ?_⟩ es
  · simp [start, handedOver]
  · simp [handedOver]
  · simp [handedOver]

/-- Over all runs a value is accepted exactly where values are handed over and no value of its parameter was
accepted under the same number of attempts. -/
theorem values_once (task : TaskId) (es : List Event) :
    let l := (start task).run es
    let given := handedOver ((start task).acceptances es)
    (∀ index value,
      let answer := (l.apply (.valueGenerated index value)).2
      ((∃ effect, answer = .ok effect) ↔ l.state.HandsOver ∧ (l.attempts, index) ∉ given) ∧
        (answer = .error (.duplicateValue task index) ↔ l.state.HandsOver ∧ (l.attempts, index) ∈ given) ∧
        (answer = .error (.taskTerminated task "value_generated") ↔ l.state = .completed ∨ l.state = .failed) ∧
        (answer = .error (.invalidTransition task l.state.render "value_generated") ↔
          ¬ l.state.HandsOver ∧ ¬ (l.state = .completed ∨ l.state = .failed))) ∧
      given.Nodup ∧
      ((∃ effect, (l.apply .submission).2 = .ok effect) →
        ∀ index value, ∃ effect, ((l.apply .submission).1.apply (.valueGenerated index value)).2 = .ok effect) := by
  intro l given
  have hr : l.Remembers ((start task).acceptances es) := remembers_run task es
  refine ⟨fun index value => ?_, hr.nodup, ?_⟩
  · intro answer
    have hs : Step l (.valueGenerated index value) _ answer := step_apply l (.valueGenerated index value)
    have htask : l.task = task := task_run task es
    rw [← hr.mem_iff index, ← State.isTerminal_iff]
    rcases hs.answer_value with ⟨ht, ha⟩ | ⟨ht, hn, ha⟩ | ⟨hh, hg, ha⟩ | ⟨hh, hg, ha⟩
    · have hn : ¬ l.state.HandsOver := fun hh => absurd hh.isTerminal_eq_false (by simp [ht])
      simp [ha, htask, ht, hn]
    · simp [ha, htask, ht, hn]
    · simp [ha, htask, hh, hh.isTerminal_eq_false, hg]
    · simp [ha, hh, hh.isTerminal_eq_false, hg]
  · rintro ⟨effect, he⟩ index value
    have hs := step_apply l .submission
    rw [he] at hs
    exact ⟨{}, hs.ok_value_of_submission index value⟩

/-- A parameter that has a value has no other in the same attempt, and another one once the task is submitted again.
-/
theorem values_once_after_error :
    let value := GeneratedValue.mk .int "here" "d1v1" []
    let l := (start ⟨1⟩).run [.submission, .valueGenerated 0 value, .errorExecution]
    (l.apply (.valueGenerated 0 value)).2 = .error (.duplicateValue ⟨1⟩ 0) ∧
      (l.apply .submission).2 = .ok { opened := true } ∧
      ∃ effect, ((l.apply .submission).1.apply (.valueGenerated 0 value)).2 = .ok effect := by
  intro value l
  obtain ⟨hanswer, -, hagain⟩ := values_once ⟨1⟩ [.submission, .valueGenerated 0 value, .errorExecution]
  refine ⟨(hanswer 0 value).2.1.2 ⟨Or.inr (Or.inr ⟨.error, rfl⟩), ?_⟩, rfl, hagain ⟨_, rfl⟩ 0 value⟩
  exact List.mem_singleton_self (1, 0)

end Lifecycle

end TaskCoordination
