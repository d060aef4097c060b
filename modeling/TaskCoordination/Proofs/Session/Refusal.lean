import TaskCoordination.Proofs.Lifecycle.Values
import TaskCoordination.Proofs.Session.Basic
import TaskCoordination.Proofs.Workflow.Delivery

/-!
# Events that are turned down

A task takes an event that leads where its state allows, and a value that is due; it turns down all others
(`Lifecycle.Takes`). The lifecycle is then as before (`Step.of_error`), and nobody else has heard of the event, so
the workflow is as before (`handle_of_error`), and so is the session (`act_of_refuses`). An event that a barrier
hands over is no exception: what is left of it is what the barrier does by itself (`change_of_refused`). All that is
turned down can thus be left out of a run (`run_effective`).

As before are the lifecycles and the links of the tasks, the gauges, the queue and the barriers. A task says that it
has ended exactly if it has (`refusals_leave_no_trace`).
-/

namespace TaskCoordination

namespace Lifecycle

variable {l l' : Lifecycle} {e : Event} {answer : Except Rejection Effect}

/-- The event leads where the rule allows, or brings a value that is due. -/
def Takes (l : Lifecycle) (e : Event) : Prop :=
  (∃ target, e.target? = some target ∧ l.state.allows target = true) ∨
    ∃ index value, e = .valueGenerated index value ∧ l.state.HandsOver ∧ index ∉ l.generated

theorem takes_iff_of_target? {target : State} (ht : e.target? = some target) :
    l.Takes e ↔ l.state.allows target = true := by
  constructor
  · rintro (⟨target', ht', ha⟩ | ⟨index, value, rfl, -⟩)
    · obtain rfl : target' = target := Option.some.inj (ht'.symm.trans ht)
      exact ha
    · exact absurd ht (by simp [Event.target?])
  · exact fun ha => Or.inl ⟨target, ht, ha⟩

theorem takes_value_iff {index : Nat} {value : GeneratedValue} :
    l.Takes (.valueGenerated index value) ↔ l.state.HandsOver ∧ index ∉ l.generated := by
  constructor
  · rintro (⟨target, ht, -⟩ | ⟨index', value', he, hh, hg⟩)
    · exact absurd ht (by simp [Event.target?])
    · obtain ⟨rfl, rfl⟩ := Event.valueGenerated.inj he
      exact ⟨hh, hg⟩
  · rintro ⟨hh, hg⟩
    exact Or.inr ⟨index, value, rfl, hh, hg⟩

/-- Nothing is taken of a task that has ended. -/
theorem Takes.isTerminal_eq_false (h : l.Takes e) : l.state.isTerminal = false := by
  rcases h with ⟨target, -, ha⟩ | ⟨index, value, -, hh, -⟩
  · exact State.not_isTerminal_of_allows ha
  · exact hh.isTerminal_eq_false

theorem Step.exists_ok_iff (hs : Step l e l' answer) : (∃ effect, answer = .ok effect) ↔ l.Takes e := by
  cases hs with
  | terminated h =>
    refine iff_of_false (by simp) fun ht => ?_
    exact absurd ht.isTerminal_eq_false (by simp [h])
  | misplaced _ ha =>
    refine iff_of_false (by simp) fun ht => ?_
    exact absurd (acceptsValues_iff.2 (takes_value_iff.1 ht).1) (by simp [ha])
  | repeated _ hg => exact iff_of_false (by simp) fun ht => (takes_value_iff.1 ht).2 hg
  | generated ha hg => exact iff_of_true ⟨_, rfl⟩ (takes_value_iff.2 ⟨acceptsValues_iff.1 ha, hg⟩)
  | forbidden _ ht ha => exact iff_of_false (by simp) (by simp [takes_iff_of_target? ht, ha])
  | entered ht ha => exact iff_of_true ⟨_, rfl⟩ ((takes_iff_of_target? ht).2 ha)

/-- A task says that it has ended exactly if it has. -/
theorem Step.terminated_iff (hs : Step l e l' answer) :
    (∃ r, answer = .error r ∧ r.code = "TASK_TERMINATED") ↔ l.state.isTerminal = true := by
  cases hs with
  | terminated h => exact iff_of_true ⟨_, rfl, rfl⟩ h
  | misplaced h | forbidden h => exact iff_of_false (by simp [invalid, Rejection.code]) (by simp [h])
  | repeated ha =>
    have h := (acceptsValues_iff.1 ha).isTerminal_eq_false
    exact iff_of_false (by simp [Rejection.code]) (by simp [h])
  | generated ha =>
    have h := (acceptsValues_iff.1 ha).isTerminal_eq_false
    exact iff_of_false (by simp) (by simp [h])
  | entered _ ha =>
    have h := State.not_isTerminal_of_allows ha
    exact iff_of_false (by simp) (by simp [h])

end Lifecycle

namespace Workflow

variable {w : Workflow} {ref : TaskRef} {t : MonitoredTask} {e : Event} {r : Rejection}

private theorem answer_handle (h : w.task? ref = some t) :
    (w.handle ref e).2 = some ((t.lifecycle.apply e).2.map fun _ => (t.lifecycle.apply e).1.state) :=
  answer_deliver_eq h e

theorem handle_eq_ok_iff (h : w.task? ref = some t) :
    (∃ state, (w.handle ref e).2 = some (.ok state)) ↔ ∃ effect, (t.lifecycle.apply e).2 = .ok effect := by
  rw [answer_handle h]
  cases (t.lifecycle.apply e).2 <;> simp [Except.map]

theorem handle_eq_error_iff (h : w.task? ref = some t) :
    (w.handle ref e).2 = some (.error r) ↔ (t.lifecycle.apply e).2 = .error r := by
  rw [answer_handle h]
  cases (t.lifecycle.apply e).2 <;> simp [Except.map]

/-- An event that is turned down changes nothing at all. -/
theorem handle_of_error (hr : (w.handle ref e).2 = some (.error r)) : w.handle ref e = (w, some (.error r)) := by
  cases h : w.task? ref with
  | none =>
    have hn : (w.handle ref e).2 = none := by rw [handle, deliver_of_none h]
    exact absurd (hn.symm.trans hr) (by simp)
  | some t =>
    have hd := deliver_of_refused h ((handle_eq_error_iff h).1 hr)
    show ((w.deliver ref e).1.pursue (w.deliver ref e).2.2, (w.deliver ref e).2.1) = _
    rw [hd, pursue_none]

private theorem deliver_of_not_accepts (ha : w.accepts ref e = false) : (w.deliver ref e).1 = w := by
  unfold accepts at ha
  cases h : w.task? ref with
  | none => rw [deliver_of_none h]
  | some t =>
    rw [h] at ha
    rcases hl : t.lifecycle.apply e with ⟨l, r | effect⟩
    · rw [deliver_of_refused h (congrArg Prod.snd hl)]
    · simp [hl] at ha

/-- Of an event that is turned down there remains what was done besides. -/
theorem change_of_refused {c : Change} {d : Delivery} (h : w.delivery? c = some d) (hd : d.accepted = false) :
    w.change c = w.besides c := by
  obtain ⟨htasks, heq⟩ := delivery?_eq h
  have ha : (w.besides c).accepts d.task d.event = false := by
    rw [accepts, task?, htasks]
    rw [heq] at hd
    exact hd
  rw [change_eq, h]
  exact deliver_of_not_accepts ha

end Workflow

namespace Session

variable {s : Session} {a : Action}

/-- An event that its task turns down. -/
def refuses (s : Session) : Action → Bool
  | .handle t e =>
    match (s.workflow.handle t e).2 with
    | some (.error _) => true
    | _ => false
  | _ => false

/-- A run less the events that are turned down in it. -/
def effective (s : Session) : List Action → List Action
  | [] => []
  | a :: rest => if s.refuses a then (s.act a).effective rest else a :: (s.act a).effective rest

theorem withWorkflow_self (s : Session) : s.withWorkflow s.workflow = s := by
  cases s <;> rfl

theorem act_handle_of_error {t : TaskRef} {e : Event} {r : Rejection}
    (hr : (s.workflow.handle t e).2 = some (.error r)) : s.act (.handle t e) = s := by
  show s.withWorkflow (s.workflow.handle t e).1 = s
  rw [Workflow.handle_of_error hr, withWorkflow_self]

theorem act_of_refuses (h : s.refuses a = true) : s.act a = s := by
  unfold refuses at h
  split at h
  · split at h
    · next hr => exact act_handle_of_error hr
    · exact absurd h (by simp)
  · exact absurd h (by simp)

theorem run_effective (s : Session) (as : List Action) : s.run (s.effective as) = s.run as := by
  induction as generalizing s with
  | nil => rfl
  | cons a as ih =>
    by_cases h : s.refuses a = true
    · have ha := act_of_refuses h
      rw [effective, if_pos h, ha, ih, run, ha]
    · rw [effective, if_neg h, run, ih, run]

/-- At any moment of a session a task takes an event or answers with a rejection, after which the whole workflow is
as before and the same event gets the same answer. -/
theorem refusals_leave_no_trace (s : Session) (as : List Action) :
    let now := s.run as
    let w := now.workflow
    (∀ ref t, w.task? ref = some t → ∀ e,
      ((∃ state, (w.handle ref e).2 = some (.ok state)) ↔ t.lifecycle.Takes e) ∧
        ((∃ r, (w.handle ref e).2 = some (.error r)) ↔ ¬ t.lifecycle.Takes e) ∧
        ((∃ r, (w.handle ref e).2 = some (.error r) ∧ r.code = "TASK_TERMINATED") ↔
          t.state = .completed ∨ t.state = .failed)) ∧
      (∀ ref e r, (w.handle ref e).2 = some (.error r) →
        (w.handle ref e).1 = w ∧ now.act (.handle ref e) = now ∧
          ((w.handle ref e).1.handle ref e).2 = some (.error r)) ∧
      (∀ c d, w.delivery? c = some d → d.accepted = false → w.change c = w.besides c) ∧
      s.run (s.effective as) = now := by
  intro now w
  refine ⟨?_, ?_, fun c d => Workflow.change_of_refused, s.run_effective as⟩
  · intro ref t ht e
    have hs := t.lifecycle.step_apply e
    have hok := (Workflow.handle_eq_ok_iff ht).trans hs.exists_ok_iff
    refine ⟨hok, ?_, ?_⟩
    · -- there is an answer, and it is one or the other
      rw [← hs.exists_ok_iff]
      simp only [Workflow.handle_eq_error_iff ht]
      cases (t.lifecycle.apply e).2 <;> simp
    · simp only [Workflow.handle_eq_error_iff ht]
      exact hs.terminated_iff.trans State.isTerminal_iff
  · intro ref e r hr
    have heq := Workflow.handle_of_error hr
    refine ⟨by rw [heq], act_handle_of_error hr, ?_⟩
    rw [heq]
    exact hr

/-- A value comes twice, and a task that has ended is cancelled while its barrier waits for a transfer: the barrier
goes on waiting. -/
theorem refusals_leave_no_trace_value_and_cancellation :
    let value := GeneratedValue.mk .int "here" "d1v1" []
    let s : Session := .bare (.start (.empty true) (.manual 4))
    let before : List Action := [.directory (.table (.grow 1)), .addTask ⟨1⟩ ⟨0⟩ true true,
      .addBarrier ⟨1⟩ (.submit ⟨0⟩), .attach ⟨0⟩ ⟨0⟩, .ask ⟨0⟩ .register, .handle ⟨0⟩ .submission,
      .handle ⟨0⟩ (.valueGenerated 0 value)]
    let ended := before ++ [.handle ⟨0⟩ .completion]
    let all := before ++ [.handle ⟨0⟩ (.valueGenerated 0 value), .handle ⟨0⟩ .completion, .handle ⟨0⟩ .cancellation]
    let w := (s.run before).workflow
    let w' := (s.run ended).workflow
    ((w.handle ⟨0⟩ (.valueGenerated 0 value)).2 = some (.error (.duplicateValue ⟨1⟩ 0)) ∧
        (w.handle ⟨0⟩ (.valueGenerated 0 value)).1 = w) ∧
      ((w'.handle ⟨0⟩ .cancellation).2 = some (.error (.taskTerminated ⟨1⟩ "cancellation")) ∧
        (w'.handle ⟨0⟩ .cancellation).1 = w' ∧
        (w'.barrier? ⟨0⟩).map Barrier.status = some ⟨1, 0, 1, false, none⟩) ∧
      (s.effective all).length + 2 = all.length ∧ s.run (s.effective all) = s.run all := by
  intro value s before ended all w w'
  have hvalue : (w.handle ⟨0⟩ (.valueGenerated 0 value)).2 = some (.error (.duplicateValue ⟨1⟩ 0)) := by
    decide +kernel
  have hcancel : (w'.handle ⟨0⟩ .cancellation).2 = some (.error (.taskTerminated ⟨1⟩ "cancellation")) := by
    decide +kernel
  have hlength : (s.effective all).length + 2 = all.length := by decide +kernel
  obtain ⟨-, hbefore, -, -⟩ := refusals_leave_no_trace s before
  obtain ⟨-, hended, -, -⟩ := refusals_leave_no_trace s ended
  obtain ⟨-, -, -, hall⟩ := refusals_leave_no_trace s all
  exact ⟨⟨hvalue, (hbefore ⟨0⟩ _ _ hvalue).1⟩, ⟨hcancel, (hended ⟨0⟩ _ _ hcancel).1, by decide +kernel⟩, hlength,
    hall⟩

end Session

end TaskCoordination
