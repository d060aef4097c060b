import TaskCoordination.Workflow.Event

/-!
# Cascades

A barrier that fires calls its continuation, which may hand an event to a task; a cancelled task takes its attached
barrier down with it, and that barrier's continuation may cancel a task again. `pursue` follows such a chain from
barrier to barrier. It ends because each step gives a verdict to a barrier that had none (`openBarriers_cancel`),
while nothing on the way takes a verdict back (`openBarriers_call`).
-/

namespace TaskCoordination

namespace Workflow

/-- Cancels a task for its barrier; a task that is cancelled already, or has ended, is left alone. -/
def withdraw (w : Workflow) (ref : TaskRef) : Workflow × Option BarrierRef :=
  match w.task? ref with
  | none => (w, none)
  | some t =>
    if t.state = .cancelled || t.state.isTerminal then
      (w, none)
    else
      let (w, _, next) := w.deliver ref .cancellation
      (w, next)

def note (w : Workflow) (ref : BarrierRef) (job : JobId) (verdict : Verdict) (seen : Option Observation) : Workflow :=
  { w with calls := w.calls ++ [⟨ref, job, verdict, seen⟩] }

/-- Lets an observer look at its barrier and make its requests. -/
def observe (w : Workflow) (ref : BarrierRef) (requests : List BarrierRequest) :
    Workflow × Option Observation :=
  match w.barrier? ref with
  | none => (w, none)
  | some b =>
    let (b', replies) := b.askAll requests
    (w.setBarrier ref b', some ⟨b.status, replies⟩)

/-- Calls a continuation. The second component is the barrier at which a cancellation goes on. -/
def call (w : Workflow) (ref : BarrierRef) (job : JobId) (f : Firing Continuation) :
    Workflow × Option BarrierRef :=
  match f.continuation, f.verdict with
  | .submit t, .ready => ((w.deliver t .submission).1, none)
  | .submit t, .failed _ => ((w.deliver t .failedExecution).1, none)
  | .submit t, .cancelled => w.withdraw t
  | .callback, .cancelled => (w, none)
  | .callback, verdict => (w.note ref job verdict none, none)
  | .observer requests, verdict =>
    let (w, seen) := w.observe ref requests
    (w.note ref job verdict seen, none)

private theorem getElem?_of_barrier? {w : Workflow} {ref : BarrierRef} {b : Barrier Continuation}
    (h : w.barrier? ref = some b) : ∃ held, w.barriers[ref.index]? = some held ∧ held.barrier = b := by
  simpa [barrier?] using h

private theorem countP_modify_le {α : Type} (p : α → Bool) (f : α → α) (l : List α) (i : Nat)
    (hf : ∀ a, l[i]? = some a → p (f a) = true → p a = true) : (l.modify i f).countP p ≤ l.countP p := by
  induction l generalizing i with
  | nil => simp
  | cons a l ih =>
    cases i with
    | zero =>
      have := hf a rfl
      by_cases hp : p (f a) = true <;> by_cases hq : p a = true <;> simp_all
    | succ i =>
      have := ih i (fun b hb => hf b (by simpa using hb))
      simp only [List.modify_succ_cons, List.countP_cons]
      omega

private theorem countP_modify_lt {α : Type} (p : α → Bool) (f : α → α) (l : List α) (i : Nat) (a : α)
    (ha : l[i]? = some a) (hp : p a = true) (hf : p (f a) = false) : (l.modify i f).countP p < l.countP p := by
  induction l generalizing i with
  | nil => simp at ha
  | cons b l ih =>
    cases i with
    | zero =>
      obtain rfl : b = a := by simpa using ha
      simp [hp, hf]
    | succ i =>
      have := ih i (by simpa using ha)
      simp only [List.modify_succ_cons, List.countP_cons]
      omega

theorem openBarriers_deliver (w : Workflow) (ref : TaskRef) (e : Event) :
    (w.deliver ref e).1.openBarriers = w.openBarriers := by
  rw [openBarriers, barriers_deliver, openBarriers]

private theorem openBarriers_withdraw (w : Workflow) (ref : TaskRef) :
    (w.withdraw ref).1.openBarriers = w.openBarriers := by
  unfold withdraw
  split
  · rfl
  · split
    · rfl
    · exact openBarriers_deliver w ref .cancellation

private theorem openBarriers_observe (w : Workflow) (ref : BarrierRef) (requests : List BarrierRequest) :
    (w.observe ref requests).1.openBarriers ≤ w.openBarriers := by
  unfold observe
  split
  · exact Nat.le_refl _
  · next b hb =>
    obtain ⟨held, hheld, rfl⟩ := getElem?_of_barrier? hb
    refine countP_modify_le _ _ _ _ fun other hother hopen => ?_
    obtain rfl : held = other := by simpa [hheld] using hother
    cases h : held.barrier.isFired with
    | false => rfl
    | true => simp [Barrier.isFired_askAll h] at hopen

theorem openBarriers_call (w : Workflow) (ref : BarrierRef) (job : JobId) (f : Firing Continuation) :
    (w.call ref job f).1.openBarriers ≤ w.openBarriers := by
  unfold call
  split
  · exact Nat.le_of_eq (openBarriers_deliver ..)
  · exact Nat.le_of_eq (openBarriers_deliver ..)
  · exact Nat.le_of_eq (openBarriers_withdraw ..)
  · exact Nat.le_refl _
  · exact Nat.le_refl _
  · exact openBarriers_observe w ref _

theorem openBarriers_cancel {w : Workflow} {ref : BarrierRef} {b b' : Barrier Continuation}
    {f : Firing Continuation} {cancelled : Bool} (hb : w.barrier? ref = some b)
    (hc : b.cancel = (b', some f, cancelled)) : (w.setBarrier ref b').openBarriers < w.openBarriers := by
  obtain ⟨held, hheld, rfl⟩ := getElem?_of_barrier? hb
  unfold Barrier.cancel at hc
  cases h : held.barrier.isFired with
  | true => simp [h] at hc
  | false =>
    have hb' : b'.isFired = true := by
      simp only [h, Barrier.fire, Bool.false_eq_true, if_false, Prod.mk.injEq] at hc
      rw [← hc.1]
      rfl
    exact countP_modify_lt _ _ _ _ held hheld (by simp [h]) (by simp [hb'])

/-- Follows a cancellation from barrier to barrier. -/
def pursue (w : Workflow) (next : Option BarrierRef) : Workflow :=
  match next with
  | none => w
  | some ref =>
    match _hb : w.barrier? ref with
    | none => w
    | some b =>
      match _hc : b.cancel with
      | (b', none, _) => w.setBarrier ref b'
      | (b', some f, _) =>
        let step := (w.setBarrier ref b').call ref b.job f
        step.1.pursue step.2
termination_by w.openBarriers
decreasing_by exact Nat.lt_of_le_of_lt (openBarriers_call ..) (openBarriers_cancel _hb _hc)

/-- Hands an event to a task, with all that follows from it. -/
def handle (w : Workflow) (ref : TaskRef) (e : Event) : Workflow × Option (Except Rejection State) :=
  let (w, answer, next) := w.deliver ref e
  (w.pursue next, answer)

/-- Makes a request to a barrier, with all that follows from it. -/
def ask (w : Workflow) (ref : BarrierRef) (request : BarrierRequest) : Workflow × Option BarrierReply :=
  match w.barrier? ref with
  | none => (w, none)
  | some b =>
    match b.ask request with
    | (b', reply, none) => (w.setBarrier ref b', some reply)
    | (b', reply, some f) =>
      let (w, next) := (w.setBarrier ref b').call ref b.job f
      (w.pursue next, some reply)

/-- Attaches a barrier to a task in place of the one before. A task that is cancelled already cancels it. -/
def attach (w : Workflow) (ref : TaskRef) (b : BarrierRef) : Workflow :=
  match w.task? ref with
  | none => w
  | some t =>
    let w := w.setTask ref { t with barrier := some b }
    if t.state = .cancelled then
      let (w, next) := w.detach ref
      w.pursue next
    else
      w

end Workflow

end TaskCoordination
