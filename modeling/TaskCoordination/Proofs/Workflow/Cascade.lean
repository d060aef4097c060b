import TaskCoordination.Proofs.Workflow.Chain
import TaskCoordination.Proofs.Workflow.Delivery

/-!
# What a cancellation takes down

Every barrier here submits a task, whichever it is, and every task may have any barrier attached to it. A
cancellation of a task or of a barrier then comes to its end, and what it takes down on its way is a cascade
(`cascade_cancel`). So it takes down those who are on the chain and leaves the others as they are
(`cancellation_cascades`). That it ends is due to the barriers without a verdict: with each request that goes on
there is one less of them, so that there are no more changes than open barriers, and two.
-/

namespace TaskCoordination

namespace Workflow

variable {w : Workflow} {ref : BarrierRef} {t : TaskRef}

/-- Every barrier submits a task. -/
def Submits (w : Workflow) : Prop :=
  ∀ ref b, w.barrier? ref = some b → ∃ t, b.Holds (.submit t)

def has (w : Workflow) : Party → Bool
  | .task t => (w.task? t).isSome
  | .barrier b => (w.barrier? b).isSome

/-- Cancels a task or a barrier, with all that follows from it. The answer tells whether it was accepted. -/
def cancel (w : Workflow) : Party → Workflow × Option Bool
  | .task t => ((w.handle t .cancellation).1, (w.handle t .cancellation).2.map Except.toBool)
  | .barrier b => ((w.ask b .cancel).1, (w.ask b .cancel).2.map fun reply => reply = .flag true)

/-- The changes that a cancellation comes to. -/
def cancelling (w : Workflow) : Party → List Change
  | .task t => w.handling t .cancellation
  | .barrier b => w.asking b .cancel

/-- Who is taken down by a change: the barrier that is cancelled, and the task that accepts a cancellation. -/
def felled (w : Workflow) (c : Change) : List Party :=
  (match c with
    | .request ref r => ((w.firing? ref r).filter fun f => f.verdict = .cancelled).toList.map fun _ => .barrier ref
    | _ => []) ++
  ((w.delivery? c).filter fun d => d.event.isCancellation && d.accepted).toList.map fun d => .task d.task

/-- Who is taken down by a list of changes, in turn. -/
def falls (w : Workflow) : List Change → List Party
  | [] => []
  | c :: rest => w.felled c ++ (w.change c).falls rest

/-! ### A task in the cascade -/

private theorem stands_eq_accepts (w : Workflow) (t : TaskRef) : w.stands (.task t) = w.accepts t .cancellation := by
  cases ht : w.task? t with
  | none => simp [stands, accepts, ht]
  | some task =>
    rw [accepts_eq ht rfl, ← task.isStanding_eq, stands, ht]
    rfl

private theorem next?_eq (h : w.stands (.task t) = true) :
    (w.deliver t .cancellation).2.2.map Party.barrier = w.next? (.task t) := by
  obtain ⟨task, ht, hs⟩ := exists_task h
  rw [task.isStanding_eq] at hs
  rw [next_deliver ht (Lifecycle.apply_of_allows (e := .cancellation) rfl hs), next?, ht]
  rfl

private theorem handed_eq (w : Workflow) (t : TaskRef) :
    w.handed ⟨.submit t, .cancelled⟩ = if w.stands (.task t) then some (t, .cancellation) else none := by
  cases ht : w.task? t with
  | none => simp [handed, stands, ht]
  | some task =>
    simp only [handed, stands, ht, MonitoredTask.isStanding, Option.any_some]
    cases decide (task.state = .cancelled) || task.state.isTerminal <;> rfl

private theorem withdraw_of_stands (h : w.stands (.task t) = true) :
    w.withdraw t = (w.down (.task t), (w.deliver t .cancellation).2.2) := by
  obtain ⟨task, ht, hs⟩ := exists_task h
  simp only [MonitoredTask.isStanding, Bool.not_eq_true'] at hs
  simp only [withdraw, ht, hs, Bool.false_eq_true, if_false]
  rfl

private theorem withdraw_of_not_stands (h : w.stands (.task t) = false) : w.withdraw t = (w, none) := by
  cases ht : w.task? t with
  | none => simp only [withdraw, ht]
  | some task =>
    simp only [stands, ht, Option.any_some, MonitoredTask.isStanding, Bool.not_eq_false'] at h
    simp only [withdraw, ht, h, if_true]

/-! ### A barrier in the cascade -/

private theorem setBarrier_withdrawn {b : Barrier Continuation} (h : w.barrier? ref = some b) :
    w.setBarrier ref b.withdrawn = w.down (.barrier ref) := by
  obtain ⟨held, hheld, rfl⟩ := Option.map_eq_some_iff.1 h
  have hb : w.barriers.modify ref.index (fun other => { other with barrier := held.barrier.withdrawn }) =
      w.barriers.modify ref.index HeldBarrier.withdrawn := by
    refine modify_congr fun other hother => ?_
    obtain rfl : held = other := by simpa [hheld] using hother
    rfl
  rw [setBarrier, hb, down]

private theorem strike_of_stands {b : Barrier Continuation} (hb : w.barrier? ref = some b)
    (hk : b.Holds (.submit t)) (hv : b.verdict = none) :
    w.strike ref .cancel = (w.down (.barrier ref)).withdraw t := by
  have hc := Barrier.cancel_of_open hk hv
  have hf : (b.ask .cancel).2.2 = some ⟨.submit t, .cancelled⟩ := by rw [Barrier.ask, hc]
  have hb' : (b.ask .cancel).1 = b.withdrawn := by rw [Barrier.ask, hc]
  rw [strike_of_firing hb hf, hb', setBarrier_withdrawn hb]
  rfl

private theorem felled_of_stands {b : Barrier Continuation} (hb : w.barrier? ref = some b)
    (hk : b.Holds (.submit t)) (hv : b.verdict = none) :
    w.felled (.request ref .cancel) = .barrier ref :: if w.stands (.task t) then [.task t] else [] := by
  have hf : w.firing? ref .cancel = some ⟨.submit t, .cancelled⟩ := by
    rw [firing?, hb, Option.bind_some, Barrier.ask, Barrier.cancel_of_open hk hv]
  simp only [felled, delivery?, hf, Option.bind_some, handed_eq]
  cases hs : w.stands (.task t) with
  | true =>
    simp only [if_true, Option.map_some, ← stands_eq_accepts, hs]
    rfl
  | false => rfl

private theorem of_not_stands (h : w.stands (.barrier ref) = false) :
    w.strike ref .cancel = (w, none) ∧ w.felled (.request ref .cancel) = [] := by
  cases hb : w.barrier? ref with
  | none => exact ⟨strike_none hb _, by simp [felled, delivery?, firing?, hb]⟩
  | some b =>
    have hv : b.verdict ≠ none := Barrier.isFired_iff.1 (by simpa [stands, hb] using h)
    have hc := Barrier.cancel_of_verdict hv
    have hf : (b.ask .cancel).2.2 = none := by rw [Barrier.ask, hc]
    have hb' : (b.ask .cancel).1 = b := by rw [Barrier.ask, hc]
    constructor
    · rw [strike_of_silent hb hf, hb', setBarrier_self hb]
    · simp [felled, delivery?, firing?, hb, hf]

/-! ### The cascade -/

theorem Submits.down (hw : w.Submits) (x : Party) : (w.down x).Submits := by
  intro ref b hb
  by_cases hx : x = .barrier ref
  · subst hx
    obtain ⟨b', hb', rfl⟩ : ∃ b', w.barrier? ref = some b' ∧ b'.withdrawn = b := by
      simpa [barrier?, Workflow.down, HeldBarrier.withdrawn] using hb
    obtain ⟨t, -⟩ := hw ref b' hb'
    -- without a continuation it may have been any
    exact ⟨t, rfl⟩
  · have hk : (w.down x).barrier? ref = w.barrier? ref := congrArg (Option.map _) (keeps_down w hx)
    exact hw ref b (hk ▸ hb)

private theorem openBarriers_down (hw : w.Submits) (h : w.stands (.barrier ref) = true) :
    (w.down (.barrier ref)).openBarriers < w.openBarriers := by
  obtain ⟨b, hb, hv⟩ := exists_barrier h
  obtain ⟨t, hk⟩ := hw ref b hb
  rw [← setBarrier_withdrawn hb]
  exact openBarriers_cancel hb (Barrier.cancel_of_open hk hv)

theorem cascade_pursue {w : Workflow} (hw : w.Submits) (next : Option BarrierRef) :
    Cascade w (next.map .barrier) (w.falls (w.cancellations next)) (w.pursue next) := by
  cases next with
  | none =>
    rw [pursue_none, cancellations_none]
    exact .stop (by simp)
  | some ref =>
    rw [pursue_some, cancellations_some, falls]
    show Cascade w (some (.barrier ref)) (_ ++ (w.strike ref .cancel).1.falls _) _
    cases hs : w.stands (.barrier ref) with
    | false =>
      obtain ⟨hstrike, hfelled⟩ := of_not_stands hs
      rw [hstrike, hfelled, pursue_none, cancellations_none]
      exact .stop (by simpa using hs)
    | true =>
      obtain ⟨b, hb, hv⟩ := exists_barrier hs
      obtain ⟨t, hk⟩ := hw ref b hb
      have hnext : w.next? (.barrier ref) = some (.task t) := by
        have hc : b.continuation = some (.submit t) := by rw [hk, if_pos hv]
        simp [next?, hb, hc, Continuation.task?]
      have ht : (w.down (.barrier ref)).stands (.task t) = w.stands (.task t) :=
        (keeps_down w (by simp)).stands_eq
      rw [strike_of_stands hb hk hv, felled_of_stands hb hk hv, List.cons_append]
      refine .fall hs ?_
      rw [hnext]
      cases hst : w.stands (.task t) with
      | false =>
        rw [withdraw_of_not_stands (ht.trans hst), pursue_none, cancellations_none]
        exact .stop (by simpa using ht.trans hst)
      | true =>
        rw [withdraw_of_stands (ht.trans hst)]
        refine .fall (ht.trans hst) ?_
        rw [← next?_eq (ht.trans hst)]
        exact cascade_pursue ((hw.down _).down _) _
termination_by w.openBarriers
decreasing_by
  rw [down, openBarriers_deliver]
  exact openBarriers_down hw hs

private theorem deliver_of_not_stands (h : w.stands (.task t) = false) :
    (w.deliver t .cancellation).1 = w ∧ (w.deliver t .cancellation).2.2 = none ∧
      (w.deliver t .cancellation).2.1.map Except.toBool = if w.has (.task t) then some false else none := by
  cases ht : w.task? t with
  | none =>
    rw [deliver_of_none ht]
    simp [has, ht]
  | some task =>
    have ha : task.state.allows .cancelled = false := by
      rw [← task.isStanding_eq]
      simpa [stands, ht] using h
    obtain ⟨r, hr⟩ := deliver_of_not_allows (e := .cancellation) ht rfl ha
    rw [hr]
    simp [has, ht, Except.toBool]

private theorem asking_cancel (w : Workflow) (ref : BarrierRef) :
    w.asking ref .cancel = w.cancellations (some ref) ∧ (w.ask ref .cancel).1 = w.pursue (some ref) := by
  rw [cancellations_some, pursue_some, ask_eq_strike]
  exact ⟨rfl, rfl⟩

theorem cascade_cancel (hw : w.Submits) (start : Party) :
    Cascade w (some start) (w.falls (w.cancelling start)) (w.cancel start).1 := by
  cases start with
  | barrier ref =>
    obtain ⟨hlog, hw'⟩ := asking_cancel w ref
    rw [cancelling, cancel, hlog, hw']
    exact cascade_pursue hw (some ref)
  | task t =>
    show Cascade w (some (.task t))
      (w.felled (.event t .cancellation) ++ (w.deliver t .cancellation).1.falls
        ((w.deliver t .cancellation).1.cancellations (w.deliver t .cancellation).2.2))
      ((w.deliver t .cancellation).1.pursue (w.deliver t .cancellation).2.2)
    cases hs : w.stands (.task t) with
    | false =>
      obtain ⟨hd, hnext, -⟩ := deliver_of_not_stands hs
      have hf : w.felled (.event t .cancellation) = [] := by simp [felled, delivery?, ← stands_eq_accepts, hs]
      rw [hd, hnext, hf, pursue_none, cancellations_none]
      exact .stop (by simpa using hs)
    | true =>
      have hf : w.felled (.event t .cancellation) = [.task t] := by
        simp only [felled, delivery?, ← stands_eq_accepts, hs]
        rfl
      rw [hf]
      refine .fall hs ?_
      rw [← next?_eq hs]
      exact cascade_pursue (hw.down (.task t)) _

/-! ### Its end -/

theorem length_cancellations (w : Workflow) (next : Option BarrierRef) :
    (w.cancellations next).length ≤ w.openBarriers + 1 := by
  cases next with
  | none => exact Nat.zero_le _
  | some ref =>
    rw [cancellations_some, List.length_cons]
    cases h : (w.strike ref .cancel).2 with
    | none => exact Nat.succ_le_succ (Nat.zero_le _)
    | some next =>
      have hlt := openBarriers_strike h
      have := length_cancellations (w.strike ref .cancel).1 (some next)
      omega
termination_by w.openBarriers

private theorem length_cancelling (w : Workflow) (start : Party) :
    (w.cancelling start).length ≤ w.openBarriers + 2 := by
  cases start with
  | task t =>
    have := length_cancellations (w.deliver t .cancellation).1 (w.deliver t .cancellation).2.2
    rw [openBarriers_deliver] at this
    exact Nat.succ_le_succ this
  | barrier ref =>
    rw [cancelling, (asking_cancel w ref).1]
    exact Nat.le_succ_of_le (length_cancellations w (some ref))

/-- Whoever is there answers, and the answer tells whether it was standing. -/
private theorem answer_cancel (w : Workflow) (start : Party) :
    (w.cancel start).2 = if w.has start then some (w.stands start) else none := by
  cases start with
  | task t =>
    show (w.deliver t .cancellation).2.1.map Except.toBool = _
    cases hs : w.stands (.task t) with
    | false => exact (deliver_of_not_stands hs).2.2
    | true =>
      obtain ⟨task, ht, hst⟩ := exists_task hs
      rw [task.isStanding_eq] at hst
      rw [answer_deliver ht (e := .cancellation) rfl hst]
      simp [has, ht, Except.toBool]
  | barrier ref =>
    rw [cancel, reply_ask]
    cases hb : w.barrier? ref with
    | none => simp [has, hb]
    | some b =>
      have hreply : (b.ask .cancel).2.1 = .flag (!b.isFired) := by
        cases hf : b.isFired <;> simp [Barrier.ask, Barrier.cancel, hf]
      simp only [Option.map_some, hreply, has, stands, hb]
      cases hf : b.isFired <;> simp [hf]

/-- A cancellation comes to its end, however tasks and barriers are linked: those on the chain are taken down, once
each, and the others stay as they are. -/
theorem cancellation_cascades (hw : w.Submits) (start : Party) :
    let log := w.cancelling start
    let w' := (w.cancel start).1
    w' = w.replay log ∧ log.length ≤ w.openBarriers + 2 ∧
      (w.cancel start).2 = (if w.has start then some (w.stands start) else none) ∧
      (w.falls log).Nodup ∧
      ∀ x, (x ∈ w.falls log ↔ w.OnChain start x) ∧ (w.OnChain start x → w.Fells w' x) ∧
        (¬ w.OnChain start x → w.Keeps w' x) := by
  intro log w'
  have hc : Cascade w (some start) (w.falls log) w' := cascade_cancel hw start
  have hw' : w' = w.replay log := by
    cases start with
    | task t => exact (replay_handling w t .cancellation).symm
    | barrier ref => exact (replay_asking w ref .cancel).symm
  refine ⟨hw', length_cancelling w start, answer_cancel w start, hc.nodup, ?_⟩
  intro x
  have hx : x ∈ w.falls log ↔ w.OnChain start x := by
    rw [hc.mem_iff]
    simp
  exact ⟨hx, fun h => hc.fells (hx.2 h), fun h => hc.keeps (mt hx.1 h)⟩

/-- Two tasks and two barriers that are linked in a circle go down together; the third task has a barrier that nobody
holds and the fourth one that is ready, and neither barrier is touched. -/
theorem cancellation_cascades_circle :
    let task (id : Nat) (b : BarrierRef) : MonitoredTask :=
      { MonitoredTask.start ⟨id⟩ ⟨0⟩ false false with barrier := b }
    let barrier (job : Nat) (t : TaskRef) : Barrier Continuation := .start ⟨job⟩ (.submit t)
    let w : Workflow := ⟨.empty false, .silent, [task 1 ⟨0⟩, task 2 ⟨1⟩, task 3 ⟨2⟩, task 4 ⟨3⟩],
      [⟨barrier 1 ⟨1⟩, true⟩, ⟨barrier 2 ⟨0⟩, true⟩, ⟨barrier 3 ⟨0⟩, false⟩, ⟨(barrier 4 ⟨0⟩).enable.1, true⟩], []⟩
    (w.falls (w.cancelling (.task ⟨0⟩)) = [.task ⟨0⟩, .barrier ⟨0⟩, .task ⟨1⟩, .barrier ⟨1⟩] ∧
        w.OnChain (.task ⟨0⟩) (.barrier ⟨1⟩) ∧ w.Fells (w.cancel (.task ⟨0⟩)).1 (.barrier ⟨1⟩)) ∧
      (¬ w.OnChain (.task ⟨2⟩) (.barrier ⟨2⟩) ∧ w.Keeps (w.cancel (.task ⟨2⟩)).1 (.barrier ⟨2⟩)) ∧
      (¬ w.OnChain (.task ⟨3⟩) (.barrier ⟨3⟩) ∧ w.Keeps (w.cancel (.task ⟨3⟩)).1 (.barrier ⟨3⟩)) := by
  intro task barrier w
  have hw : w.Submits := by
    rintro ⟨i⟩ b hb
    rcases i with _ | _ | _ | _ | i
    · exact ⟨⟨1⟩, Option.some.inj hb ▸ rfl⟩
    · exact ⟨⟨0⟩, Option.some.inj hb ▸ rfl⟩
    · exact ⟨⟨0⟩, Option.some.inj hb ▸ rfl⟩
    · exact ⟨⟨0⟩, Option.some.inj hb ▸ rfl⟩
    · exact absurd hb (by simp [barrier?, w])
  obtain ⟨-, -, -, -, hcircle⟩ := cancellation_cascades hw (.task ⟨0⟩)
  obtain ⟨-, -, -, -, hdead⟩ := cancellation_cascades hw (.task ⟨2⟩)
  obtain ⟨-, -, -, -, hready⟩ := cancellation_cascades hw (.task ⟨3⟩)
  have hfalls : w.falls (w.cancelling (.task ⟨0⟩)) = [.task ⟨0⟩, .barrier ⟨0⟩, .task ⟨1⟩, .barrier ⟨1⟩] := by
    decide +kernel
  refine ⟨⟨hfalls, ?_⟩, ?_, ?_⟩
  · obtain ⟨hmem, hfells, -⟩ := hcircle (.barrier ⟨1⟩)
    have hon := hmem.1 (by rw [hfalls]; decide)
    exact ⟨hon, hfells hon⟩
  · obtain ⟨hmem, -, hkeeps⟩ := hdead (.barrier ⟨2⟩)
    have hoff := mt hmem.2 (by decide +kernel)
    exact ⟨hoff, hkeeps hoff⟩
  · obtain ⟨hmem, -, hkeeps⟩ := hready (.barrier ⟨3⟩)
    have hoff := mt hmem.2 (by decide +kernel)
    exact ⟨hoff, hkeeps hoff⟩

end Workflow

end TaskCoordination
