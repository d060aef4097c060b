import Mathlib.Logic.Relation
import TaskCoordination.Proofs.Workflow.Frame

/-!
# Chains of tasks and barriers

A cancellation goes on from a task to the barrier that is attached to it, and from a barrier to the task that it
submits, as far as it finds each of them standing. `OnChain` is about the workflow as it is before: it says who is
reached in this way. A `Cascade` is what happens then: one after the other is taken down, and each changes what
there is to reach for the next. It takes down those on the chain (`Cascade.mem_iff`), none of them twice
(`Cascade.nodup`), and leaves all others as they are (`Cascade.fells`, `Cascade.keeps`).

Tasks and barriers may be linked in circles. Whoever has been taken down does not stand any more, so the chain of the
others is the same without them (`onChain_iff`).
-/

namespace TaskCoordination

/-- Whoever can be cancelled. -/
inductive Party
  | task (t : TaskRef)
  | barrier (b : BarrierRef)
  deriving DecidableEq

/-- The task that a continuation submits. -/
def Continuation.task? : Continuation → Option TaskRef
  | submit t => some t
  | callback | observer _ => none

namespace MonitoredTask

/-- The task is neither cancelled nor at its end. -/
def isStanding (t : MonitoredTask) : Bool :=
  !(t.state = .cancelled || t.state.isTerminal)

/-- The task after its cancellation. -/
def withdrawn (t : MonitoredTask) : MonitoredTask :=
  { t with lifecycle := (t.lifecycle.enter .cancelled).1, barrier := none }

theorem isStanding_eq (t : MonitoredTask) : t.isStanding = t.state.allows .cancelled := by
  unfold isStanding
  cases t.state <;> rfl

theorem after_cancellation {t : MonitoredTask} (h : t.isStanding = true) : t.after .cancellation = t.withdrawn := by
  rw [isStanding_eq] at h
  exact after_of_allows rfl h

end MonitoredTask

/-- The barrier after its cancellation, held as before. -/
def HeldBarrier.withdrawn (held : HeldBarrier) : HeldBarrier :=
  { held with barrier := held.barrier.withdrawn }

namespace Workflow

variable {w w' w'' : Workflow} {x y : Party} {t : TaskRef} {b : BarrierRef}

/-- A task that is neither cancelled nor at its end, or a barrier without a verdict. -/
def stands (w : Workflow) : Party → Bool
  | .task t => (w.task? t).any MonitoredTask.isStanding
  | .barrier b => (w.barrier? b).any fun barrier => !barrier.isFired

/-- From a task on to the barrier attached to it, if somebody holds that, and from a barrier on to its task. -/
def next? (w : Workflow) : Party → Option Party
  | .task t => ((w.task? t).bind fun task => task.barrier.bind w.held?).map .barrier
  | .barrier b => ((w.barrier? b).bind fun barrier => barrier.continuation.bind Continuation.task?).map .task

/-- Both stand, and the one is next after the other. -/
def Leads (w : Workflow) (x y : Party) : Prop :=
  w.stands x = true ∧ w.next? x = some y ∧ w.stands y = true

/-- A cancellation of `x` reaches `y`. -/
def OnChain (w : Workflow) (x y : Party) : Prop :=
  w.stands x = true ∧ Relation.ReflTransGen w.Leads x y

theorem OnChain.stands (h : w.OnChain x y) : w.stands y = true := by
  rcases h.2.cases_tail with rfl | ⟨_, -, hl⟩
  · exact h.1
  · exact hl.2.2

/-- Cancels a party, and nobody else. -/
def down (w : Workflow) : Party → Workflow
  | .task t => (w.deliver t .cancellation).1
  | .barrier b => { w with barriers := w.barriers.modify b.index HeldBarrier.withdrawn }

/-! ### Who changes -/

/-- The party is the same in both workflows. -/
def Keeps (w w' : Workflow) : Party → Prop
  | .task t => w'.task? t = w.task? t
  | .barrier b => w'.barriers[b.index]? = w.barriers[b.index]?

/-- The party is cancelled in the second workflow, and otherwise as in the first. -/
def Fells (w w' : Workflow) : Party → Prop
  | .task t => w'.task? t = (w.task? t).map MonitoredTask.withdrawn
  | .barrier b => w'.barriers[b.index]? = w.barriers[b.index]?.map HeldBarrier.withdrawn

theorem Keeps.refl (w : Workflow) (x : Party) : w.Keeps w x := by
  cases x <;> rfl

theorem Keeps.trans (h : w.Keeps w' x) (h' : w'.Keeps w'' x) : w.Keeps w'' x := by
  cases x <;> exact Eq.trans h' h

theorem Keeps.trans_fells (h : w.Keeps w' x) (h' : w'.Fells w'' x) : w.Fells w'' x := by
  cases x <;> exact Eq.trans h' (congrArg _ h)

theorem Fells.trans_keeps (h : w.Fells w' x) (h' : w'.Keeps w'' x) : w.Fells w'' x := by
  cases x <;> exact Eq.trans h' h

theorem Keeps.stands_eq (h : w.Keeps w' x) : w'.stands x = w.stands x := by
  cases x with
  | task t => exact congrArg (Option.any _) h
  | barrier b =>
    have hb : w'.barrier? b = w.barrier? b := congrArg (Option.map _) h
    simp only [stands, hb]

theorem Fells.stands_eq (h : w.Fells w' x) : w'.stands x = false := by
  cases x with
  | task t =>
    have ht : w'.task? t = (w.task? t).map MonitoredTask.withdrawn := h
    simp only [stands, ht]
    cases w.task? t <;> rfl
  | barrier b =>
    have hb : w'.barriers[b.index]? = w.barriers[b.index]?.map HeldBarrier.withdrawn := h
    simp only [stands, barrier?, hb]
    cases w.barriers[b.index]? <;> rfl

theorem exists_task (h : w.stands (.task t) = true) : ∃ task, w.task? t = some task ∧ task.isStanding = true :=
  (Option.any_eq_true ..).1 h

theorem exists_barrier (h : w.stands (.barrier b) = true) :
    ∃ barrier, w.barrier? b = some barrier ∧ barrier.verdict = none := by
  obtain ⟨barrier, hb, hf⟩ := (Option.any_eq_true ..).1 h
  exact ⟨barrier, hb, Barrier.isFired_eq_false_iff.1 (by simpa using hf)⟩

theorem keeps_down (w : Workflow) (h : x ≠ y) : w.Keeps (w.down x) y := by
  cases x with
  | task t =>
    cases y with
    | task t' => exact task?_deliver_of_ne .cancellation fun ht => h (congrArg Party.task ht)
    | barrier b => exact congrArg (fun l => l[b.index]?) (barriers_deliver w t .cancellation)
  | barrier b =>
    cases y with
    | task t => rfl
    | barrier b' =>
      have hi : b.index ≠ b'.index := fun hi => h (congrArg (fun i => Party.barrier ⟨i⟩) hi)
      exact List.getElem?_modify_ne HeldBarrier.withdrawn _ hi

theorem fells_down (h : w.stands x = true) : w.Fells (w.down x) x := by
  cases x with
  | task t =>
    obtain ⟨task, ht, hs⟩ := exists_task h
    show (w.deliver t .cancellation).1.task? t = _
    rw [task?_deliver ht, MonitoredTask.after_cancellation hs, ht]
    rfl
  | barrier b => exact List.getElem?_modify_eq ..

theorem stands_down (h : w.stands x = true) : (w.down x).stands y = true ↔ w.stands y = true ∧ x ≠ y := by
  by_cases hxy : x = y
  · subst hxy
    simp [(fells_down h).stands_eq]
  · simp [(keeps_down w hxy).stands_eq, hxy]

/-- Who holds a barrier does not change. -/
theorem held?_down (w : Workflow) (x : Party) (b : BarrierRef) : (w.down x).held? b = w.held? b := by
  cases x with
  | task t => simp only [held?, down, barriers_deliver]
  | barrier b' =>
    simp only [held?, down, List.getElem?_modify]
    cases w.barriers[b.index]? with
    | none => rfl
    | some held => by_cases hi : b'.index = b.index <;> simp [hi, HeldBarrier.withdrawn]

theorem next?_down (w : Workflow) (h : x ≠ y) : (w.down x).next? y = w.next? y := by
  have hk := keeps_down w h
  cases y with
  | task t =>
    have ht : (w.down x).task? t = w.task? t := hk
    have hh : (w.down x).held? = w.held? := funext (held?_down w x)
    simp only [next?, ht, hh]
  | barrier b =>
    have hb : (w.down x).barrier? b = w.barrier? b := congrArg (Option.map _) hk
    simp only [next?, hb]

/-! ### The chain -/

theorem onChain_self (h : w.stands x = true) : w.OnChain x x :=
  ⟨h, .refl⟩

theorem OnChain.tail {z : Party} (h : w.OnChain x y) (hn : w.next? y = some z) (hz : w.stands z = true) :
    w.OnChain x z :=
  ⟨h.1, h.2.tail ⟨h.stands, hn, hz⟩⟩

/-- The chain of a party: the party itself, and the chain of the next one without it. -/
theorem onChain_iff (hx : w.stands x = true) :
    w.OnChain x y ↔ y = x ∨ ∃ n, w.next? x = some n ∧ (w.down x).OnChain n y := by
  constructor
  · rintro ⟨-, h⟩
    induction h with
    | refl => exact Or.inl rfl
    | @tail y z _ hl ih =>
      obtain ⟨-, hn, hz⟩ := hl
      by_cases hzx : z = x
      · exact Or.inl hzx
      · have hz' : (w.down x).stands z = true := (stands_down hx).2 ⟨hz, Ne.symm hzx⟩
        right
        rcases ih with rfl | ⟨n, hxn, hy⟩
        · exact ⟨z, hn, onChain_self hz'⟩
        · -- `y` stands when `x` is down, so its next one is the same
          have hxy : x ≠ y := ((stands_down hx).1 hy.stands).2
          exact ⟨n, hxn, hy.tail (by rw [next?_down w hxy, hn]) hz'⟩
  · rintro (rfl | ⟨n, hn, hs, h⟩)
    · exact onChain_self hx
    · have hleads : ∀ a b, (w.down x).Leads a b → w.Leads a b := by
        rintro a b ⟨ha, hab, hb⟩
        obtain ⟨ha, hxa⟩ := (stands_down hx).1 ha
        exact ⟨ha, (next?_down w hxa) ▸ hab, ((stands_down hx).1 hb).1⟩
      exact ⟨hx, .head ⟨hx, hn, ((stands_down hx).1 hs).1⟩ (Relation.ReflTransGen.mono hleads _ _ h)⟩

/-! ### Cascades -/

/-- From `p` on, the parties of the list are taken down in turn. -/
inductive Cascade : Workflow → Option Party → List Party → Workflow → Prop
  | stop {w : Workflow} {p : Option Party} (h : ∀ x, p = some x → w.stands x = false) : Cascade w p [] w
  | fall {w w' : Workflow} {x : Party} {ps : List Party} (h : w.stands x = true)
    (rest : Cascade (w.down x) (w.next? x) ps w') : Cascade w (some x) (x :: ps) w'

namespace Cascade

variable {p : Option Party} {ps : List Party}

theorem stands_of_mem (h : Cascade w p ps w') (hx : x ∈ ps) : w.stands x = true := by
  induction h with
  | stop => exact absurd hx (by simp)
  | fall hs _ ih =>
    rcases List.mem_cons.1 hx with rfl | hx
    · exact hs
    · exact ((stands_down hs).1 (ih hx)).1

/-- Whoever is down is not met again. -/
private theorem not_mem_of_down (hx : w.stands x = true) (h : Cascade (w.down x) p ps w') : x ∉ ps :=
  fun hm => ((stands_down hx).1 (h.stands_of_mem hm)).2 rfl

theorem nodup (h : Cascade w p ps w') : ps.Nodup := by
  induction h with
  | stop => exact .nil
  | fall hs rest ih => exact List.nodup_cons.2 ⟨not_mem_of_down hs rest, ih⟩

theorem mem_iff (h : Cascade w p ps w') : x ∈ ps ↔ ∃ start, p = some start ∧ w.OnChain start x := by
  induction h with
  | stop hp =>
    simp only [List.not_mem_nil, false_iff, not_exists, not_and]
    intro start hstart hc
    exact absurd hc.1 (by simp [hp start hstart])
  | fall hs _ ih => simp only [List.mem_cons, ih, Option.some.injEq, exists_eq_left', onChain_iff hs]

theorem keeps (h : Cascade w p ps w') (hx : x ∉ ps) : w.Keeps w' x := by
  induction h with
  | stop => exact .refl _ x
  | fall hs _ ih =>
    obtain ⟨hne, hx⟩ := not_or.1 (fun hm => hx (List.mem_cons.2 hm))
    exact (keeps_down _ (Ne.symm hne)).trans (ih hx)

theorem fells (h : Cascade w p ps w') (hx : x ∈ ps) : w.Fells w' x := by
  induction h with
  | stop => exact absurd hx (by simp)
  | @fall w w' y ps hs rest ih =>
    by_cases hxy : x = y
    · subst hxy
      exact (fells_down hs).trans_keeps (rest.keeps (not_mem_of_down hs rest))
    · have hm := (List.mem_cons.1 hx).resolve_left hxy
      exact (keeps_down w (Ne.symm hxy)).trans_fells (ih hm)

end Cascade

end Workflow

end TaskCoordination
