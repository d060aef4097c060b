import Mathlib.Algebra.GroupWithZero.Nat
import TaskCoordination.Proofs.Workflow.Delivery

/-!
# Open attempts and pending gauges

The metered tasks of a core element share its pending gauge. What a delivery adds to the gauge and takes from it is
the difference that it makes to the number of open attempts (`balance_deliver`), and nothing else changes either of
them but what drops the blocks of the table. So no change takes a gauge above the number of open attempts
(`IsBounded.change`), and one that drops no blocks keeps a gauge that agrees with it (`IsBalanced.change`).
-/

namespace TaskCoordination

namespace MonitoredTask

/-- The task is one of those that the gauges of a core element tell of. -/
def isMeteredFor (c : CoreId) (t : MonitoredTask) : Bool :=
  t.metered && t.core = c

/-- A task in the middle of an attempt. -/
def isPending (c : CoreId) (t : MonitoredTask) : Bool :=
  t.isMeteredFor c && t.lifecycle.isOpen

end MonitoredTask

namespace Change

/-- A change of the table that opens or closes an attempt past the tasks. -/
def isAttempt : Change → Bool
  | directory a => a.isAttempt
  | _ => false

def clears (announces : Bool) : Change → Bool
  | directory a => a.clears announces
  | _ => false

end Change

namespace Workflow

variable {w : Workflow}

def openTasks (w : Workflow) (c : CoreId) : Nat :=
  w.tasks.countP (MonitoredTask.isPending c)

/-- The number of all submissions. -/
def submissions (w : Workflow) : Nat :=
  (w.tasks.map fun t => t.lifecycle.attempts).sum

def IsSound (w : Workflow) : Prop :=
  ∀ t ∈ w.tasks, t.lifecycle.IsSound

/-- The pending gauges count no attempt that is not open. -/
def IsBounded (w : Workflow) : Prop :=
  ∀ c n, w.telemetry.pending? c = some n → n ≤ w.openTasks c

/-- The pending gauge of a core element counts all its open attempts. -/
def IsBalanced (c : CoreId) (w : Workflow) : Prop :=
  w.telemetry.pending? c = some (w.openTasks c)

theorem openTasks_le_submissions (h : w.IsSound) (c : CoreId) : w.openTasks c ≤ w.submissions := by
  unfold openTasks submissions
  unfold IsSound at h
  generalize w.tasks = tasks at h
  induction tasks with
  | nil => exact Nat.le_refl _
  | cons t tasks ih =>
    have hrest := ih fun t' ht' => h t' (List.mem_cons_of_mem t ht')
    have ht : t.isPending c = true → 0 < t.lifecycle.attempts := by
      intro hp
      exact (h t List.mem_cons_self).attempts_pos (Bool.and_eq_true_iff.1 hp).2
    rw [List.countP_cons, List.map_cons, List.sum_cons]
    split
    · next hp =>
      have := ht hp
      omega
    · omega

theorem openTasks_eq_zero {c : CoreId} (h : ∀ t ∈ w.tasks, t.isMeteredFor c = true → t.lifecycle.isOpen = false) :
    w.openTasks c = 0 := by
  rw [openTasks, List.countP_eq_zero]
  intro t ht hp
  obtain ⟨hm, ho⟩ := Bool.and_eq_true_iff.1 hp
  rw [h t ht hm] at ho
  exact absurd ho (by simp)

/-! ### Deliveries -/

theorem isSound_deliver (h : w.IsSound) (ref : TaskRef) (e : Event) : (w.deliver ref e).1.IsSound := by
  cases ht : w.task? ref with
  | none =>
    rw [deliver_of_none ht]
    exact h
  | some t =>
    intro t' ht'
    rw [tasks_deliver ht] at ht'
    rcases List.mem_or_eq_of_mem_set ht' with ht' | rfl
    · exact h t' ht'
    · rw [(t.after_eq e).1]
      exact (Lifecycle.step_apply t.lifecycle e).isSound (h t (List.mem_of_getElem? ht))

/-- What the gauges of a core element learn from an accepted event of one of its tasks. -/
private theorem pending?_meter (t : MonitoredTask) (e : Event) (effect : Effect) (table : Telemetry) :
    (t.meter e effect table).pending? t.core = (table.pending? t.core).map fun n =>
      n + (if effect.opened then 1 else 0) - if effect.closed then 1 else 0 := by
  obtain ⟨opened, closed, succeeded⟩ := effect
  cases hn : table.pending? t.core <;> cases opened <;> cases closed <;> cases succeeded <;>
    simp [MonitoredTask.meter, Telemetry.pending?_attemptOpened, Telemetry.pending?_attemptClosed,
      Telemetry.pending?_executionSucceeded, hn]

private theorem pending?_meter_of_ne (t : MonitoredTask) (e : Event) (effect : Effect) (table : Telemetry)
    {c : CoreId} (h : c ≠ t.core) : (t.meter e effect table).pending? c = table.pending? c := by
  obtain ⟨opened, closed, succeeded⟩ := effect
  cases hn : table.pending? c <;> cases opened <;> cases closed <;> cases succeeded <;>
    simp [MonitoredTask.meter, Telemetry.pending?_attemptOpened, Telemetry.pending?_attemptClosed,
      Telemetry.pending?_executionSucceeded, hn, h]

private theorem telemetry_deliver {ref : TaskRef} {t : MonitoredTask} (h : w.task? ref = some t) {e : Event}
    {l : Lifecycle} {effect : Effect} (ha : t.lifecycle.apply e = (l, .ok effect)) :
    (w.deliver ref e).1.telemetry = if t.metered then t.meter e effect w.telemetry else w.telemetry := by
  rw [telemetry, directory_deliver h ha]
  cases t.metered <;> rfl

private theorem announces_deliver (w : Workflow) (ref : TaskRef) (e : Event) :
    (w.deliver ref e).1.directory.announces = w.directory.announces := by
  cases ht : w.task? ref with
  | none => rw [deliver_of_none ht]
  | some t =>
    rcases ha : t.lifecycle.apply e with ⟨l, r | effect⟩
    · rw [(deliver_of_rejection ht ha).1]
    · rw [directory_deliver ht ha]
      cases t.metered <;> rfl

theorem balance_deliver (h : w.IsSound) (ref : TaskRef) (e : Event) (c : CoreId) :
    ∃ opened closed, (w.deliver ref e).1.openTasks c + closed = w.openTasks c + opened ∧
      (w.deliver ref e).1.telemetry.pending? c = (w.telemetry.pending? c).map fun n => n + opened - closed := by
  cases ht : w.task? ref with
  | none => exact ⟨0, 0, by rw [deliver_of_none ht], by rw [deliver_of_none ht]; simp⟩
  | some t =>
    have hs := Lifecycle.step_apply t.lifecycle e
    have hcount := countP_set_add (MonitoredTask.isPending c) ht (t.after e)
    rw [← tasks_deliver ht] at hcount
    obtain ⟨hl, hc, hm, -⟩ := t.after_eq e
    have hp : (t.after e).isPending c = (t.isMeteredFor c && (t.lifecycle.apply e).1.isOpen) := by
      rw [MonitoredTask.isPending, MonitoredTask.isMeteredFor, hl, hm, hc, MonitoredTask.isMeteredFor]
    rw [hp, MonitoredTask.isPending] at hcount
    rcases ha : t.lifecycle.apply e with ⟨l, r | effect⟩
    · -- a rejected event changes nothing
      rw [ha] at hs hcount
      obtain rfl : l = t.lifecycle := hs.of_error
      refine ⟨0, 0, Nat.add_right_cancel hcount, ?_⟩
      rw [telemetry, (deliver_of_rejection ht ha).1, telemetry]
      simp
    · rw [ha] at hs hcount
      dsimp only at hs hcount
      have hb := hs.open_balance (h t (List.mem_of_getElem? ht))
      cases hm : t.isMeteredFor c with
      | true =>
        obtain ⟨hmetered, hcore⟩ := Bool.and_eq_true_iff.1 hm
        obtain rfl : t.core = c := of_decide_eq_true hcore
        refine ⟨if effect.opened then 1 else 0, if effect.closed then 1 else 0, ?_, ?_⟩
        · simp only [hm, Bool.true_and] at hcount
          unfold openTasks
          omega
        · rw [telemetry_deliver ht ha, if_pos hmetered, pending?_meter]
      | false =>
        refine ⟨0, 0, ?_, ?_⟩
        · simpa [hm, openTasks] using hcount
        · rw [telemetry_deliver ht ha]
          cases hmetered : t.metered with
          | false => simp
          | true =>
            have hne : c ≠ t.core := by
              rintro rfl
              simp [MonitoredTask.isMeteredFor, hmetered] at hm
            rw [if_pos rfl, pending?_meter_of_ne t e effect _ hne]
            simp

/-! ### What a change does besides -/

private theorem isSound_link (h : w.IsSound) (ref : TaskRef) (barrier : Option BarrierRef) :
    (w.link ref barrier).IsSound := by
  cases ht : w.task? ref with
  | none =>
    rw [link, ht]
    exact h
  | some t =>
    rw [link, ht]
    intro t' ht'
    rcases List.mem_or_eq_of_mem_set ht' with ht' | rfl
    · exact h t' ht'
    · exact h t (List.mem_of_getElem? ht)

theorem openTasks_besides (w : Workflow) (c : Change) (core : CoreId) :
    (w.besides c).openTasks core = w.openTasks core := by
  rw [openTasks, openTasks, countP_eq_sum, countP_eq_sum]
  refine w.sum_besides c ?_ fun _ _ => rfl
  -- a new task is not submitted
  intro task core' metered recorded
  simp [MonitoredTask.isPending, MonitoredTask.start, Lifecycle.start]

theorem isSound_besides (h : w.IsSound) (c : Change) : (w.besides c).IsSound := by
  cases c with
  | request ref r =>
    intro t ht
    rw [(w.besides_request ref r).1] at ht
    exact h t ht
  | addTask id core metered recorded => exact forall_mem_concat.2 ⟨h, Lifecycle.isSound_start id⟩
  | link ref barrier => exact isSound_link h ref barrier
  | addBarrier | release | event | directory | feed => exact h

theorem directory_besides (w : Workflow) (c : Change) :
    (w.besides c).directory = match c with
      | .directory a => w.directory.act a
      | _ => w.directory := by
  cases c with
  | request ref r => exact (w.besides_request ref r).2.1
  | link ref barrier => exact (w.link_keeps ref barrier).2.1
  | addTask | addBarrier | release | event | directory | feed => rfl

/-! ### Changes -/

theorem isSound_change (h : w.IsSound) (c : Change) : (w.change c).IsSound := by
  rw [change_eq]
  cases w.delivery? c with
  | none => exact isSound_besides h c
  | some d => exact isSound_deliver (isSound_besides h c) d.task d.event

theorem announces_change (w : Workflow) (c : Change) : (w.change c).directory.announces = w.directory.announces := by
  have hb : (w.besides c).directory.announces = w.directory.announces := by
    rw [directory_besides]
    cases c with
    | directory a => exact w.directory.announces_act a
    | _ => rfl
  rw [change_eq]
  cases w.delivery? c with
  | none => exact hb
  | some d => rw [announces_deliver, hb]

private theorem IsBounded.besides (h : w.IsBounded) {c : Change} (hc : c.isAttempt = false) :
    (w.besides c).IsBounded := by
  intro core n hn
  rw [openTasks_besides]
  rw [telemetry, directory_besides] at hn
  cases c with
  | directory a =>
    cases hclears : a.clears w.directory.announces with
    | true =>
      have hz : n = 0 := w.directory.zeroPending_act hclears core n hn
      omega
    | false =>
      rcases w.directory.keepsPending_act hc hclears core with hk | ⟨-, hk⟩
      · exact h core n (hk ▸ hn)
      · have hz : some 0 = some n := hk.symm.trans hn
        simp only [Option.some.injEq] at hz
        omega
  | _ => exact h core n hn

theorem IsBounded.change (hs : w.IsSound) (h : w.IsBounded) {c : Change} (hc : c.isAttempt = false) :
    (w.change c).IsBounded := by
  have hb := h.besides hc
  rw [change_eq]
  cases w.delivery? c with
  | none => exact hb
  | some d =>
    intro core n hn
    obtain ⟨opened, closed, hcount, hp⟩ := balance_deliver (isSound_besides hs c) d.task d.event core
    rw [hp] at hn
    obtain ⟨m, hm, rfl⟩ := Option.map_eq_some_iff.1 hn
    have hle := hb core m hm
    show m + opened - closed ≤ ((w.besides c).deliver d.task d.event).1.openTasks core
    omega

private theorem IsBalanced.besides {core : CoreId} (h : w.IsBalanced core) {c : Change} (hc : c.isAttempt = false)
    (hclears : c.clears w.directory.announces = false) : (w.besides c).IsBalanced core := by
  rw [IsBalanced, openTasks_besides, telemetry, directory_besides]
  cases c with
  | directory a => exact (w.directory.keepsPending_act hc hclears).pending?_eq h
  | _ => exact h

theorem IsBalanced.change (hs : w.IsSound) {core : CoreId} (h : w.IsBalanced core) {c : Change}
    (hc : c.isAttempt = false) (hclears : c.clears w.directory.announces = false) : (w.change c).IsBalanced core := by
  have hb := h.besides hc hclears
  rw [change_eq]
  cases w.delivery? c with
  | none => exact hb
  | some d =>
    obtain ⟨opened, closed, hcount, hp⟩ := balance_deliver (isSound_besides hs c) d.task d.event core
    show ((w.besides c).deliver d.task d.event).1.IsBalanced core
    rw [IsBalanced, hp, hb, Option.map_some]
    congr 1
    omega

/-! ### Any number of changes -/

theorem isSound_replay (h : w.IsSound) (log : List Change) : (w.replay log).IsSound :=
  replay_induction (P := fun w _ => w.IsSound) (fun h => isSound_change h _) [] h log

theorem announces_replay (w : Workflow) (log : List Change) :
    (w.replay log).directory.announces = w.directory.announces := by
  induction log generalizing w with
  | nil => rfl
  | cons c log ih => rw [replay, ih, announces_change]

theorem IsBounded.replay (hs : w.IsSound) (h : w.IsBounded) {log : List Change}
    (hlog : ∀ c ∈ log, c.isAttempt = false) : (w.replay log).IsBounded := by
  induction log generalizing w with
  | nil => exact h
  | cons c log ih =>
    obtain ⟨hc, hlog⟩ := List.forall_mem_cons.1 hlog
    exact ih (isSound_change hs c) (h.change hs hc) hlog

theorem IsBalanced.replay (hs : w.IsSound) {core : CoreId} (h : w.IsBalanced core) {log : List Change}
    (hlog : ∀ c ∈ log, c.isAttempt = false) (hclears : ∀ c ∈ log, c.clears w.directory.announces = false) :
    (w.replay log).IsBalanced core := by
  induction log generalizing w with
  | nil => exact h
  | cons c log ih =>
    obtain ⟨hc, hlog⟩ := List.forall_mem_cons.1 hlog
    obtain ⟨hcc, hclears⟩ := List.forall_mem_cons.1 hclears
    refine ih (isSound_change hs c) (h.change hs hc hcc) hlog ?_
    rwa [announces_change]

end Workflow

end TaskCoordination
