import TaskCoordination.Proofs.Directory.Pending
import TaskCoordination.Proofs.Feed
import TaskCoordination.Proofs.Workflow.Frame

/-!
# Changes of a workflow

What happens in a workflow, taken apart into single changes: one event at one task, or one request at one barrier
with the call that it brings about. What an operation of the workflow comes to is a list of changes, and carrying
them out one after the other (`replay`) has the same effect. A cancellation that goes on from barrier to barrier is
a list of requests to cancel them (`replay_cancellations`), and `replay_handling`, `replay_asking` and
`replay_attaching` are the other operations. What each change preserves holds after all of them
(`replay_induction`).
-/

namespace TaskCoordination

/-- A single change of a workflow. A link is what attaches a barrier to a task, or takes it off. -/
inductive Change
  | addTask (id : TaskId) (core : CoreId) (metered recorded : Bool)
  | addBarrier (job : JobId) (k : Continuation)
  | link (task : TaskRef) (barrier : Option BarrierRef)
  | release (barrier : BarrierRef)
  | event (task : TaskRef) (e : Event)
  | request (barrier : BarrierRef) (r : BarrierRequest)
  | directory (a : DirectoryAction)
  | feed (a : FeedAction)

namespace Workflow

variable {w : Workflow}

/-- Makes a request to a barrier and calls the continuation if that makes the barrier fire. The second component is
the barrier at which a cancellation goes on. -/
def strike (w : Workflow) (ref : BarrierRef) (r : BarrierRequest) : Workflow × Option BarrierRef :=
  match w.barrier? ref with
  | none => (w, none)
  | some b =>
    match (b.ask r).2.2 with
    | none => (w.setBarrier ref (b.ask r).1, none)
    | some f => (w.setBarrier ref (b.ask r).1).call ref b.job f

def link (w : Workflow) (ref : TaskRef) (barrier : Option BarrierRef) : Workflow :=
  match w.task? ref with
  | none => w
  | some t => w.setTask ref { t with barrier := barrier }

theorem link_keeps (w : Workflow) (ref : TaskRef) (barrier : Option BarrierRef) :
    (w.link ref barrier).barriers = w.barriers ∧ (w.link ref barrier).directory = w.directory ∧
      (w.link ref barrier).feed = w.feed := by
  unfold link
  split <;> exact ⟨rfl, rfl, rfl⟩

def change (w : Workflow) : Change → Workflow
  | .addTask id core metered recorded => (w.addTask (.start id core metered recorded)).1
  | .addBarrier job k => (w.addBarrier job k).1
  | .link task barrier => w.link task barrier
  | .release barrier => w.release barrier
  | .event task e => (w.deliver task e).1
  | .request barrier r => (w.strike barrier r).1
  | .directory a => { w with directory := w.directory.act a }
  | .feed a => { w with feed := w.feed.act a }

/-- Carries out changes in turn. -/
def replay (w : Workflow) : List Change → Workflow
  | [] => w
  | c :: rest => (w.change c).replay rest

theorem replay_append (w : Workflow) (cs cs' : List Change) : w.replay (cs ++ cs') = (w.replay cs).replay cs' := by
  induction cs generalizing w with
  | nil => rfl
  | cons c cs ih => exact ih (w.change c)

theorem replay_concat (w : Workflow) (cs : List Change) (c : Change) :
    w.replay (cs ++ [c]) = (w.replay cs).change c :=
  replay_append w cs [c]

/-- What each change preserves, with the changes so far, holds after any list of them. -/
theorem replay_induction {P : Workflow → List Change → Prop}
    (hP : ∀ {w c log}, P w log → P (w.change c) (log ++ [c])) (log : List Change) (h : P w log) (cs : List Change) :
    P (w.replay cs) (log ++ cs) := by
  induction cs generalizing w log with
  | nil => rwa [List.append_nil]
  | cons c cs ih =>
    have := ih (log ++ [c]) (hP h)
    rwa [List.append_assoc] at this

/-! ### Cancellations that go on -/

theorem strike_none {ref : BarrierRef} (h : w.barrier? ref = none) (r : BarrierRequest) :
    w.strike ref r = (w, none) := by
  rw [strike, h]

theorem strike_of_silent {ref : BarrierRef} {b : Barrier Continuation} (h : w.barrier? ref = some b)
    {r : BarrierRequest} (hf : (b.ask r).2.2 = none) : w.strike ref r = (w.setBarrier ref (b.ask r).1, none) := by
  rw [strike, h]
  simp only [hf]

theorem strike_of_firing {ref : BarrierRef} {b : Barrier Continuation} (h : w.barrier? ref = some b)
    {r : BarrierRequest} {f : Firing Continuation} (hf : (b.ask r).2.2 = some f) :
    w.strike ref r = (w.setBarrier ref (b.ask r).1).call ref b.job f := by
  rw [strike, h]
  simp only [hf]

theorem ask_eq_strike (w : Workflow) (ref : BarrierRef) (r : BarrierRequest) :
    (w.ask ref r).1 = (w.strike ref r).1.pursue (w.strike ref r).2 := by
  cases hb : w.barrier? ref with
  | none =>
    rw [strike_none hb, pursue_none, ask, hb]
  | some b =>
    cases hf : (b.ask r).2.2 with
    | none => rw [ask_of_silent hb hf, strike_of_silent hb hf, pursue_none]
    | some f => rw [ask_of_firing hb hf, strike_of_firing hb hf]

theorem pursue_some (w : Workflow) (ref : BarrierRef) :
    w.pursue (some ref) = (w.strike ref .cancel).1.pursue (w.strike ref .cancel).2 := by
  rw [pursue]
  split
  · next hb => rw [strike_none hb, pursue_none]
  · next b hb =>
    split
    · next b' _ hc =>
      have hf : (b.ask .cancel).2.2 = none := by rw [Barrier.ask, hc]
      have hb' : (b.ask .cancel).1 = b' := by rw [Barrier.ask, hc]
      rw [strike_of_silent hb hf, hb', pursue_none]
    · next b' f _ hc =>
      have hf : (b.ask .cancel).2.2 = some f := by rw [Barrier.ask, hc]
      have hb' : (b.ask .cancel).1 = b' := by rw [Barrier.ask, hc]
      rw [strike_of_firing hb hf, hb']

/-- A cancellation goes on only from a barrier that has just got its verdict. -/
theorem openBarriers_strike {ref next : BarrierRef} (h : (w.strike ref .cancel).2 = some next) :
    (w.strike ref .cancel).1.openBarriers < w.openBarriers := by
  cases hb : w.barrier? ref with
  | none => simp [strike_none hb] at h
  | some b =>
    cases hf : (b.ask .cancel).2.2 with
    | none => simp [strike_of_silent hb hf] at h
    | some f =>
      have hc : b.cancel = ((b.ask .cancel).1, some f, b.cancel.2.2) := by
        rw [← hf]
        rfl
      rw [strike_of_firing hb hf]
      exact Nat.lt_of_le_of_lt (openBarriers_call ..) (openBarriers_cancel hb hc)

/-- The barriers at which a cancellation calls, one after the other. -/
def chain (w : Workflow) (ref : BarrierRef) : List BarrierRef :=
  ref ::
    match _h : (w.strike ref .cancel).2 with
    | none => []
    | some next => (w.strike ref .cancel).1.chain next
termination_by w.openBarriers
decreasing_by exact openBarriers_strike _h

def cancellations (w : Workflow) (next : Option BarrierRef) : List Change :=
  (next.toList.flatMap w.chain).map fun ref => .request ref .cancel

theorem cancellations_none (w : Workflow) : w.cancellations none = [] := rfl

theorem cancellations_some (w : Workflow) (ref : BarrierRef) :
    w.cancellations (some ref) =
      .request ref .cancel :: (w.strike ref .cancel).1.cancellations (w.strike ref .cancel).2 := by
  show ((w.chain ref ++ []).map fun ref => Change.request ref .cancel) = _
  rw [List.append_nil, chain]
  split
  · next h => rw [h, cancellations_none, List.map_singleton]
  · next next h =>
    rw [h, List.map_cons]
    show _ = Change.request ref .cancel :: ((List.map _ ((w.strike ref .cancel).1.chain next ++ [])))
    rw [List.append_nil]

theorem eq_request_of_mem_cancellations {next : Option BarrierRef} {c : Change} (h : c ∈ w.cancellations next) :
    ∃ ref, c = .request ref .cancel := by
  obtain ⟨ref, -, rfl⟩ := List.mem_map.1 h
  exact ⟨ref, rfl⟩

theorem replay_cancellations (w : Workflow) (next : Option BarrierRef) :
    w.replay (w.cancellations next) = w.pursue next := by
  cases next with
  | none => rw [pursue_none, cancellations_none, replay]
  | some ref =>
    rw [cancellations_some, pursue_some, replay]
    show (w.strike ref .cancel).1.replay _ = _
    cases h : (w.strike ref .cancel).2 with
    | none => rw [cancellations_none, pursue_none, replay]
    | some next => exact replay_cancellations (w.strike ref .cancel).1 (some next)
termination_by w.openBarriers
decreasing_by exact openBarriers_strike h

/-! ### The operations -/

def handling (w : Workflow) (ref : TaskRef) (e : Event) : List Change :=
  .event ref e :: (w.deliver ref e).1.cancellations (w.deliver ref e).2.2

def asking (w : Workflow) (ref : BarrierRef) (r : BarrierRequest) : List Change :=
  .request ref r :: (w.strike ref r).1.cancellations (w.strike ref r).2

/-- A task that is cancelled already only passes the cancellation on. -/
def attaching (w : Workflow) (ref : TaskRef) (b : BarrierRef) : List Change :=
  match w.task? ref with
  | none => []
  | some t =>
    if t.state = .cancelled then .link ref none :: (w.link ref none).cancellations (w.held? b)
    else [.link ref (some b)]

theorem mem_handling {ref : TaskRef} {e : Event} {c : Change} (h : c ∈ w.handling ref e) :
    c = .event ref e ∨ ∃ b r, c = .request b r := by
  rcases List.mem_cons.1 h with h | h
  · exact Or.inl h
  · obtain ⟨b, rfl⟩ := eq_request_of_mem_cancellations h
    exact Or.inr ⟨b, .cancel, rfl⟩

theorem mem_asking {ref : BarrierRef} {r : BarrierRequest} {c : Change} (h : c ∈ w.asking ref r) :
    ∃ b r, c = .request b r := by
  rcases List.mem_cons.1 h with h | h
  · exact ⟨ref, r, h⟩
  · obtain ⟨b, rfl⟩ := eq_request_of_mem_cancellations h
    exact ⟨b, .cancel, rfl⟩

theorem mem_attaching {ref : TaskRef} {b : BarrierRef} {c : Change} (h : c ∈ w.attaching ref b) :
    (∃ barrier, c = .link ref barrier) ∨ ∃ b r, c = .request b r := by
  unfold attaching at h
  split at h
  · exact absurd h (by simp)
  · split at h
    · rcases List.mem_cons.1 h with h | h
      · exact Or.inl ⟨none, h⟩
      · obtain ⟨b, rfl⟩ := eq_request_of_mem_cancellations h
        exact Or.inr ⟨b, .cancel, rfl⟩
    · exact Or.inl ⟨some b, List.mem_singleton.1 h⟩

theorem replay_handling (w : Workflow) (ref : TaskRef) (e : Event) :
    w.replay (w.handling ref e) = (w.handle ref e).1 :=
  replay_cancellations _ _

theorem replay_asking (w : Workflow) (ref : BarrierRef) (r : BarrierRequest) :
    w.replay (w.asking ref r) = (w.ask ref r).1 :=
  (replay_cancellations _ _).trans (ask_eq_strike w ref r).symm

theorem replay_attaching (w : Workflow) (ref : TaskRef) (b : BarrierRef) :
    w.replay (w.attaching ref b) = w.attach ref b := by
  cases h : w.task? ref with
  | none => rw [attaching, attach, h, replay]
  | some t =>
    have hl : ∀ barrier, w.link ref barrier = w.setTask ref { t with barrier := barrier } := by
      intro barrier
      rw [link, h]
    rw [attach_eq h, attaching, h]
    by_cases hs : t.state = .cancelled
    · simp only [hs, if_true]
      rw [← hl]
      exact replay_cancellations _ _
    · simp only [hs, if_false]
      exact hl (some b)

end Workflow

end TaskCoordination
