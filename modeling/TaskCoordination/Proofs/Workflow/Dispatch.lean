import Mathlib.Data.List.Induction
import TaskCoordination.Proofs.Feed.Delivery
import TaskCoordination.Proofs.Workflow.Report

/-!
# Dispatches

Records are dispatched to the feed of a workflow by its tasks, one for each accepted event of a recorded task, or by
hand, and the feed accepts them or not (`Dispatch`). Under any changes the listener is given what is accepted
(`delivers_replay`). When it has ended nothing is accepted any more (`isTaken_eq_false_of_mem_dispatches`), and when
the feed is closing it ends after so many turns as there are records to be given, and two more
(`isAttended_replay`).
-/

namespace TaskCoordination

/-- A record that is offered to the feed, and the answer. -/
structure Dispatch where
  record : LifecycleRecord
  isTaken : Bool

def Change.isByHand : Change → Bool
  | .feed a => a.isByHand
  | _ => false

def Change.isTurn : Change → Bool
  | .feed a => a.isTurn
  | _ => false

namespace Workflow

variable {w : Workflow}

def dispatch? (w : Workflow) (c : Change) : Option Dispatch :=
  let record? := match c with
    | .feed (.offer r) => some r
    | c => w.recordOf? c
  record?.map fun r => ⟨r, (w.feed.offer r).2⟩

/-- The dispatches of the changes, in their order. -/
def dispatches (w : Workflow) (log : List Change) : List Dispatch :=
  w.collect (fun w c => (w.dispatch? c).toList) log

/-- The records that the feed accepts, in their order. -/
def accepted (w : Workflow) (log : List Change) : List LifecycleRecord :=
  ((w.dispatches log).filter Dispatch.isTaken).map Dispatch.record

end Workflow

/-! ### What a change comes to for the feed -/

/-- A change offers a record to the feed, is an action of it, or leaves it alone. -/
inductive Uptake (f : Feed) : Change → Option Dispatch → Feed → Prop
  | offered {c : Change} (hc : c.isTurn = false) (r : LifecycleRecord) :
    Uptake f c (some ⟨r, (f.offer r).2⟩) (f.offer r).1
  | acted {a : FeedAction} (ha : ∀ r, a ≠ .offer r) : Uptake f (.feed a) none (f.act a)
  | untouched {c : Change} (hc : c.isTurn = false) : Uptake f c none f

namespace Uptake

variable {f f' : Feed} {c : Change} {d : Option Dispatch}

theorem delivers {accepted : List LifecycleRecord} {breaksOn : Breakdown}
    (hu : Uptake f c d f') (hc : c.isByHand = false) (h : f.Delivers breaksOn accepted) :
    f'.Delivers breaksOn (accepted ++ (d.toList.filter Dispatch.isTaken).map Dispatch.record) := by
  cases hu with
  | offered _ r =>
    have hr := h.offer r
    cases htaken : (f.offer r).2 with
    | false => simpa [htaken] using hr
    | true => simpa [htaken] using hr
  | acted ha => simpa using h.act hc ha
  | untouched => simpa using h

theorem isOpen_eq_false (hu : Uptake f c d f') (h : f.queue.isOpen = false) :
    f'.queue.isOpen = false ∧ ∀ x ∈ d, x.isTaken = false := by
  cases hu with
  | offered _ r =>
    refine ⟨f.isOpen_act h (.offer r), ?_⟩
    intro x hx
    obtain rfl := Option.mem_some_iff.1 hx
    show (f.queue.offer r).2 = false
    rw [RecordQueue.offer_of_closed h]
  | acted => exact ⟨f.isOpen_act h _, by simp⟩
  | untouched => exact ⟨h, by simp⟩

theorem closing_eq_true (hu : Uptake f c d f') (h : f.closing = true) : f'.closing = true := by
  cases hu with
  | offered _ r => exact f.closing_act h (.offer r)
  | acted => exact f.closing_act h _
  | untouched => exact h

/-- A turn brings the listener nearer to its end, and a record that is accepted takes it farther away. -/
theorem toGo_le (hu : Uptake f c d f') (hc : c.isByHand = false) (h : f.closing = true) :
    (f.toGo = 0 → f'.toGo = 0) ∧
      f'.toGo ≤ f.toGo + (d.toList.filter Dispatch.isTaken).length - if c.isTurn then 1 else 0 := by
  cases hu with
  | offered ht r =>
    have hoffer := f.toGo_offer r
    have hattended : (f.offer r).1.isAttended = f.isAttended := rfl
    refine ⟨fun h0 => Feed.toGo_eq_zero_iff.2 (hattended.trans (Feed.toGo_eq_zero_iff.1 h0)), ?_⟩
    cases htaken : (f.offer r).2 <;> simp [htaken, ht] at hoffer ⊢ <;> exact hoffer
  | @acted a ha =>
    have hact := Feed.toGo_act h hc ha
    refine ⟨fun h0 => by omega, ?_⟩
    exact hact
  | untouched ht => simp [ht]

end Uptake

namespace Workflow

variable {w : Workflow}

/-- Every change comes to one of these. -/
theorem uptake_change (w : Workflow) (c : Change) : Uptake w.feed c (w.dispatch? c) (w.change c).feed := by
  by_cases hf : ∃ a, c = .feed a
  · obtain ⟨a, rfl⟩ := hf
    cases a with
    | offer r => exact .offered rfl r
    | receive | close | turn | pump | signal | abandon => exact .acted (by simp)
  · have hne : ∀ a, c ≠ .feed a := fun a ha => hf ⟨a, ha⟩
    have hd : w.dispatch? c = (w.recordOf? c).map fun r => ⟨r, (w.feed.offer r).2⟩ := by
      cases c with
      | feed a => exact absurd rfl (hne a)
      | _ => rfl
    have ht : c.isTurn = false := by
      cases c with
      | feed a => exact absurd rfl (hne a)
      | _ => rfl
    rw [hd, w.feed_change hne]
    cases w.recordOf? c with
    | none => exact .untouched ht
    | some r => exact .offered ht r

/-! ### Lists of changes -/

theorem accepted_concat (w : Workflow) (log : List Change) (c : Change) :
    w.accepted (log ++ [c]) = w.accepted log ++
      (((w.replay log).dispatch? c).toList.filter Dispatch.isTaken).map Dispatch.record := by
  rw [accepted, dispatches, collect_concat, List.filter_append, List.map_append, accepted, dispatches]

/-- Under any changes but those by hand, the listener is given what is accepted. -/
theorem delivers_replay {before : List LifecycleRecord} {breaksOn : Breakdown}
    (h : w.feed.Delivers breaksOn before) {log : List Change} (hlog : ∀ c ∈ log, c.isByHand = false) :
    (w.replay log).feed.Delivers breaksOn (before ++ w.accepted log) := by
  induction log using List.reverseRecOn with
  | nil => simpa [accepted, dispatches, collect, replay] using h
  | append_singleton log c ih =>
    have hih := ih fun c' hc' => hlog c' (List.mem_append_left _ hc')
    have hstep := ((w.replay log).uptake_change c).delivers (hlog c (by simp)) hih
    rwa [List.append_assoc, ← accepted_concat, ← replay_concat] at hstep

/-- A queue that is closed accepts nothing any more. -/
theorem isTaken_eq_false_of_mem_dispatches (h : w.feed.queue.isOpen = false) {log : List Change} {x : Dispatch}
    (hx : x ∈ w.dispatches log) : x.isTaken = false := by
  induction log generalizing w with
  | nil => exact absurd hx (by simp [dispatches, collect])
  | cons c log ih =>
    obtain ⟨hopen, hrefused⟩ := (w.uptake_change c).isOpen_eq_false h
    rcases List.mem_append.1 hx with hx | hx
    · exact hrefused x (Option.mem_toList.1 hx)
    · exact ih hopen hx

private theorem toGo_replay (h : w.feed.closing = true) {log : List Change} (hlog : ∀ c ∈ log, c.isByHand = false) :
    (w.replay log).feed.closing = true ∧ ((w.replay log).feed.toGo = 0 ∨
      (w.replay log).feed.toGo + log.countP Change.isTurn ≤ w.feed.toGo + (w.accepted log).length) := by
  induction log using List.reverseRecOn with
  | nil => exact ⟨h, Or.inr (by simp [replay])⟩
  | append_singleton log c ih =>
    obtain ⟨hclosing, hih⟩ := ih fun c' hc' => hlog c' (List.mem_append_left _ hc')
    have hu := (w.replay log).uptake_change c
    obtain ⟨hzero, hle⟩ := hu.toGo_le (hlog c (by simp)) hclosing
    rw [replay_concat, accepted_concat, List.countP_append, List.countP_singleton, List.length_append,
      List.length_map]
    refine ⟨hu.closing_eq_true hclosing, ?_⟩
    rcases hih with hih | hih
    · exact Or.inl (hzero hih)
    · by_cases h0 : ((w.replay log).change c).feed.toGo = 0
      · exact Or.inl h0
      · exact Or.inr (by omega)

/-- When a feed is closing, its listener ends after so many turns as there are records to be given, and two more:
one to see that the feed is closing, and one to find that nothing waits. -/
theorem isAttended_replay (h : w.feed.closing = true) {log : List Change} (hlog : ∀ c ∈ log, c.isByHand = false)
    (hturns : w.feed.queue.waiting.length + (w.accepted log).length + 2 ≤ log.countP Change.isTurn) :
    (w.replay log).feed.isAttended = false := by
  have hle := w.feed.toGo_le
  rcases (toGo_replay h hlog).2 with hzero | hbound
  · exact Feed.toGo_eq_zero_iff.1 hzero
  · exact Feed.toGo_eq_zero_iff.1 (by omega)

end Workflow

end TaskCoordination
