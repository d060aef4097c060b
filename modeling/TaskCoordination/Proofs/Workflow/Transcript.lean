import Mathlib.Data.List.Induction
import TaskCoordination.Proofs.Barrier.Clearance
import TaskCoordination.Proofs.Workflow.Delivery

/-!
# Transcripts

The transcript of a barrier in a workflow is the log of all requests that reach it, those that an observer makes
during its call among them. Whatever else changes, a barrier is where its transcript leads (`barrier?_change`), so a
barrier of a workflow that was new records its transcript (`records_replay`). A barrier hands over an event only in
a firing, and thus at most one in its whole life (`deliveries_of_barrier`).
-/

namespace TaskCoordination

/-- The requests that a continuation makes to its barrier when it is called. -/
def Continuation.probes : Continuation → List BarrierRequest
  | observer requests => requests
  | _ => []

namespace Workflow

variable {w : Workflow} {ref : BarrierRef} {b : Barrier Continuation}

/-- The requests that reach a barrier in a change. -/
def asked (w : Workflow) (ref : BarrierRef) : Change → List BarrierRequest
  | .request other r =>
    if other = ref then r :: ((w.firing? ref r).map fun f => f.continuation.probes).getD [] else []
  | _ => []

def exchangesOf (w : Workflow) (ref : BarrierRef) (c : Change) : List (Exchange Continuation) :=
  match w.barrier? ref with
  | none => []
  | some b => (b.run (w.asked ref c)).2

def transcript (w : Workflow) (ref : BarrierRef) : List Change → List (Exchange Continuation)
  | [] => []
  | c :: rest => w.exchangesOf ref c ++ (w.change c).transcript ref rest

theorem transcript_append (w : Workflow) (ref : BarrierRef) (log log' : List Change) :
    w.transcript ref (log ++ log') = w.transcript ref log ++ (w.replay log).transcript ref log' := by
  induction log generalizing w with
  | nil => rfl
  | cons c log ih => rw [List.cons_append, transcript, ih, transcript, replay, List.append_assoc]

/-! ### A barrier in a change -/

private theorem barrier?_setBarrier_of_ne {other : BarrierRef} (h : other ≠ ref) (b' : Barrier Continuation) :
    (w.setBarrier other b').barrier? ref = w.barrier? ref := by
  have hi : other.index ≠ ref.index := fun hi => h (congrArg BarrierRef.mk hi)
  simp [barrier?, setBarrier, hi]

private theorem barrier?_attend (h : w.barrier? ref = some b) (job : JobId) (f : Firing Continuation) :
    (w.attend ref job f).barrier? ref = some (b.run f.continuation.probes).1 := by
  obtain ⟨k, v⟩ := f
  cases k with
  | submit t => exact h
  | callback => cases v <;> exact h
  | observer requests =>
    show (w.call ref job ⟨.observer requests, v⟩).1.barrier? ref = some (b.run requests).1
    simp only [call, observe, h, Barrier.askAll_eq_run]
    exact barrier?_setBarrier h (b.run requests).1

private theorem barrier?_attend_of_ne {other : BarrierRef} (h : other ≠ ref) (job : JobId) (f : Firing Continuation) :
    (w.attend other job f).barrier? ref = w.barrier? ref := by
  obtain ⟨k, v⟩ := f
  cases k with
  | submit t => rfl
  | callback => cases v <;> rfl
  | observer requests =>
    show (w.call other job ⟨.observer requests, v⟩).1.barrier? ref = w.barrier? ref
    cases hb : w.barrier? other with
    | none =>
      simp only [call, observe, hb]
      rfl
    | some b' =>
      simp only [call, observe, hb]
      exact barrier?_setBarrier_of_ne h _

private theorem barrier?_request (w : Workflow) (ref other : BarrierRef) (r : BarrierRequest) :
    (w.besides (.request other r)).barrier? ref =
      (w.barrier? ref).map fun b => (b.run (w.asked ref (.request other r))).1 := by
  by_cases ho : other = ref
  · subst ho
    cases hb : w.barrier? other with
    | none => simp only [besides, hb, Option.map_none]
    | some b =>
      cases hf : (b.ask r).2.2 with
      | none =>
        simp only [besides, hb, hf, asked, firing?, if_true, Option.bind_some, Option.map_some]
        exact barrier?_setBarrier hb _
      | some f =>
        simp only [besides, hb, hf, asked, firing?, if_true, Option.bind_some, Option.map_some]
        exact barrier?_attend (barrier?_setBarrier hb _) b.job f
  · have hid : (w.barrier? ref).map (fun b => (b.run (w.asked ref (.request other r))).1) = w.barrier? ref := by
      simp only [asked, ho, if_false, Barrier.run]
      exact Option.map_id'
    rw [hid]
    cases hb : w.barrier? other with
    | none => simp only [besides, hb]
    | some b =>
      cases hf : (b.ask r).2.2 with
      | none =>
        simp only [besides, hb, hf]
        exact barrier?_setBarrier_of_ne ho _
      | some f =>
        simp only [besides, hb, hf]
        rw [barrier?_attend_of_ne ho, barrier?_setBarrier_of_ne ho]

/-- The barrier that a change makes. -/
def made? (w : Workflow) (ref : BarrierRef) : Change → Option (Barrier Continuation)
  | .addBarrier job k => if ref.index = w.barriers.length then some (.start job k) else none
  | _ => none

theorem made?_eq_some {c : Change} (h : w.made? ref c = some b) :
    ∃ job k, c = .addBarrier job k ∧ ref = ⟨w.barriers.length⟩ ∧ b = .start job k := by
  cases c with
  | addBarrier job k =>
    unfold made? at h
    dsimp only at h
    split at h
    · next hi => exact ⟨job, k, rfl, by rw [← hi], (Option.some.inj h).symm⟩
    · exact absurd h (by simp)
  | _ => exact absurd h (by simp [made?])

private theorem barrier?_besides (w : Workflow) (ref : BarrierRef) (c : Change) :
    (w.besides c).barrier? ref = ((w.barrier? ref).map fun b => (b.run (w.asked ref c)).1).or (w.made? ref c) := by
  -- most changes do not concern the barriers
  have quiet : ∀ c, w.asked ref c = [] → w.made? ref c = none →
      ((w.barrier? ref).map fun b => (b.run (w.asked ref c)).1).or (w.made? ref c) = w.barrier? ref := by
    intro c ha hm
    rw [ha, hm, Option.or_none]
    exact Option.map_id'
  cases c with
  | request other r =>
    rw [barrier?_request]
    exact (Option.or_none ..).symm
  | addBarrier job k =>
    show (w.barriers ++ [_])[ref.index]?.map HeldBarrier.barrier =
      ((w.barrier? ref).map fun b => b).or (if ref.index = w.barriers.length then some (.start job k) else none)
    rw [Option.map_id', barrier?, getElem?_concat]
    by_cases hi : ref.index = w.barriers.length
    · simp [hi]
    · simp [hi]
  | link t barrier =>
    rw [quiet _ rfl rfl]
    show (w.link t barrier).barrier? ref = w.barrier? ref
    rw [barrier?, (w.link_keeps t barrier).1, barrier?]
  | release other =>
    rw [quiet _ rfl rfl]
    show ((w.barriers.modify other.index _)[ref.index]?).map HeldBarrier.barrier = w.barrier? ref
    rw [List.getElem?_modify, barrier?]
    cases w.barriers[ref.index]? with
    | none => rfl
    | some held => by_cases ho : other.index = ref.index <;> simp [ho]
  | addTask | event | directory | feed =>
    rw [quiet _ rfl rfl]
    rfl

/-- A barrier takes the requests that reach it, and a new one is there from the change that makes it. -/
theorem barrier?_change (w : Workflow) (ref : BarrierRef) (c : Change) :
    (w.change c).barrier? ref = ((w.barrier? ref).map fun b => (b.run (w.asked ref c)).1).or (w.made? ref c) := by
  rw [← barrier?_besides, change_eq]
  cases w.delivery? c with
  | none => rfl
  | some d =>
    show ((w.besides c).deliver d.task d.event).1.barrier? ref = _
    rw [barrier?, barriers_deliver, barrier?]

theorem barrier?_change_of_some (h : w.barrier? ref = some b) (c : Change) :
    (w.change c).barrier? ref = some (b.run (w.asked ref c)).1 := by
  rw [barrier?_change, h, Option.map_some, Option.some_or]

/-- In a workflow that starts without barriers, each barrier records its transcript. -/
theorem records_replay (h : w.barriers = []) (log : List Change) (ref : BarrierRef) :
    ((w.replay log).barrier? ref = none ∧ w.transcript ref log = []) ∨
      ∃ b, (w.replay log).barrier? ref = some b ∧ b.Records (w.transcript ref log) := by
  induction log using List.reverseRecOn with
  | nil =>
    left
    refine ⟨?_, rfl⟩
    rw [replay, barrier?, h]
    rfl
  | append_singleton log c ih =>
    have ht : w.transcript ref (log ++ [c]) = w.transcript ref log ++ (w.replay log).exchangesOf ref c := by
      rw [transcript_append, transcript, transcript, List.append_nil]
    rw [replay_concat, ht]
    rcases ih with ⟨hn, hlog⟩ | ⟨b, hb, hrec⟩
    · have he : (w.replay log).exchangesOf ref c = [] := by rw [exchangesOf, hn]
      rw [barrier?_change, hn, hlog, he, Option.map_none, Option.none_or]
      cases hm : (w.replay log).made? ref c with
      | none => exact Or.inl ⟨rfl, rfl⟩
      | some b =>
        obtain ⟨job, k, -, -, rfl⟩ := made?_eq_some hm
        exact Or.inr ⟨_, rfl, Barrier.records_start job k⟩
    · have he : (w.replay log).exchangesOf ref c = (b.run ((w.replay log).asked ref c)).2 := by rw [exchangesOf, hb]
      rw [he]
      exact Or.inr ⟨_, barrier?_change_of_some hb c, hrec.run _⟩

theorem records_of_barrier? (h : w.barriers = []) {log : List Change} (hb : (w.replay log).barrier? ref = some b) :
    b.Records (w.transcript ref log) := by
  rcases records_replay h log ref with ⟨hn, -⟩ | ⟨b', hb', hrec⟩
  · exact absurd hn (by simp [hb])
  · obtain rfl : b' = b := Option.some.inj (hb'.symm.trans hb)
    exact hrec

theorem verdict_replay (h : w.barrier? ref = some b) {v : Verdict} (hv : b.verdict = some v) (log : List Change) :
    ∃ b', (w.replay log).barrier? ref = some b' ∧ b'.verdict = some v := by
  induction log generalizing w b with
  | nil => exact ⟨b, h, hv⟩
  | cons c log ih => exact ih (barrier?_change_of_some h c) (Barrier.verdict_run hv _)

/-! ### What a barrier hands over -/

theorem handed_eq_some {f : Firing Continuation} {t : TaskRef} {e : Event} (h : w.handed f = some (t, e)) :
    f.continuation = .submit t ∧ (e.isSubmission = true → f.verdict = .ready) := by
  obtain ⟨k, v⟩ := f
  cases k with
  | submit t' =>
    cases v with
    | ready =>
      obtain ⟨rfl, -⟩ := Prod.mk.inj (Option.some.inj h)
      exact ⟨rfl, fun _ => rfl⟩
    | failed report =>
      obtain ⟨rfl, rfl⟩ := Prod.mk.inj (Option.some.inj h)
      exact ⟨rfl, fun he => absurd he (by simp [Event.isSubmission])⟩
    | cancelled =>
      unfold handed at h
      dsimp only at h
      split at h
      · exact absurd h (by simp)
      · split at h
        · exact absurd h (by simp)
        · obtain ⟨rfl, rfl⟩ := Prod.mk.inj (Option.some.inj h)
          exact ⟨rfl, fun he => absurd he (by simp [Event.isSubmission])⟩
  | callback | observer => cases v <;> exact absurd h (by simp [handed])

/-- A delivery of a barrier comes of a request that makes it fire. -/
theorem delivery?_of_source {c : Change} {d : Delivery} (h : w.delivery? c = some d) (hs : d.source = some ref) :
    ∃ r b f, c = .request ref r ∧ w.barrier? ref = some b ∧ (b.ask r).2.2 = some f ∧
      w.handed f = some (d.task, d.event) := by
  cases c with
  | event t e =>
    obtain rfl := Option.some.inj h
    exact absurd hs (by simp)
  | request other r =>
    obtain ⟨x, hx, rfl⟩ := Option.map_eq_some_iff.1 h
    obtain rfl : other = ref := Option.some.inj hs
    obtain ⟨f, hf, hh⟩ := Option.bind_eq_some_iff.1 hx
    obtain ⟨b, hb, hf⟩ := Option.bind_eq_some_iff.1 hf
    exact ⟨r, b, f, rfl, hb, hf, hh⟩
  | addTask | addBarrier | link | release | directory | feed => exact absurd h (by simp [delivery?])

/-- The deliveries of a barrier are firings in its transcript. -/
private theorem countP_source_le (w : Workflow) (log : List Change) (ref : BarrierRef) :
    (w.deliveries log).countP (fun d => d.source = some ref) ≤
      ((w.transcript ref log).filterMap Exchange.firing).length := by
  induction log generalizing w with
  | nil => exact Nat.le_refl _
  | cons c log ih =>
    rw [deliveries, List.countP_append, transcript, List.filterMap_append, List.length_append]
    refine Nat.add_le_add ?_ (ih (w.change c))
    cases hd : w.delivery? c with
    | none => exact Nat.zero_le _
    | some d =>
      by_cases hs : d.source = some ref
      · obtain ⟨r, b, f, rfl, hb, hf, -⟩ := delivery?_of_source hd hs
        have hx : ((b.exchange r).firing) = some f := hf
        simp [exchangesOf, hb, asked, Barrier.run, hx, hs]
      · simp [hs]

/-- A barrier delivers at most one event in its whole life. -/
theorem deliveries_of_barrier (h : w.barriers = []) (log : List Change) (ref : BarrierRef) :
    (w.deliveries log).countP (fun d => d.source = some ref) ≤ 1 := by
  refine Nat.le_trans (countP_source_le w log ref) ?_
  rcases records_replay h log ref with ⟨-, ht⟩ | ⟨b, -, hrec⟩
  · rw [ht]
    exact Nat.zero_le _
  · exact hrec.firings_le

end Workflow

end TaskCoordination
