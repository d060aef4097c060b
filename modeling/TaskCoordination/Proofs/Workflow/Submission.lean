import Mathlib.Data.List.Nodup
import Mathlib.Data.List.Perm.Subperm
import TaskCoordination.Proofs.Workflow.Transcript

/-!
# Submissions through barriers

A submission that a barrier hands to its task comes when the barrier has been cleared, and from one of the barriers
that were made for the task (`IsClearedFor.of_delivery`). Each barrier hands over at most one, so a task whose
submissions all come from barriers has no more attempts than barriers that are ready (`attempts_le_countP_isReady`).
-/

namespace TaskCoordination

namespace Workflow

variable {w : Workflow} {t : TaskRef} {ref : BarrierRef}

/-- The barrier that a change makes to submit the task. -/
def submitter? (w : Workflow) (t : TaskRef) : Change → Option BarrierRef
  | .addBarrier _ k => if k = .submit t then some ⟨w.barriers.length⟩ else none
  | _ => none

theorem submitter?_eq_some {c : Change} (h : w.submitter? t c = some ref) :
    ∃ job, c = .addBarrier job (.submit t) ∧ ref = ⟨w.barriers.length⟩ := by
  cases c with
  | addBarrier job k =>
    unfold submitter? at h
    dsimp only at h
    split at h
    · next hk => exact ⟨job, by rw [hk], (Option.some.inj h).symm⟩
    · exact absurd h (by simp)
  | _ => exact absurd h (by simp [submitter?])

/-- The barriers that are made to submit the task. -/
def submitters (w : Workflow) (t : TaskRef) : List Change → List BarrierRef
  | [] => []
  | c :: rest => (w.submitter? t c).toList ++ (w.change c).submitters t rest

theorem submitters_append (w : Workflow) (t : TaskRef) (log log' : List Change) :
    w.submitters t (log ++ log') = w.submitters t log ++ (w.replay log).submitters t log' := by
  induction log generalizing w with
  | nil => rfl
  | cons c log ih => rw [List.cons_append, submitters, ih, submitters, replay, List.append_assoc]

theorem submitters_eq_nil {log : List Change} (h : ∀ c ∈ log, ∀ job, c ≠ .addBarrier job (.submit t)) :
    w.submitters t log = [] := by
  induction log generalizing w with
  | nil => rfl
  | cons c log ih =>
    obtain ⟨hc, hlog⟩ := List.forall_mem_cons.1 h
    have hn : w.submitter? t c = none := by
      cases hs : w.submitter? t c with
      | none => rfl
      | some ref =>
        obtain ⟨job, rfl, -⟩ := submitter?_eq_some hs
        exact absurd rfl (hc job)
    rw [submitters, hn, ih hlog]
    rfl

/-! ### Each barrier is made once -/

private theorem barrier?_isSome_iff (w : Workflow) (ref : BarrierRef) :
    (w.barrier? ref).isSome = true ↔ ref.index < w.barriers.length := by
  simp [barrier?]

private theorem length_barriers_change (w : Workflow) (c : Change) :
    w.barriers.length ≤ (w.change c).barriers.length := by
  -- the barrier that would be the first to get lost is still there
  by_contra h
  have hlt : (w.change c).barriers.length < w.barriers.length := by omega
  obtain ⟨b, hb⟩ := Option.isSome_iff_exists.1 ((w.barrier?_isSome_iff ⟨(w.change c).barriers.length⟩).2 hlt)
  have hb' := barrier?_change_of_some hb c
  have hlt := (barrier?_isSome_iff _ _).1 (Option.isSome_iff_exists.2 ⟨_, hb'⟩)
  exact absurd hlt (Nat.lt_irrefl _)

private theorem le_index_of_mem {log : List Change} (h : ref ∈ w.submitters t log) :
    w.barriers.length ≤ ref.index := by
  induction log generalizing w with
  | nil => exact absurd h (by simp [submitters])
  | cons c log ih =>
    rcases List.mem_append.1 h with h | h
    · obtain ⟨job, -, rfl⟩ := submitter?_eq_some (Option.mem_toList.1 h)
      exact Nat.le_refl _
    · exact Nat.le_trans (w.length_barriers_change c) (ih h)

theorem nodup_submitters (w : Workflow) (t : TaskRef) (log : List Change) : (w.submitters t log).Nodup := by
  induction log generalizing w with
  | nil => exact List.nodup_nil
  | cons c log ih =>
    rw [submitters]
    cases hc : w.submitter? t c with
    | none => exact ih (w.change c)
    | some made =>
      refine List.nodup_cons.2 ⟨fun hmem => ?_, ih (w.change c)⟩
      -- what is made later stands further back
      obtain ⟨job, rfl, rfl⟩ := submitter?_eq_some hc
      have hle : (w.change (.addBarrier job (.submit t))).barriers.length ≤ w.barriers.length := le_index_of_mem hmem
      have hlen : (w.change (.addBarrier job (.submit t))).barriers.length = w.barriers.length + 1 := by
        simp [change, addBarrier]
      omega

private theorem continuation_of_run {b : Barrier Continuation} {k k' : Continuation} (hk : b.Holds k)
    {rs : List BarrierRequest} (h : (b.run rs).1.continuation = some k') : b.continuation = some k' := by
  have hrun := Barrier.holds_run hk rs
  rw [hrun] at h
  split at h
  · next hn =>
    have hv : b.verdict = none := by
      cases hv : b.verdict with
      | none => rfl
      | some v => exact absurd hn (by simp [Barrier.verdict_run hv rs])
    rw [hk, if_pos hv, h]
  · exact absurd h (by simp)

/-- A barrier that submits the task was made to do so. -/
theorem mem_submitters (h : w.barriers = []) {log : List Change} {b : Barrier Continuation}
    (hb : (w.replay log).barrier? ref = some b) (hk : b.continuation = some (.submit t)) :
    ref ∈ w.submitters t log := by
  induction log using List.reverseRecOn generalizing b with
  | nil =>
    rw [replay, barrier?, h] at hb
    exact absurd hb (by simp)
  | append_singleton log c ih =>
    rw [replay_concat] at hb
    rw [submitters_append, List.mem_append]
    cases hb₀ : (w.replay log).barrier? ref with
    | some b₀ =>
      left
      have hb' := barrier?_change_of_some hb₀ c
      obtain rfl : (b₀.run ((w.replay log).asked ref c)).1 = b := Option.some.inj (hb'.symm.trans hb)
      obtain ⟨k, hholds⟩ := (records_of_barrier? h hb₀).holds
      exact ih hb₀ (continuation_of_run hholds hk)
    | none =>
      right
      rw [barrier?_change, hb₀, Option.map_none, Option.none_or] at hb
      obtain ⟨job, k, rfl, href, rfl⟩ := made?_eq_some hb
      obtain rfl : k = .submit t := Option.some.inj hk
      simp [submitters, submitter?, href]

/-! ### Submissions -/

def isReady (w : Workflow) (ref : BarrierRef) : Bool :=
  (w.barrier? ref).bind Barrier.verdict = some .ready

/-- After the log the barrier is ready to submit the task, and it has been cleared. -/
structure IsClearedFor (w : Workflow) (t : TaskRef) (ref : BarrierRef) (log : List Change) : Prop where
  made : ref ∈ w.submitters t log
  ready : (w.replay log).isReady ref = true
  cleared : ∃ b, (w.replay log).barrier? ref = some b ∧ b.IsCleared (w.transcript ref log)

theorem IsClearedFor.of_delivery (h : w.barriers = []) {log : List Change} {c : Change} {d : Delivery}
    (hd : (w.replay log).delivery? c = some d) (hsubmits : d.submits t = true) (hs : d.source = some ref) :
    w.IsClearedFor t ref (log ++ [c]) := by
  obtain ⟨r, b, f, rfl, hb, hf, hh⟩ := delivery?_of_source hd hs
  simp only [Delivery.submits, Bool.and_eq_true, decide_eq_true_eq] at hsubmits
  obtain ⟨⟨rfl, hsub⟩, -⟩ := hsubmits
  obtain ⟨hcont, hready⟩ := handed_eq_some hh
  obtain ⟨k, hholds⟩ := (records_of_barrier? h hb).holds
  rcases (Barrier.outcome_ask hholds r).2 with ⟨hn, -⟩ | ⟨hopen, v, hv, hv'⟩
  · exact absurd hn (by simp [hf])
  · -- the barrier has just become ready, and what its continuation asks of it does not change that
    obtain rfl : f = ⟨k, v⟩ := Option.some.inj (hf.symm.trans hv)
    obtain rfl : k = .submit d.task := hcont
    obtain rfl : v = .ready := hready hsub
    have hcontinuation : b.continuation = some (.submit d.task) := by rw [hholds, if_pos hopen]
    have hb' := barrier?_change_of_some hb (.request ref r)
    have hready' : (b.run ((w.replay log).asked ref (.request ref r))).1.verdict = some .ready := by
      rw [asked, if_pos rfl]
      exact Barrier.verdict_run hv' _
    rw [← replay_concat] at hb'
    refine ⟨?_, ?_, _, hb', (records_of_barrier? h hb').isCleared hready'⟩
    · rw [submitters_append]
      exact List.mem_append_left _ (mem_submitters h hb hcontinuation)
    · rw [isReady, hb']
      exact decide_eq_true hready'

theorem isReady_replay (h : w.isReady ref = true) (log : List Change) : (w.replay log).isReady ref = true := by
  obtain ⟨b, hb, hv⟩ := Option.bind_eq_some_iff.1 (of_decide_eq_true h)
  obtain ⟨b', hb', hv'⟩ := verdict_replay hb hv log
  rw [isReady, hb']
  exact decide_eq_true hv'

/-! ### Counting -/

/-- The barriers that have handed over accepted submissions of the task. -/
private def sources (w : Workflow) (t : TaskRef) (log : List Change) : List BarrierRef :=
  ((w.deliveries log).filter (Delivery.submits t)).filterMap Delivery.source

private theorem nodup_sources (h : w.barriers = []) (t : TaskRef) (log : List Change) : (w.sources t log).Nodup := by
  rw [List.nodup_iff_count_le_one]
  intro ref
  rw [sources, List.count_filterMap]
  calc ((w.deliveries log).filter (Delivery.submits t)).countP (fun d => d.source == some ref)
      ≤ (w.deliveries log).countP (fun d => d.source == some ref) := List.filter_sublist.countP_le
    _ = (w.deliveries log).countP (fun d => d.source = some ref) := List.countP_congr fun d _ => by simp
    _ ≤ 1 := deliveries_of_barrier h log ref

private theorem mem_sources (h : w.barriers = []) {log : List Change} (hmem : ref ∈ w.sources t log) :
    ref ∈ (w.submitters t log).filter (w.replay log).isReady := by
  obtain ⟨d, hfilter, hs⟩ := List.mem_filterMap.1 hmem
  obtain ⟨hdeliveries, hsubmits⟩ := List.mem_filter.1 hfilter
  obtain ⟨pre, c, post, rfl, hd⟩ := mem_deliveries hdeliveries
  have hcleared := IsClearedFor.of_delivery h hd hsubmits hs
  rw [List.append_cons, submitters_append, replay_append]
  exact List.mem_filter.2 ⟨List.mem_append_left _ hcleared.made, isReady_replay hcleared.ready post⟩

/-- A task that is submitted by barriers alone has no more attempts than barriers that are ready. -/
theorem attempts_le_countP_isReady (h : w.barriers = []) (ht : w.attempts t = 0) {log : List Change}
    (hs : ∀ d ∈ w.deliveries log, d.submits t = true → d.source ≠ none) :
    (w.replay log).attempts t ≤ (w.submitters t log).countP (w.replay log).isReady := by
  have hlength : (w.sources t log).length = ((w.deliveries log).filter (Delivery.submits t)).length := by
    rw [sources, List.length_filterMap_eq_countP, List.countP_eq_length]
    intro d hd
    obtain ⟨hd, hsubmits⟩ := List.mem_filter.1 hd
    exact Option.isSome_iff_ne_none.2 (hs d hd hsubmits)
  have hsub : w.sources t log ⊆ (w.submitters t log).filter (w.replay log).isReady := fun _ hmem => mem_sources h hmem
  calc (w.replay log).attempts t
      = (w.sources t log).length := by rw [attempts_replay, ht, Nat.zero_add, List.countP_eq_length_filter, hlength]
    _ ≤ ((w.submitters t log).filter (w.replay log).isReady).length :=
        (List.subperm_of_subset (nodup_sources h t log) hsub).length_le
    _ = (w.submitters t log).countP (w.replay log).isReady := List.countP_eq_length_filter.symm

end Workflow

end TaskCoordination
