import Mathlib.Data.List.Induction
import TaskCoordination.Proofs.Workflow.Report

/-!
# The log of a workflow

In a feed that nobody listens to, records wait until they are received. `Turnover` lists what a change can make of
the queue, and `turnover_change` says that there is nothing else. The ledger of the queue balances what has been
reported with what has gone and what waits (`Ledger.balance`), and every turn keeps it (`Ledger.turnover`). It tells
which records are lost: those that come when the queue is full or nobody receives any more
(`Ledger.isTaken_eq_false_iff`).
-/

namespace TaskCoordination

namespace Workflow

/-! ### What leaves the queue -/

/-- The record that is received. -/
def receipt? (w : Workflow) : Change → Option LifecycleRecord
  | .feed .receive => w.feed.queue.take?.map Prod.fst
  | _ => none

/-- The records that wait in vain when nobody receives any more. -/
def leavings (w : Workflow) : Change → List LifecycleRecord
  | .feed .close => w.feed.queue.waiting
  | _ => []

def received (w : Workflow) (log : List Change) : List LifecycleRecord :=
  w.collect (fun w c => (w.receipt? c).toList) log

def dropped (w : Workflow) (log : List Change) : List LifecycleRecord :=
  w.collect leavings log

end Workflow

/-! ### Turnover -/

/-- What a change makes of a queue to which only the tasks offer records: what is received, what is dropped, what is
reported, and the queue after all this. -/
inductive Turnover (q : RecordQueue) : Change → Option LifecycleRecord → List LifecycleRecord → Option Report →
    RecordQueue → Prop
  | idle {c : Change} (hc : c ≠ .feed .close) : Turnover q c none [] none q
  | taken {c : Change} {x : Report} (hc : c ≠ .feed .close) (hx : x.isTaken = true) (ho : q.isOpen = true)
    (hr : q.waiting.length < q.capacity) :
    Turnover q c none [] (some x) { q with waiting := q.waiting ++ [x.record] }
  | lost {c : Change} {x : Report} (hc : c ≠ .feed .close) (hx : x.isTaken = false)
    (h : q.isOpen = false ∨ q.capacity ≤ q.waiting.length) : Turnover q c none [] (some x) q
  | received {r : LifecycleRecord} {rest : List LifecycleRecord} (h : q.waiting = r :: rest) :
    Turnover q (.feed .receive) (some r) [] none { q with waiting := rest }
  | closed : Turnover q (.feed .close) none q.waiting none q.close

theorem Feed.turn_of_unheard {f : Feed} (h : f.listener = none) : f.turn = f := by
  rw [turn, h]

theorem Feed.pump_of_unheard {f : Feed} (h : f.listener = none) : f.pump = f := by
  have hturns : ∀ n, f.turns n = f := by
    intro n
    induction n with
    | zero => rfl
    | succ n ih => rw [turns, turn_of_unheard h, ih]
  exact hturns _

namespace Workflow

variable {w : Workflow}

private theorem turnover_act (h : w.feed.listener = none) {a : FeedAction} (ha : ∀ r, a ≠ .offer r) :
    (w.feed.act a).listener = none ∧
      Turnover w.feed.queue (.feed a) (w.receipt? (.feed a)) (w.leavings (.feed a)) none (w.feed.act a).queue := by
  cases a with
  | offer r => exact absurd rfl (ha r)
  | receive =>
    cases hq : w.feed.queue.waiting with
    | nil =>
      have ht : w.feed.queue.take? = none := by simp only [RecordQueue.take?, hq]
      simp only [Feed.act, receipt?, ht]
      exact ⟨h, .idle (by simp)⟩
    | cons r rest =>
      have ht : w.feed.queue.take? = some (r, { w.feed.queue with waiting := rest }) := by
        simp only [RecordQueue.take?, hq]
      simp only [Feed.act, receipt?, ht]
      exact ⟨h, .received hq⟩
  | close => exact ⟨h, .closed⟩
  | turn =>
    have hact : w.feed.act .turn = w.feed := Feed.turn_of_unheard h
    rw [hact]
    exact ⟨h, .idle (by simp)⟩
  | pump =>
    have hact : w.feed.act .pump = w.feed := Feed.pump_of_unheard h
    rw [hact]
    exact ⟨h, .idle (by simp)⟩
  | signal | abandon => exact ⟨h, .idle (by simp)⟩

/-- The report of a change tells whether its record is taken. -/
private theorem isTaken_of_report? {c : Change} {x : Report} (h : w.report? c = some x) :
    x.isTaken = (w.feed.queue.offer x.record).2 := by
  obtain ⟨d, -, hr⟩ := Option.bind_eq_some_iff.1 h
  obtain ⟨r, -, rfl⟩ := Option.map_eq_some_iff.1 hr
  rfl

/-- Every change takes one of the turns. -/
theorem turnover_change (h : w.feed.listener = none) {c : Change} (hc : ∀ r, c ≠ .feed (.offer r)) :
    (w.change c).feed.listener = none ∧
      Turnover w.feed.queue c (w.receipt? c) (w.leavings c) (w.report? c) (w.change c).feed.queue := by
  by_cases hf : ∃ a, c = .feed a
  · obtain ⟨a, rfl⟩ := hf
    exact turnover_act h fun r hr => hc r (congrArg Change.feed hr)
  · have hf : ∀ a, c ≠ .feed a := fun a ha => hf ⟨a, ha⟩
    have hreceipt : w.receipt? c = none := by
      cases c with
      | feed a => exact absurd rfl (hf a)
      | _ => rfl
    have hleavings : w.leavings c = [] := by
      cases c with
      | feed a => exact absurd rfl (hf a)
      | _ => rfl
    rw [w.feed_change hf, ← map_report?, hreceipt, hleavings]
    cases hx : w.report? c with
    | none => exact ⟨h, .idle (hf .close)⟩
    | some x =>
      have htaken := isTaken_of_report? hx
      refine ⟨h, ?_⟩
      show Turnover w.feed.queue c none [] (some x) (w.feed.queue.offer x.record).1
      rcases w.feed.queue.offer_cases x.record with ⟨hopen, hroom, hq⟩ | ⟨hfull, hq⟩
      · rw [hq] at htaken ⊢
        exact .taken (hf .close) htaken hopen hroom
      · rw [hq] at htaken ⊢
        exact .lost (hf .close) htaken hfull

end Workflow

/-! ### The ledger -/

/-- The queue of a feed after some changes, and what has been received, dropped and reported up to there. -/
structure Ledger (capacity : Nat) (log : List Change) (q : RecordQueue) (received dropped : List LifecycleRecord)
    (reports : List Report) : Prop where
  capacity_eq : q.capacity = max capacity 1
  length_le : q.waiting.length ≤ max capacity 1
  isOpen_eq_false_iff : q.isOpen = false ↔ Change.feed .close ∈ log
  balance : received ++ dropped ++ q.waiting = (reports.filter Report.isTaken).map Report.record
  dropped_of_open : q.isOpen = true → dropped = []
  waiting_of_closed : q.isOpen = false → q.waiting = []

namespace Ledger

variable {capacity : Nat} {log : List Change} {q q' : RecordQueue} {received dropped : List LifecycleRecord}
  {reports : List Report} {c : Change} {receipt : Option LifecycleRecord} {leavings : List LifecycleRecord}

theorem ofCapacity (capacity : Nat) : Ledger capacity [] (.ofCapacity capacity) [] [] [] :=
  ⟨rfl, Nat.zero_le _, by simp [RecordQueue.ofCapacity], rfl, fun _ => rfl, fun _ => rfl⟩

/-- A record is lost when the queue is full, or nobody receives any more. -/
theorem isTaken_eq_false_iff (h : Ledger capacity log q received dropped reports) {x : Report}
    (ht : Turnover q c receipt leavings (some x) q') :
    x.isTaken = false ↔ q.waiting.length = max capacity 1 ∨ .feed .close ∈ log := by
  rw [← h.isOpen_eq_false_iff]
  have hcap := h.capacity_eq
  have hle := h.length_le
  cases ht with
  | taken _ hx ho hr =>
    rw [hx, ho]
    simp only [Bool.true_eq_false, or_false, false_iff]
    omega
  | lost _ hx hfull =>
    simp only [hx, true_iff]
    rcases hfull with ho | hfull
    · exact Or.inr ho
    · left
      omega

/-- What has been received and what waits is in the order in which it was reported. -/
theorem sublist (h : Ledger capacity log q received dropped reports) :
    (received ++ q.waiting).Sublist (reports.map Report.record) := by
  have hsub : (received ++ q.waiting).Sublist (received ++ dropped ++ q.waiting) := by
    rw [List.append_assoc]
    exact List.Sublist.append_left (List.sublist_append_right _ _) _
  rw [h.balance] at hsub
  exact hsub.trans (List.filter_sublist.map _)

theorem dropped_eq_nil (h : Ledger capacity log q received dropped reports) (hc : Change.feed .close ∉ log) :
    dropped = [] := by
  have hopen : q.isOpen = true := by
    by_contra hf
    exact hc (h.isOpen_eq_false_iff.1 (by simpa using hf))
  exact h.dropped_of_open hopen

/-- Where nothing is lost, all that was reported has been received or waits. -/
theorem eq_of_isTaken (h : Ledger capacity log q received dropped reports) (ht : ∀ x ∈ reports, x.isTaken = true)
    (hc : Change.feed .close ∉ log) : received ++ q.waiting = reports.map Report.record := by
  have hbalance := h.balance
  rwa [h.dropped_eq_nil hc, List.append_nil, List.filter_eq_self.2 ht] at hbalance

/-- The ledger is kept up. -/
theorem turnover {report : Option Report} (h : Ledger capacity log q received dropped reports)
    (ht : Turnover q c receipt leavings report q') :
    Ledger capacity (log ++ [c]) q' (received ++ receipt.toList) (dropped ++ leavings)
      (reports ++ report.toList) := by
  -- only a close changes who is there to receive
  have hgone : c ≠ .feed .close → (q.isOpen = false ↔ Change.feed .close ∈ log ++ [c]) := by
    intro hc
    rw [h.isOpen_eq_false_iff, List.mem_append, List.mem_singleton]
    constructor
    · exact Or.inl
    · rintro (hlog | rfl)
      · exact hlog
      · exact absurd rfl hc
  cases ht with
  | idle hc =>
    simp only [Option.toList_none, List.append_nil]
    exact ⟨h.capacity_eq, h.length_le, hgone hc, h.balance, h.dropped_of_open, h.waiting_of_closed⟩
  | @taken _ x hc hx ho hr =>
    have hclosed : q.isOpen = false → q.waiting ++ [x.record] = [] := by
      intro hf
      rw [ho] at hf
      exact absurd hf (by simp)
    refine ⟨h.capacity_eq, ?_, hgone hc, ?_, by simpa using h.dropped_of_open, hclosed⟩
    · have := h.capacity_eq
      simp only [List.length_append, List.length_singleton]
      omega
    · simp only [Option.toList_none, Option.toList_some, List.append_nil, List.filter_append, List.map_append,
        ← h.balance, List.append_assoc]
      simp [hx]
  | lost hc hx hfull =>
    refine ⟨h.capacity_eq, h.length_le, hgone hc, ?_, by simpa using h.dropped_of_open, h.waiting_of_closed⟩
    simp only [Option.toList_none, Option.toList_some, List.append_nil, List.filter_append, List.map_append,
      ← h.balance]
    simp [hx]
  | @received r rest hq =>
    -- something waits, so the queue is open and nothing has been dropped
    have hopen : q.isOpen = true := by
      by_contra hf
      rw [h.waiting_of_closed (by simpa using hf)] at hq
      exact absurd hq (by simp)
    have hd := h.dropped_of_open hopen
    have hbalance := h.balance
    have hle := h.length_le
    rw [hq] at hle hbalance
    subst hd
    refine ⟨h.capacity_eq, Nat.le_of_succ_le hle, hgone (by simp), ?_, fun _ => rfl, ?_⟩
    · simpa using hbalance
    · intro hf
      rw [hopen] at hf
      exact absurd hf (by simp)
  | closed =>
    refine ⟨h.capacity_eq, Nat.zero_le _, by simp [RecordQueue.close], ?_, ?_, fun _ => rfl⟩
    · have hbalance := h.balance
      simpa [RecordQueue.close] using hbalance
    · intro hf
      exact absurd hf (by simp [RecordQueue.close])

end Ledger

namespace Workflow

variable {w : Workflow} {capacity : Nat}

theorem ledger_replay (h : w.feed = .manual capacity) {log : List Change}
    (hlog : ∀ c ∈ log, ∀ r, c ≠ .feed (.offer r)) :
    (w.replay log).feed.listener = none ∧
      Ledger capacity log (w.replay log).feed.queue (w.received log) (w.dropped log) (w.reports log) := by
  induction log using List.reverseRecOn with
  | nil =>
    rw [replay, h]
    exact ⟨rfl, .ofCapacity capacity⟩
  | append_singleton log c ih =>
    obtain ⟨hl, hledger⟩ := ih fun c' hc' => hlog c' (List.mem_append_left _ hc')
    obtain ⟨hl', ht⟩ := turnover_change hl (hlog c (by simp))
    rw [replay_concat, received, dropped, reports, collect_concat, collect_concat, collect_concat]
    exact ⟨hl', hledger.turnover ht⟩

/-- When the record of a report is lost. -/
theorem isTaken_replay_eq_false_iff (h : w.feed = .manual capacity) {pre : List Change}
    (hpre : ∀ c ∈ pre, ∀ r, c ≠ .feed (.offer r)) {c : Change} (hc : ∀ r, c ≠ .feed (.offer r)) {x : Report}
    (hx : (w.replay pre).report? c = some x) :
    x.isTaken = false ↔ (w.replay pre).feed.queue.waiting.length = max capacity 1 ∨ Change.feed .close ∈ pre := by
  obtain ⟨hunheard, hledger⟩ := ledger_replay h hpre
  have hturn := (turnover_change hunheard hc).2
  rw [hx] at hturn
  exact hledger.isTaken_eq_false_iff hturn

end Workflow

end TaskCoordination
