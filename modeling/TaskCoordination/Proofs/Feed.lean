import TaskCoordination.Feed.Listener

/-!
# What a feed keeps

A feed keeps the records that its listener has been given, and those that still wait, in the order in which they were
offered. It can lose records, but it makes none up: an offer adds at most the record that is offered (`kept_offer`),
and nothing else adds any (`kept_act`).
-/

namespace TaskCoordination

/-- What can be done to a feed besides the records of a workflow's own events. -/
inductive FeedAction
  | offer (r : LifecycleRecord)
  | receive
  | close
  | turn
  | pump
  | signal
  | abandon

namespace Listener

variable {l : Listener}

theorem given_of_isRunning (h : l.isRunning = true) : l.given = l.collected := by
  unfold isRunning at h
  unfold given
  cases hp : l.phase with
  | running | flushing => rfl
  | finished | crashed => exact absurd h (by simp [hp])

end Listener

namespace RecordQueue

variable {q q' : RecordQueue} {r : LifecycleRecord}

theorem offer_of_closed (h : q.isOpen = false) (r : LifecycleRecord) : q.offer r = (q, false) := by
  simp [offer, h]

/-- Either there is room for a record, or nothing happens. -/
theorem offer_cases (q : RecordQueue) (r : LifecycleRecord) :
    (q.isOpen = true ∧ q.waiting.length < q.capacity ∧
        q.offer r = ({ q with waiting := q.waiting ++ [r] }, true)) ∨
      ((q.isOpen = false ∨ q.capacity ≤ q.waiting.length) ∧ q.offer r = (q, false)) := by
  cases ho : q.isOpen with
  | false => exact Or.inr ⟨Or.inl rfl, offer_of_closed ho r⟩
  | true =>
    by_cases hr : q.waiting.length < q.capacity
    · exact Or.inl ⟨rfl, hr, by simp [offer, ho, hr]⟩
    · exact Or.inr ⟨Or.inr (Nat.le_of_not_lt hr), by simp [offer, hr]⟩

theorem take?_eq_some (h : q.take? = some (r, q')) : q.waiting = r :: q'.waiting := by
  unfold take? at h
  split at h
  · exact absurd h (by simp)
  · next r' rest hw =>
    simp only [Option.some.injEq, Prod.mk.injEq] at h
    obtain ⟨rfl, rfl⟩ := h
    exact hw

end RecordQueue

namespace Feed

def act (f : Feed) : FeedAction → Feed
  | .offer r => (f.offer r).1
  | .receive =>
    match f.queue.take? with
    | some (_, queue) => { f with queue := queue }
    | none => f
  | .close => { f with queue := f.queue.close }
  | .turn => f.turn
  | .pump => f.pump
  | .signal => f.signal
  | .abandon => f.abandon

/-! ### Turns -/

/-- What a turn of the listener can make of a feed. -/
inductive Turn (f : Feed) : Feed → Prop
  | idle (h : ∀ l, f.listener = some l → l.isRunning = true → f.closing = false ∧ f.queue.waiting = []) : Turn f f
  | alerted {l : Listener} (hl : f.listener = some l) (hp : l.phase = .running) (hc : f.closing = true) :
    Turn f { f with listener := some { l with phase := .flushing } }
  | collected {l : Listener} {r : LifecycleRecord} {rest : List LifecycleRecord} (hl : f.listener = some l)
    (hr : l.isRunning = true) (hc : f.closing = true → l.phase = .flushing) (hq : f.queue.waiting = r :: rest)
    (hb : l.breaksOn l.collected r = false) :
    Turn f { f with
      queue := { f.queue with waiting := rest }
      listener := some { l with collected := l.collected ++ [r] } }
  | broken {l : Listener} {r : LifecycleRecord} {rest : List LifecycleRecord} (hl : f.listener = some l)
    (hr : l.isRunning = true) (hq : f.queue.waiting = r :: rest) (hb : l.breaksOn l.collected r = true) :
    Turn f { f with queue := f.queue.close, listener := some { l with phase := .crashed r } }
  | finished {l : Listener} (hl : f.listener = some l) (hr : l.isRunning = true) (hq : f.queue.waiting = []) :
    Turn f (f.finish l)

private theorem turn_hand {f : Feed} {l : Listener} (hl : f.listener = some l) (hr : l.isRunning = true)
    (hc : f.closing = true → l.phase = .flushing) {r : LifecycleRecord} {rest : List LifecycleRecord}
    (hq : f.queue.waiting = r :: rest) : Turn f (f.hand l r { f.queue with waiting := rest }) := by
  cases hb : l.breaksOn l.collected r with
  | false =>
    have ht : l.take r = { l with collected := l.collected ++ [r] } := by simp [Listener.take, hb]
    have hr' : (l.take r).isRunning = true := by rw [ht]; exact hr
    simp only [hand, hr', if_true]
    rw [ht]
    exact .collected hl hr hc hq hb
  | true =>
    have ht : l.take r = { l with phase := .crashed r } := by simp [Listener.take, hb]
    have hr' : (l.take r).isRunning = false := by rw [ht]; rfl
    simp only [hand, hr', Bool.false_eq_true, if_false]
    rw [ht]
    exact .broken hl hr hq hb

/-- Every turn is one of these. -/
theorem turn_turn (f : Feed) : Turn f f.turn := by
  unfold turn
  cases hl : f.listener with
  | none => exact .idle fun l h => absurd h (by simp [hl])
  | some l =>
    have hidle : l.isRunning = false → Turn f f := by
      intro hr
      refine .idle fun l' hl' hr' => ?_
      obtain rfl : l = l' := Option.some.inj (hl.symm.trans hl')
      exact absurd hr' (by simp [hr])
    dsimp only
    cases hp : l.phase with
    | running =>
      have hr : l.isRunning = true := by rw [Listener.isRunning, hp]
      by_cases hc : f.closing = true
      · rw [if_pos hc]
        exact .alerted hl hp hc
      · rw [if_neg hc]
        cases hq : f.queue.waiting with
        | cons r rest =>
          simp only [RecordQueue.take?, hq]
          exact turn_hand hl hr (fun h => absurd h hc) hq
        | nil =>
          simp only [RecordQueue.take?, hq]
          split
          · exact .finished hl hr hq
          · exact .idle fun _ _ _ => ⟨by simpa using hc, hq⟩
    | flushing =>
      have hr : l.isRunning = true := by rw [Listener.isRunning, hp]
      cases hq : f.queue.waiting with
      | cons r rest =>
        simp only [RecordQueue.take?, hq]
        exact turn_hand hl hr (fun _ => hp) hq
      | nil =>
        simp only [RecordQueue.take?, hq]
        exact .finished hl hr hq
    | finished | crashed =>
      refine hidle ?_
      rw [Listener.isRunning, hp]

/-! ### Records that are kept -/

def given (f : Feed) : List LifecycleRecord :=
  (f.listener.map Listener.given).getD []

/-- The records that the listener has been given, and behind them those that wait. -/
def kept (f : Feed) : List LifecycleRecord :=
  f.given ++ f.queue.waiting

theorem given_sublist (f : Feed) : f.given.Sublist f.kept :=
  List.sublist_append_left _ _

theorem kept_offer (f : Feed) (r : LifecycleRecord) : (f.offer r).1.kept.Sublist (f.kept ++ [r]) := by
  show (f.given ++ (f.queue.offer r).1.waiting).Sublist (f.given ++ f.queue.waiting ++ [r])
  rw [List.append_assoc]
  refine List.Sublist.append_left ?_ _
  unfold RecordQueue.offer
  split
  · exact List.Sublist.refl _
  · exact List.sublist_append_left _ _

private theorem Turn.kept {f f' : Feed} (h : Turn f f') : f'.kept.Sublist f.kept := by
  have hkept : ∀ {l}, f.listener = some l → l.isRunning = true → f.kept = l.collected ++ f.queue.waiting := by
    intro l hl hr
    rw [Feed.kept, given, hl, Option.map_some, Option.getD_some, l.given_of_isRunning hr]
  cases h with
  | idle => exact List.Sublist.refl _
  | alerted hl hp =>
    rw [hkept hl (by rw [Listener.isRunning, hp])]
    exact List.Sublist.refl _
  | @collected l r rest hl hr _ hq =>
    -- the record goes from the one list to the other
    have hgiven : Listener.given { l with collected := l.collected ++ [r] } = l.collected ++ [r] :=
      Listener.given_of_isRunning (l := { l with collected := l.collected ++ [r] }) hr
    show (Listener.given { l with collected := l.collected ++ [r] } ++ rest).Sublist _
    rw [hkept hl hr, hq, hgiven, List.append_assoc]
    exact List.Sublist.refl _
  | @broken l r rest hl hr hq =>
    -- what waits behind it is lost
    show (l.collected ++ [r] ++ []).Sublist _
    rw [hkept hl hr, hq, List.append_assoc]
    exact List.Sublist.append_left (List.Sublist.cons_cons r (List.nil_sublist rest)) l.collected
  | finished hl hr hq =>
    rw [hkept hl hr]
    exact List.Sublist.append_left (List.nil_sublist _) _

private theorem kept_turns (n : Nat) (f : Feed) : (f.turns n).kept.Sublist f.kept := by
  induction n generalizing f with
  | zero => exact List.Sublist.refl _
  | succ n ih => exact (ih f.turn).trans f.turn_turn.kept

theorem kept_act (f : Feed) {a : FeedAction} (ha : ∀ r, a ≠ .offer r) : (f.act a).kept.Sublist f.kept := by
  cases a with
  | offer r => exact absurd rfl (ha r)
  | receive =>
    unfold act
    dsimp only
    split
    · next r queue hq =>
      show (f.given ++ queue.waiting).Sublist _
      rw [kept, RecordQueue.take?_eq_some hq]
      exact List.Sublist.append_left (List.sublist_cons_self r _) _
    · exact List.Sublist.refl _
  | close => exact List.Sublist.append_left (List.nil_sublist _) _
  | turn => exact f.turn_turn.kept
  | pump => exact f.kept_turns _
  | signal | abandon => exact List.Sublist.refl _

end Feed

end TaskCoordination
