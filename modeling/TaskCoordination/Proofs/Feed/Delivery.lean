import TaskCoordination.Proofs.Feed

/-!
# What a listener is given

The records that a feed has accepted are with its listener or wait behind them, in their order, until the listener
ends (`Delivers`). A listener that has finished has been given all of them; one that has broken down, all up to the
first record that it does not withstand. Offers and turns keep it so (`Delivers.offer`, `Delivers.act`). Once the
listener has ended nothing is accepted any more (`isOpen_act`), and in a feed that is closing every turn brings it
nearer to its end (`Turn.toGo_le`).
-/

namespace TaskCoordination

/-- Records are taken from the queue, or thrown away with it, by somebody else than the listener. -/
def FeedAction.isByHand : FeedAction → Bool
  | receive | close => true
  | offer _ | turn | pump | signal | abandon => false

def FeedAction.isTurn : FeedAction → Bool
  | turn => true
  | offer _ | receive | close | pump | signal | abandon => false

/-- A listener is given the records one after the other and breaks down on none of them. -/
def Withstands (breaksOn : Breakdown) (rs : List LifecycleRecord) : Prop :=
  ∀ pre r rest, rs = pre ++ r :: rest → breaksOn pre r = false

theorem withstands_nil (breaksOn : Breakdown) : Withstands breaksOn [] := by
  intro pre r rest h
  exact absurd h (by simp)

theorem Withstands.concat {breaksOn : Breakdown} {rs : List LifecycleRecord}
    (h : Withstands breaksOn rs) {r : LifecycleRecord} (hr : breaksOn rs r = false) :
    Withstands breaksOn (rs ++ [r]) := by
  intro pre r' rest heq
  rcases List.eq_nil_or_concat rest with rfl | ⟨rest', x, rfl⟩
  · obtain ⟨rfl, hrr⟩ := List.append_inj' heq rfl
    obtain rfl : r = r' := by simpa using hrr
    exact hr
  · rw [List.concat_eq_append, ← List.cons_append, ← List.append_assoc] at heq
    exact h pre r' rest' (List.append_inj' heq rfl).1

namespace Feed

variable {f f' : Feed} {accepted : List LifecycleRecord} {breaksOn : Breakdown}

/-- Whether there is a listener that has not ended. -/
def isAttended (f : Feed) : Bool :=
  match f.listener with
  | some l => l.isRunning
  | none => false

/-- What has become of the accepted records. -/
inductive Delivers (breaksOn : Breakdown) (f : Feed)
    (accepted : List LifecycleRecord) : Prop
  | running {l : Listener} (hl : f.listener = some l) (hr : l.isRunning = true) (ho : f.queue.isOpen = true)
    (hb : l.breaksOn = breaksOn) (hw : Withstands breaksOn l.collected)
    (h : l.collected ++ f.queue.waiting = accepted)
  | finished {l : Listener} (hl : f.listener = some l) (hp : l.phase = .finished) (ho : f.queue.isOpen = false)
    (hw : Withstands breaksOn accepted) (h : l.collected = accepted)
  | crashed {l : Listener} {r : LifecycleRecord} {rest : List LifecycleRecord} (hl : f.listener = some l)
    (hp : l.phase = .crashed r) (ho : f.queue.isOpen = false) (hb : breaksOn l.collected r = true)
    (hw : Withstands breaksOn l.collected) (h : l.collected ++ r :: rest = accepted)

theorem delivers_heard (capacity : Nat) (breaksOn : Breakdown) :
    (heard capacity breaksOn).Delivers breaksOn [] :=
  .running rfl rfl rfl rfl (withstands_nil breaksOn) rfl

/-! ### Steps -/

/-- Either there is room for a record in an open queue, or the feed stays as it is. -/
private theorem offer_cases (f : Feed) (r : LifecycleRecord) :
    (f.queue.isOpen = true ∧
        f.offer r = ({ f with queue := { f.queue with waiting := f.queue.waiting ++ [r] } }, true)) ∨
      f.offer r = (f, false) := by
  have hf : f.offer r = ({ f with queue := (f.queue.offer r).1 }, (f.queue.offer r).2) := rfl
  rw [hf]
  rcases f.queue.offer_cases r with ⟨hopen, -, hq⟩ | ⟨-, hq⟩
  · exact Or.inl ⟨hopen, by rw [hq]⟩
  · exact Or.inr (by rw [hq])

theorem Delivers.offer (h : f.Delivers breaksOn accepted) (r : LifecycleRecord) :
    (f.offer r).1.Delivers breaksOn (accepted ++ if (f.offer r).2 then [r] else []) := by
  rcases f.offer_cases r with ⟨hopen, hq⟩ | hq
  · rw [hq]
    cases h with
    | running hl hr ho hb hw h =>
      refine .running hl hr ho hb hw ?_
      rw [← h, if_pos rfl, List.append_assoc]
    | finished _ _ ho | crashed _ _ ho =>
      rw [hopen] at ho
      exact absurd ho (by simp)
  · rw [hq]
    simpa using h

/-- A listener that has ended takes no turn any more. -/
theorem Turn.eq_of_not_isAttended (ht : Turn f f') (h : f.isAttended = false) : f' = f := by
  have hnot : ∀ {l}, f.listener = some l → l.isRunning = true → f' = f := by
    intro l hl hr
    rw [isAttended, hl] at h
    exact absurd hr (by simp [h])
  cases ht with
  | idle => rfl
  | alerted hl hp => exact hnot hl (by rw [Listener.isRunning, hp])
  | collected hl hr => exact hnot hl hr
  | broken hl hr => exact hnot hl hr
  | finished hl hr => exact hnot hl hr

private theorem Turn.delivers (h : f.Delivers breaksOn accepted) (ht : Turn f f') :
    f'.Delivers breaksOn accepted := by
  have hended : ∀ {l}, f.listener = some l → l.isRunning = false → f' = f := by
    intro l hl hr
    exact ht.eq_of_not_isAttended (by simp only [isAttended, hl, hr])
  cases h with
  | @finished l hl hp ho hw h =>
    rw [hended hl (by rw [Listener.isRunning, hp])]
    exact .finished hl hp ho hw h
  | @crashed l r rest hl hp ho hb hw h =>
    rw [hended hl (by rw [Listener.isRunning, hp])]
    exact .crashed hl hp ho hb hw h
  | @running l hl hr ho hb hw h =>
    have hsame : ∀ {l'}, f.listener = some l' → l' = l := fun hl' => Option.some.inj (hl'.symm.trans hl)
    cases ht with
    | idle => exact .running hl hr ho hb hw h
    | alerted hl' =>
      obtain rfl := hsame hl'
      exact .running rfl rfl ho hb hw h
    | collected hl' _ _ hq hkept =>
      obtain rfl := hsame hl'
      refine .running rfl hr ho hb (hw.concat (hb ▸ hkept)) ?_
      rw [← h, hq, List.append_assoc]
      rfl
    | broken hl' _ hq hbroken =>
      obtain rfl := hsame hl'
      exact .crashed rfl rfl rfl (hb ▸ hbroken) hw (by rw [← h, hq])
    | @finished l' hl' _ hq =>
      obtain rfl := hsame hl'
      have hall : l'.collected = accepted := by rw [← h, hq, List.append_nil]
      exact .finished rfl rfl rfl (hall ▸ hw) hall

private theorem Delivers.turns (h : f.Delivers breaksOn accepted) (n : Nat) :
    (f.turns n).Delivers breaksOn accepted := by
  induction n generalizing f with
  | zero => exact h
  | succ n ih => exact ih (f.turn_turn.delivers h)

theorem Delivers.act (h : f.Delivers breaksOn accepted) {a : FeedAction} (ha : a.isByHand = false)
    (ho : ∀ r, a ≠ .offer r) : (f.act a).Delivers breaksOn accepted := by
  cases a with
  | offer r => exact absurd rfl (ho r)
  | turn => exact f.turn_turn.delivers h
  | pump => exact h.turns _
  | signal | abandon =>
    cases h with
    | running hl hr ho hb hw h => exact .running hl hr ho hb hw h
    | finished hl hp ho hw h => exact .finished hl hp ho hw h
    | crashed hl hp ho hb hw h => exact .crashed hl hp ho hb hw h
  | receive | close => exact absurd ha (by simp [FeedAction.isByHand])

/-! ### What there is to read off -/

theorem Delivers.given_append_waiting (h : f.Delivers breaksOn accepted) (ha : f.isAttended = true) :
    f.given ++ f.queue.waiting = accepted := by
  cases h with
  | running hl hr _ _ _ h =>
    rw [given, hl, Option.map_some, Option.getD_some, Listener.given_of_isRunning hr]
    exact h
  | finished hl hp => simp [isAttended, hl, Listener.isRunning, hp] at ha
  | crashed hl hp => simp [isAttended, hl, Listener.isRunning, hp] at ha

theorem Delivers.given_eq (h : f.Delivers breaksOn accepted) (ha : f.isAttended = false) (hc : f.isCrashed = false) :
    f.given = accepted ∧ Withstands breaksOn accepted := by
  cases h with
  | running hl hr => simp [isAttended, hl, hr] at ha
  | finished hl hp _ hw h =>
    rw [given, hl, Option.map_some, Option.getD_some, Listener.given, hp]
    exact ⟨h, hw⟩
  | crashed hl hp => simp [isCrashed, hl, Listener.isCrashed, hp] at hc

/-- The record that a listener breaks down on is the last one that it is given. -/
theorem Delivers.exists_of_isCrashed (h : f.Delivers breaksOn accepted) (hc : f.isCrashed = true) :
    ∃ pre r rest, Withstands breaksOn pre ∧ breaksOn pre r = true ∧ f.given = pre ++ [r] ∧
      accepted = pre ++ r :: rest := by
  cases h with
  | @running l hl hr =>
    simp only [isCrashed, hl] at hc
    unfold Listener.isRunning at hr
    unfold Listener.isCrashed at hc
    cases hp : l.phase with
    | crashed => exact absurd hr (by simp [hp])
    | running | flushing | finished => exact absurd hc (by simp [hp])
  | finished hl hp => simp [isCrashed, hl, Listener.isCrashed, hp] at hc
  | @crashed l r rest hl hp _ hb hw h =>
    refine ⟨l.collected, r, rest, hw, hb, ?_, h.symm⟩
    rw [given, hl, Option.map_some, Option.getD_some, Listener.given, hp]

theorem Delivers.isOpen_eq_false (h : f.Delivers breaksOn accepted) (ha : f.isAttended = false) :
    f.queue.isOpen = false := by
  cases h with
  | running hl hr => simp [isAttended, hl, hr] at ha
  | finished _ _ ho | crashed _ _ ho => exact ho

/-! ### The end of a listener -/

/-- A queue that is closed stays so. -/
theorem isOpen_act (h : f.queue.isOpen = false) (a : FeedAction) : (f.act a).queue.isOpen = false := by
  have hturn : ∀ {f f' : Feed}, f.queue.isOpen = false → Turn f f' → f'.queue.isOpen = false := by
    intro f f' h ht
    cases ht with
    | idle | alerted | collected => exact h
    | broken | finished => rfl
  cases a with
  | offer r =>
    show (f.queue.offer r).1.isOpen = false
    rw [RecordQueue.offer_of_closed h]
    exact h
  | receive =>
    cases hq : f.queue.waiting with
    | nil => simpa [act, RecordQueue.take?, hq] using h
    | cons r rest => simpa [act, RecordQueue.take?, hq] using h
  | close => rfl
  | turn => exact hturn h f.turn_turn
  | pump =>
    have hturns : ∀ (n : Nat) (f : Feed), f.queue.isOpen = false → (f.turns n).queue.isOpen = false := by
      intro n
      induction n with
      | zero => exact fun f h => h
      | succ n ih => exact fun f h => ih f.turn (hturn h f.turn_turn)
    exact hturns _ f h
  | signal | abandon => exact h

/-- The turns that a listener has still to take when the feed is closing and nobody offers more records. -/
def toGo (f : Feed) : Nat :=
  match f.listener.map Listener.phase with
  | some .running => f.queue.waiting.length + 2
  | some .flushing => f.queue.waiting.length + 1
  | some .finished | some (.crashed _) | none => 0

theorem toGo_eq_zero_iff : f.toGo = 0 ↔ f.isAttended = false := by
  unfold toGo isAttended
  cases f.listener with
  | none => simp
  | some l => cases hp : l.phase <;> simp [Listener.isRunning, hp]

theorem toGo_le (f : Feed) : f.toGo ≤ f.queue.waiting.length + 2 := by
  unfold toGo
  split <;> omega

theorem Turn.toGo_le (ht : Turn f f') (hc : f.closing = true) : f'.toGo ≤ f.toGo - 1 := by
  cases ht with
  | idle h =>
    have hended : f.isAttended = false := by
      cases hl : f.listener with
      | none => simp only [isAttended, hl]
      | some l =>
        cases hr : l.isRunning with
        | false => simp only [isAttended, hl, hr]
        | true => exact absurd hc (by simp [(h l hl hr).1])
    have hzero := toGo_eq_zero_iff.2 hended
    omega
  | alerted hl hp => simp [toGo, hl, hp]
  | collected hl _ hf hq => simp [toGo, hl, hf hc, hq]
  | broken | finished => exact Nat.zero_le _

private theorem Turn.closing_eq (ht : Turn f f') : f'.closing = f.closing := by
  cases ht <;> rfl

theorem closing_turns (n : Nat) (f : Feed) : (f.turns n).closing = f.closing := by
  induction n generalizing f with
  | zero => rfl
  | succ n ih => exact (ih f.turn).trans f.turn_turn.closing_eq

theorem toGo_turns (hc : f.closing = true) (n : Nat) : (f.turns n).toGo ≤ f.toGo - n := by
  induction n generalizing f with
  | zero => exact Nat.le_refl _
  | succ n ih =>
    have hturn := f.turn_turn.toGo_le hc
    have hturns := ih (f := f.turn) (f.turn_turn.closing_eq.trans hc)
    rw [turns]
    omega

/-- In a feed that is closing, a pump brings the listener to its end. -/
theorem isAttended_pump (hc : f.closing = true) : f.pump.isAttended = false := by
  have hturns := toGo_turns hc (f.queue.waiting.length + 2)
  have hle := f.toGo_le
  exact toGo_eq_zero_iff.1 (by rw [pump]; omega)

theorem toGo_offer (f : Feed) (r : LifecycleRecord) :
    (f.offer r).1.toGo ≤ f.toGo + if (f.offer r).2 then 1 else 0 := by
  rcases f.offer_cases r with ⟨-, hq⟩ | hq
  · rw [hq]
    simp only [toGo, List.length_append, List.length_singleton, if_true]
    cases f.listener.map Listener.phase with
    | none => exact Nat.zero_le _
    | some p => cases p <;> dsimp only <;> omega
  · rw [hq]
    exact Nat.le_refl _

theorem toGo_act (hc : f.closing = true) {a : FeedAction} (ha : a.isByHand = false) (ho : ∀ r, a ≠ .offer r) :
    (f.act a).toGo ≤ f.toGo - if a.isTurn then 1 else 0 := by
  cases a with
  | offer r => exact absurd rfl (ho r)
  | turn => exact f.turn_turn.toGo_le hc
  | pump => exact Nat.le_trans (toGo_turns hc _) (Nat.sub_le _ _)
  | signal | abandon => exact Nat.le_refl _
  | receive | close => exact absurd ha (by simp [FeedAction.isByHand])

theorem closing_act (hc : f.closing = true) (a : FeedAction) : (f.act a).closing = true := by
  cases a with
  | turn => exact f.turn_turn.closing_eq.trans hc
  | pump => exact (closing_turns _ f).trans hc
  | receive =>
    cases hq : f.queue.waiting with
    | nil => simpa [act, RecordQueue.take?, hq] using hc
    | cons r rest => simpa [act, RecordQueue.take?, hq] using hc
  | offer | close | abandon => exact hc
  | signal => rfl

end Feed

end TaskCoordination
