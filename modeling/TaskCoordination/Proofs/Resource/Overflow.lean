import TaskCoordination.Proofs.Resource.Slots

/-!
# Where the number of slots overflows

The number of slots is worked out in steps of arithmetic: totals of units, quotients, a product and a conversion.
`Resource.slotsIn` is the same computation over steps of any kind (`Arithmetic`), so that it can be asked which of
them it takes, and which of them can fail. Of the checked steps none but the totals ever does
(`Resource.slotsIn_checked`), and these fail exactly where a total that is needed passes the limit
(`Node.slots_eq_error_iff`).

Requirements of more memory than a node has get no slot, and none of the steps is taken. Otherwise the totals that
are looked at are those of the units that are asked for, those that are there of a kind that is asked for, and the
CPU units where the smallest of the quotients is the largest 32-bit number or no units are asked for. There is no
answer about hosting where there is no number of slots (`slots_overflow_iff`).
-/

namespace TaskCoordination

/-- The steps of arithmetic that a number of slots is made of. -/
structure Arithmetic (m : Type → Type) where
  total : Node → ProcessorKind → m Nat
  quotient : Nat → Nat → m Nat
  product : Nat → Nat → m Nat
  narrow : Nat → m Nat

/-- What a step of checked arithmetic can fail for. -/
inductive Fault
  | overflow (cause : Overflow)
  | zeroDivisor
  deriving DecidableEq

/-- Arithmetic of 32-bit numbers. Sums have a limit, and divisors must not be zero; products and conversions are
capped. -/
def Arithmetic.checked : Arithmetic (Except Fault) where
  total n kind := (n.unitsOf kind).mapError .overflow
  quotient a b := if b = 0 then .error .zeroDivisor else .ok (a / b)
  product a b := .ok (min (a * b) word32Max)
  narrow a := .ok (min a word32Max)

section

variable {m : Type → Type} [Monad m]

namespace Node

def narrowIn (a : Arithmetic m) (capacity need : Node) (slots : Nat) (kind : ProcessorKind) : m Nat := do
  let required ← a.total need kind
  if required = 0 then
    return slots
  else
    return min slots (← a.quotient (← a.total capacity kind) required)

def wantedIn (a : Arithmetic m) (capacity : Node) (byUnits : Nat) : m Nat :=
  if byUnits = word32Max then (max · 1) <$> a.total capacity .cpu else pure byUnits

def withinMemoryIn (a : Arithmetic m) (capacity need : Node) (wanted : Nat) : m Nat :=
  if need.memory = 0 then
    return wanted
  else
    return min wanted (← a.narrow (← a.quotient capacity.memory.toNat need.memory.toNat))

def slotsIn (a : Arithmetic m) (capacity need : Node) : m Nat := do
  if capacity.memory < need.memory then
    return 0
  let byUnits ← ProcessorKind.counted.foldlM (capacity.narrowIn a need) word32Max
  let wanted ← capacity.wantedIn a byUnits
  capacity.withinMemoryIn a need wanted

end Node

/-- The number of slots of a resource, by the steps of `a`. -/
def Resource.slotsIn (a : Arithmetic m) (r : Resource) (need : Node) : m Nat :=
  match r with
  | node n => n.slotsIn a need
  | cluster c => do
    if 0 < (← c.member.slotsIn a need) then
      a.product c.taskLimit.toNat c.size.toNat
    else
      return 0

end

namespace Node

variable {capacity need : Node}

private theorem foldlM_mapError {ε ε' α β : Type} {f : β → α → Except ε β} {g : β → α → Except ε' β} {h : ε → ε'}
    (hg : ∀ b a, g b a = (f b a).mapError h) (l : List α) (b : β) : l.foldlM g b = (l.foldlM f b).mapError h := by
  induction l generalizing b with
  | nil => rfl
  | cons a l ih =>
    rw [List.foldlM_cons, List.foldlM_cons, hg]
    cases f b a with
    | error e => rfl
    | ok b' => exact ih b'

private theorem narrowIn_checked (slots : Nat) (kind : ProcessorKind) :
    capacity.narrowIn .checked need slots kind = (capacity.narrow need slots kind).mapError .overflow := by
  unfold narrowIn narrow
  simp only [Arithmetic.checked]
  cases need.unitsOf kind with
  | error e => rfl
  | ok required =>
    by_cases h : required = 0
    · simp [h, Except.mapError, bind, Except.bind, pure, Except.pure]
    · cases capacity.unitsOf kind <;> simp [h, Except.mapError, bind, Except.bind, pure, Except.pure]

private theorem wanted_le (h : ¬ (capacity.byUnits need = word32Max ∧ word32Max < capacity.units .cpu)) :
    capacity.wanted need ≤ word32Max := by
  unfold wanted
  split
  · next hu => exact max_le (Nat.not_lt.1 fun hc => h ⟨hu, hc⟩) (by decide)
  · exact byUnits_le capacity need

private theorem wantedIn_checked (capacity need : Node) : capacity.wantedIn .checked (capacity.byUnits need) =
    if capacity.byUnits need = word32Max ∧ word32Max < capacity.units .cpu then .error (.overflow .addition)
    else .ok (capacity.wanted need) := by
  simp only [wantedIn, Arithmetic.checked, unitsOf_eq, wanted]
  by_cases hu : capacity.byUnits need = word32Max
  · by_cases hc : capacity.units .cpu ≤ word32Max
    · simp [hu, hc, Nat.not_lt.2 hc, Functor.map, Except.map, Except.mapError]
    · simp [hu, hc, Nat.not_le.1 hc, Functor.map, Except.map, Except.mapError]
  · simp [hu, pure, Except.pure]

private theorem withinMemoryIn_checked {wanted : Nat} (h : wanted ≤ word32Max) :
    capacity.withinMemoryIn .checked need wanted = .ok (capacity.withinMemory need wanted) := by
  unfold withinMemoryIn withinMemory
  simp only [Arithmetic.checked]
  by_cases hz : need.memory = 0
  · simp [hz, pure, Except.pure]
  · have hpos : need.memory.toNat ≠ 0 := fun h0 => hz (UInt64.toNat_inj.1 h0)
    -- the cap on the quotient lies above what it is compared with
    simp [hz, hpos, bind, Except.bind, pure, Except.pure, Nat.min_comm _ word32Max, ← Nat.min_assoc,
      Nat.min_eq_right h]

/-- Only the totals fail: neither divisor is ever zero. -/
theorem slotsIn_checked (capacity need : Node) :
    capacity.slotsIn .checked need = (capacity.slots need).mapError .overflow := by
  have hunits : ProcessorKind.counted.foldlM (capacity.narrowIn .checked need) word32Max =
      (if ∃ kind ∈ ProcessorKind.counted, capacity.Exceeds need kind then .error .addition
      else .ok (capacity.byUnits need) : Except Overflow Nat).mapError .overflow := by
    rw [foldlM_mapError narrowIn_checked, foldlM_narrow_eq]
    rfl
  unfold slotsIn
  rw [hunits, slots_eq_ite]
  by_cases hm : capacity.memory < need.memory
  · simp [hm, Except.mapError, pure, Except.pure]
  · by_cases he : ∃ kind ∈ ProcessorKind.counted, capacity.Exceeds need kind
    · simp [hm, he, Except.mapError, bind, Except.bind]
    · rw [if_neg hm, if_neg hm, if_neg he]
      change (capacity.wantedIn .checked (capacity.byUnits need) >>= capacity.withinMemoryIn .checked need) = _
      rw [wantedIn_checked]
      by_cases hc : capacity.byUnits need = word32Max ∧ word32Max < capacity.units .cpu
      · rw [if_pos hc, if_pos (.inr hc)]
        rfl
      · rw [if_neg hc, if_neg (not_or.2 ⟨he, hc⟩)]
        exact withinMemoryIn_checked (wanted_le hc)

/-- Steps of no kind are taken where the memory does not do. -/
theorem slotsIn_of_lt {m : Type → Type} [Monad m] (a : Arithmetic m) (h : capacity.memory < need.memory) :
    capacity.slotsIn a need = pure 0 := by
  rw [slotsIn, if_pos h]

theorem slots_of_lt (h : capacity.memory < need.memory) : capacity.slots need = .ok 0 := by
  rw [slots_eq_ite, if_pos h]

/-! ### Totals that pass the limit -/

/-- For how many copies the units of a kind are enough, for each kind that is asked for. -/
def quotients (capacity need : Node) : Set Nat :=
  {q | ∃ kind ∈ ProcessorKind.counted, 0 < need.units kind ∧ q = capacity.units kind / need.units kind}

theorem byUnits_eq_iff_isLeast
    (h : ∀ kind ∈ ProcessorKind.counted, 0 < need.units kind → capacity.units kind ≤ word32Max) :
    capacity.byUnits need = word32Max ↔ IsLeast (capacity.quotients need) word32Max ∨ ¬ need.AsksForUnits := by
  rw [byUnits_eq_iff]
  constructor
  · intro hu
    by_cases ha : need.AsksForUnits
    · have hall : ∀ q ∈ capacity.quotients need, q = word32Max := by
        rintro q ⟨kind, hk, hpos, rfl⟩
        apply Nat.le_antisymm
        · exact Nat.le_trans (Nat.div_le_self ..) (h kind hk hpos)
        · exact (Nat.le_div_iff_mul_le hpos).2 (hu kind hk)
      obtain ⟨kind, hk, hpos⟩ := ha
      have hmem : capacity.units kind / need.units kind ∈ capacity.quotients need := ⟨kind, hk, hpos, rfl⟩
      exact .inl ⟨hall _ hmem ▸ hmem, fun q hq => Nat.le_of_eq (hall q hq).symm⟩
    · exact .inr ha
  · rintro (hleast | ha)
    · intro kind hk
      by_cases h0 : need.units kind = 0
      · simp [h0]
      · have hpos : 0 < need.units kind := Nat.pos_of_ne_zero h0
        exact (Nat.le_div_iff_mul_le hpos).1 (hleast.2 ⟨kind, hk, hpos, rfl⟩)
    · exact hasUnitsFor_of_not_asks ha _

theorem slots_eq_error_iff (hm : ¬ capacity.memory < need.memory) : capacity.slots need = .error .addition ↔
    (∃ kind ∈ ProcessorKind.counted, word32Max < need.units kind) ∨
      (∃ kind ∈ ProcessorKind.counted, 0 < need.units kind ∧ word32Max < capacity.units kind) ∨
      (word32Max < capacity.units .cpu ∧ (IsLeast (capacity.quotients need) word32Max ∨ ¬ need.AsksForUnits)) := by
  rw [slots_eq_ite, if_neg hm]
  by_cases he : ∃ kind ∈ ProcessorKind.counted, capacity.Exceeds need kind
  · rw [if_pos (.inl he)]
    obtain ⟨kind, hk, hneed | hcap⟩ := he
    · exact iff_of_true rfl (.inl ⟨kind, hk, hneed⟩)
    · exact iff_of_true rfl (.inr (.inl ⟨kind, hk, hcap⟩))
  · have hneed : ¬ ∃ kind ∈ ProcessorKind.counted, word32Max < need.units kind :=
      fun ⟨kind, hk, h⟩ => he ⟨kind, hk, .inl h⟩
    have hcap : ¬ ∃ kind ∈ ProcessorKind.counted, 0 < need.units kind ∧ word32Max < capacity.units kind :=
      fun ⟨kind, hk, h⟩ => he ⟨kind, hk, .inr h⟩
    rw [← byUnits_eq_iff_isLeast fun kind hk hpos => Nat.not_lt.1 fun h => hcap ⟨kind, hk, hpos, h⟩]
    simp only [he, hneed, hcap, false_or]
    by_cases hc : capacity.byUnits need = word32Max ∧ word32Max < capacity.units .cpu
    · rw [if_pos hc]
      exact iff_of_true rfl hc.symm
    · rw [if_neg hc]
      exact iff_of_false (by simp) fun h => hc h.symm

theorem slots_le {n : Nat} (h : capacity.slots need = .ok n) : n ≤ word32Max := by
  rw [slots_eq_ite] at h
  split at h
  · obtain rfl := Except.ok.inj h
    exact Nat.zero_le _
  · split at h
    · cases h
    · next hc =>
      obtain rfl := Except.ok.inj h
      exact Nat.le_trans (le_withinMemory_iff.1 (Nat.le_refl _)).1 (wanted_le fun hu => hc (.inr hu))

end Node

namespace Resource

variable {r : Resource} {need : Node}

theorem slots_cluster (c : Cluster) (need : Node) : (cluster c).slots need =
    (c.member.slots need).map fun n => if 0 < n then min (c.taskLimit.toNat * c.size.toNat) word32Max else 0 := by
  change c.slots need = _
  unfold Cluster.slots Node.canHost
  cases c.member.slots need with
  | error e => rfl
  | ok n => by_cases h : 0 < n <;> simp [h, Except.map, bind, Except.bind, pure, Except.pure]

theorem canHost_eq_map (r : Resource) (need : Node) :
    r.canHost need = (r.slots need).map fun n => decide (0 < n) := by
  unfold canHost
  cases r.slots need <;> rfl

theorem slots_eq_error_iff_perNode {e : Overflow} : r.slots need = .error e ↔ r.perNode.slots need = .error e := by
  cases r with
  | node n => exact Iff.rfl
  | cluster c =>
    rw [slots_cluster]
    change _ ↔ c.member.slots need = _
    cases c.member.slots need <;> simp [Except.map]

theorem canHost_eq_error_iff {e : Overflow} : r.canHost need = .error e ↔ r.slots need = .error e := by
  rw [canHost_eq_map]
  cases r.slots need <;> simp [Except.map]

theorem slotsIn_checked (r : Resource) (need : Node) :
    r.slotsIn .checked need = (r.slots need).mapError .overflow := by
  cases r with
  | node n => exact Node.slotsIn_checked n need
  | cluster c =>
    rw [slots_cluster, slotsIn, Node.slotsIn_checked]
    cases c.member.slots need with
    | error e => rfl
    | ok n =>
      by_cases h : 0 < n <;>
        simp [h, Arithmetic.checked, Except.map, Except.mapError, bind, Except.bind, pure, Except.pure]

theorem slots_le {n : Nat} (h : r.slots need = .ok n) : n ≤ word32Max := by
  cases r with
  | node c => exact Node.slots_le h
  | cluster c =>
    rw [slots_cluster] at h
    cases hs : c.member.slots need with
    | error e => simp [hs, Except.map] at h
    | ok k =>
      obtain rfl : (if 0 < k then min (c.taskLimit.toNat * c.size.toNat) word32Max else 0) = n := by
        simpa [hs, Except.map] using h
      split
      · exact Nat.min_le_right ..
      · exact Nat.zero_le _

theorem slotsIn_of_lt {m : Type → Type} [Monad m] [LawfulMonad m] (a : Arithmetic m)
    (h : r.perNode.memory < need.memory) : r.slotsIn a need = pure 0 := by
  cases r with
  | node n => exact Node.slotsIn_of_lt a h
  | cluster c =>
    have hmember : c.member.slotsIn a need = pure 0 := Node.slotsIn_of_lt a h
    rw [slotsIn, hmember, pure_bind, if_neg (Nat.lt_irrefl 0)]

theorem slots_of_lt (h : r.perNode.memory < need.memory) : r.slots need = .ok 0 := by
  cases r with
  | node n => exact Node.slots_of_lt h
  | cluster c =>
    have hmember : c.member.slots need = .ok 0 := Node.slots_of_lt h
    rw [slots_cluster, hmember]
    rfl

/-- The number of slots overflows exactly where a total that is looked at passes the limit; where the memory does
not do, no total is looked at. -/
theorem slots_overflow_iff (r : Resource) (need : Node) :
    (r.perNode.memory < need.memory →
      (∀ (m : Type → Type) [Monad m] [LawfulMonad m] (a : Arithmetic m), r.slotsIn a need = pure 0) ∧
        r.slots need = .ok 0 ∧ r.canHost need = .ok false) ∧
      (¬ r.perNode.memory < need.memory →
        (r.slots need = .error .addition ↔
          (∃ kind ∈ ProcessorKind.counted, word32Max < need.units kind) ∨
            (∃ kind ∈ ProcessorKind.counted, 0 < need.units kind ∧ word32Max < r.perNode.units kind) ∨
            (word32Max < r.perNode.units .cpu ∧
              (IsLeast (r.perNode.quotients need) word32Max ∨ ¬ need.AsksForUnits)))) ∧
      (r.canHost need = .error .addition ↔ r.slots need = .error .addition) ∧
      r.slotsIn .checked need = (r.slots need).mapError .overflow ∧
      (∀ n, r.slots need = .ok n → n ≤ word32Max) := by
  refine ⟨fun h => ⟨fun m _ _ a => slotsIn_of_lt a h, slots_of_lt h, ?_⟩, fun h => ?_, canHost_eq_error_iff,
    slotsIn_checked r need, fun n => slots_le⟩
  · rw [canHost_eq_map, slots_of_lt h]
    rfl
  · rw [slots_eq_error_iff_perNode]
    exact Node.slots_eq_error_iff h

/-- As many GPU units as can be counted serve so many tasks that the CPU units are looked at, and these are too
many. No one looks at them where the memory does not do. -/
theorem slots_overflow_iff_cpus_looked_at :
    let member : Node := ⟨[.gpu 4294967295, .cpu 4294967295, .cpu 1], 0⟩
    let r : Resource := .cluster ⟨member, 2, 3⟩
    let need : Node := ⟨[.gpu 1], 0⟩
    let larger : Node := ⟨[.gpu 1], 1⟩
    ¬ member.memory < need.memory ∧ IsLeast (member.quotients need) 4294967295 ∧ r.slots need = .error .addition ∧
      member.memory < larger.memory ∧ r.slotsIn .checked larger = .ok 0 ∧ r.slots larger = .ok 0 := by
  intro member r need larger
  have hneed : ¬ member.memory < need.memory := by decide
  have hlarger : member.memory < larger.memory := by decide
  have hleast : IsLeast (member.quotients need) 4294967295 := by
    refine ⟨⟨.gpu, by decide⟩, ?_⟩
    rintro q ⟨kind, -, hpos, rfl⟩
    cases kind <;> revert hpos <;> decide
  obtain ⟨-, hiff, -⟩ := slots_overflow_iff r need
  obtain ⟨hzero, -⟩ := slots_overflow_iff r larger
  obtain ⟨hsteps, hslots, -⟩ := hzero hlarger
  exact ⟨hneed, hleast, (hiff hneed).2 (.inr (.inr ⟨by decide, .inl hleast⟩)), hlarger, hsteps _ .checked, hslots⟩

end Resource

end TaskCoordination
