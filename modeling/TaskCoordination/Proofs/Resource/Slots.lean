import Mathlib.Order.Bounds.Basic
import TaskCoordination.Proofs.Number
import TaskCoordination.Resource.Capacity

/-!
# The number of slots

Requirements fit into a capacity some number of times at once if the units of each kind that counts, and the memory,
are enough for so many copies (`Fits`). The units alone admit the smallest of their quotients (`le_byUnits_iff`), and
the memory lowers any number to what it has room for (`le_withinMemory_iff`), so the largest number that fits is what
the memory leaves of the smallest quotient (`isGreatest_fitting`).

This is the number of slots, but for one case. The largest 32-bit number stands for requirements that ask for no
units; where the units are enough for as many copies as that, the number of slots is lowered to that of the CPU
units all the same (`slots_largest`, `slots_below_greatest`).

Where no units are asked for, it is the number of CPU units, or one, as far as the memory has room for it.
-/

namespace TaskCoordination

/-- The kinds of processor that limit the number of slots. -/
def ProcessorKind.counted : List ProcessorKind :=
  [.cpu, .gpu, .fpga]

namespace Node

/-- All units of one kind, whatever their number. -/
def units (n : Node) (kind : ProcessorKind) : Nat :=
  ((n.processors.filter fun p => p.kind = kind).map fun p => p.units.toNat).sum

/-- The units of each kind that counts are a 32-bit number. -/
def IsCountable (n : Node) : Prop :=
  ∀ kind ∈ ProcessorKind.counted, n.units kind ≤ word32Max

/-- A unit at least of some kind that counts. -/
def AsksForUnits (need : Node) : Prop :=
  ∃ kind ∈ ProcessorKind.counted, 0 < need.units kind

/-- The units are enough for so many copies. -/
def HasUnitsFor (capacity need : Node) (copies : Nat) : Prop :=
  ∀ kind ∈ ProcessorKind.counted, copies * need.units kind ≤ capacity.units kind

/-- So many copies of the requirements fit into the capacity at once. -/
structure Fits (capacity need : Node) (copies : Nat) : Prop where
  units : capacity.HasUnitsFor need copies
  memory : copies * need.memory.toNat ≤ capacity.memory.toNat

/-- The 32-bit numbers of copies that fit. -/
def fitting (capacity need : Node) : Set Nat :=
  {copies | copies ≤ word32Max ∧ capacity.Fits need copies}

variable {capacity need : Node} {copies : Nat}

/-! ### Units -/

theorem unitsOf_eq (n : Node) (kind : ProcessorKind) :
    n.unitsOf kind = if n.units kind ≤ word32Max then .ok (n.units kind) else .error .addition :=
  sumWithin_eq word32Max _

theorem unitsOf_of_le {n : Node} {kind : ProcessorKind} (h : n.units kind ≤ word32Max) :
    n.unitsOf kind = .ok (n.units kind) := by
  rw [unitsOf_eq, if_pos h]

/-- The smaller of `slots` and the number of copies that the units of one kind can serve. -/
def narrowed (capacity need : Node) (slots : Nat) (kind : ProcessorKind) : Nat :=
  if need.units kind = 0 then slots else min slots (capacity.units kind / need.units kind)

theorem le_narrowed_iff {slots : Nat} {kind : ProcessorKind} :
    copies ≤ capacity.narrowed need slots kind ↔
      copies ≤ slots ∧ copies * need.units kind ≤ capacity.units kind := by
  unfold narrowed
  split
  · next h => simp [h]
  · next h => rw [Nat.le_min, Nat.le_div_iff_mul_le (Nat.pos_of_ne_zero h)]

/-- A sum of one kind that the number of slots rests on passes the limit; the capacity is added up only for a kind
that is asked for. -/
def Exceeds (capacity need : Node) (kind : ProcessorKind) : Prop :=
  word32Max < need.units kind ∨ (0 < need.units kind ∧ word32Max < capacity.units kind)

instance (capacity need : Node) (kind : ProcessorKind) : Decidable (capacity.Exceeds need kind) :=
  inferInstanceAs (Decidable (_ ∨ _))

theorem not_exceeds {kind : ProcessorKind} (hc : capacity.units kind ≤ word32Max) (hn : need.units kind ≤ word32Max) :
    ¬ capacity.Exceeds need kind := by
  unfold Exceeds
  omega

theorem narrow_eq (slots : Nat) (kind : ProcessorKind) : capacity.narrow need slots kind =
    if capacity.Exceeds need kind then .error .addition else .ok (capacity.narrowed need slots kind) := by
  unfold narrow narrowed Exceeds
  rw [unitsOf_eq, unitsOf_eq]
  by_cases hn : need.units kind ≤ word32Max
  · by_cases h0 : need.units kind = 0
    · simp [h0, bind, Except.bind, pure, Except.pure]
    · have hpos : 0 < need.units kind := Nat.pos_of_ne_zero h0
      by_cases hc : capacity.units kind ≤ word32Max
      · simp [hn, h0, hc, Nat.not_lt.2 hn, Nat.not_lt.2 hc, bind, Except.bind, pure, Except.pure]
      · simp [hn, h0, hpos, hc, Nat.not_le.1 hc, bind, Except.bind]
  · simp [hn, Nat.not_le.1 hn, bind, Except.bind]

theorem foldlM_narrow_eq (kinds : List ProcessorKind) (slots : Nat) : kinds.foldlM (capacity.narrow need) slots =
    if ∃ kind ∈ kinds, capacity.Exceeds need kind then .error .addition
      else .ok (kinds.foldl (capacity.narrowed need) slots) := by
  induction kinds generalizing slots with
  | nil => rfl
  | cons kind kinds ih =>
    rw [List.foldlM_cons, narrow_eq, List.foldl_cons]
    by_cases h : capacity.Exceeds need kind
    · simp [h, bind, Except.bind]
    · have hiff : (∃ k ∈ kind :: kinds, capacity.Exceeds need k) ↔ ∃ k ∈ kinds, capacity.Exceeds need k := by simp [h]
      simp only [h, if_false, hiff]
      exact ih _

theorem le_foldl_narrowed_iff {kinds : List ProcessorKind} {slots : Nat} :
    copies ≤ kinds.foldl (capacity.narrowed need) slots ↔
      copies ≤ slots ∧ ∀ kind ∈ kinds, copies * need.units kind ≤ capacity.units kind := by
  induction kinds generalizing slots with
  | nil => simp
  | cons kind kinds ih => rw [List.foldl_cons, ih, le_narrowed_iff, List.forall_mem_cons, and_assoc]

/-- The largest 32-bit number of copies that the units are enough for. -/
def byUnits (capacity need : Node) : Nat :=
  ProcessorKind.counted.foldl (capacity.narrowed need) word32Max

theorem le_byUnits_iff : copies ≤ capacity.byUnits need ↔ copies ≤ word32Max ∧ capacity.HasUnitsFor need copies :=
  le_foldl_narrowed_iff

theorem byUnits_le (capacity need : Node) : capacity.byUnits need ≤ word32Max :=
  (le_byUnits_iff.1 (Nat.le_refl _)).1

theorem byUnits_eq_iff : capacity.byUnits need = word32Max ↔ capacity.HasUnitsFor need word32Max := by
  constructor
  · intro h
    exact (le_byUnits_iff.1 (Nat.le_of_eq h.symm)).2
  · intro h
    exact Nat.le_antisymm (byUnits_le capacity need) (le_byUnits_iff.2 ⟨Nat.le_refl _, h⟩)

/-! ### Memory -/

/-- What the memory leaves of a number of copies. -/
def withinMemory (capacity need : Node) (wanted : Nat) : Nat :=
  if need.memory = 0 then wanted else min wanted (capacity.memory.toNat / need.memory.toNat)

theorem le_withinMemory_iff {wanted : Nat} :
    copies ≤ capacity.withinMemory need wanted ↔
      copies ≤ wanted ∧ copies * need.memory.toNat ≤ capacity.memory.toNat := by
  unfold withinMemory
  split
  · next h => simp [h]
  · next h =>
    have hpos : 0 < need.memory.toNat := Nat.pos_of_ne_zero fun h0 => h (UInt64.toNat_inj.1 h0)
    rw [Nat.le_min, Nat.le_div_iff_mul_le hpos]

/-- A number that is lowered first is lowered no further. -/
theorem withinMemory_eq_min {wanted limit : Nat} (h : wanted ≤ limit) :
    capacity.withinMemory need wanted = min (capacity.withinMemory need limit) wanted := by
  apply eq_of_forall_le_iff
  intro copies
  rw [Nat.le_min, le_withinMemory_iff, le_withinMemory_iff]
  constructor
  · rintro ⟨hw, hm⟩
    exact ⟨⟨Nat.le_trans hw h, hm⟩, hw⟩
  · rintro ⟨⟨-, hm⟩, hw⟩
    exact ⟨hw, hm⟩

/-- Where a single copy has no room, none has. -/
theorem withinMemory_of_lt (h : capacity.memory < need.memory) (wanted : Nat) :
    capacity.withinMemory need wanted = 0 := by
  have hlt : capacity.memory.toNat < need.memory.toNat := UInt64.lt_iff_toNat_lt.1 h
  have hn : ¬ 1 ≤ capacity.withinMemory need wanted := by
    rw [le_withinMemory_iff]
    omega
  omega

/-! ### Slots -/

/-- How many copies are let in before the memory is looked at. -/
def wanted (capacity need : Node) : Nat :=
  if capacity.byUnits need = word32Max then max (capacity.units .cpu) 1 else capacity.byUnits need

/-- The number of slots in all cases. -/
theorem slots_eq_ite (capacity need : Node) : capacity.slots need =
    if capacity.memory < need.memory then .ok 0
    else if (∃ kind ∈ ProcessorKind.counted, capacity.Exceeds need kind) ∨
      (capacity.byUnits need = word32Max ∧ word32Max < capacity.units .cpu) then .error .addition
    else .ok (capacity.withinMemory need (capacity.wanted need)) := by
  have hunits : [ProcessorKind.cpu, .gpu, .fpga].foldlM (capacity.narrow need) word32Max =
      if ∃ kind ∈ ProcessorKind.counted, capacity.Exceeds need kind then .error .addition
      else .ok (capacity.byUnits need) := foldlM_narrow_eq _ word32Max
  unfold slots
  rw [hunits, unitsOf_eq, wanted, withinMemory]
  by_cases hm : capacity.memory < need.memory
  · simp [hm, pure, Except.pure]
  · by_cases he : ∃ kind ∈ ProcessorKind.counted, capacity.Exceeds need kind
    · simp [hm, he, bind, Except.bind]
    · by_cases hu : capacity.byUnits need = word32Max
      · by_cases hc : capacity.units .cpu ≤ word32Max
        · by_cases hz : need.memory = 0 <;>
            simp [hm, he, hu, hc, hz, Nat.not_lt.2 hc, bind, Except.bind, pure, Except.pure, Functor.map, Except.map]
        · simp [hm, he, hu, hc, Nat.not_le.1 hc, bind, Except.bind, Functor.map, Except.map]
      · by_cases hz : need.memory = 0 <;> simp [hm, he, hu, hz, bind, Except.bind, pure, Except.pure]

theorem slots_eq (hc : capacity.IsCountable) (hn : need.IsCountable) :
    capacity.slots need = .ok (capacity.withinMemory need (capacity.wanted need)) := by
  have he : ¬ ∃ kind ∈ ProcessorKind.counted, capacity.Exceeds need kind := by
    rintro ⟨kind, hk, h⟩
    exact not_exceeds (hc kind hk) (hn kind hk) h
  have hcpu : ¬ word32Max < capacity.units .cpu := Nat.not_lt.2 (hc .cpu (by decide))
  rw [slots_eq_ite, if_neg (not_or.2 ⟨he, fun h => hcpu h.2⟩)]
  split
  · next hm => rw [withinMemory_of_lt hm]
  · rfl

theorem isGreatest_fitting (capacity need : Node) :
    IsGreatest (capacity.fitting need) (capacity.withinMemory need (capacity.byUnits need)) := by
  have hiff : ∀ copies, copies ∈ capacity.fitting need ↔
      copies ≤ capacity.withinMemory need (capacity.byUnits need) := by
    intro copies
    rw [le_withinMemory_iff, le_byUnits_iff, and_assoc]
    exact and_congr_right fun _ => ⟨fun h => ⟨h.units, h.memory⟩, fun h => ⟨h.1, h.2⟩⟩
  exact ⟨(hiff _).2 (Nat.le_refl _), fun copies h => (hiff copies).1 h⟩

/-- Requirements that ask for no units have the units for any number of copies. -/
theorem hasUnitsFor_of_not_asks (h : ¬ need.AsksForUnits) (copies : Nat) : capacity.HasUnitsFor need copies := by
  intro kind hk
  have hz : need.units kind = 0 := Nat.eq_zero_of_not_pos fun hpos => h ⟨kind, hk, hpos⟩
  rw [hz, Nat.mul_zero]
  exact Nat.zero_le _

/-- The number of slots is the greatest number of copies that fit, unless the units are enough for every 32-bit
number of them or none are asked for: then the CPU units bound it. -/
theorem slots_largest (capacity need : Node) (hc : capacity.IsCountable) (hn : need.IsCountable) :
    ∃ n, capacity.slots need = .ok n ∧
      (need.AsksForUnits → ¬ capacity.HasUnitsFor need word32Max → IsGreatest (capacity.fitting need) n) ∧
      (need.AsksForUnits → capacity.HasUnitsFor need word32Max →
        ∃ greatest, IsGreatest (capacity.fitting need) greatest ∧ n = min greatest (max (capacity.units .cpu) 1)) ∧
      (¬ need.AsksForUnits → n = if need.memory = 0 then max (capacity.units .cpu) 1 else
        min (max (capacity.units .cpu) 1) (capacity.memory.toNat / need.memory.toNat)) ∧
      (capacity.memory < need.memory → n = 0) := by
  have hgreatest := isGreatest_fitting capacity need
  refine ⟨_, slots_eq hc hn, ?_, ?_, ?_, fun hm => withinMemory_of_lt hm _⟩
  · intro _ hu
    rwa [wanted, if_neg (mt byUnits_eq_iff.1 hu)]
  · intro _ hu
    have hcpu : max (capacity.units .cpu) 1 ≤ word32Max := max_le (hc .cpu (by decide)) (by decide)
    rw [byUnits_eq_iff.2 hu] at hgreatest
    refine ⟨_, hgreatest, ?_⟩
    rw [wanted, if_pos (byUnits_eq_iff.2 hu)]
    exact withinMemory_eq_min hcpu
  · intro ha
    rw [wanted, if_pos (byUnits_eq_iff.2 (hasUnitsFor_of_not_asks ha _))]
    rfl

/-- Twelve CPU units of two processors serve four copies, and two GPU units two of them; the memory would have room
for three. -/
theorem slots_largest_two_of_four :
    let capacity : Node := ⟨[.cpu 8, .gpu 2, .cpu 4], 64000⟩
    let need : Node := ⟨[.cpu 3, .gpu 1], 20000⟩
    capacity.IsCountable ∧ need.IsCountable ∧ need.AsksForUnits ∧ ¬ capacity.HasUnitsFor need word32Max ∧
      capacity.slots need = .ok 2 ∧ IsGreatest (capacity.fitting need) 2 := by
  intro capacity need
  have hc : capacity.IsCountable := by unfold IsCountable; decide
  have hn : need.IsCountable := by unfold IsCountable; decide
  have ha : need.AsksForUnits := ⟨.cpu, by decide, by decide⟩
  have hu : ¬ capacity.HasUnitsFor need word32Max := by unfold HasUnitsFor; decide
  obtain ⟨n, hslots, hgreatest, -⟩ := slots_largest capacity need hc hn
  obtain rfl : 2 = n := Except.ok.inj ((show capacity.slots need = .ok 2 by decide).symm.trans hslots)
  exact ⟨hc, hn, ha, hu, hslots, hgreatest ha hu⟩

/-- A node with no CPU, and with as many GPU units as can be counted, has room for as many tasks that ask for one of
these units each. It gets a single slot. -/
theorem slots_below_greatest :
    let capacity : Node := ⟨[.gpu 4294967295], 0⟩
    let need : Node := ⟨[.gpu 1], 0⟩
    capacity.IsCountable ∧ need.IsCountable ∧ need.AsksForUnits ∧
      IsGreatest (capacity.fitting need) 4294967295 ∧ capacity.slots need = .ok 1 := by
  intro capacity need
  have hc : capacity.IsCountable := by unfold IsCountable; decide
  have hn : need.IsCountable := by unfold IsCountable; decide
  have hu : capacity.HasUnitsFor need 4294967295 := by unfold HasUnitsFor; decide
  refine ⟨hc, hn, ⟨.gpu, by decide, by decide⟩, ⟨⟨Nat.le_refl _, hu, by decide⟩, fun copies h => h.1⟩, by decide⟩

end Node

end TaskCoordination
