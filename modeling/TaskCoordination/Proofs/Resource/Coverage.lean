import Mathlib.Logic.Relation
import TaskCoordination.Proofs.Resource.Slots

/-!
# Who can host a task

A node covers requirements if it has the units of each kind that counts, and the memory, for one copy of them. This is
all that hosting asks of a node (`Node.canHost_eq`); a cluster must have a place for a task besides
(`Resource.canHost_eq`). Since both speak of totals only, it does not matter how a node is described
(`Node.Redescribes`), and more on the one side or less on the other does no harm (`Resource.Hosts.mono`).

A cluster that can host a task offers as many slots as its limits allow (`hosts_iff_covers`).
-/

namespace TaskCoordination

/-- A change to a list of processors that leaves the units of the kinds that count alone: another order, two
processors in place of one, another name or architecture, one more processor of a kind that does not count. -/
inductive Regrouping : List Processor → List Processor → Prop
  | reorder {ps qs : List Processor} (h : ps.Perm qs) : Regrouping ps qs
  | split {before after : List Processor} {whole part rest : Processor} (hpart : part.kind = whole.kind)
    (hrest : rest.kind = whole.kind) (hunits : part.units.toNat + rest.units.toNat = whole.units.toNat) :
    Regrouping (before ++ whole :: after) (before ++ part :: rest :: after)
  | rename {before after : List Processor} {p q : Processor} (hkind : p.kind = q.kind) (hunits : p.units = q.units) :
    Regrouping (before ++ p :: after) (before ++ q :: after)
  | other {before after : List Processor} {p : Processor} (hp : p.kind = .other) :
    Regrouping (before ++ after) (before ++ p :: after)

namespace Node

/-- The units of each kind that counts, and the memory, are at least those of `need`. -/
structure Covers (capacity need : Node) : Prop where
  units : ∀ kind ∈ ProcessorKind.counted, need.units kind ≤ capacity.units kind
  memory : need.memory ≤ capacity.memory

/-- Two descriptions of one node. Processors that are merged are those that were split, the other way round. -/
structure Redescribes (n n' : Node) : Prop where
  processors : Relation.EqvGen Regrouping n.processors n'.processors
  memory : n.memory = n'.memory

variable {capacity capacity' need need' n n' : Node}

/-! ### Coverage -/

theorem covers_iff : capacity.Covers need ↔
    (∀ kind ∈ ProcessorKind.counted, need.units kind ≤ capacity.units kind) ∧ need.memory ≤ capacity.memory :=
  ⟨fun h => ⟨h.units, h.memory⟩, fun h => ⟨h.1, h.2⟩⟩

instance (capacity need : Node) : Decidable (capacity.Covers need) :=
  decidable_of_iff _ covers_iff.symm

theorem covers_iff_fits_one : capacity.Covers need ↔ capacity.Fits need 1 := by
  simp only [covers_iff, UInt64.le_iff_toNat_le]
  exact ⟨fun h => ⟨fun kind hk => by simpa using h.1 kind hk, by simpa using h.2⟩,
    fun h => ⟨fun kind hk => by simpa using h.units kind hk, by simpa using h.memory⟩⟩

theorem Covers.refl (n : Node) : n.Covers n :=
  ⟨fun _ _ => Nat.le_refl _, UInt64.le_refl _⟩

theorem Covers.trans (h : n.Covers capacity) (h' : capacity.Covers need) : n.Covers need :=
  ⟨fun kind hk => Nat.le_trans (h'.units kind hk) (h.units kind hk), UInt64.le_trans h'.memory h.memory⟩

/-- The number that stands for no units asked for makes no difference to the first copy. -/
theorem one_le_wanted_iff : 1 ≤ capacity.wanted need ↔ 1 ≤ capacity.byUnits need := by
  unfold wanted
  split
  · next h =>
    rw [h]
    exact iff_of_true (Nat.le_max_right ..) (by decide)
  · exact Iff.rfl

theorem canHost_eq (hc : capacity.IsCountable) (hn : need.IsCountable) :
    capacity.canHost need = .ok (decide (capacity.Covers need)) := by
  have hiff : 0 < capacity.withinMemory need (capacity.wanted need) ↔ capacity.Covers need := by
    rw [← Nat.succ_le_iff, le_withinMemory_iff, one_le_wanted_iff, le_byUnits_iff, covers_iff_fits_one]
    exact ⟨fun h => ⟨h.1.2, h.2⟩, fun h => ⟨⟨by decide, h.units⟩, h.memory⟩⟩
  rw [canHost, slots_eq hc hn, ← decide_eq_decide.2 hiff]
  rfl

/-! ### Descriptions of the same node -/

private theorem units_regrouping {ps qs : List Processor} (h : Regrouping ps qs) {kind : ProcessorKind}
    (hk : kind ∈ ProcessorKind.counted) : units ⟨ps, 0⟩ kind = units ⟨qs, 0⟩ kind := by
  cases h with
  | reorder h => exact ((h.filter _).map _).sum_nat
  | @split before after whole part rest hpart hrest hunits =>
    by_cases hw : whole.kind = kind
    · simp [units, List.filter_append, hpart, hrest, hw, ← hunits, Nat.add_assoc]
    · simp [units, List.filter_append, hpart, hrest, hw]
  | @rename before after p q hkind hunits =>
    simp only [units, List.filter_append, List.filter_cons, hkind]
    split <;> simp [hunits]
  | @other before after p hp =>
    have hne : p.kind ≠ kind := by
      rintro rfl
      rw [hp] at hk
      exact absurd hk (by decide)
    simp [units, List.filter_append, hne]

private theorem units_eqvGen {ps qs : List Processor} (h : Relation.EqvGen Regrouping ps qs) {kind : ProcessorKind}
    (hk : kind ∈ ProcessorKind.counted) : units ⟨ps, 0⟩ kind = units ⟨qs, 0⟩ kind := by
  induction h with
  | rel _ _ h => exact units_regrouping h hk
  | refl => rfl
  | symm _ _ _ ih => exact ih.symm
  | trans _ _ _ _ _ ih ih' => exact ih.trans ih'

theorem Redescribes.units_eq (h : n.Redescribes n') {kind : ProcessorKind} (hk : kind ∈ ProcessorKind.counted) :
    n.units kind = n'.units kind :=
  units_eqvGen h.processors hk

theorem Redescribes.isCountable (h : n.Redescribes n') (hc : n.IsCountable) : n'.IsCountable := by
  intro kind hk
  rw [← h.units_eq hk]
  exact hc kind hk

theorem Redescribes.covers_iff (h : capacity.Redescribes capacity') (h' : need.Redescribes need') :
    capacity'.Covers need' ↔ capacity.Covers need := by
  rw [Node.covers_iff, Node.covers_iff, h.memory, h'.memory]
  refine and_congr_left fun _ => forall₂_congr fun kind hk => ?_
  rw [h.units_eq hk, h'.units_eq hk]

end Node

theorem Cluster.slots_eq {c : Cluster} {need : Node} (hc : c.member.IsCountable) (hn : need.IsCountable) :
    c.slots need = .ok (if c.member.Covers need then min (c.taskLimit.toNat * c.size.toNat) word32Max else 0) := by
  rw [slots, Node.canHost_eq hc hn]
  by_cases h : c.member.Covers need <;> simp [h, bind, Except.bind, pure, Except.pure]

namespace Resource

/-- The same resource, its nodes described by `n`. -/
def withNode (r : Resource) (n : Node) : Resource :=
  match r with
  | node _ => node n
  | cluster c => cluster { c with member := n }

/-- The nodes cover the requirements, and a cluster has a place for a task. -/
def Hosts (r : Resource) (need : Node) : Prop :=
  match r with
  | node n => n.Covers need
  | cluster c => c.member.Covers need ∧ 0 < c.taskLimit ∧ 0 < c.size

instance (r : Resource) (need : Node) : Decidable (r.Hosts need) := by
  cases r <;> unfold Hosts <;> infer_instance

variable {r : Resource} {need need' n : Node}

theorem perNode_withNode (r : Resource) (n : Node) : (r.withNode n).perNode = n := by
  cases r <;> rfl

theorem withNode_perNode (r : Resource) : r.withNode r.perNode = r := by
  cases r <;> rfl

theorem hosts_withNode (h : n.Covers need ↔ r.perNode.Covers need') : (r.withNode n).Hosts need ↔ r.Hosts need' := by
  cases r with
  | node => exact h
  | cluster => exact and_congr_left fun _ => h

theorem Hosts.covers (h : r.Hosts need) : r.perNode.Covers need := by
  cases r with
  | node => exact h
  | cluster => exact h.1

/-- More on the side of the resource, or less on that of the task. -/
theorem Hosts.mono (h : r.Hosts need) (hn : n.Covers r.perNode) (hneed : need.Covers need') :
    (r.withNode n).Hosts need' :=
  (hosts_withNode (iff_of_true ((hn.trans h.covers).trans hneed) h.covers)).2 h

private theorem min_mul_pos_iff {limit size : UInt32} :
    0 < min (limit.toNat * size.toNat) word32Max ↔ 0 < limit ∧ 0 < size := by
  simp [UInt32.lt_iff_toNat_lt, Nat.pos_iff_ne_zero]

theorem canHost_eq (hc : r.perNode.IsCountable) (hn : need.IsCountable) :
    r.canHost need = .ok (decide (r.Hosts need)) := by
  cases r with
  | node n => exact Node.canHost_eq hc hn
  | cluster c =>
    have hslots : (cluster c).slots need = _ := Cluster.slots_eq hc hn
    have hiff : (0 < if c.member.Covers need then min (c.taskLimit.toNat * c.size.toNat) word32Max else 0) ↔
        (cluster c).Hosts need := by
      split
      · next h => rw [min_mul_pos_iff]; exact (and_iff_right h).symm
      · next h => exact iff_of_false (Nat.lt_irrefl 0) fun hh => h hh.1
    rw [canHost, hslots, ← decide_eq_decide.2 hiff]
    rfl

/-- Hosting is coverage, and for a cluster a place for a task besides. It is the same for all descriptions of a
resource, and no task is lost by more units or by asking for less. -/
theorem hosts_iff_covers (r : Resource) (need : Node) (hc : r.perNode.IsCountable) (hn : need.IsCountable) :
    (∃ b, r.canHost need = .ok b) ∧
      (r.perNode.canHost need = .ok true ↔ r.perNode.Covers need) ∧
      (∀ n, r = .node n → (r.canHost need = .ok true ↔ n.canHost need = .ok true)) ∧
      (∀ c, r = .cluster c →
        (r.canHost need = .ok true ↔ c.member.canHost need = .ok true ∧ 0 < c.taskLimit ∧ 0 < c.size) ∧
        (r.canHost need = .ok true → r.slots need = .ok (min (c.taskLimit.toNat * c.size.toNat) word32Max))) ∧
      (∀ n need', r.perNode.Redescribes n → need.Redescribes need' →
        (r.withNode n).canHost need' = r.canHost need) ∧
      (∀ n, n.IsCountable → n.Covers r.perNode → r.canHost need = .ok true →
        (r.withNode n).canHost need = .ok true) ∧
      (∀ need', need'.IsCountable → need'.Covers need → r.canHost need = .ok false →
        r.canHost need' = .ok false) := by
  have hnode : r.perNode.canHost need = .ok true ↔ r.perNode.Covers need := by
    rw [Node.canHost_eq hc hn]
    simp
  have hr : ∀ {need' : Node}, need'.IsCountable → (r.canHost need' = .ok true ↔ r.Hosts need') := by
    intro need' hn'
    rw [canHost_eq hc hn']
    simp
  refine ⟨⟨_, canHost_eq hc hn⟩, hnode, ?_, ?_, ?_, ?_, ?_⟩
  · rintro n rfl
    exact Iff.rfl
  · rintro c rfl
    rw [hr hn]
    refine ⟨and_congr_left fun _ => hnode.symm, fun h => ?_⟩
    have hcovers : c.member.Covers need := h.covers
    have hslots : (cluster c).slots need = _ := Cluster.slots_eq hc hn
    rw [hslots, if_pos hcovers]
  · intro n need' hd hd'
    have hiff : (r.withNode n).Hosts need' ↔ r.Hosts need := hosts_withNode (hd.covers_iff hd')
    rw [canHost_eq hc hn, canHost_eq (by rw [perNode_withNode]; exact hd.isCountable hc) (hd'.isCountable hn),
      decide_eq_decide.2 hiff]
  · intro n hcn hcovers h
    have hhosts : (r.withNode n).Hosts need := ((hr hn).1 h).mono hcovers (.refl need)
    rw [canHost_eq (by rwa [perNode_withNode]) hn, decide_eq_true hhosts]
  · intro need' hn' hcovers h
    have hnot : ¬ r.Hosts need := by
      rw [← hr hn, h]
      simp
    have hnot' : ¬ r.Hosts need' := by
      intro h'
      have hhosts := h'.mono (.refl r.perNode) hcovers
      rw [withNode_perNode] at hhosts
      exact hnot hhosts
    rw [canHost_eq hc hn', decide_eq_false hnot']

/-- A cluster of six places. Its two CPUs of two units each are enough for a task of four, and for none of five; they
may as well be given as one of four, after the GPU. -/
theorem hosts_iff_covers_merged_and_larger :
    let member : Node := ⟨[.cpu 2, .gpu 1, .cpu 2], 8⟩
    let merged : Node := ⟨[.gpu 1, .cpu 4], 8⟩
    let r : Resource := .cluster ⟨member, 3, 2⟩
    let need : Node := ⟨[.cpu 4], 8⟩
    let larger : Node := ⟨[.cpu 5], 8⟩
    member.IsCountable ∧ need.IsCountable ∧ r.canHost need = .ok true ∧ r.slots need = .ok 6 ∧
      member.Redescribes merged ∧ (r.withNode merged).canHost need = .ok true ∧
      Node.Covers ⟨[.cpu 4, .gpu 1], 16⟩ member ∧ (r.withNode ⟨[.cpu 4, .gpu 1], 16⟩).canHost need = .ok true ∧
      Node.Covers ⟨[.cpu 5, .gpu 1], 8⟩ larger ∧ r.canHost larger = .ok false ∧
      r.canHost ⟨[.cpu 5, .gpu 1], 8⟩ = .ok false := by
  intro member merged r need larger
  have hc : member.IsCountable := by unfold Node.IsCountable; decide
  have hn : need.IsCountable := by unfold Node.IsCountable; decide
  have hl : larger.IsCountable := by unfold Node.IsCountable; decide
  have hsplit : Regrouping merged.processors [.gpu 1, .cpu 2, .cpu 2] :=
    @Regrouping.split [.gpu 1] [] (.cpu 4) (.cpu 2) (.cpu 2) rfl rfl rfl
  have hmerged : member.Redescribes merged :=
    ⟨.trans _ _ _ (.rel _ _ (.reorder (by decide))) (.symm _ _ (.rel _ _ hsplit)), rfl⟩
  obtain ⟨-, -, -, hcluster, hredescribe, hmore, -⟩ := hosts_iff_covers r need hc hn
  obtain ⟨-, -, -, -, -, -, hless⟩ := hosts_iff_covers r larger hc hl
  have hhosts : r.canHost need = .ok true := by decide
  refine ⟨hc, hn, hhosts, (hcluster _ rfl).2 hhosts, hmerged, ?_, by decide, ?_, by decide, by decide, ?_⟩
  · exact (hredescribe merged need hmerged ⟨.refl _, rfl⟩).trans hhosts
  · exact hmore ⟨[.cpu 4, .gpu 1], 16⟩ (by unfold Node.IsCountable; decide) (by decide) hhosts
  · exact hless ⟨[.cpu 5, .gpu 1], 8⟩ (by unfold Node.IsCountable; decide) (by decide) (by decide)

end Resource

end TaskCoordination
