import TaskCoordination.Proofs.Directory.Step

/-!
# The pending gauges of a directory

Only the opening and the closing of an attempt change a pending gauge (`pending?_attemptOpened`,
`pending?_attemptClosed`). All other actions keep it, or cover a core element that was not covered, with its gauge at
zero (`keepsPending_act`), unless they drop the blocks of the table first (`zeroPending_act`).
-/

namespace TaskCoordination

namespace TableAction

/-- The actions that open or close an attempt. -/
def isAttempt : TableAction → Bool
  | attemptOpened _ | attemptClosed _ => true
  | _ => false

end TableAction

namespace DirectoryAction

def isAttempt : DirectoryAction → Bool
  | table a => a.isAttempt
  | _ => false

/-- Whether the blocks of the table are dropped; a reset leaves a table alone that nothing is announced to. -/
def clears (announces : Bool) : DirectoryAction → Bool
  | reset => announces
  | table .clear => true
  | _ => false

end DirectoryAction

namespace Telemetry

variable {t t' t'' : Telemetry}

/-- The pending gauge of a core element that the table covers. -/
def pending? (t : Telemetry) (core : CoreId) : Option Nat :=
  t.gauge? core .pending

theorem pending?_eq (t : Telemetry) (core : CoreId) :
    t.pending? core = (t.blocks[core.index]?).map GaugeBlock.pending := rfl

theorem pending?_update (t : Telemetry) (core : CoreId) (f : GaugeBlock → GaugeBlock) (g : Nat → Nat)
    (hf : ∀ b : GaugeBlock, (f b).pending = g b.pending) (c : CoreId) :
    (t.update core f).pending? c = (t.pending? c).map fun n => if c = core then g n else n := by
  rw [pending?_eq, pending?_eq, update, List.getElem?_modify]
  cases t.blocks[c.index]? with
  | none => rfl
  | some b =>
    by_cases hc : c = core
    · subst hc
      simp [hf]
    · have hi : core.index ≠ c.index := fun hi => hc (congrArg CoreId.mk hi.symm)
      simp [hc, hi]

theorem pending?_attemptOpened (t : Telemetry) (core c : CoreId) :
    (t.attemptOpened core).pending? c = (t.pending? c).map fun n => if c = core then n + 1 else n :=
  t.pending?_update core GaugeBlock.opened (· + 1) (fun _ => rfl) c

theorem pending?_attemptClosed (t : Telemetry) (core c : CoreId) :
    (t.attemptClosed core).pending? c = (t.pending? c).map fun n => if c = core then n - 1 else n :=
  t.pending?_update core GaugeBlock.closed (· - 1) (fun _ => rfl) c

private theorem pending?_update_of_eq (core : CoreId) {f : GaugeBlock → GaugeBlock}
    (hf : ∀ b : GaugeBlock, (f b).pending = b.pending) (c : CoreId) :
    (t.update core f).pending? c = t.pending? c := by
  rw [pending?_update t core f id hf]
  cases t.pending? c <;> simp

theorem pending?_executionSucceeded (t : Telemetry) (core : CoreId) (profile : Option Profile) (c : CoreId) :
    (t.executionSucceeded core profile).pending? c = t.pending? c := by
  cases profile with
  | none => rfl
  | some p => exact pending?_update_of_eq core (f := fun b => b.withProfile p) (fun _ => rfl) c

/-! ### Tables that keep their pending gauges -/

/-- The pending gauges are the same, but for core elements that were not covered and start at zero. -/
def KeepsPending (t t' : Telemetry) : Prop :=
  ∀ c, t'.pending? c = t.pending? c ∨ (t.pending? c = none ∧ t'.pending? c = some 0)

/-- The pending gauges are at zero. -/
def ZeroPending (t : Telemetry) : Prop :=
  ∀ c n, t.pending? c = some n → n = 0

theorem KeepsPending.refl (t : Telemetry) : t.KeepsPending t :=
  fun _ => Or.inl rfl

theorem KeepsPending.trans (h : t.KeepsPending t') (h' : t'.KeepsPending t'') : t.KeepsPending t'' := by
  intro c
  rcases h' c with h' | ⟨hn, h'⟩
  · rw [h']
    exact h c
  · rcases h c with h | ⟨-, h⟩
    · exact Or.inr ⟨h ▸ hn, h'⟩
    · rw [h] at hn
      exact absurd hn (by simp)

theorem KeepsPending.zeroPending (h : t.KeepsPending t') (hz : t.ZeroPending) : t'.ZeroPending := by
  intro c n hn
  rcases h c with h | ⟨-, h⟩
  · exact hz c n (h ▸ hn)
  · rw [h] at hn
    exact (Option.some.inj hn).symm

/-- What is covered stays covered. -/
theorem KeepsPending.pending?_eq (h : t.KeepsPending t') {c : CoreId} {n : Nat} (hn : t.pending? c = some n) :
    t'.pending? c = some n := by
  rcases h c with h | ⟨h, -⟩
  · rw [h, hn]
  · rw [h] at hn
    exact absurd hn (by simp)

theorem keepsPending_growTo (t : Telemetry) (count : Nat) : t.KeepsPending (t.growTo count) := by
  intro c
  rw [pending?_eq, pending?_eq, growTo]
  by_cases hc : c.index < t.blocks.length
  · left
    rw [List.getElem?_append_left hc]
  · have hnone : t.blocks[c.index]? = none := List.getElem?_eq_none (by omega)
    rw [List.getElem?_append_right (by omega), List.getElem?_replicate, hnone]
    by_cases hn : c.index - t.blocks.length < count - t.size
    · simp [hn]
    · simp [hn]

theorem keepsPending_register (t : Telemetry) (core : CoreId) (label : String) :
    t.KeepsPending (t.register core label) := by
  intro c
  rw [register, pending?_update_of_eq core (f := fun b => b.labelled label) (fun _ => rfl)]
  exact t.keepsPending_growTo (core.index + 1) c

theorem keepsPending_describeNode (t : Telemetry) (node : Resource) :
    t.KeepsPending (t.act (.describeNode node)) := by
  intro c
  left
  cases h : t.describeNode node with
  | error e => rw [act_describeNode_of_error h]
  | ok t' => rw [act_describeNode_of_ok h, pending?_eq, pending?_eq, blocks_describeNode h]

theorem zeroPending_clear (t : Telemetry) : t.clear.ZeroPending := by
  intro c n hn
  simp [pending?_eq, clear] at hn

theorem keepsPending_act (t : Telemetry) {a : TableAction} (ha : a.isAttempt = false) (hc : a ≠ .clear) :
    t.KeepsPending (t.act a) := by
  cases a with
  | grow count => exact t.keepsPending_growTo count
  | register core label => exact t.keepsPending_register core label
  | executionSucceeded core profile => exact fun c => Or.inl (t.pending?_executionSucceeded core profile c)
  | describeNode node => exact t.keepsPending_describeNode node
  | attemptOpened | attemptClosed => exact absurd ha (by simp [TableAction.isAttempt])
  | clear => exact absurd rfl hc

end Telemetry

namespace Directory

open Telemetry

variable {d : Directory}

theorem keepsPending_announce (t : Telemetry) (elements : List CoreElement) :
    t.KeepsPending (announce t elements) := by
  induction elements generalizing t with
  | nil => exact .refl t
  | cons e elements ih => exact (t.keepsPending_register e.id e.signature).trans (ih _)

private theorem keepsPending_adopt (d : Directory) (catalog : Catalog) :
    d.telemetry.KeepsPending (d.adopt catalog).telemetry := by
  cases h : d.announces with
  | false =>
    have ht : (d.adopt catalog).telemetry = d.telemetry := by simp [adopt, h]
    rw [ht]
    exact .refl _
  | true =>
    have ht : (d.adopt catalog).telemetry = announce d.telemetry (catalog.elements.drop d.catalog.size) := by
      simp [adopt, h]
    rw [ht]
    exact keepsPending_announce _ _

private theorem Step.keepsPending {d' : Directory} {a : DirectoryAction} (hs : Step d a d') (ha : a.isAttempt = false)
    (hc : a.clears d.announces = false) : d.telemetry.KeepsPending d'.telemetry := by
  cases hs with
  | asked => exact d.keepsPending_adopt _
  | refused => exact .refl _
  | reset =>
    have hn : d.announces = false := hc
    have hd : d.resetTelemetry = d := by simp [resetTelemetry, hn]
    rw [hd]
    exact .refl _
  | table b =>
    refine d.telemetry.keepsPending_act ha ?_
    rintro rfl
    exact absurd hc (by simp [DirectoryAction.clears])

theorem keepsPending_act (d : Directory) {a : DirectoryAction} (ha : a.isAttempt = false)
    (hc : a.clears d.announces = false) : d.telemetry.KeepsPending (d.act a).telemetry :=
  (d.step_act a).keepsPending ha hc

theorem zeroPending_act (d : Directory) {a : DirectoryAction} (hc : a.clears d.announces = true) :
    (d.act a).telemetry.ZeroPending := by
  cases a with
  | reset =>
    have hn : d.announces = true := hc
    have hd : (d.act .reset).telemetry = announce d.telemetry.clear d.catalog.elements := by
      simp [act, resetTelemetry, hn]
    rw [hd]
    exact (keepsPending_announce _ _).zeroPending d.telemetry.zeroPending_clear
  | table b =>
    cases b with
    | clear => exact d.telemetry.zeroPending_clear
    | _ => exact absurd hc (by simp [DirectoryAction.clears])
  | ask | describeMethod | describeService => exact absurd hc (by simp [DirectoryAction.clears])

end Directory

end TaskCoordination
