import Mathlib.Data.List.DropRight
import TaskCoordination.Proofs.Directory.Step
import TaskCoordination.Proofs.Number
import TaskCoordination.Snapshot

/-!
# The telemetry table against its history

A telemetry table is what its history says, core element by core element. Since the last clear it has as many blocks
as were asked for at most (`requested`), and a block shows what the calls for its core element come to that were
made since it was covered (`calls`, `expected`); nothing else matters to it. One action covers core elements and is
a call for one of them at most (`blocks_act`), which adds it to what the calls came to (`expected_concat`); from
that the table is read off the whole history (`blocks_run`). The gauge of the node shows the units that were
described last.
-/

namespace TaskCoordination

/-- The number of all units of the CPUs of a node. -/
def Resource.cpuTotal (r : Resource) : Nat :=
  ((r.perNode.processors.filter fun p => p.kind = .cpu).map fun p => p.units.toNat).sum

namespace TableAction

def isClear : TableAction → Bool
  | clear => true
  | _ => false

theorem eq_clear_of_isClear {a : TableAction} (h : a.isClear = true) : a = clear := by
  cases a with
  | clear => rfl
  | _ => exact absurd h Bool.false_ne_true

/-- How many core elements an action asks to be covered. -/
def asked : TableAction → Nat
  | grow count => count
  | register core _ => core.index + 1
  | _ => 0

/-- The core element that an action is for. -/
def core? : TableAction → Option CoreId
  | register core _ | attemptOpened core | attemptClosed core | executionSucceeded core _ => some core
  | grow _ | describeNode _ | clear => none

def isOpening : TableAction → Bool
  | attemptOpened _ => true
  | _ => false

def label? : TableAction → Option String
  | register _ label => some label
  | _ => none

def profile? : TableAction → Option Profile
  | executionSucceeded _ profile => profile
  | _ => none

def units? : TableAction → Option Nat
  | describeNode node => some node.cpuTotal
  | _ => none

/-- The history since the blocks were dropped last. -/
def sinceClear (as : List TableAction) : List TableAction :=
  as.rtakeWhile fun a => !a.isClear

def requested (as : List TableAction) : Nat :=
  (as.map asked).foldl max 0

/-- The actions for a core element since the first one that asked to cover it. -/
def calls (core : CoreId) (as : List TableAction) : List TableAction :=
  (as.dropWhile fun a => a.asked ≤ core.index).filter fun a => a.core? = some core

/-! ### What calls come to -/

def pending (calls : List TableAction) : Nat :=
  calls.foldl (fun n a => match a with
    | attemptOpened _ => n + 1
    | attemptClosed _ => n - 1
    | _ => n) 0

/-- A value of the last profile, as a gauge can show it. -/
def latest (value : Profile → Nat) (calls : List TableAction) : Nat :=
  ((calls.filterMap profile?).getLast?.map fun p => min (value p) gaugeMax).getD 0

def expected (calls : List TableAction) : GaugeBlock where
  label := (calls.filterMap label?).head?
  executed := latest Profile.count calls
  pending := pending calls
  least := latest Profile.least calls
  mean := latest Profile.mean calls
  greatest := latest Profile.greatest calls

/-- The units of the node that was described last. -/
def latestUnits (as : List TableAction) : Nat :=
  (as.filterMap units?).getLast?.getD 0

end TableAction

/-- A block after one call more. -/
def GaugeBlock.after (b : GaugeBlock) : TableAction → GaugeBlock
  | .register _ label => b.labelled label
  | .attemptOpened _ => b.opened
  | .attemptClosed _ => b.closed
  | .executionSucceeded _ (some profile) => b.withProfile profile
  | _ => b

namespace TableAction

/-! ### Histories with one action more -/

theorem sinceClear_concat (as : List TableAction) (a : TableAction) :
    sinceClear (as ++ [a]) = if a.isClear then [] else sinceClear as ++ [a] := by
  rw [sinceClear, List.rtakeWhile_concat]
  cases a.isClear <;> rfl

theorem requested_concat (as : List TableAction) (a : TableAction) :
    requested (as ++ [a]) = max (requested as) a.asked := by
  simp [requested]

theorem lt_requested_iff {as : List TableAction} {n : Nat} : n < requested as ↔ ∃ a ∈ as, n < a.asked := by
  induction as using List.reverseRecOn with
  | nil => simp [requested]
  | append_singleton as a ih =>
    have hmax : n < max (requested as) a.asked ↔ n < requested as ∨ n < a.asked := by omega
    rw [requested_concat, hmax, ih]
    simp [or_and_right, exists_or]

private theorem dropWhile_eq_nil_iff {core : CoreId} {as : List TableAction} :
    (as.dropWhile fun a => a.asked ≤ core.index) = [] ↔ ¬ core.index < requested as := by
  rw [List.dropWhile_eq_nil_iff, lt_requested_iff]
  simp

theorem calls_of_not_lt {core : CoreId} {as : List TableAction} (h : ¬ core.index < requested as) :
    calls core as = [] := by
  rw [calls, dropWhile_eq_nil_iff.2 h, List.filter_nil]

/-- Once a core element is covered all actions for it count. -/
theorem calls_concat {core : CoreId} {as : List TableAction} {a : TableAction}
    (h : core.index < requested (as ++ [a])) :
    calls core (as ++ [a]) = calls core as ++ if a.core? = some core then [a] else [] := by
  have hfilter : [a].filter (fun a => a.core? = some core) = if a.core? = some core then [a] else [] := by
    simp [List.filter_cons]
  rw [calls, calls, List.dropWhile_append, ← hfilter]
  by_cases hold : core.index < requested as
  · have hne : (as.dropWhile fun a => a.asked ≤ core.index) ≠ [] := fun hn => dropWhile_eq_nil_iff.1 hn hold
    rw [if_neg (by rwa [List.isEmpty_iff]), List.filter_append]
  · have hnew : core.index < a.asked := by
      rw [requested_concat] at h
      omega
    rw [dropWhile_eq_nil_iff.2 hold, List.isEmpty_nil, if_pos rfl, List.dropWhile_cons_of_neg (by simpa using hnew),
      List.filter_nil, List.nil_append]

private theorem calls_sublist (core : CoreId) (as : List TableAction) : (calls core (sinceClear as)).Sublist as :=
  List.filter_sublist.trans ((List.dropWhile_sublist _).trans (List.rtakeWhile_suffix _ as).sublist)

private theorem latest_concat (value : Profile → Nat) (cs : List TableAction) (a : TableAction) :
    latest value (cs ++ [a]) = match a.profile? with
      | some p => min (value p) gaugeMax
      | none => latest value cs := by
  rw [latest, List.filterMap_append, List.getLast?_append]
  cases h : a.profile? <;> simp [h, latest]

theorem expected_concat (cs : List TableAction) (a : TableAction) :
    expected (cs ++ [a]) = (expected cs).after a := by
  simp only [expected, latest_concat, List.filterMap_append, pending, List.foldl_concat]
  cases a with
  | register core label =>
    cases h : (cs.filterMap label?).head? <;>
      simp [label?, profile?, GaugeBlock.after, GaugeBlock.labelled, h]
  | attemptOpened core => simp [label?, profile?, GaugeBlock.after, GaugeBlock.opened]
  | attemptClosed core => simp [label?, profile?, GaugeBlock.after, GaugeBlock.closed]
  | executionSucceeded core profile =>
    cases profile <;> simp [label?, profile?, GaugeBlock.after, GaugeBlock.withProfile]
  | grow | describeNode | clear => simp [label?, profile?, GaugeBlock.after]

theorem latestUnits_concat (as : List TableAction) (a : TableAction) :
    latestUnits (as ++ [a]) = a.units?.getD (latestUnits as) := by
  rw [latestUnits, List.filterMap_append, List.getLast?_append]
  cases h : a.units? <;> simp [h, latestUnits]

/-! ### Readings that a gauge can show -/

private theorem pending_le (cs : List TableAction) : pending cs ≤ cs.countP isOpening := by
  induction cs using List.reverseRecOn with
  | nil => exact Nat.zero_le 0
  | append_singleton cs a ih =>
    rw [pending, List.foldl_concat, ← pending, List.countP_append]
    cases a <;> simp [isOpening] <;> omega

private theorem latest_le (value : Profile → Nat) (cs : List TableAction) : latest value cs ≤ gaugeMax := by
  rw [latest]
  cases (cs.filterMap profile?).getLast? with
  | none => exact Nat.zero_le _
  | some p => exact Nat.min_le_right _ _

theorem get_expected_le {cs : List TableAction} (h : cs.countP isOpening ≤ gaugeMax) (gauge : Gauge) :
    (expected cs).get gauge ≤ gaugeMax := by
  cases gauge with
  | pending => exact Nat.le_trans (pending_le cs) h
  | _ => exact latest_le _ cs

end TableAction

namespace Telemetry

open TableAction

def run (t : Telemetry) (as : List TableAction) : Telemetry :=
  as.foldl act t

theorem run_concat (t : Telemetry) (as : List TableAction) (a : TableAction) :
    t.run (as ++ [a]) = (t.run as).act a :=
  List.foldl_concat ..

/-- The block of a core element, or else the one that it would get. -/
def block (t : Telemetry) (core : CoreId) : GaugeBlock :=
  (t.block? core).getD {}

theorem block_of_not_lt {t : Telemetry} {core : CoreId} (h : ¬ core.index < t.size) : t.block core = {} := by
  rw [block, block?, List.getElem?_eq_none (Nat.le_of_not_lt h), Option.getD_none]

theorem block?_eq (t : Telemetry) (core : CoreId) :
    t.block? core = if core.index < t.size then some (t.block core) else none := by
  by_cases h : core.index < t.size
  · have hb : t.block? core = some (t.blocks.get ⟨core.index, h⟩) := List.getElem?_eq_getElem h
    rw [if_pos h, block, hb, Option.getD_some]
  · rw [if_neg h]
    exact List.getElem?_eq_none (Nat.le_of_not_lt h)

/-! ### What an action does to one block -/

theorem block_growTo (t : Telemetry) (count : Nat) (core : CoreId) : (t.growTo count).block core = t.block core := by
  by_cases h : core.index < t.size
  · rw [block, block, block?, growTo, List.getElem?_append_left h]
    rfl
  · rw [block_of_not_lt h, block, block?, growTo, List.getElem?_append_right (Nat.le_of_not_lt h),
      List.getElem?_replicate]
    split <;> rfl

theorem block_update {t : Telemetry} {core : CoreId} (h : core.index < t.size) (core' : CoreId)
    (f : GaugeBlock → GaugeBlock) :
    (t.update core' f).block core = if core' = core then f (t.block core) else t.block core := by
  have hb : t.block? core = some (t.block core) := by rw [block?_eq, if_pos h]
  have hindex : core'.index = core.index ↔ core' = core :=
    ⟨fun h => congrArg CoreId.mk h, congrArg CoreId.index⟩
  show ((t.blocks.modify core'.index f)[core.index]?).getD {} = _
  rw [List.getElem?_modify, show t.blocks[core.index]? = _ from hb]
  simp only [hindex]
  split <;> rfl

/-- The table after one call more for the core element of an action, if it covers that one. -/
def touch (t : Telemetry) (a : TableAction) : Telemetry :=
  match a.core? with
  | some core => t.update core fun b => b.after a
  | none => t

theorem size_touch (t : Telemetry) (a : TableAction) : (t.touch a).size = t.size := by
  unfold touch
  cases a.core? with
  | none => rfl
  | some core => exact t.size_update core _

theorem block_touch {t : Telemetry} {core : CoreId} (h : core.index < t.size) (a : TableAction) :
    (t.touch a).block core = if a.core? = some core then (t.block core).after a else t.block core := by
  unfold touch
  cases a.core? with
  | none => rfl
  | some core' =>
    simp only [Option.some.injEq]
    exact block_update h core' _

private theorem blocks_growTo_zero (t : Telemetry) : (t.growTo 0).blocks = t.blocks := by
  simp [growTo]

/-- Besides dropping all blocks, an action covers core elements and is a call for one of them at most. -/
theorem blocks_act (t : Telemetry) {a : TableAction} (h : a.isClear = false) :
    (t.act a).blocks = ((t.growTo a.asked).touch a).blocks := by
  cases a with
  | grow | register => rfl
  | attemptOpened core | attemptClosed core =>
    show t.blocks.modify core.index _ = (t.growTo 0).blocks.modify core.index _
    rw [blocks_growTo_zero]
    rfl
  | executionSucceeded core profile =>
    cases profile with
    | none =>
      show t.blocks = (t.growTo 0).blocks.modify core.index id
      rw [blocks_growTo_zero, List.modify_id]
    | some p =>
      show t.blocks.modify core.index _ = (t.growTo 0).blocks.modify core.index _
      rw [blocks_growTo_zero]
      rfl
  | describeNode node =>
    show _ = (t.growTo 0).blocks
    rw [blocks_growTo_zero]
    cases hn : t.describeNode node with
    | ok t' => rw [act_describeNode_of_ok hn, blocks_describeNode hn]
    | error e => rw [act_describeNode_of_error hn]
  | clear => exact absurd h (by decide)

theorem size_act (t : Telemetry) {a : TableAction} (h : a.isClear = false) :
    (t.act a).size = max t.size a.asked := by
  rw [size, blocks_act t h, ← size, size_touch, size_growTo]

theorem block_act (t : Telemetry) {a : TableAction} (h : a.isClear = false) {core : CoreId}
    (hcore : core.index < (t.act a).size) :
    (t.act a).block core = if a.core? = some core then (t.block core).after a else t.block core := by
  rw [size_act t h, ← size_growTo] at hcore
  rw [block, block?, blocks_act t h, ← block?, ← block, block_touch hcore, block_growTo]

/-! ### Runs -/

/-- The table has the blocks that were asked for, and each shows what its calls come to. -/
theorem blocks_run (as : List TableAction) :
    (empty.run as).size = requested (sinceClear as) ∧
      ∀ core, (empty.run as).block core = expected (calls core (sinceClear as)) := by
  induction as using List.reverseRecOn with
  | nil => exact ⟨rfl, fun core => block_of_not_lt (Nat.not_lt_zero _)⟩
  | append_singleton as a ih =>
    obtain ⟨hsize, hblock⟩ := ih
    rw [run_concat, sinceClear_concat]
    by_cases h : a.isClear = true
    · obtain rfl := eq_clear_of_isClear h
      exact ⟨rfl, fun core => block_of_not_lt (Nat.not_lt_zero _)⟩
    · have h : a.isClear = false := by simpa using h
      have hsize' : ((empty.run as).act a).size = requested (sinceClear as ++ [a]) := by
        rw [size_act _ h, hsize, requested_concat]
      rw [if_neg (by simp [h])]
      refine ⟨hsize', ?_⟩
      intro core
      by_cases hcore : core.index < requested (sinceClear as ++ [a])
      · rw [block_act _ h (by rwa [hsize']), hblock, calls_concat hcore]
        by_cases hfor : a.core? = some core
        · rw [if_pos hfor, if_pos hfor, expected_concat]
        · rw [if_neg hfor, if_neg hfor, List.append_nil]
      · rw [block_of_not_lt (by rwa [hsize']), calls_of_not_lt hcore]
        rfl

private theorem computingUnits_act (t : Telemetry) {a : TableAction} (h : ∀ n, a.units? = some n → n ≤ word32Max) :
    (t.act a).computingUnits = a.units?.getD t.computingUnits := by
  cases a with
  | describeNode node =>
    have hn : t.describeNode node = .ok { t with computingUnits := node.cpuTotal } := by
      rw [describeNode, Resource.cpuUnits, Node.unitsOf, sumWithin_eq, ← Resource.cpuTotal, if_pos (h _ rfl)]
      rfl
    rw [act_describeNode_of_ok hn]
    rfl
  | executionSucceeded core profile => cases profile <;> rfl
  | _ => rfl

theorem computingUnits_run {as : List TableAction} (h : ∀ n ∈ as.filterMap units?, n ≤ word32Max) :
    (empty.run as).computingUnits = latestUnits as := by
  induction as using List.reverseRecOn with
  | nil => rfl
  | append_singleton as a ih =>
    rw [List.filterMap_append, List.forall_mem_append] at h
    rw [run_concat, computingUnits_act, ih h.1, latestUnits_concat]
    intro n hn
    exact h.2 n (by simp [hn])

private theorem snapshot_eq {t : Telemetry} (h : t.size ≤ word32Max + 1) :
    t.snapshot = ⟨t.computingUnits, (List.range t.size).map fun i => ⟨⟨i⟩, t.block ⟨i⟩⟩⟩ := by
  rw [snapshot, Snapshot.mk.injEq]
  refine ⟨rfl, List.ext_getElem? ?_⟩
  intro i
  rw [List.getElem?_mapIdx, List.getElem?_map]
  show (t.block? ⟨i⟩).map _ = _
  rw [block?_eq]
  by_cases hi : i < t.size
  · rw [if_pos hi, List.getElem?_range hi, Option.map_some, Option.map_some, CoreId.ofIndex,
      Nat.min_eq_left (by omega)]
  · rw [if_neg hi, List.getElem?_eq_none (by simpa using hi)]
    rfl

/-- A table after any actions is what they come to: its size, the entry and the gauges of each core element, and the
gauge of the node. Gauges stay within their range. -/
theorem run_eq_expected {as : List TableAction} (hasked : ∀ a ∈ as, a.asked ≤ word32Max + 1)
    (hunits : ∀ n ∈ as.filterMap units?, n ≤ word32Max) (hopen : as.countP isOpening ≤ gaugeMax) :
    let t := empty.run as
    let since := sinceClear as
    t.size = requested since ∧ t.computingUnits = latestUnits as ∧
      t.snapshot = ⟨latestUnits as, (List.range (requested since)).map fun i => ⟨⟨i⟩, expected (calls ⟨i⟩ since)⟩⟩ ∧
      (∀ core gauge, t.gauge? core gauge =
        if core.index < requested since then some ((expected (calls core since)).get gauge) else none) ∧
      ∀ core gauge n, t.gauge? core gauge = some n → n ≤ gaugeMax := by
  intro t since
  obtain ⟨hsize, hblock⟩ := blocks_run as
  have hu := computingUnits_run hunits
  have hbound : requested since ≤ word32Max + 1 := by
    by_contra hlt
    obtain ⟨a, ha, hlt⟩ := lt_requested_iff.1 (Nat.lt_of_not_le hlt)
    exact absurd (hasked a ((List.rtakeWhile_suffix _ as).mem ha)) (Nat.not_le_of_lt hlt)
  have hgauge : ∀ core gauge, t.gauge? core gauge =
      if core.index < requested since then some ((expected (calls core since)).get gauge) else none := by
    intro core gauge
    rw [gauge?, block?_eq, hsize, hblock]
    split <;> rfl
  refine ⟨hsize, hu, ?_, hgauge, ?_⟩
  · rw [snapshot_eq (by rwa [hsize]), hsize, hu]
    simp only [t, hblock]
    rfl
  · intro core gauge n hn
    rw [hgauge] at hn
    split at hn
    · obtain rfl := Option.some.inj hn
      exact get_expected_le (Nat.le_trans (calls_sublist core as).countP_le hopen) gauge
    · exact absurd hn (by simp)

/-- Neither what came before the clear nor a call for a core element that is not covered shows; growth loses
nothing. -/
theorem run_eq_expected_cleared_and_grown :
    let as : List TableAction := [.register ⟨1⟩ "dec()app.Counter", .attemptOpened ⟨1⟩,
      .describeNode (.node (.withCpus 4)), .clear, .grow 1, .attemptOpened ⟨1⟩, .register ⟨1⟩ "inc()app.Counter",
      .attemptClosed ⟨0⟩, .attemptOpened ⟨1⟩, .register ⟨1⟩ "dec()app.Counter", .attemptOpened ⟨1⟩, .grow 3,
      .executionSucceeded ⟨1⟩ (some ⟨word64Max, 2, 3, 4, word64Max⟩), .attemptClosed ⟨1⟩,
      .executionSucceeded ⟨1⟩ none, .grow 2]
    (∀ a ∈ as, a.asked ≤ word32Max + 1) ∧ (∀ n ∈ as.filterMap units?, n ≤ word32Max) ∧
      as.countP isOpening ≤ gaugeMax ∧ (empty.run as).size = 3 ∧
      (empty.run as).snapshot =
        ⟨4, [⟨⟨0⟩, {}⟩, ⟨⟨1⟩, ⟨some "inc()app.Counter", gaugeMax, 1, 2, 3, 4⟩⟩, ⟨⟨2⟩, {}⟩]⟩ := by
  intro as
  have hasked : ∀ a ∈ as, a.asked ≤ word32Max + 1 := by decide
  have hunits : ∀ n ∈ as.filterMap units?, n ≤ word32Max := by decide
  have hopen : as.countP isOpening ≤ gaugeMax := by decide
  obtain ⟨hsize, -, hsnapshot, -, -⟩ := run_eq_expected hasked hunits hopen
  refine ⟨hasked, hunits, hopen, hsize, ?_⟩
  rw [hsnapshot]
  rfl

end Telemetry

end TaskCoordination
