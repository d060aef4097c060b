import TaskCoordination.Proofs.Directory.Run

/-!
# The labels of a directory

A core element is announced when it comes to the catalog, and then its entry is the next one of the table
(`announce_eq`). So the table has the labels that the catalog has signatures, one by one, as long as nobody else
brings entries to the table or drops them (`Step.isLabelled`). A reset makes it so whatever the table holds
(`resetTelemetry_eq`).

An entry is found by the identifier of its core element, so that all this is about catalogs of at most the largest
size.

A reset leaves all gauges of the entries at zero, and the gauge of the node and the catalog as they were; another
reset changes nothing (`telemetry_in_step`).
-/

namespace TaskCoordination

/-- The actions on a table that leave its entries where they are, each with its label. -/
def TableAction.isGaugeUpdate : TableAction → Bool
  | attemptOpened _ | attemptClosed _ | executionSucceeded _ _ | describeNode _ => true
  | grow _ | register _ _ | clear => false

/-- The actions that leave it to the directory which entries there are. -/
def DirectoryAction.keepsEntries : DirectoryAction → Bool
  | table a => a.isGaugeUpdate
  | ask _ | describeMethod .. | describeService .. | reset => true

/-- The block that a core element starts with. -/
def GaugeBlock.fresh (label : String) : GaugeBlock :=
  { label := some label }

theorem GaugeBlock.get_fresh (label : String) (g : Gauge) : (fresh label).get g = 0 := by
  cases g <;> rfl

namespace Telemetry

/-- The labels of the entries, in their order. -/
def labels (t : Telemetry) : List (Option String) :=
  t.blocks.map GaugeBlock.label

theorem labels_update (t : Telemetry) (core : CoreId) {f : GaugeBlock → GaugeBlock}
    (hf : ∀ b : GaugeBlock, (f b).label = b.label) : (t.update core f).labels = t.labels := by
  apply List.ext_getElem?
  intro i
  simp only [labels, update, List.getElem?_map, List.getElem?_modify]
  cases t.blocks[i]? with
  | none => rfl
  | some b =>
    by_cases hi : core.index = i
    · simp [hi, hf]
    · simp [hi]

theorem labels_act (t : Telemetry) {a : TableAction} (ha : a.isGaugeUpdate = true) : (t.act a).labels = t.labels := by
  cases a with
  | attemptOpened core => exact t.labels_update core fun _ => rfl
  | attemptClosed core => exact t.labels_update core fun _ => rfl
  | executionSucceeded core profile =>
    cases profile with
    | none => rfl
    | some p => exact t.labels_update core fun _ => rfl
  | describeNode node =>
    cases h : t.describeNode node with
    | error e => rw [act_describeNode_of_error h]
    | ok t' => rw [act_describeNode_of_ok h, labels, labels, blocks_describeNode h]
  | grow | register | clear => exact absurd ha (by simp [TableAction.isGaugeUpdate])

/-- The next entry of a table is the one that a registration brings to it. -/
theorem register_next (t : Telemetry) {core : CoreId} (hc : core.index = t.size) (label : String) :
    t.register core label = { t with blocks := t.blocks ++ [.fresh label] } := by
  have hg : t.growTo (core.index + 1) = { t with blocks := t.blocks ++ [{}] } := by
    have hn : core.index + 1 - t.size = 1 := by omega
    rw [growTo, hn]
    rfl
  have hm : (t.blocks ++ [({} : GaugeBlock)]).modify core.index (fun b => b.labelled label) =
      t.blocks ++ [.fresh label] := by
    apply List.ext_getElem?
    intro i
    rw [List.getElem?_modify, getElem?_concat, getElem?_concat]
    have hsize : t.blocks.length = core.index := hc.symm
    by_cases hi : i = core.index
    · simp [hi, hsize, GaugeBlock.fresh, GaugeBlock.labelled]
    · have hi' : core.index ≠ i := fun h => hi h.symm
      simp [hi, hi', hsize]
  rw [register, hg, update]
  simp only [hm]

end Telemetry

namespace Directory

variable {d d' : Directory}

/-- Core elements whose entries are the next ones bring them to the table, in their order. -/
theorem announce_eq (t : Telemetry) (es : List CoreElement)
    (hes : ∀ (i : Nat) (e : CoreElement), es[i]? = some e → e.id.index = t.size + i) :
    announce t es = { t with blocks := t.blocks ++ es.map fun e => .fresh e.signature } := by
  induction es generalizing t with
  | nil => simp [announce]
  | cons e es ih =>
    have he : t.register e.id e.signature = { t with blocks := t.blocks ++ [.fresh e.signature] } :=
      t.register_next (hes 0 e rfl) e.signature
    have hsize : (t.register e.id e.signature).size = t.size + 1 := by simp [he, Telemetry.size]
    have hrest : announce t (e :: es) = announce (t.register e.id e.signature) es := rfl
    rw [hrest, ih]
    · simp [he]
    · intro i e' he'
      have := hes (i + 1) e' he'
      omega

/-- A core element is known by its position. -/
private theorem index_of_getElem? {c : Catalog} (hi : c.IsIndexed) (hc : c.size ≤ word32Max + 1) {i : Nat}
    {e : CoreElement} (he : c.elements[i]? = some e) : e.id.index = i := by
  have hlt : i < c.size := (List.getElem?_eq_some_iff.1 he).1
  rw [hi.id_eq i e he, Catalog.ofIndex_eq hlt hc]

/-- A reset leaves the entries of the core elements, each as it started, and the gauge of the node. -/
theorem resetTelemetry_eq (hi : d.catalog.IsIndexed) (hc : d.catalog.size ≤ word32Max + 1) (ha : d.announces = true) :
    d.resetTelemetry =
      { d with telemetry := ⟨d.catalog.elements.map fun e => .fresh e.signature, d.telemetry.computingUnits⟩ } := by
  have ht : announce d.telemetry.clear d.catalog.elements =
      ⟨d.catalog.elements.map fun e => .fresh e.signature, d.telemetry.computingUnits⟩ := by
    rw [announce_eq]
    · simp [Telemetry.clear]
    · intro i e he
      simp [index_of_getElem? hi hc he, Telemetry.clear, Telemetry.size]
  rw [resetTelemetry, if_pos ha, ht]

/-! ### Labels and signatures side by side -/

/-- The entries of the table are those of the core elements, and have their signatures for labels. -/
def IsLabelled (d : Directory) : Prop :=
  d.telemetry.labels = d.catalog.signatures.map some

theorem IsLabelled.size_eq (h : d.IsLabelled) : d.telemetry.size = d.catalog.size := by
  have hl : d.telemetry.labels.length = (d.catalog.signatures.map some).length := congrArg List.length h
  rw [List.length_map, Catalog.length_signatures, Telemetry.labels, List.length_map] at hl
  exact hl

theorem IsLabelled.label_eq (h : d.IsLabelled) (core : CoreId) :
    (d.telemetry.block? core).bind GaugeBlock.label = d.catalog.signature? core := by
  have hl : d.telemetry.labels[core.index]? = (d.catalog.signatures.map some)[core.index]? :=
    congrArg (fun l : List (Option String) => l[core.index]?) h
  rw [Telemetry.labels, Catalog.signatures, List.getElem?_map, List.getElem?_map, List.getElem?_map] at hl
  rw [Telemetry.block?, Catalog.signature?, Catalog.element?]
  cases he : d.catalog.elements[core.index]? with
  | none =>
    rw [he, Option.map_none, Option.map_none, Option.map_eq_none_iff] at hl
    rw [hl]
    rfl
  | some e =>
    rw [he, Option.map_some, Option.map_some, Option.map_eq_some_iff] at hl
    obtain ⟨b, hb, hlabel⟩ := hl
    rw [hb]
    exact hlabel

theorem isLabelled_resetTelemetry (hi : d.catalog.IsIndexed) (hc : d.catalog.size ≤ word32Max + 1)
    (ha : d.announces = true) : d.resetTelemetry.IsLabelled := by
  rw [resetTelemetry_eq hi hc ha]
  simp [IsLabelled, Telemetry.labels, Catalog.signatures, GaugeBlock.fresh]

/-- The new core elements get the next entries. -/
theorem IsLabelled.adopt {c : Catalog} (h : d.IsLabelled) (ha : d.announces = true) (he : d.catalog.Extends c)
    (hi : c.IsIndexed) (hc : c.size ≤ word32Max + 1) : (d.adopt c).IsLabelled := by
  have ht : (d.adopt c).telemetry = announce d.telemetry (c.elements.drop d.catalog.size) := by
    simp [Directory.adopt, ha]
  have hnew : ∀ (i : Nat) (e : CoreElement), (c.elements.drop d.catalog.size)[i]? = some e →
      e.id.index = d.telemetry.size + i := by
    intro i e hd
    rw [List.getElem?_drop] at hd
    rw [index_of_getElem? hi hc hd, h.size_eq]
  have hl : d.telemetry.labels = d.catalog.signatures.map some := h
  show (d.adopt c).telemetry.labels = c.signatures.map some
  rw [ht, announce_eq _ _ hnew, he.signatures_eq, List.map_append, ← hl]
  simp only [Telemetry.labels, List.map_append, List.map_map]
  rfl

/-! ### Runs of actions -/

theorem Step.isLabelled {a : DirectoryAction} (h : d.IsLabelled) (hi : d.catalog.IsIndexed) (ha : d.announces = true)
    (hk : a.keepsEntries = true) (hc : d'.catalog.size ≤ word32Max + 1) (hs : Step d a d') : d'.IsLabelled := by
  cases hs with
  | @asked _ q =>
    have hstep := Catalog.step_ask d.catalog q
    exact h.adopt ha hstep.extends (hstep.isIndexed hi) hc
  | refused => exact h
  | reset =>
    rw [catalog_resetTelemetry] at hc
    exact isLabelled_resetTelemetry hi hc ha
  | table b => exact (d.telemetry.labels_act hk).trans h

/-- Nothing that keeps the entries brings labels and signatures apart. -/
theorem IsLabelled.run (h : d.IsLabelled) (hi : d.catalog.IsIndexed) (ha : d.announces = true)
    {as : List DirectoryAction} (hk : ∀ a ∈ as, a.keepsEntries = true)
    (hc : (d.run as).catalog.size ≤ word32Max + 1) : (d.run as).IsLabelled := by
  induction as generalizing d with
  | nil => exact h
  | cons a as ih =>
    have hs := d.step_act a
    -- the catalog is never larger than in the end
    have hsize : (d.act a).catalog.size ≤ word32Max + 1 := Nat.le_trans (extends_run (d.act a) as).size_le hc
    have hd : (d.act a).IsLabelled := hs.isLabelled h hi ha (hk a (by simp)) hsize
    exact ih hd (hs.isIndexed hi) (hs.announces_eq.trans ha) (fun b hb => hk b (by simp [hb])) hc

/-- The table has one entry for each core element, labelled with its signature, and a reset makes it so again
whatever has been done to the table meanwhile. -/
theorem telemetry_in_step (as : List DirectoryAction)
    (hc : ((empty true).run as).catalog.size ≤ word32Max + 1) :
    let d := (empty true).run as
    ((∀ a ∈ as, a.keepsEntries = true) → d.telemetry.size = d.catalog.size ∧
      ∀ core, (d.telemetry.block? core).bind GaugeBlock.label = d.catalog.signature? core) ∧
    ∀ t : Telemetry,
      let r := { d with telemetry := t }.resetTelemetry
      r.catalog = d.catalog ∧ r.telemetry.computingUnits = t.computingUnits ∧ r.telemetry.size = d.catalog.size ∧
        (∀ core, (r.telemetry.block? core).bind GaugeBlock.label = d.catalog.signature? core) ∧
        (∀ core gauge value, r.telemetry.gauge? core gauge = some value → value = 0) ∧ r.resetTelemetry = r := by
  intro d
  have hi : d.catalog.IsIndexed := isIndexed_run Catalog.isIndexed_empty as
  have ha : d.announces = true := announces_run (empty true) as
  refine ⟨?_, ?_⟩
  · intro hk
    have hd : d.IsLabelled := IsLabelled.run (d := empty true) rfl Catalog.isIndexed_empty rfl hk hc
    exact ⟨hd.size_eq, hd.label_eq⟩
  · intro t r
    have hr : r = { d with telemetry := ⟨d.catalog.elements.map fun e => .fresh e.signature, t.computingUnits⟩ } :=
      resetTelemetry_eq (d := { d with telemetry := t }) hi hc ha
    have hd : r.IsLabelled := isLabelled_resetTelemetry (d := { d with telemetry := t }) hi hc ha
    have hcat : r.catalog = d.catalog := by rw [hr]
    refine ⟨hcat, by rw [hr], hcat ▸ hd.size_eq, hcat ▸ hd.label_eq, ?_, ?_⟩
    · intro core gauge value hv
      rw [hr, Telemetry.gauge?, Telemetry.block?, List.getElem?_map, Option.map_map, Option.map_eq_some_iff] at hv
      obtain ⟨e, -, hv⟩ := hv
      exact hv.symm.trans (GaugeBlock.get_fresh e.signature gauge)
    · have hagain := resetTelemetry_eq (d := r) (hcat ▸ hi) (hcat ▸ hc) (by rw [hr]; exact ha)
      rw [hagain, hr]

/-- A second implementation is turned down as a conflict, and another core element comes after a reset; then the
table is one that has too many entries, with labels of others. -/
theorem telemetry_in_step_conflict_and_reset :
    let binary : Implementation := ⟨"run()app.A", .binary, ["/bin/run"], .empty⟩
    let as : List DirectoryAction := [.ask (.resolve (.method "app.A" "run") false false []),
      .table (.attemptOpened ⟨0⟩), .ask (.register ⟨"run()app.A", binary⟩), .reset,
      .ask (.register ⟨"app.B", binary⟩)]
    let d := (empty true).run as
    let t : Telemetry := ⟨[{ label := some "app.C", pending := 2 }, {}, {}], 4⟩
    let r := { d with telemetry := t }.resetTelemetry
    (d.catalog.size ≤ word32Max + 1 ∧ ∀ a ∈ as, a.keepsEntries = true) ∧
      (d.telemetry.size = 2 ∧ (d.telemetry.block? ⟨1⟩).bind GaugeBlock.label = some "app.B") ∧
      r.telemetry.size = 2 ∧ (r.telemetry.block? ⟨0⟩).bind GaugeBlock.label = some "run()app.A" ∧
      r.telemetry.computingUnits = 4 := by
  intro binary as d t r
  have hc : d.catalog.size ≤ word32Max + 1 := by decide
  have hk : ∀ a ∈ as, a.keepsEntries = true := by decide
  obtain ⟨hkept, hreset⟩ := telemetry_in_step as hc
  obtain ⟨hsize, hlabel⟩ := hkept hk
  obtain ⟨-, hunits, hsize', hlabel', -, -⟩ := hreset t
  have hcat : d.catalog.size = 2 := by decide
  have h0 : d.catalog.signature? ⟨0⟩ = some "run()app.A" := by decide
  have h1 : d.catalog.signature? ⟨1⟩ = some "app.B" := by decide
  exact ⟨⟨hc, hk⟩, ⟨hsize.trans hcat, (hlabel ⟨1⟩).trans h1⟩, hsize'.trans hcat, (hlabel' ⟨0⟩).trans h0, hunits⟩

end Directory

end TaskCoordination
