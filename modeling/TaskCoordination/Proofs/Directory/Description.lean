import TaskCoordination.Proofs.Directory.Run

/-!
# Descriptions of tasks

Methods and services are described alike: a description is for a number of nodes, and else it is a request of the
catalog, whose answer goes into the descriptor (`describe_eq`). The slots of the parameters are counted twice, for the
signature in the catalog and for the descriptor, both times by the same rule; so the catalog has the signature of the
descriptor's own parameters at the descriptor's core element. It keeps it there, and then the same description brings
the same descriptor and nothing new (`Knows.run`).

A descriptor says what was described, and that there is a return value exactly if the last parameter is one; its own
parameters are the first ones, less one for the target and one for the return value. Services run on one node, and
are neither replicated nor distributed.
-/

namespace TaskCoordination

theorem isReturnable_iff {t : DataType} :
    t.isReturnable = true ↔ t = .object ∨ t = .psco ∨ t = .externalPsco := by
  cases t <;> simp [DataType.isReturnable]

theorem hasReturn_iff {ps : List Parameter} :
    hasReturn ps = true ↔ ∃ p, ps.getLast? = some p ∧ p.direction = .output ∧
      (p.dataType = .object ∨ p.dataType = .psco ∨ p.dataType = .externalPsco) := by
  unfold hasReturn
  cases ps.getLast? with
  | none => simp
  | some p => simp [Parameter.isReturn, isReturnable_iff]

/-- Slots that a list is too short for take nothing away. -/
theorem length_realParameters (ps : List Parameter) (target ret : Bool) :
    ((realParameters ps target ret).length : Int) = max 0 ((ps.length : Int) - target.toNat - ret.toNat) := by
  rw [realParameters, List.length_take, realCount]
  omega

/-- What is told of a task to describe it. -/
inductive Description
  | method (owner name : String) (options : TaskOptions) (target : Bool) (ps : List Parameter)
  | service (domain provider port operation : String) (priority target : Bool) (ps : List Parameter)
  deriving DecidableEq

namespace Description

def invocation : Description → Invocation
  | method owner name .. => .method owner name
  | service domain provider port operation .. => .service domain provider port operation

/-- A service has a priority for its only option. -/
def options : Description → TaskOptions
  | method _ _ options .. => options
  | service _ _ _ _ priority .. => { priority := priority }

def target : Description → Bool
  | method _ _ _ target _ | service _ _ _ _ _ target _ => target

def parameters : Description → List Parameter
  | method _ _ _ _ ps | service _ _ _ _ _ _ ps => ps

/-- What a description asks of the catalog. -/
def request (q : Description) : CatalogRequest :=
  .resolve q.invocation q.target (hasReturn q.parameters) q.parameters

/-- Why a description does not get to the catalog. -/
def fault? (q : Description) : Option Rejection :=
  if q.options.nodes < singleNode then some (.invalidField "num_nodes" "a task needs at least one node") else none

/-- The descriptor of what is described, for the core element that the catalog has for it. -/
def descriptor (q : Description) (core : CoreId) : Descriptor :=
  ⟨q.invocation.kind, q.invocation.name, core, q.options, q.parameters, q.target, hasReturn q.parameters⟩

theorem service_options {q : Description} (h : q.invocation.kind = .service) :
    q.options.nodes = singleNode ∧ q.options.replicated = false ∧ q.options.distributed = false := by
  cases q with
  | method => exact absurd h (by simp [invocation, Invocation.kind])
  | service => exact ⟨rfl, rfl, rfl⟩

end Description

namespace Directory

variable {d d' : Directory} {q : Description} {x : Descriptor}

/-- What a description brings of a method or of a service. -/
def follow (d : Directory) : Description → Directory × Except Rejection Descriptor
  | .method owner name options target ps => d.describeMethod owner name options target ps
  | .service domain provider port operation priority target ps =>
    d.describeService domain provider port operation priority target ps

/-- A directory that takes over its own catalog has nothing to announce. -/
theorem adopt_self (d : Directory) : d.adopt d.catalog = d := by
  have hnew : d.catalog.elements.drop d.catalog.size = [] := List.drop_length
  rw [adopt, hnew]
  cases d
  simp [announce]

/-- A description is turned down for its nodes, or is a request of the catalog. -/
theorem follow_eq (d : Directory) (q : Description) :
    d.follow q = match q.fault? with
      | some r => (d, .error r)
      | none => (d.adopt (d.catalog.ask q.request).1, (d.catalog.ask q.request).2.map q.descriptor) := by
  cases q with
  | method owner name options target ps =>
    by_cases hn : options.nodes < singleNode
    · simp [follow, describeMethod, Description.fault?, Description.options, hn]
    · simp only [follow, describeMethod, Description.fault?, Description.options, hn, if_false, describe_eq]
      rfl
  | service domain provider port operation priority target ps =>
    exact describe_eq d _ _ target ps

theorem follow_of_fault? {r : Rejection} (h : q.fault? = some r) : d.follow q = (d, .error r) := by
  rw [follow_eq, h]

theorem follow_of_fault?_eq_none (h : q.fault? = none) :
    d.follow q = (d.adopt (d.catalog.ask q.request).1, (d.catalog.ask q.request).2.map q.descriptor) := by
  rw [follow_eq, h]

/-- A description that brings a descriptor is a request that the catalog accepts. -/
theorem follow_eq_ok (h : (d.follow q).2 = .ok x) :
    q.fault? = none ∧ ∃ core, Catalog.Step d.catalog q.request (d.follow q).1.catalog (.ok core) ∧
      x = q.descriptor core := by
  cases hf : q.fault? with
  | some r =>
    rw [follow_of_fault? hf] at h
    exact absurd h (by simp)
  | none =>
    rw [follow_of_fault?_eq_none hf] at h ⊢
    have hs := Catalog.step_ask d.catalog q.request
    cases ha : (d.catalog.ask q.request).2 with
    | error r => exact absurd h (by simp [ha, Except.map])
    | ok core =>
      rw [ha] at h hs
      exact ⟨rfl, core, hs, (Except.ok.inj h).symm⟩

/-! ### What a directory knows -/

/-- The description has its descriptor: the core element of the descriptor has the signature of the described
invocation with the descriptor's own parameters, and the description brings that descriptor and nothing else. -/
structure Knows (d : Directory) (q : Description) (x : Descriptor) : Prop where
  signature : d.catalog.signature? x.core = some (q.invocation.render x.realParameters)
  found : d.catalog.find? (q.invocation.render x.realParameters) = some x.core
  follow : d.follow q = (d, .ok x)

private theorem follow_of_holds {core : CoreId} (hf : q.fault? = none) (h : d.catalog.Holds q.request core) :
    d.follow q = (d, .ok (q.descriptor core)) := by
  rw [follow_of_fault?_eq_none hf, Catalog.ask_of_holds h, adopt_self]
  rfl

/-- What is described is known, as long as the catalog is not too large for identifiers to be positions. -/
theorem knows_follow (hi : d.catalog.IsIndexed) (hc : d.catalog.size ≤ word32Max) (hx : (d.follow q).2 = .ok x) :
    (d.follow q).1.Knows q x := by
  obtain ⟨hf, core, hs, rfl⟩ := follow_eq_ok hx
  have hsize : (d.follow q).1.catalog.size ≤ word32Max + 1 := Nat.le_trans hs.size_le (by omega)
  have hh := hs.holds hi hsize
  refine ⟨?_, hh.found, follow_of_holds hf hh⟩
  show (d.follow q).1.catalog.signature? core = some q.request.signature
  rw [Catalog.signature?_eq]
  exact ((hs.isIndexed hi).find?_eq_iff hsize _ core.index).1 hh.found

/-- What is known stays known while the catalog grows, however large it gets. -/
theorem Knows.mono (h : d.Knows q x) (hi : d.catalog.IsIndexed) (hi' : d'.catalog.IsIndexed)
    (he : d.catalog.Extends d'.catalog) : d'.Knows q x := by
  obtain ⟨hf, core, hs, rfl⟩ := follow_eq_ok (congrArg Prod.snd h.follow)
  have hh : d.catalog.Holds q.request core :=
    ⟨hs.fault?_eq_none, h.found, fun r hr => absurd hr (by simp [Description.request])⟩
  refine ⟨?_, he.find?_eq hi hi' h.found, follow_of_holds hf (hh.mono he hi hi')⟩
  have hs := h.signature
  rw [Catalog.signature?_eq] at hs ⊢
  exact he.signature_eq hs

theorem Knows.run (h : d.Knows q x) (hi : d.catalog.IsIndexed) (as : List DirectoryAction) : (d.run as).Knows q x :=
  h.mono hi (isIndexed_run hi as) (extends_run d as)

/-- The catalog has the signature nowhere else. -/
theorem Knows.core_eq (h : d.Knows q x) (hi : d.catalog.IsIndexed) {core : CoreId}
    (hs : d.catalog.signature? core = some (q.invocation.render x.realParameters)) : core = x.core := by
  have hx := h.signature
  rw [Catalog.signature?_eq] at hs hx
  have hlt : core.index < d.catalog.signatures.length := (List.getElem?_eq_some_iff.1 hs).1
  have hindex : core.index = x.core.index := (List.getElem?_inj hlt hi.nodup).1 (hs.trans hx.symm)
  cases core
  exact congrArg CoreId.mk hindex

/-- The catalog has the signature of a description at the core element of its descriptor and nowhere else, and
whatever is done later the same description brings the same descriptor. -/
theorem descriptor_agrees_with_catalog (announces : Bool) (as : List DirectoryAction) (q : Description)
    (x : Descriptor) (hc : ((empty announces).run as).catalog.size ≤ word32Max)
    (hx : (((empty announces).run as).follow q).2 = .ok x) :
    let d := (((empty announces).run as).follow q).1
    (x.kind = q.invocation.kind ∧ x.name = q.invocation.name ∧ x.options = q.options ∧ x.parameters = q.parameters ∧
        x.target = q.target) ∧
      (x.ret = true ↔ ∃ p, q.parameters.getLast? = some p ∧ p.direction = .output ∧
        (p.dataType = .object ∨ p.dataType = .psco ∨ p.dataType = .externalPsco)) ∧
      (x.realParameters <+: q.parameters ∧ (x.realParameters.length : Int) =
        max 0 ((q.parameters.length : Int) - x.target.toNat - x.ret.toNat)) ∧
      (∀ later, (d.run later).Knows q x) ∧
      (∀ later core, (d.run later).catalog.signature? core = some (q.invocation.render x.realParameters) →
        core = x.core) ∧
      (x.kind = .service → x.isSingleNode = true ∧ x.options.replicated = false ∧ x.options.distributed = false) := by
  intro d
  obtain ⟨-, core, hs, hx'⟩ := follow_eq_ok hx
  have hi : d.catalog.IsIndexed := hs.isIndexed (isIndexed_run Catalog.isIndexed_empty as)
  have hknows : d.Knows q x := knows_follow (isIndexed_run Catalog.isIndexed_empty as) hc hx
  subst hx'
  refine ⟨⟨rfl, rfl, rfl, rfl, rfl⟩, hasReturn_iff, ⟨List.take_prefix _ _, length_realParameters ..⟩, hknows.run hi,
    ?_, ?_⟩
  · intro later core'
    exact (hknows.run hi later).core_eq (isIndexed_run hi later)
  · intro hkind
    obtain ⟨hnodes, hreplicated, hdistributed⟩ := Description.service_options hkind
    exact ⟨decide_eq_true hnodes, hreplicated, hdistributed⟩

/-- A list is shorter than its slots, for a service whose signature has been registered before; then the node is
described, the table is reset and another core element comes. -/
theorem descriptor_agrees_with_catalog_short_list :
    let http : Implementation := ⟨"HTTP.op", .http, ["GET"], .empty⟩
    let as : List DirectoryAction :=
      [.ask (.register ⟨"inc()app.Counter", http⟩), .ask (.register ⟨"op()ns,Svc,80", http⟩)]
    let q : Description := .service "ns" "Svc" "80" "op" true true [.output .psco]
    let x : Descriptor := ⟨.service, "op", ⟨1⟩, { priority := true }, [.output .psco], true, true⟩
    let later : List DirectoryAction := [.table (.describeNode (.node (.withCpus 4))), .reset,
      .describeMethod "app.Counter" "inc" {} false [.input .int]]
    let d := (((empty true).run as).follow q).1
    ((empty true).run as).catalog.size ≤ word32Max ∧ (((empty true).run as).follow q).2 = .ok x ∧
      (x.ret = true ∧ x.realParameters = []) ∧ (d.run later).catalog.size = 3 ∧
      (d.run later).catalog.signature? ⟨1⟩ = some "op()ns,Svc,80" ∧
      (d.run later).follow q = (d.run later, .ok x) := by
  intro http as q x later d
  have hc : ((empty true).run as).catalog.size ≤ word32Max := by decide
  have hx : (((empty true).run as).follow q).2 = .ok x := by decide
  obtain ⟨-, hret, ⟨-, hlength⟩, hknows, -, -⟩ := descriptor_agrees_with_catalog true as q x hc hx
  refine ⟨hc, hx, ⟨hret.2 ⟨.output .psco, rfl, rfl, by decide⟩, List.eq_nil_of_length_eq_zero ?_⟩, by decide, ?_,
    (hknows later).follow⟩
  · exact Int.ofNat.inj hlength
  · exact (hknows later).signature

end Directory

end TaskCoordination
