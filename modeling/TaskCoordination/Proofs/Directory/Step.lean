import TaskCoordination.Descriptor
import TaskCoordination.Proofs.Catalog.Step

/-!
# What an action does to a directory

What can be done to a telemetry table and to a directory, as data. `Directory.Step` lists all that can come of one
action on a directory, and `step_act` says that nothing else does: registrations and descriptions make a request of
the catalog (`DirectoryAction.request?`) and take over what the request makes of it.
-/

namespace TaskCoordination

/-- What can be done to a telemetry table. -/
inductive TableAction
  | grow (count : Nat)
  | register (core : CoreId) (label : String)
  | attemptOpened (core : CoreId)
  | attemptClosed (core : CoreId)
  | executionSucceeded (core : CoreId) (profile : Option Profile)
  | describeNode (node : Resource)
  | clear

/-- What can be done to a directory. -/
inductive DirectoryAction
  | ask (q : CatalogRequest)
  | describeMethod (owner name : String) (options : TaskOptions) (target : Bool) (ps : List Parameter)
  | describeService (domain provider port operation : String) (priority target : Bool) (ps : List Parameter)
  | reset
  | table (a : TableAction)

namespace Telemetry

variable {t t' : Telemetry}

/-- A description of a node whose units overflow changes nothing. -/
def act (t : Telemetry) : TableAction → Telemetry
  | .grow count => t.growTo count
  | .register core label => t.register core label
  | .attemptOpened core => t.attemptOpened core
  | .attemptClosed core => t.attemptClosed core
  | .executionSucceeded core profile => t.executionSucceeded core profile
  | .describeNode node =>
    match t.describeNode node with
    | .ok t' => t'
    | .error _ => t
  | .clear => t.clear

theorem act_describeNode_of_ok {node : Resource} (h : t.describeNode node = .ok t') :
    t.act (.describeNode node) = t' := by
  simp only [act, h]

theorem act_describeNode_of_error {node : Resource} {e : Overflow} (h : t.describeNode node = .error e) :
    t.act (.describeNode node) = t := by
  simp only [act, h]

theorem blocks_describeNode {node : Resource} (h : t.describeNode node = .ok t') : t'.blocks = t.blocks := by
  unfold describeNode at h
  cases hn : node.cpuUnits with
  | error e => simp [hn, bind, Except.bind] at h
  | ok units =>
    obtain rfl : { t with computingUnits := units } = t' := by
      simpa [hn, bind, Except.bind, pure, Except.pure] using h
    rfl

end Telemetry

/-- The request of the catalog that an action makes. A description for less than one node makes none. -/
def DirectoryAction.request? : DirectoryAction → Option CatalogRequest
  | .ask q => some q
  | .describeMethod owner name options target ps =>
    if options.nodes < singleNode then none else some (.resolve (.method owner name) target (hasReturn ps) ps)
  | .describeService domain provider port operation _ target ps =>
    some (.resolve (.service domain provider port operation) target (hasReturn ps) ps)
  | .reset | .table _ => none

namespace Directory

def act (d : Directory) : DirectoryAction → Directory
  | .ask (.resolve i target ret ps) => (d.coreId i target ret ps).1
  | .ask (.register r) => (d.register r).1
  | .describeMethod owner name options target ps => (d.describeMethod owner name options target ps).1
  | .describeService domain provider port operation priority target ps =>
    (d.describeService domain provider port operation priority target ps).1
  | .reset => d.resetTelemetry
  | .table a => d.mapTelemetry fun t => t.act a

inductive Step (d : Directory) : DirectoryAction → Directory → Prop
  | asked {a : DirectoryAction} {q : CatalogRequest} (h : a.request? = some q) :
    Step d a (d.adopt (d.catalog.ask q).1)
  | refused {owner name : String} {options : TaskOptions} {target : Bool} {ps : List Parameter}
    (h : options.nodes < singleNode) : Step d (.describeMethod owner name options target ps) d
  | reset : Step d .reset d.resetTelemetry
  | table (a : TableAction) : Step d (.table a) (d.mapTelemetry fun t => t.act a)

/-- A description takes the answer of the catalog into a descriptor. -/
theorem describe_eq (d : Directory) (i : Invocation) (options : TaskOptions) (target : Bool) (ps : List Parameter) :
    d.describe i options target ps =
      (d.adopt (d.catalog.ask (.resolve i target (hasReturn ps) ps)).1,
        (d.catalog.ask (.resolve i target (hasReturn ps) ps)).2.map fun core =>
          ⟨i.kind, i.name, core, options, ps, target, hasReturn ps⟩) := by
  have hd : ∀ r : Directory × Except Rejection CoreId, d.coreId i target (hasReturn ps) ps = r →
      d.describe i options target ps =
        (r.1, r.2.map fun core => ⟨i.kind, i.name, core, options, ps, target, hasReturn ps⟩) := by
    rintro ⟨d', (e | core)⟩ hr <;> simp [describe, hr, Except.map]
  exact hd _ rfl

/-- Every action takes one of the steps. -/
theorem step_act (d : Directory) (a : DirectoryAction) : Step d a (d.act a) := by
  cases a with
  | ask q =>
    have hd : d.act (.ask q) = d.adopt (d.catalog.ask q).1 := by cases q <;> rfl
    rw [hd]
    exact .asked rfl
  | describeMethod owner name options target ps =>
    by_cases hn : options.nodes < singleNode
    · have hd : d.act (.describeMethod owner name options target ps) = d := by
        simp only [act, describeMethod, hn, if_true]
      rw [hd]
      exact .refused hn
    · have hd : d.act (.describeMethod owner name options target ps) =
          d.adopt (d.catalog.ask (.resolve (.method owner name) target (hasReturn ps) ps)).1 := by
        simp only [act, describeMethod, hn, if_false, describe_eq]
      rw [hd]
      exact .asked (by simp only [DirectoryAction.request?, hn, if_false])
  | describeService domain provider port operation priority target ps =>
    show Step d _ (d.describe (.service domain provider port operation) { priority := priority } target ps).1
    rw [describe_eq]
    exact .asked rfl
  | reset => exact .reset
  | table a => exact .table a

theorem catalog_resetTelemetry (d : Directory) : d.resetTelemetry.catalog = d.catalog := by
  unfold resetTelemetry
  split <;> rfl

theorem announces_resetTelemetry (d : Directory) : d.resetTelemetry.announces = d.announces := by
  unfold resetTelemetry
  split <;> rfl

/-- An action does to the catalog what a request does, or nothing. -/
theorem Step.catalog_induction {P : Catalog → Prop} {d d' : Directory} {a : DirectoryAction}
    (hP : ∀ q, P (d.catalog.ask q).1) (h : P d.catalog) (hs : Step d a d') : P d'.catalog := by
  cases hs with
  | @asked _ q => exact hP q
  | reset => rwa [catalog_resetTelemetry]
  | refused | table => exact h

theorem Step.announces_eq {d d' : Directory} {a : DirectoryAction} (hs : Step d a d') :
    d'.announces = d.announces := by
  cases hs with
  | reset => exact d.announces_resetTelemetry
  | asked | refused | table => rfl

theorem announces_act (d : Directory) (a : DirectoryAction) : (d.act a).announces = d.announces :=
  (d.step_act a).announces_eq

end Directory

end TaskCoordination
