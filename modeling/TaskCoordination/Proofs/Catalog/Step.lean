import TaskCoordination.Catalog.Basic

/-!
# What a request does to a catalog

There are two requests, to resolve an invocation and to register an implementation; both are about the core element
of one signature (`CatalogRequest.signature`). `Catalog.Step` lists all that can come of one request, with the answer,
and `step_ask` says that nothing else does.
-/

namespace TaskCoordination

inductive CatalogRequest
  | resolve (i : Invocation) (target ret : Bool) (ps : List Parameter)
  | register (r : Registration)
  deriving DecidableEq

/-- Why a registration is turned down by any catalog; its own signature is looked at first. -/
def Registration.fault? (r : Registration) : Option String :=
  if Text.isBlank r.signature then some "core element signature is empty"
  else if Text.isBlank r.implementation.signature then some "implementation signature is empty"
  else none

namespace CatalogRequest

/-- The signature of the core element that a request is about. -/
def signature : CatalogRequest → String
  | resolve i target ret ps => i.render (realParameters ps target ret)
  | register r => r.signature

/-- The implementation that a new core element starts with. -/
def implementation : CatalogRequest → Implementation
  | resolve i target ret ps => i.defaultImplementation (i.render (realParameters ps target ret))
  | register r => r.implementation

/-- Why any catalog turns a request down. -/
def fault? : CatalogRequest → Option Rejection
  | resolve i _ _ _ => i.fault?.map (Rejection.invalidSignature (i.render []))
  | register r => r.fault?.map (Rejection.invalidSignature r.signature)

end CatalogRequest

namespace Catalog

def ask (c : Catalog) : CatalogRequest → Catalog × Except Rejection CoreId
  | .resolve i target ret ps => c.coreId i target ret ps
  | .register r => c.register r

/-- The implementation with the given signature that the core element at `id` has. -/
def implementation? (c : Catalog) (id : CoreId) (signature : String) : Option Implementation :=
  (((c.element? id).map CoreElement.implementations).getD []).find? fun k => k.signature = signature

/-- The catalog with one implementation more at the core element `id`. -/
def withImplementation (c : Catalog) (id : CoreId) (k : Implementation) : Catalog :=
  { c with elements := c.elements.modify id.index fun e => { e with implementations := e.implementations ++ [k] } }

/-- The catalog with a new core element for a request, and the identifier of that element. -/
def insertFor (c : Catalog) (q : CatalogRequest) : Catalog × CoreId :=
  c.insert q.signature q.implementation

inductive Step (c : Catalog) : CatalogRequest → Catalog → Except Rejection CoreId → Prop
  | invalid {q : CatalogRequest} {e : Rejection} (hf : q.fault? = some e) : Step c q c (.error e)
  | resolved {i : Invocation} {target ret : Bool} {ps : List Parameter} {id : CoreId}
    (hf : (CatalogRequest.resolve i target ret ps).fault? = none)
    (h : c.find? (CatalogRequest.resolve i target ret ps).signature = some id) :
    Step c (.resolve i target ret ps) c (.ok id)
  | known {r : Registration} {id : CoreId} (hf : (CatalogRequest.register r).fault? = none)
    (h : c.find? r.signature = some id)
    (hk : c.implementation? id r.implementation.signature = some r.implementation) : Step c (.register r) c (.ok id)
  | conflicting {r : Registration} {id : CoreId} {k : Implementation} (hf : (CatalogRequest.register r).fault? = none)
    (h : c.find? r.signature = some id) (hk : c.implementation? id r.implementation.signature = some k)
    (hne : k ≠ r.implementation) :
    Step c (.register r) c (.error (.signatureConflict r.signature r.implementation.signature))
  | extended {r : Registration} {id : CoreId} (hf : (CatalogRequest.register r).fault? = none)
    (h : c.find? r.signature = some id) (hk : c.implementation? id r.implementation.signature = none) :
    Step c (.register r) (c.withImplementation id r.implementation) (.ok id)
  | inserted {q : CatalogRequest} (hf : q.fault? = none) (h : c.find? q.signature = none) :
    Step c q (c.insertFor q).1 (.ok (c.insertFor q).2)

/-! ### Requests by what decides them -/

private theorem resolve_eq (c : Catalog) (i : Invocation) (target ret : Bool) (ps : List Parameter) :
    c.ask (.resolve i target ret ps) = match i.fault? with
      | some reason => (c, .error (.invalidSignature (i.render []) reason))
      | none => match c.find? (CatalogRequest.resolve i target ret ps).signature with
        | some id => (c, .ok id)
        | none => ((c.insertFor (.resolve i target ret ps)).1, .ok (c.insertFor (.resolve i target ret ps)).2) := by
  rw [ask, coreId, Invocation.validate]
  cases i.fault? <;> rfl

private theorem register_eq (c : Catalog) (r : Registration) :
    c.ask (.register r) = match r.fault? with
      | some reason => (c, .error (.invalidSignature r.signature reason))
      | none => match c.find? r.signature with
        | some id => c.addImplementation id r
        | none => ((c.insertFor (.register r)).1, .ok (c.insertFor (.register r)).2) := by
  rw [ask, register, Registration.fault?]
  split
  · rfl
  · split <;> rfl

/-- A faulty request changes nothing. -/
theorem ask_of_fault? (c : Catalog) {q : CatalogRequest} {e : Rejection} (hf : q.fault? = some e) :
    c.ask q = (c, .error e) := by
  cases q with
  | resolve i target ret ps =>
    obtain ⟨reason, hi, rfl⟩ := Option.map_eq_some_iff.1 hf
    rw [resolve_eq, hi]
  | register r =>
    obtain ⟨reason, hr, rfl⟩ := Option.map_eq_some_iff.1 hf
    rw [register_eq, hr]

private theorem resolve_of_fault?_eq_none (c : Catalog) {i : Invocation} {target ret : Bool} {ps : List Parameter}
    (hf : (CatalogRequest.resolve i target ret ps).fault? = none) :
    c.ask (.resolve i target ret ps) = match c.find? (CatalogRequest.resolve i target ret ps).signature with
      | some id => (c, .ok id)
      | none => ((c.insertFor (.resolve i target ret ps)).1, .ok (c.insertFor (.resolve i target ret ps)).2) := by
  rw [resolve_eq, Option.map_eq_none_iff.1 hf]

private theorem register_of_fault?_eq_none (c : Catalog) {r : Registration}
    (hf : (CatalogRequest.register r).fault? = none) :
    c.ask (.register r) = match c.find? r.signature with
      | some id => c.addImplementation id r
      | none => ((c.insertFor (.register r)).1, .ok (c.insertFor (.register r)).2) := by
  rw [register_eq, Option.map_eq_none_iff.1 hf]

private theorem addImplementation_eq (c : Catalog) (id : CoreId) (r : Registration) :
    c.addImplementation id r = match c.implementation? id r.implementation.signature with
      | some k =>
        if k = r.implementation then (c, .ok id)
        else (c, .error (.signatureConflict r.signature r.implementation.signature))
      | none => (c.withImplementation id r.implementation, .ok id) := rfl

private theorem step_register {c : Catalog} {r : Registration} (hf : (CatalogRequest.register r).fault? = none) :
    Step c (.register r) (c.ask (.register r)).1 (c.ask (.register r)).2 := by
  rw [register_of_fault?_eq_none c hf]
  cases h : c.find? r.signature with
  | none => exact .inserted hf h
  | some id =>
    dsimp only
    rw [addImplementation_eq]
    cases hk : c.implementation? id r.implementation.signature with
    | none => exact .extended hf h hk
    | some k =>
      by_cases hne : k = r.implementation
      · subst hne
        simp only [if_true]
        exact .known hf h hk
      · simp only [hne, if_false]
        exact .conflicting hf h hk hne

/-- Every request takes one of the steps. -/
theorem step_ask (c : Catalog) (q : CatalogRequest) : Step c q (c.ask q).1 (c.ask q).2 := by
  cases hf : q.fault? with
  | some e =>
    rw [ask_of_fault? c hf]
    exact .invalid hf
  | none =>
    cases q with
    | resolve i target ret ps =>
      rw [resolve_of_fault?_eq_none c hf]
      cases h : c.find? (CatalogRequest.resolve i target ret ps).signature with
      | none => exact .inserted hf h
      | some id => exact .resolved hf h
    | register r => exact step_register hf

/-- What is turned down changes nothing. -/
theorem Step.of_error {c c' : Catalog} {q : CatalogRequest} {e : Rejection} (hs : Step c q c' (.error e)) :
    c' = c := by
  cases hs with
  | invalid | conflicting => rfl

/-- What is accepted is without fault. -/
theorem Step.fault?_eq_none {c c' : Catalog} {q : CatalogRequest} {id : CoreId} (hs : Step c q c' (.ok id)) :
    q.fault? = none := by
  cases hs with
  | resolved hf | known hf | extended hf | inserted hf => exact hf

/-! ### Requests that change nothing -/

/-- The catalog has the core element of a request at `id`, with the implementation that a registration is for. -/
structure Holds (c : Catalog) (q : CatalogRequest) (id : CoreId) : Prop where
  fault : q.fault? = none
  found : c.find? q.signature = some id
  known : ∀ r, q = .register r → c.implementation? id r.implementation.signature = some r.implementation

theorem ask_of_holds {c : Catalog} {q : CatalogRequest} {id : CoreId} (h : c.Holds q id) : c.ask q = (c, .ok id) := by
  cases q with
  | resolve i target ret ps => rw [resolve_of_fault?_eq_none c h.fault, h.found]
  | register r =>
    have hfound : c.find? r.signature = some id := h.found
    rw [register_of_fault?_eq_none c h.fault, hfound]
    dsimp only
    rw [addImplementation_eq, h.known r rfl]
    simp only [if_true]

end Catalog

end TaskCoordination
