import TaskCoordination.Invocation
import TaskCoordination.Resource.Json

/-!
# The catalog of core elements

A core element is a signature with its implementations, at least one; its identifier is its position in the catalog.
The catalog also keeps the identifiers by signature, and looks signatures up there.

There are two ways into the catalog. `coreId` looks an invocation up and adds it with a default implementation
when it is new. `register` adds an implementation to the element of a given signature, which it adds when it is
new; an implementation signature that the element knows with other contents is a conflict.
-/

namespace TaskCoordination

inductive ImplementationKind
  | method
  | service
  | mpi
  | binary
  | container
  | http
  deriving DecidableEq

structure Implementation where
  signature : String
  kind : ImplementationKind
  arguments : List String
  requirements : Node
  deriving DecidableEq

/-- A request to register an implementation of a core element. -/
structure Registration where
  signature : String
  implementation : Implementation
  deriving DecidableEq

structure CoreElement where
  id : CoreId
  signature : String
  implementations : List Implementation
  deriving DecidableEq

/-- The core elements in the order of their registration, and their identifiers by signature. -/
structure Catalog where
  elements : List CoreElement
  ids : List (String × CoreId)
  deriving DecidableEq

/-- What an invocation is registered with when nobody described an implementation of it. -/
def Invocation.defaultImplementation (i : Invocation) (signature : String) : Implementation :=
  match i with
  | method owner name => ⟨signature, .method, [owner, name], .empty⟩
  | service domain provider port _ => ⟨signature, .service, [domain, provider, port], .empty⟩

namespace Catalog

def empty : Catalog :=
  ⟨[], []⟩

def size (c : Catalog) : Nat :=
  c.elements.length

def find? (c : Catalog) (signature : String) : Option CoreId :=
  c.ids.lookup signature

def element? (c : Catalog) (id : CoreId) : Option CoreElement :=
  c.elements[id.index]?

def element (c : Catalog) (id : CoreId) : Except Rejection CoreElement :=
  match c.element? id with
  | some e => .ok e
  | none => .error (.unknownCoreElement id)

def signature? (c : Catalog) (id : CoreId) : Option String :=
  (c.element? id).map CoreElement.signature

/-- Adds a core element at the end; of two entries for a signature the later one counts. -/
def insert (c : Catalog) (signature : String) (implementation : Implementation) : Catalog × CoreId :=
  let id := CoreId.ofIndex c.size
  (⟨c.elements ++ [⟨id, signature, [implementation]⟩], (signature, id) :: c.ids⟩, id)

/-- The core element of an invocation with its parameters, less the slots for target and return value. -/
def coreId (c : Catalog) (i : Invocation) (target ret : Bool) (ps : List Parameter) :
    Catalog × Except Rejection CoreId :=
  match i.validate with
  | .error r => (c, .error r)
  | .ok () =>
    let signature := i.render (realParameters ps target ret)
    match c.find? signature with
    | some id => (c, .ok id)
    | none =>
      let (c', id) := c.insert signature (i.defaultImplementation signature)
      (c', .ok id)

/-- Adds an implementation to the element at `id`, unless the element knows it already. -/
def addImplementation (c : Catalog) (id : CoreId) (r : Registration) : Catalog × Except Rejection CoreId :=
  let known := ((c.element? id).map CoreElement.implementations).getD []
  match known.find? fun k => k.signature = r.implementation.signature with
  | some k =>
    if k = r.implementation then
      (c, .ok id)
    else
      (c, .error (.signatureConflict r.signature r.implementation.signature))
  | none =>
    let add := fun e : CoreElement => { e with implementations := e.implementations ++ [r.implementation] }
    ({ c with elements := c.elements.modify id.index add }, .ok id)

def register (c : Catalog) (r : Registration) : Catalog × Except Rejection CoreId :=
  if Text.isBlank r.signature then
    (c, .error (.invalidSignature r.signature "core element signature is empty"))
  else if Text.isBlank r.implementation.signature then
    (c, .error (.invalidSignature r.signature "implementation signature is empty"))
  else
    match c.find? r.signature with
    | some id => c.addImplementation id r
    | none =>
      let (c', id) := c.insert r.signature r.implementation
      (c', .ok id)

end Catalog

end TaskCoordination
