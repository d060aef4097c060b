import TaskCoordination.Catalog.Basic
import TaskCoordination.Telemetry

/-!
# The directory

A catalog together with the telemetry table. A directory that announces enters every new core element into the table;
a reset rebuilds the table from the catalog.
-/

namespace TaskCoordination

structure Directory where
  catalog : Catalog
  telemetry : Telemetry
  announces : Bool
  deriving DecidableEq

namespace Directory

def empty (announces : Bool) : Directory :=
  ⟨.empty, .empty, announces⟩

/-- Enters core elements into the table, in their order. -/
def announce (t : Telemetry) (elements : List CoreElement) : Telemetry :=
  elements.foldl (fun t e => t.register e.id e.signature) t

/-- Takes over the catalog after a registration and announces what is new in it. -/
def adopt (d : Directory) (catalog : Catalog) : Directory :=
  { d with
    catalog := catalog
    telemetry :=
      if d.announces then announce d.telemetry (catalog.elements.drop d.catalog.size) else d.telemetry }

def coreId (d : Directory) (i : Invocation) (target ret : Bool) (ps : List Parameter) :
    Directory × Except Rejection CoreId :=
  let (catalog, result) := d.catalog.coreId i target ret ps
  (d.adopt catalog, result)

def register (d : Directory) (r : Registration) : Directory × Except Rejection CoreId :=
  let (catalog, result) := d.catalog.register r
  (d.adopt catalog, result)

/-- Starts the table anew, with an entry for each core element. -/
def resetTelemetry (d : Directory) : Directory :=
  if d.announces then
    { d with telemetry := announce d.telemetry.clear d.catalog.elements }
  else
    d

def mapTelemetry (d : Directory) (f : Telemetry → Telemetry) : Directory :=
  { d with telemetry := f d.telemetry }

end Directory

end TaskCoordination
