import TaskCoordination.Telemetry

/-!
# Snapshots

A snapshot shows all gauges of a telemetry table at one moment, entry by entry.
-/

namespace TaskCoordination

structure CoreMetrics where
  core : CoreId
  block : GaugeBlock
  deriving DecidableEq

structure Snapshot where
  computingUnits : Nat
  cores : List CoreMetrics
  deriving DecidableEq

def Telemetry.snapshot (t : Telemetry) : Snapshot :=
  ⟨t.computingUnits, t.blocks.mapIdx fun i b => ⟨CoreId.ofIndex i, b⟩⟩

def CoreMetrics.toJson (m : CoreMetrics) : Json :=
  .obj [("core_id", m.core.toJson), ("signature", .option Json.str m.block.label),
    ("executed_tasks", .nat m.block.executed), ("pending_tasks", .nat m.block.pending),
    ("min_time_ms", .nat m.block.least), ("avg_time_ms", .nat m.block.mean),
    ("max_time_ms", .nat m.block.greatest)]

def Snapshot.toJson (s : Snapshot) : Json :=
  .obj [("computing_units", .nat s.computingUnits), ("core_elements", .list CoreMetrics.toJson s.cores)]

end TaskCoordination
