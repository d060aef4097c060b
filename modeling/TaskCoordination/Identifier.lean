import TaskCoordination.Json.Basic
import TaskCoordination.Number

/-!
# Identifiers

Core elements, tasks and jobs are identified by numbers of their own. A core element is also an index: of the
catalog and of the telemetry table.
-/

namespace TaskCoordination

structure CoreId where
  index : Nat
  deriving DecidableEq

structure TaskId where
  number : Nat
  deriving DecidableEq

structure JobId where
  number : Nat
  deriving DecidableEq

namespace CoreId

/-- Indices beyond the largest identifier share that one. -/
def ofIndex (index : Nat) : CoreId :=
  ⟨min index word32Max⟩

def toJson (id : CoreId) : Json :=
  .nat id.index

def ofJson? (j : Json) : Option CoreId :=
  CoreId.mk <$> j.natUpTo? word32Max

end CoreId

namespace TaskId

def toJson (id : TaskId) : Json :=
  .nat id.number

def ofJson? (j : Json) : Option TaskId :=
  TaskId.mk <$> j.natUpTo? word64Max

end TaskId

namespace JobId

def toJson (id : JobId) : Json :=
  .nat id.number

def ofJson? (j : Json) : Option JobId :=
  JobId.mk <$> j.natUpTo? word64Max

end JobId

end TaskCoordination
