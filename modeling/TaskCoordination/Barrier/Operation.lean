/-!
# Data operations

A transfer of data that a barrier waits for. Operations are told apart by their numbers; names may repeat.
-/

namespace TaskCoordination

structure DataOperation where
  id : Nat
  name : String
  deriving DecidableEq

namespace DataOperation

/-- The role of the files that are transferred for a job. -/
def jobFileRole : String :=
  "JOB_FILE"

/-- An operation for each name, numbered in order. -/
def number (names : List String) : List DataOperation :=
  names.mapIdx DataOperation.mk

end DataOperation

end TaskCoordination
