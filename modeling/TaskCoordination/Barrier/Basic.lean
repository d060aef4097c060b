import TaskCoordination.Barrier.Operation
import TaskCoordination.Rejection

/-!
# Transfer barriers

A barrier stands before a job until the transfers of its inputs are done. It counts the transfers that are pending,
all that were registered and those that failed. Once it is enabled and nothing is pending it fires: `ready` if no
transfer failed, `failed` otherwise. It can be cancelled before that. The continuation is handed out with the
verdict, once; `κ` is whatever stands for it.
-/

namespace TaskCoordination

structure FailureReport where
  errors : Nat
  total : Nat
  deriving DecidableEq

inductive Verdict
  | ready
  | failed (report : FailureReport)
  | cancelled
  deriving DecidableEq

/-- What a barrier shows of itself. -/
structure BarrierStatus where
  pending : Nat
  errors : Nat
  total : Nat
  enabled : Bool
  verdict : Option Verdict
  deriving DecidableEq

structure Barrier (κ : Type) where
  job : JobId
  pending : Nat
  errors : Nat
  total : Nat
  enabled : Bool
  verdict : Option Verdict
  continuation : Option κ

/-- A continuation that has to be called now, and the verdict to call it with. -/
structure Firing (κ : Type) where
  continuation : κ
  verdict : Verdict

def FailureReport.text (r : FailureReport) : String :=
  s!"{r.errors} of {r.total} transfers failed"

namespace Barrier

variable {κ : Type}

def start (job : JobId) (continuation : κ) : Barrier κ :=
  ⟨job, 0, 0, 0, false, none, some continuation⟩

def status (b : Barrier κ) : BarrierStatus :=
  ⟨b.pending, b.errors, b.total, b.enabled, b.verdict⟩

def isFired (b : Barrier κ) : Bool :=
  b.verdict.isSome

/-- Sets the verdict and hands out the continuation. -/
def fire (b : Barrier κ) (verdict : Verdict) : Barrier κ × Option (Firing κ) :=
  ({ b with verdict := some verdict, continuation := none }, b.continuation.map fun k => ⟨k, verdict⟩)

/-- Fires if the time has come. -/
def settle (b : Barrier κ) : Barrier κ × Option (Firing κ) :=
  if b.pending ≠ 0 || !b.enabled || b.isFired then
    (b, none)
  else
    b.fire (if b.errors = 0 then .ready else .failed ⟨b.errors, b.total⟩)

/-- Registers one more transfer. -/
def register (b : Barrier κ) : Barrier κ × Except Rejection Unit :=
  if b.isFired then
    (b, .error (.barrierAlreadyFired b.job "add_operation"))
  else
    ({ b with pending := b.pending + 1, total := b.total + 1 }, .ok ())

/-- Takes the end of one pending transfer; `failures` is 1 if it failed. Transfers are counted and not told apart. -/
def resolve (b : Barrier κ) (operation : DataOperation) (failures : Nat) :
    Barrier κ × Except Rejection (Option (Firing κ)) :=
  if b.pending = 0 then
    (b, .error (.unmatchedNotification b.job operation.name))
  else
    let (b', firing) := { b with pending := b.pending - 1, errors := b.errors + failures }.settle
    (b', .ok firing)

def complete (b : Barrier κ) (operation : DataOperation) : Barrier κ × Except Rejection (Option (Firing κ)) :=
  b.resolve operation 0

def fail (b : Barrier κ) (operation : DataOperation) : Barrier κ × Except Rejection (Option (Firing κ)) :=
  b.resolve operation 1

/-- Lets the barrier fire; once enabled it stays so. -/
def enable (b : Barrier κ) : Barrier κ × Except Rejection (Option (Firing κ)) :=
  if b.verdict = some .cancelled then
    (b, .error (.barrierAlreadyFired b.job "enable"))
  else if b.enabled then
    (b, .ok none)
  else
    let (b', firing) := { b with enabled := true }.settle
    (b', .ok firing)

/-- Cancels a barrier that has not fired; the answer tells whether it did. -/
def cancel (b : Barrier κ) : Barrier κ × Option (Firing κ) × Bool :=
  if b.isFired then
    (b, none, false)
  else
    let (b', firing) := b.fire .cancelled
    (b', firing, true)

end Barrier

end TaskCoordination
