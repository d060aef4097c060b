import TaskCoordination.Barrier.Basic
import TaskCoordination.Text.Debug

/-!
# Requests to a barrier

All that can be asked of a barrier, as data, with the answers. A request that fires the barrier is answered with the
verdict; the firing goes to whoever has to call the continuation.

* `isFired_ask`: a verdict is never taken back.
-/

namespace TaskCoordination

inductive BarrierRequest
  | register
  | complete (operation : DataOperation)
  | fail (operation : DataOperation)
  | enable
  | cancel
  | isFired
  | job
  | debug
  deriving DecidableEq

inductive BarrierReply
  | done
  | verdict (v : Option Verdict)
  | flag (b : Bool)
  | job (id : JobId)
  | text (s : String)
  | rejected (r : Rejection)
  deriving DecidableEq

open Text

def FailureReport.debug (r : FailureReport) : String :=
  Debug.record "FailureReport" [("errors", toString r.errors), ("total", toString r.total)]

def Verdict.debug : Verdict → String
  | ready => "Ready"
  | failed report => Debug.tuple "Failed" report.debug
  | cancelled => "Cancelled"

def BarrierStatus.debug (s : BarrierStatus) : String :=
  Debug.record "BarrierStatus" [("pending", toString s.pending), ("errors", toString s.errors),
    ("total", toString s.total), ("enabled", Debug.bool s.enabled),
    ("outcome", Debug.option (s.verdict.map Verdict.debug))]

def JobId.debug (id : JobId) : String :=
  Debug.tuple "JobId" (toString id.number)

namespace Barrier

variable {κ : Type}

def debug (b : Barrier κ) : String :=
  Debug.record "TransferBarrier" [("job_id", b.job.debug), ("status", b.status.debug)]

private def answer (r : Barrier κ × Except Rejection (Option (Firing κ))) :
    Barrier κ × BarrierReply × Option (Firing κ) :=
  match r with
  | (b, .ok firing) => (b, .verdict (firing.map Firing.verdict), firing)
  | (b, .error e) => (b, .rejected e, none)

def ask (b : Barrier κ) : BarrierRequest → Barrier κ × BarrierReply × Option (Firing κ)
  | .register =>
    match b.register with
    | (b', .ok ()) => (b', .done, none)
    | (b', .error e) => (b', .rejected e, none)
  | .complete operation => answer (b.complete operation)
  | .fail operation => answer (b.fail operation)
  | .enable => answer b.enable
  | .cancel =>
    match b.cancel with
    | (b', firing, cancelled) => (b', .flag cancelled, firing)
  | .isFired => (b, .flag b.isFired, none)
  | .job => (b, .job b.job, none)
  | .debug => (b, .text b.debug, none)

/-- Takes several requests in turn. There is nothing to call if the continuation is gone. -/
def askAll (b : Barrier κ) : List BarrierRequest → Barrier κ × List BarrierReply
  | [] => (b, [])
  | request :: rest =>
    let (b', reply, _) := b.ask request
    let (b'', replies) := b'.askAll rest
    (b'', reply :: replies)

private theorem isFired_settle {b : Barrier κ} (h : b.isFired = true) : b.settle.1.isFired = true := by
  unfold settle
  split
  · exact h
  · rfl

private theorem isFired_resolve {b : Barrier κ} (h : b.isFired = true) (operation : DataOperation) (failures : Nat) :
    (b.resolve operation failures).1.isFired = true := by
  unfold resolve
  split
  · exact h
  · exact isFired_settle h

private theorem isFired_enable {b : Barrier κ} (h : b.isFired = true) : b.enable.1.isFired = true := by
  unfold enable
  split
  · exact h
  · split
    · exact h
    · exact isFired_settle h

private theorem fst_answer (r : Barrier κ × Except Rejection (Option (Firing κ))) : (answer r).1 = r.1 := by
  obtain ⟨b, (e | firing)⟩ := r <;> rfl

theorem isFired_ask {b : Barrier κ} (h : b.isFired = true) (request : BarrierRequest) :
    (b.ask request).1.isFired = true := by
  cases request with
  | register => simp [ask, register, h]
  | complete operation => rw [ask, fst_answer]; exact isFired_resolve h operation 0
  | fail operation => rw [ask, fst_answer]; exact isFired_resolve h operation 1
  | enable => rw [ask, fst_answer]; exact isFired_enable h
  | cancel => simp [ask, cancel, h]
  | isFired | job | debug => exact h

theorem isFired_askAll {b : Barrier κ} (h : b.isFired = true) (requests : List BarrierRequest) :
    (b.askAll requests).1.isFired = true := by
  induction requests generalizing b with
  | nil => exact h
  | cons request rest ih => exact ih (isFired_ask h request)

end Barrier

end TaskCoordination
