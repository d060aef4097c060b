import TaskCoordination.Proofs.Session.Basic

/-!
# Commands to a coordinator

What a coordinator is asked to do, as data, with its answers. `obey` carries out a command at once. `serve` does the
same while a listener looks on: the listener may take its turns at any moment of the command, between the single
changes that it comes to (`amid`). `serve_eq_obey` says that the two are the same when it takes none.
-/

namespace TaskCoordination

inductive Command
  | register (r : Registration)
  | describeMethod (owner name : String) (options : TaskOptions) (target : Bool) (ps : List Parameter)
  | describeService (domain provider port operation : String) (priority target : Bool) (ps : List Parameter)
  | newTask (d : Descriptor)
  | newBarrier (k : Continuation)
  | submitOnReady (t : TaskRef)
  | attach (t : TaskRef) (b : BarrierRef)
  | release (b : BarrierRef)
  | handle (t : TaskRef) (e : Event)
  | ask (b : BarrierRef) (r : BarrierRequest)
  | resetTelemetry
  | updateNode (node : Resource)

/-- There is no state, and no reply, of a task or a barrier that does not exist. -/
inductive Answer
  | done
  | core (result : Except Rejection CoreId)
  | descriptor (result : Except Rejection Descriptor)
  | task (id : TaskId) (t : TaskRef)
  | barrier (id : JobId) (b : BarrierRef)
  | state (result : Option (Except Rejection State))
  | reply (r : Option BarrierReply)
  | overflow (cause : Overflow)

namespace Command

/-- The action of a session that a command is. -/
def action : Command → Action
  | register r => .directory (.ask (.register r))
  | describeMethod owner name options target ps => .directory (.describeMethod owner name options target ps)
  | describeService domain provider port operation priority target ps =>
    .directory (.describeService domain provider port operation priority target ps)
  | newTask d => .coordinator (.newTask d)
  | newBarrier k => .coordinator (.newBarrier k)
  | submitOnReady t => .coordinator (.submitOnReady t)
  | attach t b => .attach t b
  | release b => .release b
  | handle t e => .handle t e
  | ask b r => .ask b r
  | resetTelemetry => .directory .reset
  | updateNode node => .coordinator (.updateNode node)

/-- A node is described only if its units can be added up. -/
def Fits : Command → Prop
  | updateNode node => ∃ units, node.cpuUnits = .ok units
  | _ => True

end Command

/-- The changes of a command with the turns of a listener between them; the numbers tell how many turns come before
each change. -/
def amid : List Nat → List Change → List Change
  | [], cs => cs
  | n :: turns, [] => List.replicate n (.feed .turn) ++ amid turns []
  | n :: turns, c :: cs => List.replicate n (.feed .turn) ++ c :: amid turns cs

namespace Coordinator

def withWorkflow (c : Coordinator) (w : Workflow) : Coordinator :=
  { c with workflow := w }

/-- Carries out a command. -/
def obey (c : Coordinator) : Command → Coordinator × Answer
  | .register r =>
    let (c', result) := c.withDirectory fun d => d.register r
    (c', .core result)
  | .describeMethod owner name options target ps =>
    let (c', result) := c.withDirectory fun d => d.describeMethod owner name options target ps
    (c', .descriptor result)
  | .describeService domain provider port operation priority target ps =>
    let (c', result) := c.withDirectory fun d => d.describeService domain provider port operation priority target ps
    (c', .descriptor result)
  | .newTask d =>
    let (c', id, t) := c.newTask d
    (c', .task id t)
  | .newBarrier k =>
    let (c', id, b) := c.newBarrier k
    (c', .barrier id b)
  | .submitOnReady t =>
    let (c', id, b) := c.submitOnReady t
    (c', .barrier id b)
  | .attach t b => (c.withWorkflow (c.workflow.attach t b), .done)
  | .release b => (c.withWorkflow (c.workflow.release b), .done)
  | .handle t e =>
    let (w, result) := c.workflow.handle t e
    (c.withWorkflow w, .state result)
  | .ask b r =>
    let (w, reply) := c.workflow.ask b r
    (c.withWorkflow w, .reply reply)
  | .resetTelemetry =>
    (c.withWorkflow { c.workflow with directory := c.workflow.directory.resetTelemetry }, .done)
  | .updateNode node =>
    match c.updateNode node with
    | .ok c' => (c', .done)
    | .error cause => (c, .overflow cause)

/-- The changes of its workflow that a command comes to. -/
def steps (c : Coordinator) (x : Command) : List Change :=
  (Session.running c).changes x.action

theorem workflow_obey (c : Coordinator) (x : Command) : (c.obey x).1.workflow = c.workflow.replay (c.steps x) := by
  have h : (c.obey x).1.workflow = ((Session.running c).act x.action).workflow := by
    cases x with
    | updateNode node =>
      simp only [obey, Command.action, Session.act, Coordinator.act]
      cases c.updateNode node <;> rfl
    | _ => rfl
  rw [h, Session.workflow_act]
  rfl

/-- Carries out a command while the listener takes turns. The answer is given with the first change; turns before that
are as good as turns at the end of the command before. -/
def serve (c : Coordinator) (x : Command × List Nat) : Coordinator × Answer :=
  ((c.obey x.1).1.withWorkflow (c.workflow.replay (amid x.2 (c.steps x.1))), (c.obey x.1).2)

theorem serve_eq_obey (c : Coordinator) (x : Command) : c.serve (x, []) = c.obey x := by
  rw [serve, amid, ← workflow_obey]
  rfl

def run (c : Coordinator) : List (Command × List Nat) → Coordinator × List Answer
  | [] => (c, [])
  | x :: rest => (((c.serve x).1.run rest).1, (c.serve x).2 :: ((c.serve x).1.run rest).2)

end Coordinator

end TaskCoordination
