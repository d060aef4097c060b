import TaskCoordination.Proofs.Barrier.Firing
import TaskCoordination.Proofs.Workflow.Frame

/-!
# Calls

In a workflow a barrier that fires calls its continuation. An observer has its call noted, and makes requests of its
own to the barrier during the call; `Barrier.withProbes` says where these come in. However a barrier is asked, its
observer is called once if there is a verdict, with that verdict, and else not at all (`called_exactly_once`).
-/

namespace TaskCoordination

namespace Barrier

variable {κ : Type}

/-- The requests that reach the barrier if its continuation makes the requests `probes` when it is called: they come
right after the one that makes the barrier fire. -/
def withProbes (b : Barrier κ) (probes : List BarrierRequest) : List BarrierRequest → List BarrierRequest
  | [] => []
  | r :: rest => if (b.ask r).2.2.isSome then r :: (probes ++ rest) else r :: (b.ask r).1.withProbes probes rest

/-- After the verdict nothing comes in. -/
theorem withProbes_of_verdict {k : κ} {b : Barrier κ} (hk : b.Holds k) (hv : b.verdict ≠ none)
    (probes rs : List BarrierRequest) : b.withProbes probes rs = rs := by
  induction rs generalizing b with
  | nil => rfl
  | cons r rs ih =>
    obtain ⟨hk', ho⟩ := outcome_ask hk r
    rcases ho with ⟨hf, hv'⟩ | ⟨hn, -⟩
    · rw [withProbes, hf, if_neg (by simp), ih hk' (by rw [hv']; exact hv)]
    · exact absurd hn hv

end Barrier

/-- Which barrier made the call, for which job and with which verdict. -/
def Call.notice (c : Call) : BarrierRef × JobId × Verdict :=
  (c.barrier, c.job, c.verdict)

namespace Workflow

variable {w : Workflow}

/-- Makes several requests to a barrier in turn. -/
def askEach (w : Workflow) (ref : BarrierRef) : List BarrierRequest → Workflow
  | [] => w
  | r :: rest => (w.ask ref r).1.askEach ref rest

/-- The call of an observer is noted, and its requests reach the barrier. -/
private theorem call_observer {ref : BarrierRef} {b : Barrier Continuation} (h : w.barrier? ref = some b)
    (job : JobId) (probes : List BarrierRequest) (v : Verdict) :
    let called := w.call ref job ⟨.observer probes, v⟩
    called.2 = none ∧ called.1.barrier? ref = some (b.run probes).1 ∧
      called.1.calls.map Call.notice = w.calls.map Call.notice ++ [(ref, job, v)] := by
  intro called
  have hc : called = ((w.setBarrier ref (b.run probes).1).note ref job v
      (some ⟨b.status, (b.run probes).2.map Exchange.reply⟩), none) := by
    show w.call ref job ⟨.observer probes, v⟩ = _
    simp only [call, observe, h, Barrier.askAll_eq_run]
  rw [hc]
  refine ⟨rfl, barrier?_setBarrier h _, ?_⟩
  rw [note, List.map_append]
  rfl

/-- What an observed barrier comes to, and which of its calls are noted. -/
theorem askEach_observer {ref : BarrierRef} {b : Barrier Continuation} {probes : List BarrierRequest}
    (h : w.barrier? ref = some b) (hk : b.Holds (.observer probes)) (requests : List BarrierRequest) :
    let b' := (b.run (b.withProbes probes requests)).1
    (w.askEach ref requests).barrier? ref = some b' ∧
      (w.askEach ref requests).calls.map Call.notice = w.calls.map Call.notice ++
        if b.verdict = none then (b'.verdict.map fun v => (ref, b.job, v)).toList else [] := by
  induction requests generalizing w b with
  | nil =>
    refine ⟨h, ?_⟩
    show w.calls.map Call.notice = w.calls.map Call.notice ++
      if b.verdict = none then (b.verdict.map fun v => (ref, b.job, v)).toList else []
    cases b.verdict <;> simp
  | cons r rest ih =>
    obtain ⟨hk', ho⟩ := Barrier.outcome_ask hk r
    have hj : (b.ask r).1.job = b.job := (Barrier.step_ask b r).job_eq
    rcases ho with ⟨hf, hv⟩ | ⟨hn, v, hf, hv⟩
    · -- nothing fires, and the requests go on at the barrier as it is now
      have ha : (w.askEach ref (r :: rest)) = (w.setBarrier ref (b.ask r).1).askEach ref rest := by
        rw [askEach, ask_of_silent h hf]
      have hp : b.withProbes probes (r :: rest) = r :: (b.ask r).1.withProbes probes rest := by
        rw [Barrier.withProbes, hf, if_neg (by simp)]
      obtain ⟨hb', hcalls'⟩ := ih (barrier?_setBarrier h (b.ask r).1) hk'
      rw [ha, hp]
      refine ⟨hb', ?_⟩
      rw [hcalls', calls_setBarrier, hv, hj]
      rfl
    · -- the barrier fires; the probes come in between, and they find a verdict that stays
      obtain ⟨hnext, hb, hcalls⟩ :=
        call_observer (barrier?_setBarrier h (b.ask r).1) b.job probes v
      generalize hw : (w.setBarrier ref (b.ask r).1).call ref b.job ⟨.observer probes, v⟩ = called at hnext hb hcalls
      have ha : w.askEach ref (r :: rest) = called.1.askEach ref rest := by
        rw [askEach, ask_of_firing h hf, hw]
        simp only [hnext, pursue_none]
      have hv' : ((b.ask r).1.run probes).1.verdict = some v := Barrier.verdict_run hv probes
      have hk'' := Barrier.holds_run hk' probes
      have hrest := Barrier.withProbes_of_verdict hk'' (by simp [hv']) probes rest
      have hp : b.withProbes probes (r :: rest) = r :: (probes ++ rest) := by
        rw [Barrier.withProbes, if_pos (by rw [hf]; rfl)]
      obtain ⟨hb', hcalls'⟩ := ih hb hk''
      rw [hrest] at hb'
      rw [hv', if_neg (by simp), hcalls, List.append_nil, calls_setBarrier] at hcalls'
      have hrun : (b.run (r :: (probes ++ rest))).1 = (((b.ask r).1.run probes).1.run rest).1 := by
        rw [Barrier.run, Barrier.run_append]
      rw [ha, hp, hrun]
      refine ⟨hb', ?_⟩
      rw [hcalls', if_pos hn, Barrier.verdict_run hv' rest]
      rfl

/-- A continuation is handed out once, with the verdict, and without one not at all. The verdict is final, and in a
workflow the calls of an observer are noted accordingly. -/
theorem called_exactly_once (job : JobId) :
    (∀ {κ : Type} (k : κ) (rs later : List BarrierRequest),
      ((Barrier.start job k).run rs).1.Account k ((Barrier.start job k).run rs).2 ∧
        ∀ v, ((Barrier.start job k).run rs).1.verdict = some v →
          ((Barrier.start job k).run (rs ++ later)).1.verdict = some v) ∧
      ∀ (w : Workflow) (probes rs : List BarrierRequest),
        let added := w.addBarrier job (.observer probes)
        let b := Barrier.start job (Continuation.observer probes)
        let b' := (b.run (b.withProbes probes rs)).1
        (added.1.askEach added.2 rs).barrier? added.2 = some b' ∧
          (added.1.askEach added.2 rs).calls.map Call.notice =
            w.calls.map Call.notice ++ (b'.verdict.map fun v => (added.2, job, v)).toList := by
  constructor
  · intro κ k rs later
    refine ⟨Barrier.account_run job k rs, fun v hv => ?_⟩
    rw [Barrier.run_append]
    exact Barrier.verdict_run hv later
  · intro w probes rs
    have h := barrier?_eq (barrier?_addBarrier w job (.observer probes))
    exact askEach_observer h (Barrier.holds_start job _) rs

/-- A barrier that is ready stays so when it is cancelled too late. -/
theorem called_exactly_once_late_cancellation :
    let rs := [.register, .enable, .complete ⟨0, "a"⟩]
    ((Barrier.start ⟨3⟩ ()).run rs).1.verdict = some .ready ∧
      ((Barrier.start ⟨3⟩ ()).run (rs ++ [.cancel, .register])).1.verdict = some .ready := by
  intro rs
  have hv : ((Barrier.start ⟨3⟩ ()).run rs).1.verdict = some .ready := rfl
  exact ⟨hv, ((called_exactly_once ⟨3⟩).1 () rs [.cancel, .register]).2 _ hv⟩

end Workflow

end TaskCoordination
