import TaskCoordination.Coordinator.Basic
import TaskCoordination.Proofs.Resource.Slots

/-!
# What comes of a setup

A setup is turned down for an empty queue, or for the CPU units of its node; what is built of it has the node that
was asked for (`Setup.build_eq_ok`), and can always be started (`Plan.start_of_cpuUnits`). Settings that were read
are never turned down here if there is room in the queue and the node has a unit (`Setup.build_withSettings`).
-/

namespace TaskCoordination

namespace Setup

theorem build_eq_ok {s : Setup} {host : UInt32} {p : Plan} (h : s.build host = .ok p) :
    p.node = s.node.getD (.node (.withCpus host)) ∧ p.metricsEnabled = s.metricsEnabled ∧
      ∃ units, p.node.cpuUnits = .ok units := by
  unfold build at h
  split at h
  · exact absurd h (by simp)
  · dsimp only at h
    split at h
    · exact absurd h (by simp)
    · exact absurd h (by simp)
    · next units _ hunits =>
      obtain rfl := Except.ok.inj h
      exact ⟨rfl, rfl, units, hunits⟩

theorem cpuUnits_withCpus (units : UInt32) : (Resource.node (.withCpus units)).cpuUnits = .ok units.toNat := by
  have hunits : (Node.withCpus units).units .cpu = units.toNat := by
    simp [Node.units, Node.withCpus, Processor.cpu]
  rw [← hunits]
  exact Node.unitsOf_of_le (hunits ▸ Nat.le_pred_of_lt units.toNat_lt)

theorem build_withSettings (s : Setup) {settings : Settings} (hqueue : 0 < settings.listenerQueue)
    (hunits : 0 < settings.computingUnits) (host : UInt32) : (s.withSettings settings).build host =
      .ok ⟨.node (.withCpus settings.computingUnits), s.listener, settings.listenerQueue, settings.metricsEnabled,
        settings.metricsPort⟩ := by
  have hcpus := cpuUnits_withCpus settings.computingUnits
  obtain ⟨n, hn⟩ : ∃ n, settings.computingUnits.toNat = n + 1 :=
    Nat.exists_eq_succ_of_ne_zero (Nat.ne_of_gt (UInt32.lt_iff_toNat_lt.1 hunits))
  rw [hn] at hcpus
  simp [build, withSettings, withUnits, withNode, hcpus, Nat.ne_of_gt hqueue]

end Setup

/-- A plan whose node can be described can be started. -/
theorem Plan.start_of_cpuUnits {p : Plan} {units : Nat} (h : p.node.cpuUnits = .ok units) :
    ∃ table, p.start = .ok ⟨.start ⟨.empty, table, p.metricsEnabled⟩ p.feed, .empty, p.node, 1, 1, p.metricsEnabled,
      p.metricsPort⟩ ∧ (p.metricsEnabled = false → table = .empty) := by
  cases hm : p.metricsEnabled with
  | false =>
    refine ⟨.empty, ?_, fun _ => rfl⟩
    simp only [Plan.start, hm]
    rfl
  | true =>
    refine ⟨{ Telemetry.empty with computingUnits := units }, ?_, fun h => absurd h (by simp)⟩
    simp only [Plan.start, hm, if_true, Telemetry.describeNode, h]
    rfl

end TaskCoordination
