import TaskCoordination.Catalog.Json
import TaskCoordination.Descriptor
import TaskCoordination.Proofs.Json.Basic
import TaskCoordination.Proofs.Profile.Reload

/-!
# Records that are written and read back

Every record is read back as it was written (`RoundTrips`), and then whatever else its reader accepts settles:
fields in another order or among others, defaults that are left out, the array form, nanoseconds that carry. A
profile is not read back as it was, since its running total is not written; what is read of a profile settles all
the same.
-/

namespace TaskCoordination

open Json (RoundTrips Settles)

/-! ### Words -/

theorem Direction.roundTrips : RoundTrips toJson ofJson? :=
  Json.roundTrips_choice .plain (fun d => by cases d <;> decide) (by decide)

theorem DataType.roundTrips : RoundTrips toJson ofJson? :=
  Json.roundTrips_choice .plain (fun t => by cases t <;> decide) (by decide)

theorem ProcessorKind.roundTrips (place : Json.Place) : RoundTrips toJson (ofJson? place) :=
  Json.roundTrips_choice place (fun k => by cases k <;> decide) (by decide)

theorem ImplementationKind.roundTrips : RoundTrips toJson ofJson? :=
  Json.roundTrips_choice .plain (fun k => by cases k <;> decide) (by decide)

theorem FailurePolicy.roundTrips : RoundTrips toJson ofJson? :=
  Json.roundTrips_choice .plain (fun p => by cases p <;> decide) (by decide)

/-! ### Parameters and resources -/

theorem Parameter.roundTrips : RoundTrips toJson ofJson? := by
  rintro ⟨direction, dataType, name⟩
  have hfields : ofJson? (toJson ⟨direction, dataType, name⟩) = (do
      let direction ← Direction.ofJson? direction.toJson
      let dataType ← DataType.ofJson? dataType.toJson
      return ⟨direction, dataType, name⟩) := by
    cases name <;> rfl
  rw [hfields, Direction.roundTrips, DataType.roundTrips]
  rfl

theorem Processor.roundTrips (place : Json.Place) : RoundTrips toJson (ofJson? place) := by
  intro p
  have hfields : ofJson? place p.toJson = (do
      let kind ← ProcessorKind.ofJson? place p.kind.toJson
      let units ← (Json.nat p.units.toNat).uint32?
      return ⟨p.name, p.architecture, kind, units⟩) := rfl
  rw [hfields, ProcessorKind.roundTrips, Json.roundTrips_uint32]
  rfl

theorem Node.roundTrips (place : Json.Place) : RoundTrips toJson (ofJson? place) := by
  intro n
  have hfields : ofJson? place n.toJson = (do
      let processors ← (Json.list Processor.toJson n.processors).list? (Processor.ofJson? place)
      let memory ← (Json.nat n.memory.toNat).uint64?
      return ⟨processors, memory⟩) := rfl
  rw [hfields, (Processor.roundTrips place).list, Json.roundTrips_uint64]
  rfl

theorem Cluster.roundTrips (place : Json.Place) : RoundTrips toJson (ofJson? place) := by
  intro c
  have hfields : ofJson? place c.toJson = (do
      let member ← Node.ofJson? place c.member.toJson
      let taskLimit ← (Json.nat c.taskLimit.toNat).uint32?
      let size ← (Json.nat c.size.toNat).uint32?
      return ⟨member, taskLimit, size⟩) := rfl
  rw [hfields, Node.roundTrips, Json.roundTrips_uint32, Json.roundTrips_uint32]
  rfl

/-- The tag is one field more, which the readers of the descriptions leave alone. -/
theorem Resource.roundTrips : RoundTrips toJson ofJson? := by
  rintro (n | c)
  · have hbody : ofJson? (node n).toJson = node <$> Node.ofJson? .insideTagged n.toJson := rfl
    rw [hbody, Node.roundTrips]
    rfl
  · have hbody : ofJson? (cluster c).toJson = cluster <$> Cluster.ofJson? .insideTagged c.toJson := rfl
    rw [hbody, Cluster.roundTrips]
    rfl

/-! ### Invocations, implementations and options -/

theorem Invocation.roundTrips : RoundTrips toJson ofJson? := by
  rintro (_ | _) <;> rfl

theorem Implementation.roundTrips : RoundTrips toJson ofJson? := by
  intro i
  have hfields : ofJson? i.toJson = (do
      let kind ← ImplementationKind.ofJson? i.kind.toJson
      let arguments ← (Json.list Json.str i.arguments).list? Json.str?
      let requirements ← Node.ofJson? .plain i.requirements.toJson
      return ⟨i.signature, kind, arguments, requirements⟩) := rfl
  rw [hfields, ImplementationKind.roundTrips, Json.roundTrips_str.list, Node.roundTrips]
  rfl

theorem Registration.roundTrips : RoundTrips toJson ofJson? := by
  intro r
  have hfields : ofJson? r.toJson = (do
      let implementation ← Implementation.ofJson? r.implementation.toJson
      return ⟨r.signature, implementation⟩) := rfl
  rw [hfields, Implementation.roundTrips]
  rfl

theorem Duration.secs_le (d : Duration) : d.secs.toNat ≤ word64Max :=
  Nat.le_pred_of_lt d.secs.toNat_lt

/-- A duration has less than a second of nanoseconds, so nothing carries. -/
theorem Duration.ofParts?_self (d : Duration) : ofParts? d.secs.toNat d.nanos = some d := by
  have htotal : d.secs.toNat + d.nanos / nanosPerSecond = d.secs.toNat := by
    rw [Nat.div_eq_of_lt d.nanos_lt, Nat.add_zero]
  simp only [ofParts?, htotal, d.secs_le, if_true, UInt64.ofNat_toNat, Nat.mod_eq_of_lt d.nanos_lt]

theorem Duration.roundTrips : RoundTrips toJson ofJson? := by
  intro d
  have hnanos : d.nanos ≤ word32Max := Nat.le_trans (Nat.le_of_lt d.nanos_lt) (by decide)
  have hfields : ofJson? d.toJson = (do
      let secs ← (Json.nat d.secs.toNat).natUpTo? word64Max
      let nanos ← (Json.nat d.nanos).natUpTo? word32Max
      ofParts? secs nanos) := rfl
  rw [hfields, Json.natUpTo?_nat d.secs_le, Json.natUpTo?_nat hnanos]
  exact ofParts?_self d

theorem TaskOptions.roundTrips : RoundTrips toJson ofJson? := by
  intro o
  have hfields : ofJson? o.toJson = (do
      let nodes ← (Json.nat o.nodes.toNat).uint32?
      let onFailure ← FailurePolicy.ofJson? o.onFailure.toJson
      let timeOut ← (Json.option Duration.toJson o.timeOut).option? Duration.ofJson?
      return ⟨o.priority, nodes, o.replicated, o.distributed, onFailure, timeOut⟩) := rfl
  rw [hfields, Json.roundTrips_uint32, FailurePolicy.roundTrips,
    Duration.roundTrips.option (by simp [Duration.toJson])]
  rfl

/-! ### Profiles -/

theorem Profile.settles : Settles toJson ofJson? := by
  intro j p h
  obtain ⟨hfits, hp⟩ := of_ofJson? h
  have hread : ofJson? p.toJson = some p := by rw [ofJson?_toJson hfits, hp]
  rw [hread]
  exact ⟨rfl, rfl⟩

/-- Every record is read back as it was written. What a reader accepts besides is read as a record that is written
in such a form, and from then on alike; this holds of profiles, too. -/
theorem Json.read_inverts_write :
    (RoundTrips Parameter.toJson Parameter.ofJson? ∧
      (∀ place, RoundTrips Processor.toJson (Processor.ofJson? place)) ∧
      (∀ place, RoundTrips Node.toJson (Node.ofJson? place)) ∧
      (∀ place, RoundTrips Cluster.toJson (Cluster.ofJson? place)) ∧
      RoundTrips Resource.toJson Resource.ofJson? ∧
      RoundTrips Invocation.toJson Invocation.ofJson? ∧
      RoundTrips Implementation.toJson Implementation.ofJson? ∧
      RoundTrips Registration.toJson Registration.ofJson? ∧
      RoundTrips TaskOptions.toJson TaskOptions.ofJson?) ∧
    Settles Parameter.toJson Parameter.ofJson? ∧
      (∀ place, Settles Processor.toJson (Processor.ofJson? place)) ∧
      (∀ place, Settles Node.toJson (Node.ofJson? place)) ∧
      (∀ place, Settles Cluster.toJson (Cluster.ofJson? place)) ∧
      Settles Resource.toJson Resource.ofJson? ∧
      Settles Invocation.toJson Invocation.ofJson? ∧
      Settles Implementation.toJson Implementation.ofJson? ∧
      Settles Registration.toJson Registration.ofJson? ∧
      Settles TaskOptions.toJson TaskOptions.ofJson? ∧
      Settles Profile.toJson Profile.ofJson? := by
  refine ⟨⟨Parameter.roundTrips, Processor.roundTrips, Node.roundTrips, Cluster.roundTrips, Resource.roundTrips,
    Invocation.roundTrips, Implementation.roundTrips, Registration.roundTrips, TaskOptions.roundTrips⟩, ?_⟩
  exact ⟨Parameter.roundTrips.settles, fun place => (Processor.roundTrips place).settles,
    fun place => (Node.roundTrips place).settles, fun place => (Cluster.roundTrips place).settles,
    Resource.roundTrips.settles, Invocation.roundTrips.settles, Implementation.roundTrips.settles,
    Registration.roundTrips.settles, TaskOptions.roundTrips.settles, Profile.settles⟩

/-- Options in another order, with a field of another name and nanoseconds that carry; a tagged cluster as an array,
of which the member leaves out all its fields; and a profile as an array, for which a total is taken. -/
theorem Json.read_inverts_write_loose_forms :
    let options : Json := .obj [("time_out", .obj [("nanos", .nat 2500000000), ("secs", .nat 1)]),
      ("on_failure", .str "FAIL"), ("distributed", .bool false), ("owner", .null), ("num_nodes", .nat 4),
      ("replicated", .bool true), ("priority", .bool false)]
    let o : TaskOptions := ⟨false, 4, true, false, .fail, some ⟨3, 500000000, by decide⟩⟩
    let cluster : Json := .arr [.str "cluster", .arr [], .nat 2, .nat 3]
    let r : Resource := .cluster ⟨⟨[], 0⟩, 2, 3⟩
    let profile : Json := .arr [.nat 3, .nat 10, .nat 20, .nat 31]
    let p : Profile := ⟨3, 10, 20, 31, 60⟩
    (TaskOptions.ofJson? options = some o ∧ TaskOptions.ofJson? o.toJson = some o) ∧
      (Resource.ofJson? cluster = some r ∧ Resource.ofJson? r.toJson = some r) ∧
      Profile.ofJson? profile = some p ∧ Profile.ofJson? p.toJson = some p := by
  intro options o cluster r profile p
  obtain ⟨-, -, -, -, -, hr, -, -, -, ho, hp⟩ := Json.read_inverts_write
  have hoptions : TaskOptions.ofJson? options = some o := rfl
  have hcluster : Resource.ofJson? cluster = some r := rfl
  have hprofile : Profile.ofJson? profile = some p := rfl
  exact ⟨⟨hoptions, (ho _ _ hoptions).1⟩, ⟨hcluster, (hr _ _ hcluster).1⟩, hprofile, (hp _ _ hprofile).1⟩

end TaskCoordination
