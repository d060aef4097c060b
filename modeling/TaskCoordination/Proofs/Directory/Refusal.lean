import Mathlib.Data.List.DropRight
import TaskCoordination.Proofs.Catalog.Implementations
import TaskCoordination.Proofs.Directory.Description

/-!
# Registrations and descriptions that fail

What is given is checked at three depths: a description for its number of nodes, an invocation or a registration for
texts that are blank, and a registration for a conflict with what the catalog has. Each check comes before anything
is written, so that what fails changes nothing, and to fail is to miss one of them (`fails_ask`, `fails_follow`).
None but the last depends on the catalog, and that it finds every conflict rests on how all catalogs come about
(`Catalog.IsIndexed`, `CoreElement.IsUnambiguous`).

To look an invocation up fails exactly if one of its texts is blank, whatever the catalog has, and so does the
description of a service, and that of a method besides if it is for no node. A registration fails exactly if one of
its two signatures is blank or its implementation is in conflict with one that is there. What fails can be left out
of what is done to a directory (`failures_leave_no_trace`).
-/

namespace TaskCoordination

/-! ### Faults -/

namespace Text

/-- A text is blank if trimming takes all of it away. -/
theorem isBlank_iff {s : String} : isBlank s = true ↔ trim s = "" := by
  have htrim : trim s = "" ↔ (s.toList.dropWhile isBlankChar).rdropWhile isBlankChar = [] := by
    rw [← String.toList_inj, trim, String.toList_ofList]
    rfl
  -- what is left of the front starts with another character
  rw [htrim, List.rdropWhile_eq_nil_iff, ← List.dropWhile_eq_nil_iff, List.dropWhile_idempotent,
    List.dropWhile_eq_nil_iff, isBlank, List.all_eq_true]

end Text

/-- The texts that make up an invocation. -/
def Invocation.identity : Invocation → List String
  | method owner name => [owner, name]
  | service domain provider port operation => [domain, provider, port, operation]

theorem Invocation.fault?_ne_none_iff {i : Invocation} :
    i.fault? ≠ none ↔ ∃ s ∈ i.identity, Text.trim s = "" := by
  simp only [← Text.isBlank_iff]
  cases i with
  | method owner name =>
    cases hname : Text.isBlank name <;> cases howner : Text.isBlank owner <;> simp [fault?, identity, hname, howner]
  | service domain provider port operation =>
    cases hoperation : Text.isBlank operation with
    | true => simp [fault?, identity, hoperation]
    | false =>
      cases hdomain : Text.isBlank domain <;> cases hprovider : Text.isBlank provider <;>
        cases hport : Text.isBlank port <;> simp [fault?, identity, hoperation, hdomain, hprovider, hport]

theorem Registration.fault?_ne_none_iff {r : Registration} :
    r.fault? ≠ none ↔ Text.trim r.signature = "" ∨ Text.trim r.implementation.signature = "" := by
  simp only [← Text.isBlank_iff]
  cases hs : Text.isBlank r.signature <;> cases hk : Text.isBlank r.implementation.signature <;> simp [fault?, hs, hk]

namespace Catalog

variable {c c' : Catalog}

private theorem Step.fault?_of_error {i : Invocation} {target ret : Bool} {ps : List Parameter} {r : Rejection}
    (hs : Step c (.resolve i target ret ps) c' (.error r)) :
    (CatalogRequest.resolve i target ret ps).fault? = some r := by
  cases hs with
  | invalid hf => exact hf

/-- What a catalog turns down: blank texts, and implementations that are in conflict. -/
def TurnsDown (c : Catalog) : CatalogRequest → Prop
  | .resolve i _ _ _ => ∃ s ∈ i.identity, Text.trim s = ""
  | .register r => Text.trim r.signature = "" ∨ Text.trim r.implementation.signature = "" ∨ c.Conflicts r

private theorem turnsDown_iff {q : CatalogRequest} :
    c.TurnsDown q ↔ q.fault? ≠ none ∨ ∃ r, q = .register r ∧ c.Conflicts r := by
  cases q with
  | resolve i target ret ps =>
    simp [TurnsDown, CatalogRequest.fault?, ← Invocation.fault?_ne_none_iff]
  | register r =>
    simp [TurnsDown, CatalogRequest.fault?, ← or_assoc, ← Registration.fault?_ne_none_iff]

theorem exists_error_iff (hi : c.IsIndexed) (hu : ∀ e ∈ c.elements, e.IsUnambiguous) (q : CatalogRequest) :
    (∃ r, (c.ask q).2 = .error r) ↔ c.TurnsDown q := by
  rw [turnsDown_iff]
  cases hf : q.fault? with
  | some e => exact iff_of_true ⟨e, by rw [ask_of_fault? c hf]⟩ (Or.inl (by simp))
  | none =>
    cases q with
    | resolve i target ret ps =>
      refine iff_of_false ?_ (by simp)
      rintro ⟨r, hr⟩
      have hs := step_ask c (.resolve i target ret ps)
      rw [hr] at hs
      exact absurd (hs.fault?_of_error.symm.trans hf) (by simp)
    | register r =>
      rcases conflicts_or_registered hi hu hf with ⟨hc, heq⟩ | ⟨hc, id, hid, -⟩
      · exact iff_of_true ⟨_, congrArg Prod.snd heq⟩ (Or.inr ⟨r, rfl, hc⟩)
      · have hid : (c.ask (.register r)).2 = .ok id := hid
        refine iff_of_false (by simp [hid]) ?_
        simpa using hc

end Catalog

namespace Directory

variable {d d' : Directory}

theorem unambiguous_run (hu : ∀ e ∈ d.catalog.elements, e.IsUnambiguous) (as : List DirectoryAction) :
    ∀ e ∈ (d.run as).catalog.elements, e.IsUnambiguous :=
  catalog_run (P := fun c => ∀ e ∈ c.elements, e.IsUnambiguous)
    (fun c q h => (Catalog.step_ask c q).unambiguous h) hu as

/-! ### What fails -/

private theorem lt_singleNode_iff {n : UInt32} : n < singleNode ↔ n = 0 := by
  rw [UInt32.lt_iff_toNat_lt, ← UInt32.toNat_inj]
  exact Nat.lt_one_iff

/-- A call that fails exactly if the condition holds, and then leaves the directory as it is. -/
structure FailsIf {α : Type} (d : Directory) (out : Directory × Except Rejection α) (p : Prop) : Prop where
  iff : (∃ r, out.2 = .error r) ↔ p
  unchanged : ∀ r, out.2 = .error r → out.1 = d

theorem FailsIf.congr {α : Type} {out : Directory × Except Rejection α} {p p' : Prop} (h : d.FailsIf out p)
    (hp : p ↔ p') : d.FailsIf out p' :=
  ⟨h.iff.trans hp, h.unchanged⟩

/-- What a request makes of a directory. -/
def ask (d : Directory) (q : CatalogRequest) : Directory × Except Rejection CoreId :=
  (d.adopt (d.catalog.ask q).1, (d.catalog.ask q).2)

theorem fails_ask (hi : d.catalog.IsIndexed) (hu : ∀ e ∈ d.catalog.elements, e.IsUnambiguous) (q : CatalogRequest) :
    d.FailsIf (d.ask q) (d.catalog.TurnsDown q) := by
  refine ⟨Catalog.exists_error_iff hi hu q, ?_⟩
  intro r hr
  have hs := Catalog.step_ask d.catalog q
  have hr : (d.catalog.ask q).2 = .error r := hr
  rw [hr] at hs
  rw [ask, hs.of_error, adopt_self]

theorem fails_follow (hi : d.catalog.IsIndexed) (hu : ∀ e ∈ d.catalog.elements, e.IsUnambiguous) (q : Description) :
    d.FailsIf (d.follow q) (q.options.nodes = 0 ∨ ∃ s ∈ q.invocation.identity, Text.trim s = "") := by
  have hnodes : q.fault? ≠ none ↔ q.options.nodes = 0 := by
    rw [← lt_singleNode_iff]
    simp [Description.fault?]
  rw [← hnodes]
  cases hf : q.fault? with
  | some e =>
    rw [follow_of_fault? hf]
    exact ⟨iff_of_true ⟨e, rfl⟩ (Or.inl (by simp)), fun _ _ => rfl⟩
  | none =>
    have hask := fails_ask hi hu q.request
    have hmap : ∀ r, (d.catalog.ask q.request).2.map q.descriptor = .error r ↔
        (d.catalog.ask q.request).2 = .error r := by
      intro r
      cases (d.catalog.ask q.request).2 <;> simp [Except.map]
    rw [follow_of_fault?_eq_none hf]
    refine ⟨?_, fun r hr => hask.unchanged r ((hmap r).1 hr)⟩
    simp only [hmap, ne_eq, not_true_eq_false, false_or]
    exact hask.iff

/-- An action that is a registration or a description and fails. -/
def refuses (d : Directory) : DirectoryAction → Bool
  | .ask (.resolve i target ret ps) => !(d.coreId i target ret ps).2.isOk
  | .ask (.register r) => !(d.register r).2.isOk
  | .describeMethod owner name options target ps => !(d.describeMethod owner name options target ps).2.isOk
  | .describeService domain provider port operation priority target ps =>
    !(d.describeService domain provider port operation priority target ps).2.isOk
  | .reset | .table _ => false

private theorem FailsIf.eq_of_not_isOk {α : Type} {out : Directory × Except Rejection α} {p : Prop}
    (h : d.FailsIf out p) (hout : (!out.2.isOk) = true) : out.1 = d := by
  cases ho : out.2 with
  | ok x => exact absurd hout (by simp [ho, Except.isOk, Except.toBool])
  | error r => exact h.unchanged r ho

theorem act_of_refuses (hi : d.catalog.IsIndexed) (hu : ∀ e ∈ d.catalog.elements, e.IsUnambiguous)
    {a : DirectoryAction} (ha : d.refuses a = true) : d.act a = d := by
  cases a with
  | ask q => cases q with
    | resolve i target ret ps => exact (fails_ask hi hu (.resolve i target ret ps)).eq_of_not_isOk ha
    | register r => exact (fails_ask hi hu (.register r)).eq_of_not_isOk ha
  | describeMethod owner name options target ps =>
    exact (fails_follow hi hu (.method owner name options target ps)).eq_of_not_isOk ha
  | describeService domain provider port operation priority target ps =>
    exact (fails_follow hi hu (.service domain provider port operation priority target ps)).eq_of_not_isOk ha
  | reset | table => exact absurd ha (by simp [refuses])

/-- Over all directories: exactly what has a blank text, no node or a conflict fails, and what fails leaves the
catalog and the table as they were. -/
theorem failures_leave_no_trace (announces : Bool) (as : List DirectoryAction) :
    let d := (empty announces).run as
    (∀ i target ret ps, d.FailsIf (d.coreId i target ret ps) (∃ s ∈ i.identity, Text.trim s = "")) ∧
      (∀ r, d.FailsIf (d.register r)
        (Text.trim r.signature = "" ∨ Text.trim r.implementation.signature = "" ∨ d.catalog.Conflicts r)) ∧
      (∀ owner name options target ps, d.FailsIf (d.describeMethod owner name options target ps)
        (options.nodes = 0 ∨ Text.trim owner = "" ∨ Text.trim name = "")) ∧
      (∀ domain provider port operation priority target ps,
        d.FailsIf (d.describeService domain provider port operation priority target ps)
          (Text.trim domain = "" ∨ Text.trim provider = "" ∨ Text.trim port = "" ∨ Text.trim operation = "")) ∧
      ∀ a later, d.refuses a = true →
        (empty announces).run (as ++ a :: later) = (empty announces).run (as ++ later) := by
  intro d
  have hi : d.catalog.IsIndexed := isIndexed_run Catalog.isIndexed_empty as
  have hu : ∀ e ∈ d.catalog.elements, e.IsUnambiguous :=
    unambiguous_run (fun _ he => absurd he List.not_mem_nil) as
  refine ⟨?_, ?_, ?_, ?_, ?_⟩
  · exact fun i target ret ps => fails_ask hi hu (.resolve i target ret ps)
  · exact fun r => fails_ask hi hu (.register r)
  · intro owner name options target ps
    refine (fails_follow hi hu (.method owner name options target ps)).congr ?_
    simp [Description.options, Description.invocation, Invocation.identity]
  · intro domain provider port operation priority target ps
    refine (fails_follow hi hu (.service domain provider port operation priority target ps)).congr ?_
    simp [Description.options, Description.invocation, Invocation.identity, singleNode]
  · intro a later ha
    have hrun : d.act a = d := act_of_refuses hi hu ha
    rw [run_append, run_append]
    show (d.act a).run later = d.run later
    rw [hrun]

/-- A method without a name is turned down though its text is registered as it stands, a service for the tab that is
its port and a method for no node; and a second implementation that differs is left out of the run. -/
theorem failures_leave_no_trace_blank_and_conflicting :
    let sig := " ()app.A"
    let binary : Registration := ⟨sig, ⟨"run", .binary, ["/bin/run"], .empty⟩⟩
    let other : Registration := ⟨sig, ⟨"run", .binary, ["/bin/walk"], .empty⟩⟩
    let as : List DirectoryAction := [.ask (.register binary), .table (.attemptOpened ⟨0⟩)]
    let later : List DirectoryAction := [.describeMethod "app.A" "run" {} false [.input .int]]
    let d := (empty true).run as
    (d.catalog.find? sig = some ⟨0⟩ ∧ (∃ r, (d.coreId (.method "app.A" " ") false false []).2 = .error r) ∧
        (d.coreId (.method "app.A" " ") false false []).1 = d) ∧
      (∃ r, (d.describeService "ns" "Svc" "\t" "op" true false []).2 = .error r) ∧
      (∃ r, (d.describeMethod "app.A" "run" { nodes := 0 } false []).2 = .error r) ∧
      ((∃ r, (d.register other).2 = .error r) ∧ (d.register other).1 = d) ∧
      ((empty true).run (as ++ .ask (.register other) :: later)).catalog.size = 2 ∧
      (empty true).run (as ++ .ask (.register other) :: later) = (empty true).run (as ++ later) := by
  intro sig binary other as later d
  obtain ⟨hresolve, hregister, hmethod, hservice, hrun⟩ := failures_leave_no_trace true as
  have hblank := (hresolve (.method "app.A" " ") false false []).iff.2 ⟨" ", by decide, by decide⟩
  have hport := (hservice "ns" "Svc" "\t" "op" true false []).iff.2 (Or.inr (Or.inr (Or.inl (by decide))))
  have hnodes := (hmethod "app.A" "run" { nodes := 0 } false []).iff.2 (Or.inl rfl)
  have hconflict : d.catalog.Conflicts other := ⟨⟨⟨0⟩, sig, [binary.implementation]⟩, by decide, by decide⟩
  have hother := (hregister other).iff.2 (Or.inr (Or.inr hconflict))
  obtain ⟨r, hr⟩ := hblank
  obtain ⟨r', hr'⟩ := hother
  have hsame := hrun (.ask (.register other)) later (by decide)
  refine ⟨⟨by decide, ⟨r, hr⟩, (hresolve _ _ _ _).unchanged r hr⟩, hport, hnodes,
    ⟨⟨r', hr'⟩, (hregister other).unchanged r' hr'⟩, ?_, hsame⟩
  rw [hsame]
  decide

end Directory

end TaskCoordination
