import TaskCoordination.Proofs.Catalog.Signatures

/-!
# The implementations of a core element

A core element starts with one implementation and gets others at the end, never two with one signature
(`CoreElement.IsUnambiguous`): the first half is how a catalog inserts, the second is a search before it adds. Since
the signatures differ, the search finds an implementation exactly if the element has it, and what it finds besides
is a conflict. So a registration is turned down exactly for an implementation that has the same signature and
differs (`CoreElement.Conflicts`), and is otherwise `CoreElement.adding` (`implementations_run`).

After any requests every element has implementations, and keeps them however the requests go on. A registration that
is turned down changes nothing; else the element has the implementation afterwards, at the end if it did not have
it. An invocation brings its default implementation to an element that is new and nothing to any other.
-/

namespace TaskCoordination

namespace CoreElement

variable {e : CoreElement} {k : Implementation}

/-- There is an implementation, and no two have the same signature. -/
structure IsUnambiguous (e : CoreElement) : Prop where
  ne_nil : e.implementations ≠ []
  nodup : (e.implementations.map Implementation.signature).Nodup

/-- An implementation with the signature of the given one is there, and is another one. -/
def Conflicts (e : CoreElement) (k : Implementation) : Prop :=
  ∃ k' ∈ e.implementations, k'.signature = k.signature ∧
    (k'.kind ≠ k.kind ∨ k'.arguments ≠ k.arguments ∨ k'.requirements ≠ k.requirements)

instance (e : CoreElement) (k : Implementation) : Decidable (e.Conflicts k) :=
  inferInstanceAs (Decidable (∃ k' ∈ e.implementations, _))

/-- The element with an implementation that it has already or else gets at the end. -/
def adding (e : CoreElement) (k : Implementation) : CoreElement :=
  if k ∈ e.implementations then e else { e with implementations := e.implementations ++ [k] }

theorem mem_adding (e : CoreElement) (k : Implementation) : k ∈ (e.adding k).implementations := by
  unfold adding
  by_cases hk : k ∈ e.implementations
  · rwa [if_pos hk]
  · rw [if_neg hk]
    simp

private theorem ne_iff {k k' : Implementation} (h : k'.signature = k.signature) :
    k' ≠ k ↔ k'.kind ≠ k.kind ∨ k'.arguments ≠ k.arguments ∨ k'.requirements ≠ k.requirements := by
  cases k
  cases k'
  simp only [ne_eq, Implementation.mk.injEq] at h ⊢
  tauto

theorem conflicts_iff : e.Conflicts k ↔ ∃ k' ∈ e.implementations, k'.signature = k.signature ∧ k' ≠ k := by
  constructor
  · rintro ⟨k', hmem, hs, hne⟩
    exact ⟨k', hmem, hs, (ne_iff hs).2 hne⟩
  · rintro ⟨k', hmem, hs, hne⟩
    exact ⟨k', hmem, hs, (ne_iff hs).1 hne⟩

/-- What an unambiguous element has is in no conflict with it. -/
theorem IsUnambiguous.not_conflicts (h : e.IsUnambiguous) (hk : k ∈ e.implementations) : ¬ e.Conflicts k := by
  rw [conflicts_iff]
  rintro ⟨k', hmem, hs, hne⟩
  exact hne (List.inj_on_of_nodup_map h.nodup hmem hk hs)

theorem adding_of_forall_ne (h : ∀ k' ∈ e.implementations, k'.signature ≠ k.signature) :
    ¬ e.Conflicts k ∧ e.adding k = { e with implementations := e.implementations ++ [k] } := by
  constructor
  · rintro ⟨k', hmem, hs, -⟩
    exact h k' hmem hs
  · exact if_neg fun hk => h k hk rfl

theorem IsUnambiguous.concat (h : e.IsUnambiguous) (hk : ∀ k' ∈ e.implementations, k'.signature ≠ k.signature) :
    IsUnambiguous { e with implementations := e.implementations ++ [k] } := by
  refine ⟨by simp, ?_⟩
  show ((e.implementations ++ [k]).map Implementation.signature).Nodup
  rw [List.map_append, List.map_singleton, ← List.concat_eq_append]
  refine h.nodup.concat ?_
  rw [List.mem_map]
  rintro ⟨k', hmem, hs⟩
  exact hk k' hmem hs

end CoreElement

namespace Catalog

variable {c c' : Catalog}

/-- The core element that is found under a signature. -/
def named? (c : Catalog) (s : String) : Option CoreElement :=
  (c.find? s).bind c.element?

/-- A registration that an element of the catalog is in conflict with. -/
def Conflicts (c : Catalog) (r : Registration) : Prop :=
  ∃ e, c.named? r.signature = some e ∧ e.Conflicts r.implementation

/-! ### Elements found under signatures -/

private theorem exists_element {c : Catalog} (h : c.IsIndexed) {s : String} {id : CoreId} (hf : c.find? s = some id) :
    ∃ e, c.element? id = some e := by
  obtain ⟨i, hi, rfl⟩ := (h.find?_eq_some_iff s id).1 hf
  have hlt : i < c.elements.length := by
    rw [← List.length_map]
    exact (List.getElem?_eq_some_iff.1 hi).1
  have hmin : (CoreId.ofIndex i).index < c.elements.length := Nat.lt_of_le_of_lt (Nat.min_le_left i _) hlt
  exact ⟨_, List.getElem?_eq_getElem hmin⟩

theorem named?_eq_some_iff {s : String} {e : CoreElement} :
    c.named? s = some e ↔ ∃ id, c.find? s = some id ∧ c.element? id = some e :=
  Option.bind_eq_some_iff

theorem IsIndexed.named?_eq_none_iff (h : c.IsIndexed) {s : String} : c.named? s = none ↔ c.find? s = none := by
  constructor
  · intro hn
    cases hf : c.find? s with
    | none => rfl
    | some id =>
      obtain ⟨e, he⟩ := exists_element h hf
      rw [named?_eq_some_iff.2 ⟨id, hf, he⟩] at hn
      exact absurd hn (by simp)
  · intro hf
    rw [named?, hf, Option.bind_none]

/-- In a catalog of at most the largest size every element is found under its signature. -/
theorem IsIndexed.named?_signature (h : c.IsIndexed) (hc : c.size ≤ word32Max + 1) {e : CoreElement}
    (he : e ∈ c.elements) : c.named? e.signature = some e := by
  obtain ⟨i, hi⟩ := List.mem_iff_getElem?.1 he
  refine named?_eq_some_iff.2 ⟨⟨i⟩, (h.find?_eq_iff hc _ i).2 ?_, hi⟩
  rw [signatures, List.getElem?_map, hi, Option.map_some]

private theorem implementation?_of_element {c : Catalog} {id : CoreId} {e : CoreElement} (he : c.element? id = some e)
    (s : String) : c.implementation? id s = e.implementations.find? fun k => k.signature = s := by
  rw [implementation?, he]
  rfl

/-! ### No two implementations with one signature -/

theorem Step.unambiguous {q : CatalogRequest} {a : Except Rejection CoreId} (hs : Step c q c' a)
    (h : ∀ e ∈ c.elements, e.IsUnambiguous) : ∀ e ∈ c'.elements, e.IsUnambiguous := by
  cases hs with
  | @extended r id hf hfound hk =>
    intro e he
    obtain ⟨i, hi⟩ := List.mem_iff_getElem?.1 he
    rw [getElem?_withImplementation, Option.map_eq_some_iff] at hi
    obtain ⟨e₀, he₀, rfl⟩ := hi
    have hold : e₀.IsUnambiguous := h e₀ (List.mem_of_getElem? he₀)
    by_cases hid : id.index = i
    · subst hid
      rw [implementation?_of_element he₀, List.find?_eq_none] at hk
      rw [if_pos rfl]
      exact hold.concat fun k' hmem => by simpa using hk k' hmem
    · rwa [if_neg hid]
  | inserted =>
    exact forall_mem_concat.2 ⟨h, List.cons_ne_nil _ _, List.nodup_singleton _⟩
  | invalid | resolved | known | conflicting => exact h

theorem unambiguous_run (qs : List CatalogRequest) : ∀ e ∈ (empty.run qs).1.elements, e.IsUnambiguous :=
  run_induction (P := fun c _ => ∀ e ∈ c.elements, e.IsUnambiguous) (fun h hs => hs.unambiguous h) []
    (fun _ he => absurd he List.not_mem_nil) qs

/-! ### What becomes of a request -/

/-- A registration for an element that is there conflicts with it or adds to it. -/
theorem Step.registered {r : Registration} {a : Except Rejection CoreId} {id : CoreId} {e : CoreElement}
    (hs : Step c (.register r) c' a) (hf : (CatalogRequest.register r).fault? = none)
    (hfound : c.find? r.signature = some id) (he : c.element? id = some e) (hu : e.IsUnambiguous) :
    e.Conflicts r.implementation ∧ c' = c ∧
        a = .error (.signatureConflict r.signature r.implementation.signature) ∨
      ¬ e.Conflicts r.implementation ∧ c'.elements = c.elements.set id.index (e.adding r.implementation) ∧
        a = .ok id := by
  cases hs with
  | invalid h => exact absurd (h.symm.trans hf) (by simp)
  | @known _ id' _ h hk =>
    obtain rfl : id' = id := Option.some.inj (h.symm.trans hfound)
    rw [implementation?_of_element he] at hk
    have hmem : r.implementation ∈ e.implementations := List.mem_of_find?_eq_some hk
    refine Or.inr ⟨hu.not_conflicts hmem, ?_, rfl⟩
    obtain ⟨hlt, rfl⟩ := List.getElem?_eq_some_iff.1 he
    rw [CoreElement.adding, if_pos hmem, List.set_getElem_self hlt]
  | @conflicting _ id' k _ h hk hne =>
    obtain rfl : id' = id := Option.some.inj (h.symm.trans hfound)
    rw [implementation?_of_element he] at hk
    have hs : k.signature = r.implementation.signature := by simpa using List.find?_some hk
    exact Or.inl ⟨CoreElement.conflicts_iff.2 ⟨k, List.mem_of_find?_eq_some hk, hs, hne⟩, rfl, rfl⟩
  | @extended _ id' _ h hk =>
    obtain rfl : id' = id := Option.some.inj (h.symm.trans hfound)
    rw [implementation?_of_element he, List.find?_eq_none] at hk
    have hother : ∀ k' ∈ e.implementations, k'.signature ≠ r.implementation.signature :=
      fun k' hmem => by simpa using hk k' hmem
    obtain ⟨hno, hadd⟩ := CoreElement.adding_of_forall_ne hother
    refine Or.inr ⟨hno, ?_, rfl⟩
    have he : c.elements[id'.index]? = some e := he
    rw [hadd, withImplementation, List.modify_eq_set_getElem?, he]
    rfl
  | inserted _ h => exact absurd (h.symm.trans hfound) (by simp)

/-- A registration for an element that is not there inserts it. -/
theorem Step.registered_new {r : Registration} {a : Except Rejection CoreId} (hs : Step c (.register r) c' a)
    (hf : (CatalogRequest.register r).fault? = none) (hnew : c.find? r.signature = none) :
    c'.elements = c.elements ++ [⟨.ofIndex c.size, r.signature, [r.implementation]⟩] ∧ a = .ok (.ofIndex c.size) := by
  cases hs with
  | invalid h => exact absurd (h.symm.trans hf) (by simp)
  | inserted => exact ⟨rfl, rfl⟩
  | known _ h => exact absurd (h.symm.trans hnew) (by simp)
  | conflicting _ h => exact absurd (h.symm.trans hnew) (by simp)
  | extended _ h => exact absurd (h.symm.trans hnew) (by simp)

theorem Step.resolved_elements {i : Invocation} {target ret : Bool} {ps : List Parameter}
    {a : Except Rejection CoreId} (hs : Step c (.resolve i target ret ps) c' a) :
    c' = c ∨ c.find? (i.render (realParameters ps target ret)) = none ∧
      c'.elements = c.elements ++ [⟨.ofIndex c.size, i.render (realParameters ps target ret),
        [i.defaultImplementation (i.render (realParameters ps target ret))]⟩] := by
  cases hs with
  | invalid | resolved => exact Or.inl rfl
  | inserted _ h => exact Or.inr ⟨h, rfl⟩

/-- The elements after a registration that was accepted with an identifier: the element of its signature is there with
the implementation added, or it is a new one. -/
def Registered (c : Catalog) (r : Registration) (id : CoreId) (elements : List CoreElement) : Prop :=
  ∃ e', r.implementation ∈ e'.implementations ∧
    (∀ e, c.named? r.signature = some e → c.element? id = some e ∧ e' = e.adding r.implementation ∧
      elements = c.elements.set id.index e') ∧
    (c.named? r.signature = none → e' = ⟨id, r.signature, [r.implementation]⟩ ∧ elements = c.elements ++ [e'])

/-- A registration without fault is in conflict and changes nothing, or it is accepted. -/
theorem conflicts_or_registered (hi : c.IsIndexed) (hu : ∀ e ∈ c.elements, e.IsUnambiguous) {r : Registration}
    (hf : (CatalogRequest.register r).fault? = none) :
    c.Conflicts r ∧ c.register r = (c, .error (.signatureConflict r.signature r.implementation.signature)) ∨
      ¬ c.Conflicts r ∧ ∃ id, (c.register r).2 = .ok id ∧ c.Registered r id (c.register r).1.elements := by
  have hs : Step c (.register r) (c.register r).1 (c.register r).2 := step_ask c (.register r)
  cases hfound : c.find? r.signature with
  | none =>
    have hn : c.named? r.signature = none := hi.named?_eq_none_iff.2 hfound
    have hno : ¬ c.Conflicts r := by
      rintro ⟨e, he, -⟩
      rw [hn] at he
      exact absurd he (by simp)
    obtain ⟨helems, hans⟩ := hs.registered_new hf hfound
    refine Or.inr ⟨hno, _, hans, ⟨.ofIndex c.size, r.signature, [r.implementation]⟩, by simp, ?_, ?_⟩
    · intro e he
      rw [hn] at he
      exact absurd he (by simp)
    · exact fun _ => ⟨rfl, helems⟩
  | some id =>
    obtain ⟨e, he⟩ := exists_element hi hfound
    have hn : c.named? r.signature = some e := named?_eq_some_iff.2 ⟨id, hfound, he⟩
    have hiff : c.Conflicts r ↔ e.Conflicts r.implementation := by
      simp only [Conflicts, hn, Option.some.injEq, exists_eq_left']
    rw [hiff]
    rcases hs.registered hf hfound he (hu e (List.mem_of_getElem? he)) with ⟨hc, hsame, hans⟩ | ⟨hc, helems, hans⟩
    · exact Or.inl ⟨hc, Prod.ext hsame hans⟩
    · refine Or.inr ⟨hc, id, hans, e.adding r.implementation, e.mem_adding _, ?_, ?_⟩
      · intro e' he'
        obtain rfl : e = e' := Option.some.inj (hn.symm.trans he')
        exact ⟨he, rfl, helems⟩
      · intro hnone
        rw [hn] at hnone
        exact absurd hnone (by simp)

/-- After any requests, and however they go on, implementations are different and stay, and an accepted registration
brings its element one more at the end, or none. -/
theorem implementations_run (qs later : List CatalogRequest) :
    let c := (empty.run qs).1
    (∀ e ∈ c.elements, e.implementations ≠ [] ∧ (e.implementations.map Implementation.signature).Nodup) ∧
      c.Extends (empty.run (qs ++ later)).1 ∧
      (∀ s, c.named? s = none ↔ s ∉ c.signatures) ∧
      (c.size ≤ word32Max + 1 → ∀ e ∈ c.elements, c.named? e.signature = some e) ∧
      (∀ r : Registration, Text.isBlank r.signature = false → Text.isBlank r.implementation.signature = false →
        (c.register r = (c, .error (.signatureConflict r.signature r.implementation.signature)) ↔ c.Conflicts r) ∧
        (¬ c.Conflicts r → ∃ id, (c.register r).2 = .ok id ∧ c.Registered r id (c.register r).1.elements)) ∧
      ∀ (i : Invocation) (target ret : Bool) (ps : List Parameter), (c.coreId i target ret ps).1 = c ∨
        c.named? (i.render (realParameters ps target ret)) = none ∧ (c.coreId i target ret ps).1.elements =
          c.elements ++ [⟨.ofIndex c.size, i.render (realParameters ps target ret),
            [i.defaultImplementation (i.render (realParameters ps target ret))]⟩] := by
  intro c
  have hi : c.IsIndexed := isIndexed_run isIndexed_empty qs
  have hu : ∀ e ∈ c.elements, e.IsUnambiguous := unambiguous_run qs
  have hext : c.Extends (empty.run (qs ++ later)).1 := by
    rw [run_append]
    exact extends_run c later
  refine ⟨fun e he => ⟨(hu e he).ne_nil, (hu e he).nodup⟩, hext,
    fun s => hi.named?_eq_none_iff.trans hi.find?_eq_none_iff, fun hc e he => hi.named?_signature hc he, ?_, ?_⟩
  · intro r hsig himpl
    have hf : (CatalogRequest.register r).fault? = none := by
      simp [CatalogRequest.fault?, Registration.fault?, hsig, himpl]
    rcases conflicts_or_registered hi hu hf with ⟨hc, heq⟩ | ⟨hc, id, hans, hreg⟩
    · exact ⟨iff_of_true heq hc, fun hno => absurd hc hno⟩
    · refine ⟨iff_of_false ?_ hc, fun _ => ⟨id, hans, hreg⟩⟩
      intro heq
      rw [heq] at hans
      exact absurd hans (by simp)
  · intro i target ret ps
    rcases (step_ask c (.resolve i target ret ps)).resolved_elements with h | ⟨hn, he⟩
    · exact Or.inl h
    · exact Or.inr ⟨hi.named?_eq_none_iff.2 hn, he⟩

/-- An element that came with an invocation gets a second implementation; another one with that signature is turned
down. -/
theorem implementations_run_resolved_then_registered :
    let sig := "inc(INT_T)app.Counter"
    let byDefault : Implementation := ⟨sig, .method, ["app.Counter", "inc"], .empty⟩
    let binary : Registration := ⟨sig, ⟨"BINARY.inc", .binary, ["/bin/inc"], .empty⟩⟩
    let other : Registration := ⟨sig, ⟨"BINARY.inc", .binary, ["/bin/dec"], .empty⟩⟩
    let qs := [.resolve (.method "app.Counter" "inc") false false [.input .int], .register binary]
    let c := (empty.run qs).1
    c.named? sig = some ⟨⟨0⟩, sig, [byDefault, binary.implementation]⟩ ∧ ¬ c.Conflicts binary ∧
      (∃ id, (c.register binary).2 = .ok id ∧ c.Registered binary id (c.register binary).1.elements) ∧
      c.Conflicts other ∧ c.register other = (c, .error (.signatureConflict sig "BINARY.inc")) := by
  intro sig byDefault binary other qs c
  obtain ⟨-, -, -, -, hreg, -⟩ := implementations_run qs []
  have hn : c.named? sig = some ⟨⟨0⟩, sig, [byDefault, binary.implementation]⟩ := by decide
  have hno : ¬ c.Conflicts binary := by
    rintro ⟨e, he, hc⟩
    obtain rfl := Option.some.inj (hn.symm.trans he)
    exact absurd hc (by decide)
  have hyes : c.Conflicts other := ⟨_, hn, by decide⟩
  exact ⟨hn, hno, (hreg binary (by decide) (by decide)).2 hno, hyes, (hreg other (by decide) (by decide)).1.2 hyes⟩

end Catalog

end TaskCoordination
