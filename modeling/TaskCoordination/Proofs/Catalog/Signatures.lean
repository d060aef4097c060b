import Mathlib.Data.List.Nodup
import TaskCoordination.Proofs.Catalog.Step
import TaskCoordination.Proofs.List

/-!
# The signatures of a catalog

However invocations are resolved and implementations registered, the core elements of a catalog are the signatures
of the accepted requests in the order in which they first came (`first_occurrences`). The elements and the
identifiers by signature are written one beside the other; `IsIndexed` says that they tell the same: an element is
found by its signature and known by its position. A catalog only grows (`Extends`), so that a request once accepted
gets the same answer ever after and changes nothing (`ask_of_holds`).

An identifier is a position only up to the largest one, and so the last facts are about catalogs of at most that size.
-/

namespace TaskCoordination

namespace Catalog

/-- A request with the answer that it got. -/
structure Inquiry where
  request : CatalogRequest
  answer : Except Rejection CoreId
  deriving DecidableEq

/-- The signature of a request that was accepted. -/
def Inquiry.accepted? (x : Inquiry) : Option String :=
  match x.answer with
  | .ok _ => some x.request.signature
  | .error _ => none

def run (c : Catalog) : List CatalogRequest → Catalog × List Inquiry
  | [] => (c, [])
  | q :: rest => (((c.ask q).1.run rest).1, ⟨q, (c.ask q).2⟩ :: ((c.ask q).1.run rest).2)

theorem run_append (c : Catalog) (qs qs' : List CatalogRequest) :
    c.run (qs ++ qs') = (((c.run qs).1.run qs').1, (c.run qs).2 ++ ((c.run qs).1.run qs').2) := by
  induction qs generalizing c with
  | nil => rfl
  | cons q qs ih => simp only [List.cons_append, run, ih]

/-- What each step preserves, with the log so far, holds after a run. -/
theorem run_induction {P : Catalog → List Inquiry → Prop}
    (hP : ∀ {c q c' a log}, P c log → Step c q c' a → P c' (log ++ [⟨q, a⟩])) {c : Catalog} (log : List Inquiry)
    (h : P c log) (qs : List CatalogRequest) : P (c.run qs).1 (log ++ (c.run qs).2) := by
  induction qs generalizing c log with
  | nil => simpa only [run, List.append_nil] using h
  | cons q qs ih =>
    have := ih (log ++ [⟨q, (c.ask q).2⟩]) (hP h (step_ask c q))
    rwa [List.append_assoc] at this

def signatures (c : Catalog) : List String :=
  c.elements.map CoreElement.signature

theorem length_signatures (c : Catalog) : c.signatures.length = c.size := by
  simp [signatures, size]

theorem signature?_eq (c : Catalog) (id : CoreId) : c.signature? id = c.signatures[id.index]? := by
  rw [signature?, element?, signatures, List.getElem?_map]

/-! ### What a step writes -/

theorem getElem?_withImplementation (c : Catalog) (id : CoreId) (k : Implementation) (i : Nat) :
    (c.withImplementation id k).elements[i]? = (c.elements[i]?).map fun e =>
      if id.index = i then { e with implementations := e.implementations ++ [k] } else e := by
  show (c.elements.modify id.index _)[i]? = _
  rw [List.getElem?_modify]
  cases c.elements[i]? with
  | none => rfl
  | some e =>
    by_cases hi : id.index = i
    · simp [hi]
    · simp [hi]

private theorem signatures_withImplementation (c : Catalog) (id : CoreId) (k : Implementation) :
    (c.withImplementation id k).signatures = c.signatures := by
  apply List.ext_getElem?
  intro i
  simp only [signatures, List.getElem?_map, getElem?_withImplementation]
  cases c.elements[i]? with
  | none => rfl
  | some e => by_cases hi : id.index = i <;> simp [hi]

private theorem find?_withImplementation (c : Catalog) (id : CoreId) (k : Implementation) :
    (c.withImplementation id k).find? = c.find? := rfl

private theorem signatures_insertFor (c : Catalog) (q : CatalogRequest) :
    (c.insertFor q).1.signatures = c.signatures ++ [q.signature] := by
  simp [signatures, insertFor, insert]

private theorem size_withImplementation (c : Catalog) (id : CoreId) (k : Implementation) :
    (c.withImplementation id k).size = c.size := by
  rw [← length_signatures, signatures_withImplementation, length_signatures]

private theorem size_insertFor (c : Catalog) (q : CatalogRequest) : (c.insertFor q).1.size = c.size + 1 := by
  rw [← length_signatures, signatures_insertFor, List.length_append, length_signatures, List.length_singleton]

/-- A request brings one core element at most. -/
theorem Step.size_le {c c' : Catalog} {q : CatalogRequest} {a : Except Rejection CoreId} (hs : Step c q c' a) :
    c'.size ≤ c.size + 1 := by
  cases hs with
  | @extended r id => exact Nat.le_succ_of_le (Nat.le_of_eq (size_withImplementation c id r.implementation))
  | inserted => exact Nat.le_of_eq (size_insertFor c q)
  | invalid | resolved | known | conflicting => omega

private theorem find?_insertFor (c : Catalog) (q : CatalogRequest) (s : String) :
    (c.insertFor q).1.find? s = if s = q.signature then some (.ofIndex c.size) else c.find? s := by
  show ((q.signature, CoreId.ofIndex c.size) :: c.ids).lookup s = _
  rw [List.lookup_cons]
  by_cases hs : s = q.signature
  · simp [hs]
  · simp [hs, find?, beq_eq_false_iff_ne.2 hs]

/-! ### The elements and their identifiers -/

/-- Signatures are not repeated, and the identifiers by signature give the positions of the elements. -/
structure IsIndexed (c : Catalog) : Prop where
  nodup : c.signatures.Nodup
  id_eq : ∀ (i : Nat) (e : CoreElement), c.elements[i]? = some e → e.id = .ofIndex i
  find?_eq_some_iff : ∀ s id, c.find? s = some id ↔ ∃ i : Nat, c.signatures[i]? = some s ∧ id = .ofIndex i

theorem isIndexed_empty : empty.IsIndexed := by
  refine ⟨List.nodup_nil, ?_, ?_⟩
  · intro i e h
    exact absurd h (by simp [empty])
  · intro s id
    simp [find?, empty, signatures]

theorem IsIndexed.find?_eq_none_iff {c : Catalog} (h : c.IsIndexed) {s : String} :
    c.find? s = none ↔ s ∉ c.signatures := by
  constructor
  · intro hn hs
    obtain ⟨i, hi⟩ := List.mem_iff_getElem?.1 hs
    have hf := (h.find?_eq_some_iff s (.ofIndex i)).2 ⟨i, hi, rfl⟩
    rw [hn] at hf
    exact absurd hf (by simp)
  · intro hs
    cases hf : c.find? s with
    | none => rfl
    | some id =>
      obtain ⟨i, hi, -⟩ := (h.find?_eq_some_iff s id).1 hf
      exact absurd (List.mem_iff_getElem?.2 ⟨i, hi⟩) hs

theorem IsIndexed.insertFor {c : Catalog} (h : c.IsIndexed) {q : CatalogRequest} (hq : c.find? q.signature = none) :
    (c.insertFor q).1.IsIndexed := by
  have hs : q.signature ∉ c.signatures := h.find?_eq_none_iff.1 hq
  refine ⟨?_, ?_, ?_⟩
  · rw [signatures_insertFor, ← List.concat_eq_append]
    exact h.nodup.concat hs
  · intro i e he
    rcases getElem?_concat_eq_some_iff.1 he with he | ⟨rfl, rfl⟩
    · exact h.id_eq i e he
    · rfl
  · intro s id
    rw [find?_insertFor, signatures_insertFor]
    by_cases hsq : s = q.signature
    · subst hsq
      rw [if_pos rfl]
      constructor
      · intro hid
        refine ⟨c.size, ?_, (Option.some.inj hid).symm⟩
        exact getElem?_concat_eq_some_iff.2 (Or.inr ⟨(length_signatures c).symm, rfl⟩)
      · rintro ⟨i, hi, rfl⟩
        -- the new signature stands at the end only
        rcases getElem?_concat_eq_some_iff.1 hi with hi | ⟨rfl, -⟩
        · exact absurd (List.mem_of_getElem? hi) hs
        · rw [length_signatures]
    · rw [if_neg hsq, h.find?_eq_some_iff]
      have hmem : ∀ i : Nat, (c.signatures ++ [q.signature])[i]? = some s ↔ c.signatures[i]? = some s := by
        intro i
        rw [getElem?_concat_eq_some_iff]
        exact or_iff_left fun hi => hsq hi.2.symm
      simp only [hmem]

theorem Step.isIndexed {c c' : Catalog} {q : CatalogRequest} {a : Except Rejection CoreId} (h : c.IsIndexed)
    (hs : Step c q c' a) : c'.IsIndexed := by
  cases hs with
  | @extended r id _ _ _ =>
    refine ⟨?_, ?_, ?_⟩
    · rw [signatures_withImplementation]
      exact h.nodup
    · intro i e he
      rw [getElem?_withImplementation, Option.map_eq_some_iff] at he
      obtain ⟨e₀, he₀, rfl⟩ := he
      rw [← h.id_eq i e₀ he₀]
      split <;> rfl
    · intro s id
      rw [find?_withImplementation, signatures_withImplementation]
      exact h.find?_eq_some_iff s id
  | inserted _ hf => exact h.insertFor hf
  | invalid | resolved | known | conflicting => exact h

/-! ### Growth -/

/-- The elements stay where they are, with their identifiers and signatures, and get new implementations at the end.
-/
def Extends (c c' : Catalog) : Prop :=
  ∀ (i : Nat) (e : CoreElement), c.elements[i]? = some e → ∃ e', c'.elements[i]? = some e' ∧ e'.id = e.id ∧
    e'.signature = e.signature ∧ e.implementations <+: e'.implementations

theorem Extends.refl (c : Catalog) : c.Extends c :=
  fun _ e he => ⟨e, he, rfl, rfl, List.prefix_rfl⟩

theorem Extends.trans {c c' c'' : Catalog} (h : c.Extends c') (h' : c'.Extends c'') : c.Extends c'' := by
  intro i e he
  obtain ⟨e', he', hid, hs, hk⟩ := h i e he
  obtain ⟨e'', he'', hid', hs', hk'⟩ := h' i e' he'
  exact ⟨e'', he'', hid'.trans hid, hs'.trans hs, hk.trans hk'⟩

theorem Step.extends {c c' : Catalog} {q : CatalogRequest} {a : Except Rejection CoreId} (hs : Step c q c' a) :
    c.Extends c' := by
  cases hs with
  | @extended r id _ _ _ =>
    intro i e he
    rw [getElem?_withImplementation, he]
    by_cases hi : id.index = i
    · simp [hi]
    · simp [hi]
  | inserted =>
    intro i e he
    exact ⟨e, getElem?_concat_eq_some_iff.2 (Or.inl he), rfl, rfl, List.prefix_rfl⟩
  | invalid | resolved | known | conflicting => exact .refl c

theorem extends_run (c : Catalog) (qs : List CatalogRequest) : c.Extends (c.run qs).1 :=
  run_induction (P := fun c' _ => c.Extends c') (fun h hs => h.trans hs.extends) [] (.refl c) qs

theorem isIndexed_run {c : Catalog} (h : c.IsIndexed) (qs : List CatalogRequest) : (c.run qs).1.IsIndexed :=
  run_induction (P := fun c' _ => c'.IsIndexed) (fun h hs => hs.isIndexed h) [] h qs

theorem Extends.signature_eq {c c' : Catalog} (h : c.Extends c') {i : Nat} {s : String}
    (hi : c.signatures[i]? = some s) : c'.signatures[i]? = some s := by
  rw [signatures, List.getElem?_map, Option.map_eq_some_iff] at hi
  obtain ⟨e, he, rfl⟩ := hi
  obtain ⟨e', he', -, hs, -⟩ := h i e he
  rw [signatures, List.getElem?_map, he', Option.map_some, hs]

theorem Extends.size_le {c c' : Catalog} (h : c.Extends c') : c.size ≤ c'.size := by
  by_contra hlt
  have hlt : c'.size < c.elements.length := Nat.lt_of_not_le hlt
  obtain ⟨e', he', -⟩ := h c'.size _ (List.getElem?_eq_getElem hlt)
  exact Nat.lt_irrefl _ (List.getElem?_eq_some_iff.1 he').1

/-- What is new stands at the end. -/
theorem Extends.signatures_eq {c c' : Catalog} (h : c.Extends c') :
    c'.signatures = c.signatures ++ (c'.elements.drop c.size).map CoreElement.signature := by
  have hold : c'.signatures.take c.size = c.signatures := by
    apply List.ext_getElem?
    intro i
    by_cases hi : i < c.size
    · have hs : c.signatures[i]? = some (c.elements.get ⟨i, hi⟩).signature := by
        rw [signatures, List.getElem?_map, List.getElem?_eq_getElem hi]
        rfl
      rw [List.getElem?_take_of_lt hi, hs]
      exact h.signature_eq hs
    · have hn : c.signatures[i]? = none := by
        rw [List.getElem?_eq_none_iff, length_signatures]
        exact Nat.le_of_not_lt hi
      rw [List.getElem?_take_eq_none (Nat.le_of_not_lt hi), hn]
  rw [← hold, signatures, ← List.map_take, ← List.map_append, List.take_append_drop]

theorem Extends.find?_eq {c c' : Catalog} (h : c.Extends c') (hc : c.IsIndexed) (hc' : c'.IsIndexed) {s : String}
    {id : CoreId} (hf : c.find? s = some id) : c'.find? s = some id := by
  obtain ⟨i, hi, rfl⟩ := (hc.find?_eq_some_iff s id).1 hf
  exact (hc'.find?_eq_some_iff s _).2 ⟨i, h.signature_eq hi, rfl⟩

theorem Extends.implementation?_eq {c c' : Catalog} (h : c.Extends c') {id : CoreId} {s : String} {k : Implementation}
    (hk : c.implementation? id s = some k) : c'.implementation? id s = some k := by
  unfold implementation? element? at *
  cases he : c.elements[id.index]? with
  | none => simp [he] at hk
  | some e =>
    obtain ⟨e', he', -, -, more, hmore⟩ := h id.index e he
    rw [he] at hk
    have hk : e.implementations.find? (fun k => k.signature = s) = some k := hk
    show ((c'.elements[id.index]?.map CoreElement.implementations).getD []).find? _ = _
    rw [he', Option.map_some, Option.getD_some, ← hmore, List.find?_append, hk, Option.some_or]

theorem Holds.mono {c c' : Catalog} {q : CatalogRequest} {id : CoreId} (h : c.Holds q id) (he : c.Extends c')
    (hc : c.IsIndexed) (hc' : c'.IsIndexed) : c'.Holds q id :=
  ⟨h.fault, he.find?_eq hc hc' h.found, fun r hr => he.implementation?_eq (h.known r hr)⟩

/-! ### Accepted requests -/

/-- An identifier is a position as long as the catalog is not too large. -/
theorem ofIndex_eq {c : Catalog} {i : Nat} (hi : i < c.size) (hc : c.size ≤ word32Max + 1) :
    CoreId.ofIndex i = ⟨i⟩ := by
  rw [CoreId.ofIndex, Nat.min_eq_left (by omega)]

private theorem lt_size_of_signatures {c : Catalog} {i : Nat} {s : String} (h : c.signatures[i]? = some s) :
    i < c.size := by
  rw [← length_signatures]
  exact (List.getElem?_eq_some_iff.1 h).1

/-- A catalog of at most the largest size finds signatures at their positions. -/
theorem IsIndexed.find?_eq_iff {c : Catalog} (h : c.IsIndexed) (hc : c.size ≤ word32Max + 1) (s : String) (i : Nat) :
    c.find? s = some ⟨i⟩ ↔ c.signatures[i]? = some s := by
  rw [h.find?_eq_some_iff]
  constructor
  · rintro ⟨j, hj, hid⟩
    rw [ofIndex_eq (lt_size_of_signatures hj) hc] at hid
    obtain rfl : i = j := congrArg CoreId.index hid
    exact hj
  · intro hi
    exact ⟨i, hi, (ofIndex_eq (lt_size_of_signatures hi) hc).symm⟩

theorem Step.holds {c c' : Catalog} {q : CatalogRequest} {id : CoreId} (hi : c.IsIndexed)
    (hc : c'.size ≤ word32Max + 1) (hs : Step c q c' (.ok id)) : c'.Holds q id := by
  cases hs with
  | resolved hf h => exact ⟨hf, h, fun r hr => absurd hr (by simp)⟩
  | known hf h hk =>
    refine ⟨hf, h, ?_⟩
    intro r hr
    obtain rfl := CatalogRequest.register.inj hr
    exact hk
  | @extended r _ hf h hk =>
    refine ⟨hf, h, ?_⟩
    intro r' hr
    obtain rfl := CatalogRequest.register.inj hr
    -- the implementation goes to an element that is there
    have hsize : c.size ≤ word32Max + 1 := by rwa [size_withImplementation] at hc
    have hlt : id.index < c.elements.length :=
      lt_size_of_signatures ((hi.find?_eq_iff hsize r.signature id.index).1 h)
    unfold implementation? element? at *
    rw [List.getElem?_eq_getElem hlt] at hk
    have hk : (c.elements[id.index]).implementations.find?
        (fun k => k.signature = r.implementation.signature) = none := hk
    rw [getElem?_withImplementation, List.getElem?_eq_getElem hlt]
    simp [hk]
  | inserted hf h =>
    have hid : CoreId.ofIndex c.size = ⟨c.size⟩ := ofIndex_eq (by rw [size_insertFor]; omega) hc
    refine ⟨hf, by rw [find?_insertFor, if_pos rfl]; rfl, ?_⟩
    intro r hr
    subst hr
    have he : (c.insertFor (.register r)).1.elements[c.size]? =
        some ⟨.ofIndex c.size, r.signature, [r.implementation]⟩ := List.getElem?_concat_length
    show (c.insertFor (.register r)).1.implementation? (.ofIndex c.size) r.implementation.signature =
      some r.implementation
    rw [hid, implementation?, element?, he]
    simp

/-- The element of a request that was accepted is there ever after. -/
theorem holds_run {c : Catalog} (hi : c.IsIndexed) (qs : List CatalogRequest)
    (hc : (c.run qs).1.size ≤ word32Max + 1) :
    ∀ x ∈ (c.run qs).2, ∀ id, x.answer = .ok id → (c.run qs).1.Holds x.request id := by
  induction qs generalizing c with
  | nil =>
    intro x hx
    exact absurd hx (by simp [run])
  | cons q qs ih =>
    have hi' := (step_ask c q).isIndexed hi
    have he := extends_run (c.ask q).1 qs
    intro x hx id hid
    rcases List.mem_cons.1 hx with rfl | hx
    · have hid : (c.ask q).2 = .ok id := hid
      have hs : Step c q (c.ask q).1 (.ok id) := by
        rw [← hid]
        exact step_ask c q
      exact (hs.holds hi (Nat.le_trans he.size_le hc)).mono he hi' (isIndexed_run hi' qs)
    · exact ih hi' hc x hx id hid

/-! ### First occurrences -/

private theorem eraseDups_concat (l : List String) (s : String) :
    (l ++ [s]).eraseDups = if s ∈ l then l.eraseDups else l.eraseDups ++ [s] := by
  rw [List.eraseDups_append]
  by_cases hs : s ∈ l
  · simp [hs, List.removeAll]
  · have h1 : [s].removeAll l = [s] := by simp [hs, List.removeAll]
    rw [h1, if_neg hs]
    rfl

theorem Step.signatures_eq {c c' : Catalog} {q : CatalogRequest} {a : Except Rejection CoreId}
    {accepted : List String} (hi : c.IsIndexed) (h : c.signatures = accepted.eraseDups) (hs : Step c q c' a) :
    c'.signatures = (accepted ++ (Inquiry.accepted? ⟨q, a⟩).toList).eraseDups := by
  -- a signature that is found has been accepted before
  have found : ∀ {id : CoreId}, c.find? q.signature = some id →
      (accepted ++ [q.signature]).eraseDups = c.signatures := by
    intro id hf
    have hmem : q.signature ∈ accepted := by
      by_contra hs
      rw [hi.find?_eq_none_iff.2 (by rwa [h, List.mem_eraseDups])] at hf
      exact absurd hf (by simp)
    rw [eraseDups_concat, if_pos hmem, h]
  cases hs with
  | invalid | conflicting =>
    rw [h]
    simp [Inquiry.accepted?]
  | resolved _ hf => exact (found hf).symm
  | known _ hf => exact (found hf).symm
  | extended _ hf =>
    rw [signatures_withImplementation]
    exact (found hf).symm
  | inserted _ hf =>
    have hs : q.signature ∉ accepted := by
      have := hi.find?_eq_none_iff.1 hf
      rwa [h, List.mem_eraseDups] at this
    rw [signatures_insertFor, h]
    show _ = (accepted ++ [q.signature]).eraseDups
    rw [eraseDups_concat, if_neg hs]

/-- The elements are the accepted signatures in the order in which they first came. -/
theorem signatures_run (qs : List CatalogRequest) :
    (empty.run qs).1.signatures = ((empty.run qs).2.filterMap Inquiry.accepted?).eraseDups := by
  refine (run_induction
    (P := fun c log => c.IsIndexed ∧ c.signatures = (log.filterMap Inquiry.accepted?).eraseDups) ?_
    [] ⟨isIndexed_empty, rfl⟩ qs).2
  intro c q c' a log ⟨hi, h⟩ hs
  refine ⟨hs.isIndexed hi, ?_⟩
  rw [hs.signatures_eq hi h, List.filterMap_append]
  cases ha : Inquiry.accepted? ⟨q, a⟩ <;> simp [ha]

/-- After any requests the elements are the accepted signatures in the order in which they first came, each once,
and what was accepted is answered as before ever after. -/
theorem first_occurrences (qs later : List CatalogRequest)
    (hc : ((empty.run (qs ++ later)).2.filterMap Inquiry.accepted?).eraseDups.length ≤ word32Max + 1) :
    let c := (empty.run qs).1
    let c' := (empty.run (qs ++ later)).1
    c.signatures = ((empty.run qs).2.filterMap Inquiry.accepted?).eraseDups ∧ c.signatures.Nodup ∧
      (∀ (i : Nat) (e : CoreElement), c.elements[i]? = some e → e.id = ⟨i⟩) ∧
      (∀ (s : String) (i : Nat), c.find? s = some ⟨i⟩ ↔ c.signatures[i]? = some s) ∧
      (∀ x ∈ (empty.run qs).2, ∀ id, x.answer = .ok id → c.signatures[id.index]? = some x.request.signature) ∧
      c.Extends c' ∧ ∀ x ∈ (empty.run qs).2, ∀ id, x.answer = .ok id → c'.ask x.request = (c', .ok id) := by
  intro c c'
  rw [← signatures_run, length_signatures] at hc
  have hi : c.IsIndexed := isIndexed_run isIndexed_empty qs
  have hc' : c' = (c.run later).1 := by
    show (empty.run (qs ++ later)).1 = _
    rw [run_append]
  have hext : c.Extends c' := hc' ▸ extends_run c later
  have hsize : c.size ≤ word32Max + 1 := Nat.le_trans hext.size_le hc
  have hh := holds_run isIndexed_empty qs hsize
  refine ⟨signatures_run qs, hi.nodup, ?_, hi.find?_eq_iff hsize, ?_, hext, ?_⟩
  · intro i e he
    rw [hi.id_eq i e he, ofIndex_eq (List.getElem?_eq_some_iff.1 he).1 hsize]
  · intro x hx id hid
    exact (hi.find?_eq_iff hsize _ id.index).1 (hh x hx id hid).found
  · intro x hx id hid
    have hi' : c'.IsIndexed := hc' ▸ isIndexed_run hi later
    exact ask_of_holds ((hh x hx id hid).mono hext hi hi')

/-- A signature is registered and then resolved, with a request in between that is turned down; another one follows.
-/
theorem first_occurrences_registered_then_resolved :
    let binary : Implementation := ⟨"inc(INT_T)app.Counter", .binary, ["/bin/inc"], .empty⟩
    let resolve := CatalogRequest.resolve (.method "app.Counter" "inc") false false [.input .int]
    let qs := [.register ⟨"inc(INT_T)app.Counter", binary⟩, .resolve (.method "app.Counter" " ") false false [],
      resolve]
    let later := [.resolve (.method "app.Counter" "dec") false false []]
    let c' := (empty.run (qs ++ later)).1
    ((empty.run (qs ++ later)).2.filterMap Inquiry.accepted?).eraseDups.length ≤ word32Max + 1 ∧
      (empty.run qs).1.signatures = ["inc(INT_T)app.Counter"] ∧ c'.ask resolve = (c', .ok ⟨0⟩) := by
  intro binary resolve qs later c'
  have hc : ((empty.run (qs ++ later)).2.filterMap Inquiry.accepted?).eraseDups.length ≤ word32Max + 1 := by decide
  obtain ⟨hs, -, -, -, -, -, hsame⟩ := first_occurrences qs later hc
  refine ⟨hc, ?_, hsame ⟨resolve, .ok ⟨0⟩⟩ (by decide) ⟨0⟩ rfl⟩
  rw [hs]
  decide

end Catalog

end TaskCoordination
