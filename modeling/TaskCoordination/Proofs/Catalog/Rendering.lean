import TaskCoordination.Proofs.Catalog.Signatures

/-!
# Invocations that share a core element

A signature is one text, written without escapes: a name, the types of the parameters between brackets, and an
owner, of which a service has three parts between commas. An invocation is plain if no separator stands where it
would be taken for another one (`Invocation.IsPlain`). The text of a plain invocation is read back part by part, and
so two of them have one signature only if they are the same with the same types (`render_inj`). A catalog keeps one
identifier for a signature, and so this is also what it takes to share a core element (`resolve_eq_iff`).
-/

namespace TaskCoordination

/-- What stands before the first separator, and what stands after it. -/
private theorem append_cons_inj {α : Type} {a : α} {l l' r r' : List α} (hl : a ∉ l) (hl' : a ∉ l') :
    l ++ a :: r = l' ++ a :: r' ↔ l = l' ∧ r = r' := by
  constructor
  · intro h
    induction l generalizing l' with
    | nil =>
      cases l' with
      | nil => exact ⟨rfl, (List.cons.inj h).2⟩
      | cons b l' => exact absurd (List.mem_cons.2 (Or.inl (List.cons.inj h).1)) hl'
    | cons b l ih =>
      cases l' with
      | nil => exact absurd (List.mem_cons.2 (Or.inl (List.cons.inj h).1.symm)) hl
      | cons b' l' =>
        have hb : b = b' := (List.cons.inj h).1
        have hrest := (List.cons.inj h).2
        obtain ⟨rfl, hr⟩ := ih (fun ha => hl (List.mem_cons_of_mem _ ha)) (fun ha => hl' (List.mem_cons_of_mem _ ha))
          hrest
        exact ⟨by rw [hb], hr⟩
  · rintro ⟨rfl, rfl⟩
    rfl

/-! ### The types of a signature -/

namespace DataType

theorem tag_injective : Function.Injective tag := by
  intro t t' h
  cases t <;> cases t' <;> first | rfl | exact absurd h (by decide)

/-- A tag is not empty, and none of its characters separates anything in a signature. -/
private theorem tag_plain (t : DataType) :
    t.tag.toList ≠ [] ∧ ',' ∉ t.tag.toList ∧ ')' ∉ t.tag.toList := by
  cases t <;> decide

/-- The list of types as it stands between the brackets of a signature. -/
private def joined (ts : List DataType) : List Char :=
  [','].intercalate (ts.map fun t => t.tag.toList)

private theorem joined_cons (t : DataType) {ts : List DataType} (h : ts ≠ []) :
    joined (t :: ts) = t.tag.toList ++ ',' :: joined ts := by
  rw [joined, List.map_cons, List.intercalate_cons_of_ne_nil (by simpa using h), List.append_assoc]
  rfl

private theorem notMem_joined (ts : List DataType) : ')' ∉ joined ts := by
  induction ts with
  | nil => exact List.not_mem_nil
  | cons t ts ih =>
    have ht := t.tag_plain.2.2
    by_cases hts : ts = []
    · subst hts
      simpa [joined] using ht
    · rw [joined_cons t hts]
      simp [ht, ih]

private theorem splitOn_joined {ts : List DataType} (h : ts ≠ []) :
    (joined ts).splitOn ',' = ts.map fun t => t.tag.toList := by
  refine List.splitOn_intercalate ',' ?_ (by simpa using h)
  intro l hl
  obtain ⟨t, -, rfl⟩ := List.mem_map.1 hl
  exact t.tag_plain.2.1

private theorem joined_ne_nil {ts : List DataType} (h : ts ≠ []) : joined ts ≠ [] := by
  intro hn
  have hs := splitOn_joined h
  rw [hn] at hs
  obtain ⟨t, ts, rfl⟩ := List.exists_cons_of_ne_nil h
  exact t.tag_plain.1 (List.cons.inj hs).1.symm

/-- No types at all and a type without a name would both be nothing, but every type has a name. -/
private theorem joined_injective : Function.Injective joined := by
  intro ts ts' h
  by_cases hts : ts = []
  · subst hts
    by_contra hts'
    exact joined_ne_nil (Ne.symm hts') h.symm
  · have hts' : ts' ≠ [] := by
      rintro rfl
      exact joined_ne_nil hts h
    have hmap := congrArg (List.splitOn ',') h
    rw [splitOn_joined hts, splitOn_joined hts'] at hmap
    exact List.map_injective_iff.2 (fun t t' ht => tag_injective (String.toList_inj.1 ht)) hmap

end DataType

/-! ### Plain invocations -/

namespace Invocation

/-- No separator stands in an invocation where it would be taken for another one of its signature. -/
def IsPlain : Invocation → Prop
  | method owner name => '(' ∉ name.toList ∧ ',' ∉ owner.toList
  | service domain provider _ operation => '(' ∉ operation.toList ∧ ',' ∉ domain.toList ∧ ',' ∉ provider.toList

instance : DecidablePred IsPlain
  | method owner name => inferInstanceAs (Decidable ('(' ∉ name.toList ∧ ',' ∉ owner.toList))
  | service domain provider _ operation =>
    inferInstanceAs (Decidable ('(' ∉ operation.toList ∧ ',' ∉ domain.toList ∧ ',' ∉ provider.toList))

theorem IsPlain.name {i : Invocation} (h : i.IsPlain) : '(' ∉ i.name.toList := by
  cases i with
  | method => exact h.1
  | service => exact h.1

private theorem toList_render (i : Invocation) (ps : List Parameter) :
    (i.render ps).toList =
      i.name.toList ++ '(' :: (DataType.joined (ps.map Parameter.dataType) ++ ')' :: i.owner.toList) := by
  simp only [render, String.toList_append, String.toList_intercalate, DataType.joined, List.map_map,
    List.append_assoc]
  rfl

private theorem toList_owner_service (domain provider port operation : String) :
    (service domain provider port operation).owner.toList =
      domain.toList ++ ',' :: (provider.toList ++ ',' :: port.toList) := by
  simp only [owner, String.toList_append, List.append_assoc]
  rfl

private theorem owner_ne {owner name domain provider port operation : String}
    (h : (method owner name).IsPlain) :
    (method owner name).owner ≠ (service domain provider port operation).owner := by
  intro ho
  have hmem : ',' ∈ owner.toList := by
    rw [show owner = _ from ho, toList_owner_service]
    simp
  exact h.2 hmem

/-- The name and the owner tell a plain invocation, its kind included. -/
theorem IsPlain.eq_of_owner_eq {i i' : Invocation} (h : i.IsPlain) (h' : i'.IsPlain) (hname : i.name = i'.name)
    (howner : i.owner = i'.owner) : i = i' := by
  cases i with
  | method owner name =>
    cases i' with
    | method owner' name' =>
      obtain rfl : name = name' := hname
      obtain rfl : owner = owner' := howner
      rfl
    | service => exact absurd howner (owner_ne h)
  | service domain provider port operation =>
    cases i' with
    | method => exact absurd howner.symm (owner_ne h')
    | service domain' provider' port' operation' =>
      obtain rfl : operation = operation' := hname
      have hlist := congrArg String.toList howner
      rw [toList_owner_service, toList_owner_service, append_cons_inj h.2.1 h'.2.1,
        append_cons_inj h.2.2 h'.2.2] at hlist
      obtain ⟨hd, hp, hq⟩ := hlist
      rw [String.toList_inj.1 hd, String.toList_inj.1 hp, String.toList_inj.1 hq]

/-- Plain invocations have one signature only if they are the same with the same types of parameters. -/
theorem IsPlain.render_inj {i i' : Invocation} (h : i.IsPlain) (h' : i'.IsPlain) {ps ps' : List Parameter} :
    i.render ps = i'.render ps' ↔ i = i' ∧ ps.map Parameter.dataType = ps'.map Parameter.dataType := by
  constructor
  · intro hr
    have hlist := congrArg String.toList hr
    rw [toList_render, toList_render, append_cons_inj h.name h'.name,
      append_cons_inj (DataType.notMem_joined _) (DataType.notMem_joined _)] at hlist
    obtain ⟨hname, htypes, howner⟩ := hlist
    exact ⟨h.eq_of_owner_eq h' (String.toList_inj.1 hname) (String.toList_inj.1 howner),
      DataType.joined_injective htypes⟩
  · rintro ⟨rfl, ht⟩
    rw [← String.toList_inj, toList_render, toList_render, ht]

/-- With a comma in its owner a method is taken for a service. -/
example : (method "app,counters,main" "inc").render [] = (service "app" "counters" "main" "inc").render [] := by
  decide

end Invocation

/-! ### Shared core elements -/

namespace Catalog

/-- In a catalog of at most the largest size, accepted requests get one identifier only for one signature. -/
theorem answer_eq_iff {qs : List CatalogRequest} (hc : (empty.run qs).1.size ≤ word32Max + 1)
    {q q' : CatalogRequest} {id id' : CoreId} (hq : ⟨q, .ok id⟩ ∈ (empty.run qs).2)
    (hq' : ⟨q', .ok id'⟩ ∈ (empty.run qs).2) : id = id' ↔ q.signature = q'.signature := by
  have hi : (empty.run qs).1.IsIndexed := isIndexed_run isIndexed_empty qs
  have hf := (holds_run isIndexed_empty qs hc _ hq id rfl).found
  have hf' := (holds_run isIndexed_empty qs hc _ hq' id' rfl).found
  constructor
  · rintro rfl
    have hs := (hi.find?_eq_iff hc _ id.index).1 hf
    rw [(hi.find?_eq_iff hc _ id.index).1 hf'] at hs
    exact (Option.some.inj hs).symm
  · intro hs
    have hf : (empty.run qs).1.find? q.signature = some id := hf
    rw [hs] at hf
    exact Option.some.inj (hf.symm.trans hf')

/-- Two plain invocations that a catalog accepted share a core element exactly if they are the same invocation, with
the same types of parameters beside the slots for target and return value. -/
theorem resolve_eq_iff {qs : List CatalogRequest} (hc : (empty.run qs).1.size ≤ word32Max + 1)
    {i i' : Invocation} (hi : i.IsPlain) (hi' : i'.IsPlain) {target target' ret ret' : Bool}
    {ps ps' : List Parameter} {id id' : CoreId}
    (hq : ⟨.resolve i target ret ps, .ok id⟩ ∈ (empty.run qs).2)
    (hq' : ⟨.resolve i' target' ret' ps', .ok id'⟩ ∈ (empty.run qs).2) :
    id = id' ↔ i = i' ∧ (realParameters ps target ret).map Parameter.dataType =
      (realParameters ps' target' ret').map Parameter.dataType :=
  (answer_eq_iff hc hq hq').trans (hi.render_inj hi')

/-- Names, directions and a slot that is dropped do not matter; a type does, and so does the kind of the invocation.
-/
theorem resolve_eq_iff_of_five :
    let inc := Invocation.method "app.Counter" "inc"
    let served := Invocation.service "app" "counters" "main" "inc"
    let qs : List CatalogRequest := [.resolve inc false false [.input .int], .resolve inc false true
      [(Parameter.output .int).named "step", .output .object], .resolve inc false false [.input .long],
      .resolve served true false [.input .object], .resolve served false false []]
    (empty.run qs).1.size ≤ word32Max + 1 ∧ inc.IsPlain ∧ served.IsPlain ∧
      (empty.run qs).2.map Inquiry.answer = [.ok ⟨0⟩, .ok ⟨0⟩, .ok ⟨1⟩, .ok ⟨2⟩, .ok ⟨2⟩] ∧
      ((⟨0⟩ : CoreId) = ⟨0⟩ ↔ inc = inc ∧
        (realParameters [.input .int] false false).map Parameter.dataType =
          (realParameters [(Parameter.output .int).named "step", .output .object] false true).map
            Parameter.dataType) ∧
      ((⟨0⟩ : CoreId) = ⟨2⟩ ↔ inc = served ∧
        (realParameters [.input .int] false false).map Parameter.dataType =
          (realParameters [.input .object] true false).map Parameter.dataType) := by
  intro inc served qs
  have hc : (empty.run qs).1.size ≤ word32Max + 1 := by decide
  have hinc : inc.IsPlain := by decide
  have hserved : served.IsPlain := by decide
  refine ⟨hc, hinc, hserved, by decide, ?_, ?_⟩
  · exact resolve_eq_iff hc hinc hinc (by decide) (by decide)
  · exact resolve_eq_iff hc hinc hserved (by decide) (by decide)

end Catalog

end TaskCoordination
