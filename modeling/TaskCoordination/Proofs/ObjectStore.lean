import Mathlib.Data.Finset.Card
import Mathlib.Data.List.Induction
import TaskCoordination.ObjectStore
import TaskCoordination.Proofs.List

/-!
# What an object store remembers

The calls of a store are data, and `run` makes a list of them on an empty store. What the store has under a name is
what the last call to change that name left there: the object that was stored, unless it was removed afterwards
(`find?_run_eq_some_iff`). The size counts the names that are taken (`card_names`), since each stands in the list
once.

Removing an object hands out what was found there, and leaves nothing; a request under one name changes nothing
under another (`last_writer_wins`).
-/

namespace TaskCoordination

inductive StoreRequest
  | store (id : String) (bytes : List UInt8) (now : Nat)
  | get (id : String)
  | remove (id : String)
  | contains (id : String)
  deriving DecidableEq

inductive StoreReply
  | done
  | object (bytes : Option (List UInt8))
  | answer (b : Bool)
  deriving DecidableEq

namespace StoreRequest

def id : StoreRequest → String
  | store id _ _ | get id | remove id | contains id => id

/-- A request that leaves the name `name` with a new object, or with none. -/
def Changes (q : StoreRequest) (name : String) : Prop :=
  match q with
  | store id _ _ | remove id => id = name
  | get _ | contains _ => False

instance (q : StoreRequest) (name : String) : Decidable (q.Changes name) := by
  cases q <;> unfold Changes <;> infer_instance

theorem Changes.id_eq {q : StoreRequest} {name : String} (h : q.Changes name) : q.id = name := by
  cases q with
  | store | remove => exact h
  | get | contains => exact h.elim

end StoreRequest

/-- The last request to change a name stored this object there. -/
def LastStored (log : List StoreRequest) (id : String) (o : StoredObject) : Prop :=
  ∃ before after, log = before ++ .store id o.bytes o.storedAt :: after ∧ ∀ q ∈ after, ¬ q.Changes id

theorem lastStored_concat_iff {log : List StoreRequest} {q : StoreRequest} {id : String} {o : StoredObject} :
    LastStored (log ++ [q]) id o ↔ q = .store id o.bytes o.storedAt ∨ (¬ q.Changes id ∧ LastStored log id o) := by
  constructor
  · rintro ⟨before, after, hlog, hafter⟩
    rcases List.eq_nil_or_concat after with rfl | ⟨after, r, rfl⟩
    · exact .inl (List.singleton_inj.1 (List.append_inj' hlog rfl).2)
    · rw [List.concat_eq_append] at hlog hafter
      rw [← List.cons_append, ← List.append_assoc] at hlog
      obtain ⟨hrest, hlast⟩ := List.append_inj' hlog rfl
      obtain rfl : q = r := List.singleton_inj.1 hlast
      obtain ⟨hkept, hq⟩ := forall_mem_concat.1 hafter
      exact .inr ⟨hq, before, after, hrest, hkept⟩
  · rintro (rfl | ⟨hq, before, after, rfl, hafter⟩)
    · exact ⟨log, [], rfl, by simp⟩
    · exact ⟨before, after ++ [q], by simp, forall_mem_concat.2 ⟨hafter, hq⟩⟩

namespace ObjectStore

def ask (s : ObjectStore) : StoreRequest → ObjectStore × StoreReply
  | .store id bytes now => (s.put id bytes now, .done)
  | .get id => (s, .object (s.get? id))
  | .remove id => ((s.remove id).1, .object (s.remove id).2)
  | .contains id => (s, .answer (s.contains id))

/-- The store after the requests of a list, the first of them on an empty store. -/
def run (log : List StoreRequest) : ObjectStore :=
  log.foldl (fun s q => (s.ask q).1) empty

theorem run_concat (log : List StoreRequest) (q : StoreRequest) : run (log ++ [q]) = ((run log).ask q).1 :=
  List.foldl_concat ..

/-! ### What is found under a name -/

theorem find?_ask_of_not_changes (s : ObjectStore) {q : StoreRequest} {id : String} (h : ¬ q.Changes id) :
    (s.ask q).1.find? id = s.find? id := by
  cases q with
  | store name bytes now => exact (find?_put s name id bytes now).trans (if_neg (Ne.symm h))
  | remove name => exact (find?_erase s name id).trans (if_neg (Ne.symm h))
  | get | contains => rfl

theorem find?_run_eq_some_iff {log : List StoreRequest} {id : String} {o : StoredObject} :
    (run log).find? id = some o ↔ LastStored log id o := by
  induction log using List.reverseRecOn with
  | nil =>
    refine ⟨fun h => absurd h (by simp [run, empty, find?]), ?_⟩
    rintro ⟨before, after, h, -⟩
    exact absurd h (by simp)
  | append_singleton log q ih =>
    rw [run_concat, lastStored_concat_iff]
    by_cases hq : q.Changes id
    · -- what was there before no longer counts
      cases q with
      | store name bytes now =>
        have hname : name = id := hq
        subst hname
        obtain ⟨bytes', now'⟩ := o
        simp [ask, find?_put, hq]
      | remove name =>
        have hname : name = id := hq
        subst hname
        simp [ask, remove, find?_erase, hq]
      | get | contains => exact hq.elim
    · rw [find?_ask_of_not_changes _ hq, ih]
      refine ⟨fun h => .inr ⟨hq, h⟩, ?_⟩
      rintro (rfl | ⟨-, h⟩)
      · exact absurd rfl hq
      · exact h

theorem get?_run_eq_some_iff {log : List StoreRequest} {id : String} {bytes : List UInt8} :
    (run log).get? id = some bytes ↔ ∃ now, LastStored log id ⟨bytes, now⟩ := by
  constructor
  · intro h
    obtain ⟨o, ho, rfl⟩ := Option.map_eq_some_iff.1 h
    exact ⟨o.storedAt, find?_run_eq_some_iff.1 ho⟩
  · rintro ⟨now, h⟩
    exact Option.map_eq_some_iff.2 ⟨_, find?_run_eq_some_iff.2 h, rfl⟩

theorem isSome_get? (s : ObjectStore) (id : String) : (s.get? id).isSome = s.contains id := by
  rw [get?, Option.isSome_map, isSome_find?]

theorem isSome_storedAt? (s : ObjectStore) (id : String) : (s.storedAt? id).isSome = s.contains id := by
  rw [storedAt?, Option.isSome_map, isSome_find?]

/-! ### Names -/

/-- All that can be seen of a store under one name. -/
def view (s : ObjectStore) (id : String) : Option (List UInt8) × Option Nat × Bool :=
  (s.get? id, s.storedAt? id, s.contains id)

theorem view_congr {s t : ObjectStore} {id : String} (h : s.find? id = t.find? id) : s.view id = t.view id := by
  rw [view, view, ← isSome_find?, ← isSome_find?, get?, get?, storedAt?, storedAt?, h]

/-- The names that are taken. -/
def names (s : ObjectStore) : Finset String :=
  (s.objects.map Prod.fst).toFinset

theorem mem_names {s : ObjectStore} {id : String} : id ∈ s.names ↔ s.contains id = true := by
  simp [names, contains]

theorem card_names (s : ObjectStore) : s.names.card = s.size := by
  have hnodup : (s.objects.map Prod.fst).Nodup := List.pairwise_map.2 s.distinct
  rw [names, List.toFinset_card_of_nodup hnodup, List.length_map, size]

/-- After any requests the store is a map in which the last writer wins; all readers of a name tell alike, and the
size is the number of names that are taken. -/
theorem last_writer_wins (log : List StoreRequest) (id : String) :
    let s := run log
    (∀ bytes, s.get? id = some bytes ↔ ∃ now, LastStored log id ⟨bytes, now⟩) ∧
      (s.ask (.get id)).2 = .object (s.get? id) ∧
      (s.ask (.contains id)).2 = .answer (s.get? id).isSome ∧
      (s.storedAt? id).isSome = (s.get? id).isSome ∧
      (s.ask (.remove id)).2 = .object (s.get? id) ∧
      (s.ask (.remove id)).1.view id = (none, none, false) ∧
      (∀ q : StoreRequest, q.id ≠ id → (s.ask q).1.view id = s.view id) ∧
      (∃ present : Finset String, (∀ name, name ∈ present ↔ (s.get? name).isSome) ∧ s.size = present.card) ∧
      (s.isEmpty = true ↔ s.size = 0) := by
  intro s
  refine ⟨fun bytes => get?_run_eq_some_iff, rfl, ?_, ?_, rfl, ?_, fun q hq => ?_, ?_, ?_⟩
  · rw [isSome_get?]
    rfl
  · rw [isSome_storedAt?, isSome_get?]
  · have hnone : (s.ask (.remove id)).1.find? id = none := (find?_erase s id id).trans (if_pos rfl)
    rw [view, ← isSome_find?, get?, storedAt?, hnone]
    rfl
  · exact view_congr (find?_ask_of_not_changes s fun h => hq h.id_eq)
  · refine ⟨s.names, fun name => ?_, (card_names s).symm⟩
    rw [mem_names, isSome_get?]
  · rw [isEmpty, size, List.isEmpty_iff, List.length_eq_zero_iff]

/-- An object that was replaced, beside one that was removed. -/
theorem last_writer_wins_replaced_and_removed :
    let log : List StoreRequest := [.store "d1v1" [1] 0, .store "d2v1" [7] 1, .get "d1v1", .store "d1v1" [2, 3] 2,
      .remove "d2v1", .contains "d1v1"]
    LastStored log "d1v1" ⟨[2, 3], 2⟩ ∧ (StoreRequest.remove "d2v1").id ≠ "d1v1" ∧
      (run log).get? "d1v1" = some [2, 3] ∧
      ((run log).ask (.remove "d2v1")).1.view "d1v1" = (run log).view "d1v1" ∧
      (run log).size = 1 := by
  intro log
  have hlast : LastStored log "d1v1" ⟨[2, 3], 2⟩ :=
    ⟨log.take 3, log.drop 4, rfl, by decide⟩
  have hother : (StoreRequest.remove "d2v1").id ≠ "d1v1" := by decide
  obtain ⟨hget, -, -, -, -, -, hview, -⟩ := last_writer_wins log "d1v1"
  exact ⟨hlast, hother, (hget [2, 3]).2 ⟨2, hlast⟩, hview _ hother, by decide⟩

end ObjectStore

end TaskCoordination
