/-!
# The object store

Bytes under names, each with the reading of the clock when it was stored. Storing under a name that is taken replaces
what was there.

* `find?_put`, `find?_erase`: what each operation does to every name.
* `isSome_find?`: an object is found under a name exactly where the store contains the name.
-/

namespace TaskCoordination

structure StoredObject where
  bytes : List UInt8
  storedAt : Nat
  deriving DecidableEq

structure ObjectStore where
  objects : List (String × StoredObject)
  distinct : objects.Pairwise fun a b => a.1 ≠ b.1
  deriving DecidableEq

namespace ObjectStore

def empty : ObjectStore :=
  ⟨[], .nil⟩

def size (s : ObjectStore) : Nat :=
  s.objects.length

def isEmpty (s : ObjectStore) : Bool :=
  s.objects.isEmpty

def find? (s : ObjectStore) (id : String) : Option StoredObject :=
  s.objects.lookup id

def get? (s : ObjectStore) (id : String) : Option (List UInt8) :=
  (s.find? id).map StoredObject.bytes

/-- When the object under a name was stored. -/
def storedAt? (s : ObjectStore) (id : String) : Option Nat :=
  (s.find? id).map StoredObject.storedAt

def contains (s : ObjectStore) (id : String) : Bool :=
  s.objects.any fun o => o.1 = id

def erase (s : ObjectStore) (id : String) : ObjectStore :=
  ⟨s.objects.filter fun o => o.1 ≠ id, s.distinct.filter _⟩

theorem fst_ne_of_mem_erase {s : ObjectStore} {id : String} {o : String × StoredObject}
    (h : o ∈ (s.erase id).objects) : o.1 ≠ id :=
  of_decide_eq_true (List.mem_filter.1 h).2

/-- Stores an object at the time `now`; a caller without a clock leaves it out. -/
def put (s : ObjectStore) (id : String) (bytes : List UInt8) (now : Nat := 0) : ObjectStore :=
  ⟨(id, ⟨bytes, now⟩) :: (s.erase id).objects,
    .cons (fun _ h => (fst_ne_of_mem_erase h).symm) (s.erase id).distinct⟩

/-- Takes an object out of the store. -/
def remove (s : ObjectStore) (id : String) : ObjectStore × Option (List UInt8) :=
  (s.erase id, s.get? id)

theorem find?_erase (s : ObjectStore) (id other : String) :
    (s.erase id).find? other = if other = id then none else s.find? other := by
  simp only [erase, find?]
  induction s.objects with
  | nil => simp
  | cons o rest ih =>
    obtain ⟨name, object⟩ := o
    by_cases hname : name = id
    · rw [List.filter_cons_of_neg (by simp [hname]), ih]
      by_cases hid : other = id
      · simp [hid]
      · simp [hid, List.lookup_cons, beq_eq_false_iff_ne.mpr (hname ▸ hid)]
    · rw [List.filter_cons_of_pos (by simp [hname]), List.lookup_cons, List.lookup_cons, ih]
      by_cases hother : other = name
      · simp [hother, hname]
      · simp [beq_eq_false_iff_ne.mpr hother]

theorem find?_put (s : ObjectStore) (id other : String) (bytes : List UInt8) (now : Nat) :
    (s.put id bytes now).find? other = if other = id then some ⟨bytes, now⟩ else s.find? other := by
  have h := find?_erase s id other
  by_cases hid : other = id
  · simp [put, find?, hid]
  · simp only [put, find?, List.lookup_cons, beq_eq_false_iff_ne.mpr hid, if_neg hid] at h ⊢
    exact h

theorem isSome_find? (s : ObjectStore) (id : String) : (s.find? id).isSome = s.contains id := by
  simp only [find?, contains]
  induction s.objects with
  | nil => rfl
  | cons o rest ih =>
    rw [List.lookup_cons, List.any_cons, ← ih]
    by_cases h : id = o.1
    · simp [h]
    · simp [beq_eq_false_iff_ne.mpr h, Ne.symm h]

end ObjectStore

end TaskCoordination
