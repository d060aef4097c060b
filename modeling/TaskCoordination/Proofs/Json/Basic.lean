import Mathlib.Data.List.Nodup
import TaskCoordination.Json.Basic

/-!
# Values that are written and read back

A type has a JSON form by a writer and a reader. Either is made of those of its parts, so that what is written is
read back (`RoundTrips`) is shown part by part: for numbers, texts and words, for lists of what is read back, and
for what may be absent. A reader accepts more than its writer writes; that it settles (`Settles`) says that writing
what was read brings it to a form which reading and writing leave as it is.
-/

namespace TaskCoordination.Json

variable {α : Type}

/-- What is written is read, and as what it was. -/
def RoundTrips (write : α → Json) (read : Json → Option α) : Prop :=
  ∀ a, read (write a) = some a

/-- Whatever is read, of any form, is written in one that is read as the same and is written alike again. -/
def Settles (write : α → Json) (read : Json → Option α) : Prop :=
  ∀ j a, read j = some a → read (write a) = some a ∧ (read (write a)).map write = some (write a)

variable {write : α → Json} {read : Json → Option α}

theorem RoundTrips.settles (h : RoundTrips write read) : Settles write read := by
  intro j a _
  rw [h a]
  exact ⟨rfl, rfl⟩

/-! ### Numbers -/

theorem natUpTo?_nat {limit n : Nat} (h : n ≤ limit) : (nat n).natUpTo? limit = some n := by
  show (if n ≤ limit then some n else none) = some n
  exact if_pos h

theorem le_of_natUpTo? {limit n : Nat} {j : Json} (h : j.natUpTo? limit = some n) : n ≤ limit := by
  unfold natUpTo? at h
  split at h
  · split at h
    · obtain rfl := Option.some.inj h
      assumption
    · exact absurd h (by simp)
  · exact absurd h (by simp)

theorem roundTrips_uint32 : RoundTrips (fun n : UInt32 => nat n.toNat) uint32? := by
  intro n
  have hn : n.toNat ≤ UInt32.size - 1 := Nat.le_pred_of_lt n.toNat_lt
  rw [uint32?, natUpTo?_nat hn, Option.map_some, UInt32.ofNat_toNat]

theorem roundTrips_uint64 : RoundTrips (fun n : UInt64 => nat n.toNat) uint64? := by
  intro n
  have hn : n.toNat ≤ UInt64.size - 1 := Nat.le_pred_of_lt n.toNat_lt
  rw [uint64?, natUpTo?_nat hn, Option.map_some, UInt64.ofNat_toNat]

/-! ### Words, lists and what may be absent -/

/-- A choice among words of which no two are alike. -/
theorem roundTrips_choice (place : Place) {choices : List α} {word : α → String} (hall : ∀ a, a ∈ choices)
    (hwords : (choices.map word).Nodup) : RoundTrips (fun a => str (word a)) (choice? place choices word) := by
  intro a
  have hinj : ∀ b ∈ choices, word b = word a → b = a := fun b hb => List.inj_on_of_nodup_map hwords hb (hall a)
  show choices.find? (fun b => word b = word a) = some a
  cases hb : choices.find? (fun b => word b = word a) with
  | none => exact absurd (List.find?_eq_none.1 hb a (hall a)) (by simp)
  | some b => rw [hinj b (List.mem_of_find?_eq_some hb) (by simpa using List.find?_some hb)]

theorem roundTrips_str : RoundTrips str str? :=
  fun _ => rfl

theorem RoundTrips.list (h : RoundTrips write read) : RoundTrips (list write) (list? read) := by
  intro as
  show (as.map write).mapM read = some as
  induction as with
  | nil => rfl
  | cons a as ih => simp [h a, ih]

/-- A value is read back unless it is written as nothing. -/
theorem RoundTrips.option (h : RoundTrips write read) (hnull : ∀ a, write a ≠ .null) :
    RoundTrips (option write) (option? read) := by
  rintro (_ | a)
  · rfl
  · have hread : option? read (write a) = (read (write a)).map some := by
      cases hw : write a with
      | null => exact absurd hw (hnull a)
      | _ => rfl
    rw [Json.option, hread, h a]
    rfl

end TaskCoordination.Json
