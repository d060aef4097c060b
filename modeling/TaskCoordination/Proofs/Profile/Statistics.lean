import Mathlib.Algebra.BigOperators.Group.Multiset.Basic
import Mathlib.Algebra.Order.BigOperators.Group.Multiset
import Mathlib.Algebra.Order.Group.Multiset
import Mathlib.Algebra.Order.Group.Nat
import Mathlib.Order.Bounds.Basic
import TaskCoordination.Profile
import TaskCoordination.Proofs.Number

/-!
# The statistics of a profile

A profile comes about from an empty one by executions and by merging (`Assembly`). However it is assembled, it sums up
the times of the executions that went into it (`Summarizes`), and these determine it (`Summarizes.unique`). So neither
the order of the executions nor the tree of the merges makes a difference (`statistics`).

The total is capped, and capping sums that are capped already changes nothing (`min_add_min`): that is why the total
of a merge is the capped sum of all times.

An assembly has at most as many executions as can be counted. The mean lies between the extremes unless the total is
capped.
-/

namespace TaskCoordination

/-- How a profile comes about. -/
inductive Assembly
  | new
  | record (a : Assembly) (elapsed : Duration)
  | merge (a b : Assembly)

namespace Assembly

def profile : Assembly → Except Overflow Profile
  | new => return .empty
  | record a elapsed => do (← a.profile).record elapsed
  | merge a b => do (← a.profile).accumulate (← b.profile)

/-- All executions of an assembly, in no order. -/
def executions : Assembly → Multiset Duration
  | new => 0
  | record a elapsed => elapsed ::ₘ a.executions
  | merge a b => a.executions + b.executions

/-- The times of the executions, in whole milliseconds. -/
def times (a : Assembly) : Multiset Nat :=
  a.executions.map Duration.millis

theorem card_times (a : Assembly) : a.times.card = a.executions.card :=
  Multiset.card_map _ _

end Assembly

namespace Profile

/-- The profile holds the statistics of these times. -/
structure Summarizes (p : Profile) (times : Multiset Nat) : Prop where
  eq_empty : times = 0 → p = .empty
  count : p.count = times.card
  least : times ≠ 0 → IsLeast {t | t ∈ times} p.least
  greatest : times ≠ 0 → IsGreatest {t | t ∈ times} p.greatest
  total : p.total = min times.sum word64Max
  mean : p.mean = p.total / p.count

variable {p q : Profile} {s t : Multiset Nat}

theorem summarizes_empty : empty.Summarizes 0 :=
  ⟨fun _ => rfl, rfl, fun h => absurd rfl h, fun h => absurd rfl h, rfl, rfl⟩

/-- There is one profile only for given times. -/
theorem Summarizes.unique (hp : p.Summarizes s) (hq : q.Summarizes s) : p = q := by
  by_cases hs : s = 0
  · rw [hp.eq_empty hs, hq.eq_empty hs]
  · have hcount : p.count = q.count := hp.count.trans hq.count.symm
    have htotal : p.total = q.total := hp.total.trans hq.total.symm
    have hleast : p.least = q.least := (hp.least hs).unique (hq.least hs)
    have hgreatest : p.greatest = q.greatest := (hp.greatest hs).unique (hq.greatest hs)
    have hmean : p.mean = q.mean := by rw [hp.mean, hq.mean, hcount, htotal]
    cases p
    cases q
    simp_all

theorem Summarizes.count_eq_zero_iff (h : p.Summarizes s) : p.count = 0 ↔ s = 0 := by
  rw [h.count, Multiset.card_eq_zero]

/-! ### One execution, one merge -/

private theorem min_add_min (a b limit : Nat) : min (min a limit + min b limit) limit = min (a + b) limit := by
  omega

private theorem setOf_mem_add (s t : Multiset Nat) : {x | x ∈ s + t} = {x | x ∈ s} ∪ {x | x ∈ t} := by
  ext x
  exact Multiset.mem_add

/-- The profile of a single execution. -/
def single (ms : Nat) : Profile :=
  ⟨1, ms, ms, ms, ms⟩

private theorem summarizes_single {ms : Nat} (hms : ms ≤ word64Max) : (single ms).Summarizes {ms} := by
  refine ⟨fun h => ?_, rfl, fun _ => ?_, fun _ => ?_, ?_, ?_⟩
  · exact absurd h (Multiset.singleton_ne_zero ms)
  · simp [single, IsLeast, lowerBounds]
  · simp [single, IsGreatest, upperBounds]
  · rw [Multiset.sum_singleton, Nat.min_eq_left hms, single]
  · exact (Nat.div_one ms).symm

/-- What a merge makes of two profiles that are not empty. -/
private theorem Summarizes.add (hp : p.Summarizes s) (hq : q.Summarizes t) (hs : s ≠ 0) (ht : t ≠ 0) :
    let total := min (p.total + q.total) word64Max
    Summarizes ⟨p.count + q.count, min p.least q.least, total / (p.count + q.count), max p.greatest q.greatest, total⟩
      (s + t) := by
  intro total
  refine ⟨fun h => ?_, ?_, fun _ => ?_, fun _ => ?_, ?_, rfl⟩
  · exact absurd (Multiset.le_zero.1 (h ▸ Multiset.le_add_right s t)) hs
  · rw [hp.count, hq.count, Multiset.card_add]
  · rw [setOf_mem_add]
    exact (hp.least hs).union (hq.least ht)
  · rw [setOf_mem_add]
    exact (hp.greatest hs).union (hq.greatest ht)
  · show min (p.total + q.total) word64Max = _
    rw [hp.total, hq.total, min_add_min, Multiset.sum_add]

theorem Summarizes.accumulate (hp : p.Summarizes s) (hq : q.Summarizes t) (hst : s.card + t.card ≤ word64Max) :
    ∃ r, p.accumulate q = .ok r ∧ r.Summarizes (s + t) := by
  by_cases ht : t = 0
  · subst ht
    refine ⟨p, ?_, by rwa [add_zero]⟩
    rw [Profile.accumulate, if_pos (hq.count_eq_zero_iff.2 rfl)]
    rfl
  · by_cases hs : s = 0
    · subst hs
      refine ⟨q, ?_, by rwa [zero_add]⟩
      rw [Profile.accumulate, if_neg (mt hq.count_eq_zero_iff.1 ht), if_pos (hp.count_eq_zero_iff.2 rfl)]
      rfl
    · have hcount : p.count + q.count ≤ word64Max := by rwa [hp.count, hq.count]
      refine ⟨_, ?_, hp.add hq hs ht⟩
      rw [Profile.accumulate, if_neg (mt hq.count_eq_zero_iff.1 ht), if_neg (mt hp.count_eq_zero_iff.1 hs),
        addWithin_of_le hcount]
      rfl

theorem millis_le (elapsed : Duration) : elapsed.millis ≤ word64Max :=
  Nat.min_le_right _ _

/-- A recorded execution is a merge with the profile of that execution alone. -/
theorem record_eq_accumulate (hc : p.count ≠ 0) (elapsed : Duration) :
    p.record elapsed = p.accumulate (single elapsed.millis) := by
  simp only [Profile.record, Profile.accumulate, single, hc, if_false, Nat.one_ne_zero]

private theorem record_empty (elapsed : Duration) : empty.record elapsed = .ok (single elapsed.millis) := by
  have hcount : addWithin word64Max empty.count 1 = .ok 1 := rfl
  have htotal : min (empty.total + elapsed.millis) word64Max = elapsed.millis := by
    rw [empty, Nat.zero_add, Nat.min_eq_left (millis_le elapsed)]
  rw [Profile.record, hcount]
  simp only [htotal, bind, Except.bind, Nat.div_one]
  rfl

theorem Summarizes.record (hp : p.Summarizes s) (elapsed : Duration) (hs : s.card + 1 ≤ word64Max) :
    ∃ q, p.record elapsed = .ok q ∧ q.Summarizes (elapsed.millis ::ₘ s) := by
  have hsingle := summarizes_single (millis_le elapsed)
  by_cases hz : s = 0
  · obtain rfl := hp.eq_empty hz
    subst hz
    exact ⟨_, record_empty elapsed, hsingle⟩
  · rw [record_eq_accumulate (mt hp.count_eq_zero_iff.1 hz), ← Multiset.singleton_add, add_comm]
    exact hp.accumulate hsingle hs

/-! ### Assemblies -/

theorem summarizes_profile (a : Assembly) (h : a.executions.card ≤ word64Max) :
    ∃ p, a.profile = .ok p ∧ p.Summarizes a.times := by
  induction a with
  | new => exact ⟨empty, rfl, summarizes_empty⟩
  | record a elapsed ih =>
    rw [Assembly.executions, Multiset.card_cons] at h
    obtain ⟨p, hp, hsum⟩ := ih (by omega)
    obtain ⟨q, hq, hsum⟩ := hsum.record elapsed (by rwa [Assembly.card_times])
    refine ⟨q, ?_, ?_⟩
    · rw [Assembly.profile, hp]
      exact hq
    · rwa [Assembly.times, Assembly.executions, Multiset.map_cons]
  | merge a b iha ihb =>
    rw [Assembly.executions, Multiset.card_add] at h
    obtain ⟨p, hp, hps⟩ := iha (by omega)
    obtain ⟨q, hq, hqs⟩ := ihb (by omega)
    obtain ⟨r, hr, hrs⟩ := hps.accumulate hqs (by rwa [Assembly.card_times, Assembly.card_times])
    refine ⟨r, ?_, ?_⟩
    · rw [Assembly.profile, hp, hq]
      exact hr
    · rwa [Assembly.times, Assembly.executions, Multiset.map_add]

/-- As long as the total is not capped, the mean lies between the extremes. -/
theorem Summarizes.mean_mem (h : p.Summarizes s) (hs : s.sum ≤ word64Max) :
    p.least ≤ p.mean ∧ p.mean ≤ p.greatest := by
  by_cases hz : s = 0
  · obtain rfl := h.eq_empty hz
    exact ⟨Nat.le_refl _, Nat.le_refl _⟩
  · have htotal : p.total = s.sum := by rw [h.total, Nat.min_eq_left hs]
    have hpos : 0 < s.card := Multiset.card_pos.2 hz
    have hlow : s.card * p.least ≤ s.sum := Multiset.card_nsmul_le_sum fun t ht => (h.least hz).2 ht
    have hhigh : s.sum ≤ s.card * p.greatest := Multiset.sum_le_card_nsmul s _ fun t ht => (h.greatest hz).2 ht
    rw [h.mean, htotal, h.count]
    constructor
    · rw [Nat.le_div_iff_mul_le hpos, Nat.mul_comm]
      exact hlow
    · exact Nat.div_le_of_le_mul hhigh

/-! ### The order of merges -/

/-- The order of two profiles makes no difference. -/
theorem Summarizes.accumulate_comm (hp : p.Summarizes s) (hq : q.Summarizes t) (h : s.card + t.card ≤ word64Max) :
    ∃ r, p.accumulate q = .ok r ∧ q.accumulate p = .ok r := by
  obtain ⟨r, hr, hsum⟩ := hp.accumulate hq h
  obtain ⟨r', hr', hsum'⟩ := hq.accumulate hp (by omega)
  rw [add_comm] at hsum'
  exact ⟨r, hr, by rw [hr', hsum'.unique hsum]⟩

/-- Of three profiles it makes no difference which two are merged first. -/
theorem Summarizes.accumulate_assoc {r : Profile} {u : Multiset Nat} (hp : p.Summarizes s) (hq : q.Summarizes t)
    (hr : r.Summarizes u) (h : s.card + t.card + u.card ≤ word64Max) :
    ∃ pq qr pqr, p.accumulate q = .ok pq ∧ q.accumulate r = .ok qr ∧ pq.accumulate r = .ok pqr ∧
      p.accumulate qr = .ok pqr := by
  obtain ⟨pq, hpq, hpqs⟩ := hp.accumulate hq (by omega)
  obtain ⟨qr, hqr, hqrs⟩ := hq.accumulate hr (by omega)
  obtain ⟨left, hleft, hlefts⟩ := hpqs.accumulate hr (by rwa [Multiset.card_add])
  obtain ⟨right, hright, hrights⟩ := hp.accumulate hqrs (by rwa [Multiset.card_add, ← Nat.add_assoc])
  rw [← add_assoc] at hrights
  exact ⟨pq, qr, left, hpq, hqr, hleft, by rw [hright, hrights.unique hlefts]⟩

/-- Every assembly makes a profile, which holds the statistics of the times of its executions; profiles merge in any
order, and the empty profile adds nothing. -/
theorem statistics (a : Assembly) (ha : a.executions.card ≤ word64Max) :
    ∃ p, a.profile = .ok p ∧ p.Summarizes a.times ∧
      (a.times.sum ≤ word64Max → p.least ≤ p.mean ∧ p.mean ≤ p.greatest) ∧
      (∀ b : Assembly, b.times = a.times → b.profile = .ok p) ∧
      empty.accumulate p = .ok p ∧ p.accumulate empty = .ok p ∧
      (∀ b : Assembly, (a.executions + b.executions).card ≤ word64Max →
        ∃ q r, b.profile = .ok q ∧ p.accumulate q = .ok r ∧ q.accumulate p = .ok r) ∧
      ∀ b c : Assembly, (a.executions + b.executions + c.executions).card ≤ word64Max →
        ∃ q r pq qr pqr, b.profile = .ok q ∧ c.profile = .ok r ∧ p.accumulate q = .ok pq ∧
          q.accumulate r = .ok qr ∧ pq.accumulate r = .ok pqr ∧ p.accumulate qr = .ok pqr := by
  obtain ⟨p, hp, hps⟩ := summarizes_profile a ha
  refine ⟨p, hp, hps, hps.mean_mem, ?_, ?_, rfl, ?_, ?_⟩
  · intro b hb
    obtain ⟨q, hq, hqs⟩ := summarizes_profile b (by rwa [← Assembly.card_times, hb, Assembly.card_times])
    rw [hb] at hqs
    rw [hq, hqs.unique hps]
  · obtain ⟨r, hr, hr'⟩ := summarizes_empty.accumulate_comm hps (by simpa [Assembly.card_times] using ha)
    rwa [← hr'] at hr
  · intro b hb
    rw [Multiset.card_add] at hb
    obtain ⟨q, hq, hqs⟩ := summarizes_profile b (by omega)
    obtain ⟨r, hr⟩ := hps.accumulate_comm hqs (by rwa [Assembly.card_times, Assembly.card_times])
    exact ⟨q, r, hq, hr⟩
  · intro b c hbc
    rw [Multiset.card_add, Multiset.card_add] at hbc
    obtain ⟨q, hq, hqs⟩ := summarizes_profile b (by omega)
    obtain ⟨r, hr, hrs⟩ := summarizes_profile c (by omega)
    obtain ⟨pq, qr, pqr, h⟩ := hps.accumulate_assoc hqs hrs (by simpa only [Assembly.card_times] using hbc)
    exact ⟨q, r, pq, qr, pqr, hq, hr, h⟩

/-- A profile is merged with itself and with a time that exceeds all others: the total is capped, and the mean falls
below the least time. -/
theorem statistics_merged_with_itself :
    let longest : Duration := { secs := 18446744073709551615, nanos := 0 }
    let a := Assembly.record (.merge (.record .new longest) .new) longest
    (Assembly.merge a a).executions.card = 4 ∧
      ∃ p, (Assembly.merge a a).profile = .ok p ∧ p.Summarizes (Assembly.merge a a).times ∧ p.count = 4 ∧
        p.mean = word64Max / 4 ∧ p.mean < p.least := by
  intro longest a
  have hcard : (Assembly.merge a a).executions.card = 4 := rfl
  obtain ⟨p, hp, hps, -⟩ := statistics (.merge a a) (by rw [hcard]; decide)
  have hpv : (Assembly.merge a a).profile = .ok ⟨4, word64Max, word64Max / 4, word64Max, word64Max⟩ := by
    decide +kernel
  obtain rfl := Except.ok.inj (hp.symm.trans hpv)
  exact ⟨hcard, _, hp, hps, rfl, rfl, by decide⟩

end Profile

end TaskCoordination
