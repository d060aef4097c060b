import Mathlib.Data.List.Infix
import TaskCoordination.Proofs.Json.Basic
import TaskCoordination.Proofs.Profile.Statistics

/-!
# Profiles that are written and read back

A profile is written without its running total, and a reader takes the mean times the count for it: what the division
left over is lost. From then on the total lags behind by less than the count (`Lags`). Executions and merges add the
same to both totals and never less to the counts, and a cap only brings the totals together, so the means never differ
by more than one (`reload_lags`).

The count and the extremes stay those of the profile that was not reloaded. What has been read once, or is made of
four values, is read back as it is.
-/

namespace TaskCoordination

namespace Profile

variable {p q r : Profile}

/-! ### Writing and reading -/

/-- The four written values are 64-bit numbers. -/
structure Fits (p : Profile) : Prop where
  count : p.count ≤ word64Max
  least : p.least ≤ word64Max
  mean : p.mean ≤ word64Max
  greatest : p.greatest ≤ word64Max

/-- What is read back of a profile. -/
def reloaded (p : Profile) : Profile :=
  ofStats p.count p.least p.mean p.greatest

theorem ofJson?_toJson (h : p.Fits) : ofJson? p.toJson = some p.reloaded := by
  have hfields : ofJson? p.toJson = (do
      let count ← (Json.nat p.count).natUpTo? word64Max
      let least ← (Json.nat p.least).natUpTo? word64Max
      let mean ← (Json.nat p.mean).natUpTo? word64Max
      let greatest ← (Json.nat p.greatest).natUpTo? word64Max
      return ofStats count least mean greatest) := rfl
  rw [hfields, Json.natUpTo?_nat h.count, Json.natUpTo?_nat h.least, Json.natUpTo?_nat h.mean,
    Json.natUpTo?_nat h.greatest]
  rfl

/-- A profile that was read holds four 64-bit numbers and what follows from them. -/
theorem of_ofJson? {j : Json} (h : ofJson? j = some p) : p.Fits ∧ p.reloaded = p := by
  simp only [ofJson?, bind, Option.bind_eq_some_iff] at h
  obtain ⟨field, -, count, ⟨_, -, hcount⟩, least, ⟨_, -, hleast⟩, mean, ⟨_, -, hmean⟩, greatest,
    ⟨_, -, hgreatest⟩, h⟩ := h
  obtain rfl := Option.some.inj h
  exact ⟨⟨Json.le_of_natUpTo? hcount, Json.le_of_natUpTo? hleast, Json.le_of_natUpTo? hmean,
    Json.le_of_natUpTo? hgreatest⟩, rfl⟩

theorem Summarizes.fits {a : Assembly} (h : p.Summarizes a.times) (ha : a.executions.card ≤ word64Max) : p.Fits := by
  have hms : ∀ t ∈ a.times, t ≤ word64Max := by
    intro t ht
    obtain ⟨elapsed, -, rfl⟩ := Multiset.mem_map.1 ht
    exact millis_le elapsed
  by_cases hz : a.times = 0
  · obtain rfl := h.eq_empty hz
    exact ⟨Nat.zero_le _, Nat.zero_le _, Nat.zero_le _, Nat.zero_le _⟩
  · refine ⟨?_, hms _ (h.least hz).1, ?_, hms _ (h.greatest hz).1⟩
    · rwa [h.count, Assembly.card_times]
    · rw [h.mean, h.total]
      exact Nat.le_trans (Nat.div_le_self _ _) (Nat.min_le_right _ _)

/-! ### What a profile takes up -/

/-- Something that a profile takes up. -/
inductive Supplement
  | execution (elapsed : Duration)
  | profile (q : Profile)

/-- How many executions it brings. -/
def Supplement.count : Supplement → Nat
  | execution _ => 1
  | profile q => q.count

def take (p : Profile) : Supplement → Except Overflow Profile
  | .execution elapsed => p.record elapsed
  | .profile q => p.accumulate q

def takeAll (p : Profile) : List Supplement → Except Overflow Profile
  | [] => return p
  | x :: rest => do (← p.take x).takeAll rest

private theorem exists_accumulate (q : Profile) (h : p.count + q.count ≤ word64Max) :
    ∃ p', p.accumulate q = .ok p' ∧ p'.count = p.count + q.count := by
  unfold accumulate
  split
  · next hq => exact ⟨p, rfl, by omega⟩
  · split
    · next hp => exact ⟨q, rfl, by omega⟩
    · rw [addWithin_of_le h]
      exact ⟨_, rfl, rfl⟩

/-- What can be counted is taken up. -/
theorem exists_take (x : Supplement) (h : p.count + x.count ≤ word64Max) :
    ∃ p', p.take x = .ok p' ∧ p'.count = p.count + x.count := by
  cases x with
  | execution elapsed =>
    have h : p.count + 1 ≤ word64Max := h
    rw [take, record, addWithin_of_le h]
    exact ⟨_, rfl, rfl⟩
  | profile q => exact exists_accumulate q h

/-! ### The total that lags behind -/

/-- The second profile tells the same as the first, but its total lags behind by less than the count. -/
structure Lags (p r : Profile) : Prop where
  count_pos : 0 < p.count
  count : r.count = p.count
  least : r.least = p.least
  greatest : r.greatest = p.greatest
  mean : p.mean = p.total / p.count ∧ r.mean = r.total / p.count
  total : r.total ≤ p.total ∧ p.total < r.total + p.count

/-- Totals that differ by less than the count have means that differ by one at most. -/
theorem Lags.mean_eq (h : p.Lags r) : r.mean = p.mean ∨ r.mean + 1 = p.mean := by
  have hlow : r.total / p.count ≤ p.total / p.count := Nat.div_le_div_right h.total.1
  have hhigh : p.total / p.count ≤ (r.total + p.count) / p.count := Nat.div_le_div_right (Nat.le_of_lt h.total.2)
  rw [Nat.add_div_right _ h.count_pos] at hhigh
  rw [h.mean.1, h.mean.2]
  omega

theorem Lags.accumulate (h : p.Lags r) (q : Profile) (hc : p.count + q.count ≤ word64Max) :
    ∃ p' r', p.accumulate q = .ok p' ∧ r.accumulate q = .ok r' ∧ p'.Lags r' := by
  by_cases hq : q.count = 0
  · refine ⟨p, r, ?_, ?_, h⟩ <;> rw [Profile.accumulate, if_pos hq] <;> rfl
  · have hp : p.count ≠ 0 := Nat.ne_of_gt h.count_pos
    have hr : r.count ≠ 0 := by rwa [h.count]
    have hp' : p.accumulate q = .ok ⟨p.count + q.count, min p.least q.least,
        min (p.total + q.total) word64Max / (p.count + q.count), max p.greatest q.greatest,
        min (p.total + q.total) word64Max⟩ := by
      rw [Profile.accumulate, if_neg hq, if_neg hp, addWithin_of_le hc]
      rfl
    have hr' : r.accumulate q = .ok ⟨p.count + q.count, min p.least q.least,
        min (r.total + q.total) word64Max / (p.count + q.count), max p.greatest q.greatest,
        min (r.total + q.total) word64Max⟩ := by
      rw [Profile.accumulate, if_neg hq, if_neg hr, h.count, h.least, h.greatest, addWithin_of_le hc]
      rfl
    refine ⟨_, _, hp', hr', ?_⟩
    obtain ⟨hle, hlt⟩ := h.total
    refine ⟨?_, rfl, rfl, rfl, ⟨rfl, rfl⟩, ?_⟩
    · show 0 < p.count + q.count
      omega
    · show min (r.total + q.total) word64Max ≤ min (p.total + q.total) word64Max ∧
        min (p.total + q.total) word64Max < min (r.total + q.total) word64Max + (p.count + q.count)
      omega

theorem Lags.take (h : p.Lags r) (x : Supplement) (hc : p.count + x.count ≤ word64Max) :
    ∃ p' r', p.take x = .ok p' ∧ r.take x = .ok r' ∧ p'.Lags r' := by
  cases x with
  | execution elapsed =>
    have hp : p.count ≠ 0 := Nat.ne_of_gt h.count_pos
    have hr : r.count ≠ 0 := by rwa [h.count]
    rw [Profile.take, Profile.take, record_eq_accumulate hp, record_eq_accumulate hr]
    exact h.accumulate (single elapsed.millis) hc
  | profile q => exact h.accumulate q hc

/-- The profiles are the same, or one lags behind. -/
def Follows (p r : Profile) : Prop :=
  r = p ∨ p.Lags r

theorem Follows.take (h : p.Follows r) (x : Supplement) (hc : p.count + x.count ≤ word64Max) :
    ∃ p' r', p.take x = .ok p' ∧ r.take x = .ok r' ∧ p'.Follows r' ∧ p'.count = p.count + x.count := by
  obtain ⟨p', hp', hcount⟩ := exists_take x hc
  rcases h with rfl | h
  · exact ⟨p', p', hp', hp', Or.inl rfl, hcount⟩
  · obtain ⟨p'', r', hp'', hr', hlags⟩ := h.take x hc
    obtain rfl := Except.ok.inj (hp'.symm.trans hp'')
    exact ⟨p', r', hp', hr', Or.inr hlags, hcount⟩

theorem Follows.takeAll (h : p.Follows r) (xs : List Supplement)
    (hc : p.count + (xs.map Supplement.count).sum ≤ word64Max) :
    ∃ p' r', p.takeAll xs = .ok p' ∧ r.takeAll xs = .ok r' ∧ p'.Follows r' := by
  induction xs generalizing p r with
  | nil => exact ⟨p, r, rfl, rfl, h⟩
  | cons x xs ih =>
    rw [List.map_cons, List.sum_cons] at hc
    obtain ⟨p', r', hp', hr', hfollows, hcount⟩ := h.take x (by omega)
    obtain ⟨p'', r'', hp'', hr'', hfollows⟩ := ih hfollows (by omega)
    refine ⟨p'', r'', ?_, ?_, hfollows⟩
    · rw [Profile.takeAll, hp']
      exact hp''
    · rw [Profile.takeAll, hr']
      exact hr''

/-- What is lost is the remainder of a division by the count. -/
theorem Summarizes.follows_reloaded {s : Multiset Nat} (h : p.Summarizes s) : p.Follows p.reloaded := by
  by_cases hz : s = 0
  · obtain rfl := h.eq_empty hz
    exact Or.inl rfl
  · have hpos : 0 < p.count := Nat.pos_of_ne_zero (mt h.count_eq_zero_iff.1 hz)
    have hle : p.mean * p.count ≤ p.total := by
      rw [h.mean]
      exact Nat.div_mul_le_self _ _
    have htotal : p.reloaded.total = p.mean * p.count :=
      Nat.min_eq_left (Nat.le_trans hle (by rw [h.total]; exact Nat.min_le_right _ _))
    refine Or.inr ⟨hpos, rfl, rfl, rfl, ⟨h.mean, ?_⟩, ?_, ?_⟩
    · rw [htotal, Nat.mul_div_cancel _ hpos]
      rfl
    · rwa [htotal]
    · rw [htotal, h.mean]
      exact Nat.lt_div_mul_add hpos

/-- A profile that is written and read back keeps its four values; whatever it takes up from then on, its mean is
that of the profile that was not reloaded, or less by one. -/
theorem reload_lags (a : Assembly) (later : List Supplement)
    (h : a.executions.card + (later.map Supplement.count).sum ≤ word64Max) :
    ∃ p r, a.profile = .ok p ∧ ofJson? p.toJson = some r ∧
      (r.count = p.count ∧ r.least = p.least ∧ r.mean = p.mean ∧ r.greatest = p.greatest) ∧
      (∀ done, done <+: later → ∃ q q', p.takeAll done = .ok q ∧ r.takeAll done = .ok q' ∧
        q'.count = q.count ∧ q'.least = q.least ∧ q'.greatest = q.greatest ∧
        (q'.mean = q.mean ∨ q'.mean + 1 = q.mean)) ∧
      (∀ j q, ofJson? j = some q → ofJson? q.toJson = some q) ∧
      ∀ count least mean greatest, count ≤ word64Max → least ≤ word64Max → mean ≤ word64Max →
        greatest ≤ word64Max →
        ofJson? (ofStats count least mean greatest).toJson = some (ofStats count least mean greatest) := by
  obtain ⟨p, hp, hsum⟩ := summarizes_profile a (by omega)
  refine ⟨p, p.reloaded, hp, ofJson?_toJson (hsum.fits (by omega)), ⟨rfl, rfl, rfl, rfl⟩, ?_, ?_, ?_⟩
  · rintro done ⟨rest, rfl⟩
    rw [List.map_append, List.sum_append, ← Assembly.card_times, ← hsum.count] at h
    obtain ⟨q, q', hq, hq', rfl | hlags⟩ := hsum.follows_reloaded.takeAll done (by omega)
    · exact ⟨q', q', hq, hq', rfl, rfl, rfl, Or.inl rfl⟩
    · exact ⟨q, q', hq, hq', hlags.count, hlags.least, hlags.greatest, hlags.mean_eq⟩
  · intro j q hq
    obtain ⟨hfits, hsame⟩ := of_ofJson? hq
    rw [ofJson?_toJson hfits, hsame]
  · intro count least mean greatest hcount hleast hmean hgreatest
    exact ofJson?_toJson ⟨hcount, hleast, hmean, hgreatest⟩

/-- After two executions, of one and of two milliseconds, the reloaded total lags behind by one; with an execution
that takes no time the mean does so, too, and after a merge it is the same again. -/
theorem reload_lags_one_and_two :
    let one : Duration := { secs := 0, nanos := 1000000 }
    let two : Duration := { secs := 0, nanos := 2000000 }
    let a := Assembly.record (.record .new one) two
    let later := [Supplement.execution { secs := 0, nanos := 0 }, .profile (ofStats 4 10 10 10)]
    a.executions.card + (later.map Supplement.count).sum = 7 ∧
      ∃ p r, a.profile = .ok p ∧ ofJson? p.toJson = some r ∧ r.mean = p.mean ∧
        (∃ q q', p.takeAll (later.take 1) = .ok q ∧ r.takeAll (later.take 1) = .ok q' ∧
          (q'.mean = q.mean ∨ q'.mean + 1 = q.mean) ∧ q.mean = 1 ∧ q'.mean = 0) ∧
        ∃ q q', p.takeAll later = .ok q ∧ r.takeAll later = .ok q' ∧ q.mean = 6 ∧ q'.mean = 6 := by
  intro one two a later
  have hcard : a.executions.card + (later.map Supplement.count).sum = 7 := rfl
  obtain ⟨p, r, hp, hr, ⟨-, -, hmean, -⟩, hlater, -⟩ := reload_lags a later (by rw [hcard]; decide)
  have hpv : a.profile = .ok ⟨2, 1, 1, 2, 3⟩ := by decide +kernel
  obtain rfl := Except.ok.inj (hp.symm.trans hpv)
  have hrv : ofJson? (Profile.mk 2 1 1 2 3).toJson = some ⟨2, 1, 1, 2, 2⟩ := by decide +kernel
  obtain rfl := Option.some.inj (hr.symm.trans hrv)
  refine ⟨hcard, _, _, hp, hr, hmean, ?_, ?_⟩
  · obtain ⟨q, q', hq, hq', -, -, -, hle⟩ := hlater (later.take 1) (List.take_prefix 1 later)
    have hqv : (Profile.mk 2 1 1 2 3).takeAll (later.take 1) = .ok ⟨3, 0, 1, 2, 3⟩ := by decide +kernel
    have hqv' : (Profile.mk 2 1 1 2 2).takeAll (later.take 1) = .ok ⟨3, 0, 0, 2, 2⟩ := by decide +kernel
    obtain rfl := Except.ok.inj (hq.symm.trans hqv)
    obtain rfl := Except.ok.inj (hq'.symm.trans hqv')
    exact ⟨_, _, hq, hq', hle, rfl, rfl⟩
  · exact ⟨⟨7, 0, 6, 10, 43⟩, ⟨7, 0, 6, 10, 42⟩, by decide +kernel, by decide +kernel, rfl, rfl⟩

end Profile

end TaskCoordination
