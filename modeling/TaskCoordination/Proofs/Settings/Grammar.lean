import Mathlib.Data.List.DropRight
import Mathlib.Data.List.Forall2
import Mathlib.Data.Nat.Digits.Defs
import TaskCoordination.Settings

/-!
# What a setting may say

The grammar of the texts that settings are read from. A numeral is an optional plus sign and one or more decimal
digits, and denotes what its digits do (`IsNumeral`); a flag is one of four words, whatever the case of its letters,
with blank characters around it (`IsFlag`). The readers accept exactly these texts (`readNumeral?_eq_some_iff`,
`readFlag?_eq_some_iff`); in which range a number must lie depends on the setting.
-/

namespace TaskCoordination

namespace Text

/-! ### Numerals -/

def IsNumeral (s : String) (n : Nat) : Prop :=
  ∃ sign ∈ ["", "+"], ∃ digits : List Nat, digits ≠ [] ∧ (∀ d ∈ digits, d < 10) ∧
    s = sign ++ String.ofList (digits.map Nat.digitChar) ∧ n = Nat.ofDigits 10 digits.reverse

private theorem exists_digits {cs : List Char} (h : cs.all Char.isDigit = true) :
    ∃ digits : List Nat, (∀ d ∈ digits, d < 10) ∧ cs = digits.map Nat.digitChar := by
  induction cs with
  | nil => exact ⟨[], by simp, rfl⟩
  | cons c cs ih =>
    rw [List.all_cons, Bool.and_eq_true, Char.isDigit_iff_toNat] at h
    obtain ⟨⟨hlo, hhi⟩, hcs⟩ := h
    change 48 ≤ c.toNat at hlo
    change c.toNat ≤ 57 at hhi
    obtain ⟨digits, hd, rfl⟩ := ih hcs
    have hlt : c.toNat - 48 < 10 := by omega
    refine ⟨(c.toNat - 48) :: digits, List.forall_mem_cons.2 ⟨hlt, hd⟩, ?_⟩
    rw [List.map_cons, List.cons.injEq]
    refine ⟨Char.toNat_inj.1 ?_, rfl⟩
    rw [Nat.toNat_digitChar_of_lt_ten hlt]
    omega

private theorem digitsValue_concat (cs : List Char) (c : Char) :
    digitsValue (cs ++ [c]) = 10 * digitsValue cs + (c.toNat - 48) :=
  List.foldl_concat ..

private theorem digitsValue_map_digitChar {digits : List Nat} (h : ∀ d ∈ digits, d < 10) :
    digitsValue (digits.map Nat.digitChar) = Nat.ofDigits 10 digits.reverse := by
  induction digits using List.reverseRecOn with
  | nil => rfl
  | append_singleton digits d ih =>
    have hd : d < 10 := h d (by simp)
    rw [List.map_append, List.map_singleton, digitsValue_concat, ih fun d' hd' => h d' (by simp [hd']),
      Nat.toNat_digitChar_sub_48_of_lt_ten hd, List.reverse_concat, Nat.ofDigits_cons]
    simp [Nat.add_comm]

private theorem exists_sign (s : String) : ∃ sign ∈ ["", "+"], s = sign ++ String.ofList (unsigned s.toList) := by
  unfold unsigned
  split
  · next rest h => exact ⟨"+", by simp, String.toList_inj.1 (by simp [h])⟩
  · exact ⟨"", by simp, String.toList_inj.1 (by simp)⟩

/-- Of a numeral the plus sign is taken off, and no digit is. -/
private theorem unsigned_append {sign : String} (hsign : sign ∈ ["", "+"]) {digits : List Nat}
    (h : ∀ d ∈ digits, d < 10) :
    unsigned (sign ++ String.ofList (digits.map Nat.digitChar)).toList = digits.map Nat.digitChar := by
  rw [String.toList_append, String.toList_ofList]
  simp only [List.mem_cons, List.not_mem_nil, or_false] at hsign
  rcases hsign with rfl | rfl
  · cases digits with
    | nil => rfl
    | cons d digits =>
      have hplus : d.digitChar ≠ '+' := by
        intro heq
        have hval := Nat.toNat_digitChar_of_lt_ten (h d List.mem_cons_self)
        rw [heq] at hval
        change 43 = 48 + d at hval
        omega
      simp [unsigned, hplus]
  · rfl

theorem readNumeral?_eq_some_iff {limit n : Nat} {s : String} :
    readNumeral? limit s = some n ↔ IsNumeral s n ∧ n ≤ limit := by
  constructor
  · intro h
    simp only [readNumeral?, Option.ite_none_right_eq_some, Option.some.injEq] at h
    obtain ⟨⟨hne, hall, hle⟩, rfl⟩ := h
    obtain ⟨sign, hsign, heq⟩ := exists_sign s
    obtain ⟨digits, hd, hdigits⟩ := exists_digits hall
    rw [hdigits] at hne hle heq ⊢
    rw [digitsValue_map_digitChar hd] at hle ⊢
    exact ⟨⟨sign, hsign, digits, by simpa using hne, hd, heq, rfl⟩, hle⟩
  · rintro ⟨⟨sign, hsign, digits, hne, hd, rfl, rfl⟩, hle⟩
    have hall : (digits.map Nat.digitChar).all Char.isDigit = true := by
      simpa [Nat.isDigit_digitChar] using hd
    simp only [readNumeral?]
    rw [unsigned_append hsign hd, digitsValue_map_digitChar hd]
    exact if_pos ⟨by simpa using hne, hall, hle⟩

/-! ### Words -/

/-- The text is a word of which each letter stands as it is or as a capital, with blank characters around it. -/
def Spells (s word : String) : Prop :=
  ∃ before core after : List Char, s.toList = before ++ core ++ after ∧ (∀ c ∈ before, isBlankChar c = true) ∧
    (∀ c ∈ after, isBlankChar c = true) ∧ List.Forall₂ (fun c d => d = c ∨ d = c.toUpper) word.toList core

private theorem isUpper_iff {c : Char} : c.isUpper = true ↔ 65 ≤ c.toNat ∧ c.toNat ≤ 90 := by
  change decide (65 ≤ c.val ∧ c.val ≤ 90) = true ↔ _
  exact decide_eq_true_iff

private theorem toNat_toLower (c : Char) : c.toLower.toNat = if c.isUpper then c.toNat + 32 else c.toNat := by
  unfold Char.toLower
  simp only [isUpper_iff, ge_iff_le, UInt32.le_iff_toNat_le]
  change (if h : 65 ≤ c.toNat ∧ c.toNat ≤ 90 then _ else c).toNat = _
  split
  · change (c.val + 32).toNat = c.toNat + 32
    rw [UInt32.toNat_add]
    change (c.toNat + 32) % 4294967296 = c.toNat + 32
    omega
  · rfl

private theorem toNat_toUpper (c : Char) :
    c.toUpper.toNat = if 97 ≤ c.toNat ∧ c.toNat ≤ 122 then c.toNat - 32 else c.toNat := by
  unfold Char.toUpper
  simp only [UInt32.le_iff_toNat_le]
  change (if h : 97 ≤ c.toNat ∧ c.toNat ≤ 122 then _ else c).toNat = _
  split
  · -- a difference of words is a sum that wraps
    change (c.val + 4294967264).toNat = c.toNat - 32
    rw [UInt32.toNat_add]
    change (c.toNat + 4294967264) % 4294967296 = c.toNat - 32
    omega
  · rfl

/-- A character that is no capital is the small form of itself and of its capital, and of nothing else. -/
private theorem toLower_eq_iff {c d : Char} (hc : ¬ c.isUpper) : d.toLower = c ↔ d = c ∨ d = c.toUpper := by
  rw [isUpper_iff] at hc
  rw [← Char.toNat_inj, ← Char.toNat_inj, ← Char.toNat_inj, toNat_toLower, toNat_toUpper]
  simp only [isUpper_iff]
  split <;> split <;> omega

private theorem forall₂_iff {word core : List Char} (hw : ∀ c ∈ word, ¬ c.isUpper) :
    List.Forall₂ (fun c d => d = c ∨ d = c.toUpper) word core ↔ core.map Char.toLower = word := by
  induction word generalizing core with
  | nil => rw [List.forall₂_nil_left_iff, List.map_eq_nil_iff]
  | cons c word ih =>
    obtain ⟨hc, hword⟩ := List.forall_mem_cons.1 hw
    cases core with
    | nil =>
      rw [List.forall₂_nil_right_iff]
      simp
    | cons d core => rw [List.forall₂_cons, List.map_cons, List.cons.injEq, toLower_eq_iff hc, ih hword]

private theorem toList_trim (s : String) :
    (trim s).toList = (s.toList.dropWhile isBlankChar).rdropWhile isBlankChar := by
  rw [trim, String.toList_ofList]
  rfl

/-- What trimming cuts off is blank. -/
private theorem exists_trim (s : String) : ∃ before after : List Char, s.toList = before ++ (trim s).toList ++ after ∧
    (∀ c ∈ before, isBlankChar c = true) ∧ (∀ c ∈ after, isBlankChar c = true) := by
  refine ⟨s.toList.takeWhile isBlankChar, (s.toList.dropWhile isBlankChar).rtakeWhile isBlankChar, ?_, ?_, ?_⟩
  · rw [toList_trim, List.append_assoc, List.rdropWhile_append_rtakeWhile, List.takeWhile_append_dropWhile]
  · exact fun c hc => List.mem_takeWhile_imp hc
  · exact fun c hc => List.mem_rtakeWhile_imp hc

private theorem dropWhile_append_of_blank {before rest : List Char} (hb : ∀ c ∈ before, isBlankChar c = true)
    (hr : ∀ c ∈ rest.head?, isBlankChar c = false) : (before ++ rest).dropWhile isBlankChar = rest := by
  rw [List.dropWhile_append, List.dropWhile_eq_nil_iff.2 hb, List.isEmpty_nil, if_pos rfl]
  cases rest with
  | nil => rfl
  | cons c rest => exact List.dropWhile_cons_of_neg (by simpa using hr)

/-- Trimming leaves what has no blank character, and all of it. -/
private theorem toList_trim_of_append {s : String} {before core after : List Char}
    (hs : s.toList = before ++ core ++ after) (hb : ∀ c ∈ before, isBlankChar c = true)
    (ha : ∀ c ∈ after, isBlankChar c = true) (hne : core ≠ []) (hc : ∀ c ∈ core, isBlankChar c = false) :
    (trim s).toList = core := by
  have hfront : (before ++ (core ++ after)).dropWhile isBlankChar = core ++ after := by
    refine dropWhile_append_of_blank hb fun c h => hc c ?_
    rw [List.head?_append_of_ne_nil _ hne] at h
    exact List.mem_of_mem_head? h
  have hback : (after.reverse ++ core.reverse).dropWhile isBlankChar = core.reverse := by
    refine dropWhile_append_of_blank (by simpa using ha) fun c h => hc c ?_
    exact List.mem_reverse.1 (List.mem_of_mem_head? h)
  rw [toList_trim, hs, List.append_assoc, hfront, List.rdropWhile, List.reverse_append, hback, List.reverse_reverse]

private def isPlainChar (c : Char) : Bool :=
  !c.isUpper && !isBlankChar c && !isBlankChar c.toUpper

/-- A word of small letters, or other characters, of which none is blank. -/
private def IsPlain (word : List Char) : Prop :=
  word ≠ [] ∧ word.all isPlainChar = true

private theorem IsPlain.char {word : List Char} (hw : IsPlain word) :
    ∀ c ∈ word, ¬ c.isUpper ∧ isBlankChar c = false ∧ isBlankChar c.toUpper = false := by
  simpa [isPlainChar, and_assoc] using hw.2

private theorem spells_iff {s word : String} (hw : IsPlain word.toList) :
    Spells s word ↔ (trim s).toLower = word := by
  have hword := hw.char
  have hlower : ∀ {t : List Char}, List.Forall₂ (fun c d => d = c ∨ d = c.toUpper) word.toList t ↔
      t.map Char.toLower = word.toList := forall₂_iff fun c hc => (hword c hc).1
  have hlist : (trim s).toLower.toList = (trim s).toList.map Char.toLower := String.toList_map
  rw [← String.toList_inj, hlist, ← hlower]
  constructor
  · rintro ⟨before, core, after, hs, hb, ha, h⟩
    have hcore : ∀ d ∈ core, isBlankChar d = false := by
      intro d hd
      have hmem : d.toLower ∈ word.toList := by
        rw [← hlower.1 h]
        exact List.mem_map_of_mem hd
      obtain ⟨hlow, hsmall, hcapital⟩ := hword _ hmem
      rcases (toLower_eq_iff hlow).1 rfl with heq | heq
      · rwa [heq]
      · rwa [heq]
    have hne' : core ≠ [] := by
      rintro rfl
      exact hw.1 (List.forall₂_nil_right_iff.1 h)
    rwa [toList_trim_of_append hs hb ha hne' hcore]
  · intro h
    obtain ⟨before, after, hs, hb, ha⟩ := exists_trim s
    exact ⟨before, (trim s).toList, after, hs, hb, ha, h⟩

end Text

namespace Settings

def flagWords : Bool → List String
  | true => ["true", "1"]
  | false => ["false", "0"]

def IsFlag (s : String) (b : Bool) : Prop :=
  ∃ word ∈ flagWords b, Text.Spells s word

private theorem isPlain_flagWords {b : Bool} {word : String} (h : word ∈ flagWords b) : Text.IsPlain word.toList := by
  have hall : ∀ word ∈ flagWords true ++ flagWords false, Text.IsPlain word.toList := by
    unfold Text.IsPlain
    decide
  cases b with
  | true => exact hall word (List.mem_append_left _ h)
  | false => exact hall word (List.mem_append_right _ h)

theorem readFlag?_eq_some_iff {s : String} {b : Bool} : readFlag? s = some b ↔ IsFlag s b := by
  have hiff : IsFlag s b ↔ (Text.trim s).toLower ∈ flagWords b := by
    constructor
    · rintro ⟨word, hmem, h⟩
      rwa [(Text.spells_iff (isPlain_flagWords hmem)).1 h]
    · intro hmem
      exact ⟨_, hmem, (Text.spells_iff (isPlain_flagWords hmem)).2 rfl⟩
  rw [hiff, readFlag?]
  split <;> cases b <;> simp_all [flagWords]

/-! ### Numbers in their range -/

theorem readPositive?_eq_some_iff {limit n : Nat} {s : String} :
    readPositive? limit s = some n ↔ Text.IsNumeral s n ∧ 0 < n ∧ n ≤ limit := by
  rw [readPositive?, Option.filter_eq_some_iff, Text.readNumeral?_eq_some_iff, decide_eq_true_iff, and_assoc,
    and_comm (a := n ≤ limit)]

theorem readPort?_eq_some_iff {s : String} {port : UInt16} :
    readPort? s = some port ↔ Text.IsNumeral s port.toNat := by
  rw [readPort?, Option.map_eq_some_iff]
  constructor
  · rintro ⟨n, hn, rfl⟩
    obtain ⟨hnumeral, hle⟩ := Text.readNumeral?_eq_some_iff.1 hn
    have hlt : n < UInt16.size := Nat.lt_of_le_of_lt hle (by decide)
    rwa [UInt16.toNat_ofNat_of_lt' hlt]
  · intro h
    exact ⟨port.toNat, Text.readNumeral?_eq_some_iff.2 ⟨h, Nat.le_pred_of_lt port.toNat_lt⟩, UInt16.ofNat_toNat⟩

theorem readUnits?_eq_some_iff {s : String} {units : UInt32} :
    readUnits? s = some units ↔ Text.IsNumeral s units.toNat ∧ 0 < units := by
  rw [readUnits?, Option.map_eq_some_iff, UInt32.lt_iff_toNat_lt]
  constructor
  · rintro ⟨n, hn, rfl⟩
    obtain ⟨hnumeral, hpos, hle⟩ := readPositive?_eq_some_iff.1 hn
    have hlt : n < UInt32.size := Nat.lt_of_le_of_lt hle (by decide)
    rw [UInt32.toNat_ofNat_of_lt' hlt]
    exact ⟨hnumeral, hpos⟩
  · rintro ⟨hnumeral, hpos⟩
    have hle : units.toNat ≤ word32Max := Nat.le_pred_of_lt units.toNat_lt
    exact ⟨units.toNat, readPositive?_eq_some_iff.2 ⟨hnumeral, hpos, hle⟩, UInt32.ofNat_toNat⟩

end Settings

end TaskCoordination
