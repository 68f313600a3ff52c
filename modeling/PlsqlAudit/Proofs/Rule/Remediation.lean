import Mathlib.Data.List.TakeDrop
import Mathlib.Data.List.TakeWhile
import PlsqlAudit.Rule.Remediation

/-!
# Words and amounts of a written time

* `Text.pieces` — what stands between the blanks of a text; `Text.words_eq_filter_splitOnP` says that these
  are the words that are read.
* `Text.words_intercalate` — words with single spaces between them are found again.
* `Remediation.within?_bind` — guards on the way to a number are not noticed beside the guard on it.
* `Remediation.wordMinutes?_numeral` — a numeral with its unit counts for as many minutes.
-/

namespace PlsqlAudit

/-! ## Words -/

namespace Text

/-- A word: one or more characters, none of them blank. -/
def IsWord (w : List Char) : Prop := w ≠ [] ∧ ∀ c ∈ w, isBlank c = false

theorem words_cons_of_blank {c : Char} (h : isBlank c = true) (cs : List Char) :
    words (c :: cs) = words cs := by
  rw [words.eq_def]
  exact if_pos h

/-- A word in front of a blank, or of nothing, is the first word of the text. -/
theorem words_append {w rest : List Char} (hw : IsWord w)
    (hrest : ∀ c ∈ rest.head?, isBlank c = true) : words (w ++ rest) = w :: words rest := by
  induction w with
  | nil => exact absurd rfl hw.1
  | cons c w ih =>
    have hc : isBlank c = false := hw.2 c List.mem_cons_self
    cases w with
    | nil =>
      cases rest with
      | nil => simp [words, hc]
      | cons b rest =>
        have hb : isBlank b = true := hrest b rfl
        simp [words, hc, hb]
    | cons d w =>
      have hd : isBlank d = false := hw.2 d (by simp)
      have htail := ih ⟨by simp, fun x hx => hw.2 x (List.mem_cons_of_mem c hx)⟩
      rw [List.cons_append] at htail ⊢
      rw [List.cons_append, words.eq_def]
      simp only [hc, hd, htail, Bool.false_eq_true, if_false]

/-- **Words with single spaces between them are found again.** -/
theorem words_intercalate {ws : List (List Char)} (h : ∀ w ∈ ws, IsWord w) :
    words ([' '].intercalate ws) = ws := by
  induction ws with
  | nil => rfl
  | cons w ws ih =>
    have hw := h w List.mem_cons_self
    have hws := ih fun v hv => h v (List.mem_cons_of_mem w hv)
    cases ws with
    | nil =>
      have hlast : words (w ++ []) = w :: words [] := words_append hw (by simp)
      rw [List.append_nil] at hlast
      rw [List.intercalate_singleton, hlast]
      rfl
    | cons v ws =>
      rw [List.intercalate_cons_cons, List.append_assoc, words_append hw (by simp; decide),
        List.singleton_append, words_cons_of_blank (by decide), hws]

/-- What stands between the blanks of a text. -/
def pieces (text : String) : List (List Char) :=
  (text.toList.splitOnP isBlank).filter (!·.isEmpty)

/-- The maximal runs without blanks are the pieces between blanks that are not empty. -/
theorem words_eq_filter_splitOnP (cs : List Char) :
    words cs = (cs.splitOnP isBlank).filter (!·.isEmpty) := by
  fun_induction words cs with
  | case1 => simp
  | case2 c cs hc ih => simp [List.splitOnP_cons_eq_if_modifyHead, hc, ih]
  | case3 c hc => simp [List.splitOnP_cons_eq_if_modifyHead, hc]
  | case4 c hc d rest hd ih =>
    rw [ih]
    simp [List.splitOnP_cons_eq_if_modifyHead, hc, hd]
  | case5 c hc d rest hd hnone ih =>
    -- A text that does not start with a blank has a word.
    obtain ⟨p, ps, hrest⟩ := List.exists_cons_of_ne_nil (List.splitOnP_ne_nil isBlank rest)
    rw [hnone] at ih
    simp [List.splitOnP_cons_eq_if_modifyHead, hd, hrest] at ih
  | case6 c hc d rest hd w ws _ ih =>
    obtain ⟨p, ps, hrest⟩ := List.exists_cons_of_ne_nil (List.splitOnP_ne_nil isBlank rest)
    have hwords : words (d :: rest) = (d :: p) :: ps.filter (!·.isEmpty) := by
      rw [ih]
      simp [List.splitOnP_cons_eq_if_modifyHead, hd, hrest]
    rw [hwords]
    simp [List.splitOnP_cons_eq_if_modifyHead, hc, hd, hrest]

end Text

namespace Remediation

open Text (IsWord isBlank)

/-! ## Units -/

/-- The units in which a time is written. -/
inductive TimeUnit where
  | day
  | hour
  | minute
  deriving DecidableEq

/-- How the unit is spelled. -/
def TimeUnit.letters : TimeUnit → List Char
  | day => ['d']
  | hour => ['h']
  | minute => ['m', 'i', 'n']

/-- The minutes that the unit stands for. -/
def TimeUnit.minutes : TimeUnit → Nat
  | day => 480
  | hour => 60
  | minute => 1

theorem unitMinutes?_letters (u : TimeUnit) : unitMinutes? u.letters = some u.minutes := by
  cases u <;> rfl

/-- There are no other units than these three. -/
theorem exists_unit {unit : List Char} {factor : Nat} (h : unitMinutes? unit = some factor) :
    ∃ u : TimeUnit, unit = u.letters := by
  unfold unitMinutes? at h
  split at h
  · exact ⟨.minute, rfl⟩
  · exact ⟨.hour, rfl⟩
  · exact ⟨.day, rfl⟩
  · simp at h

/-! ## Numerals -/

/-- One or more decimal digits. -/
def IsNumeral (ds : List Char) : Prop := ds ≠ [] ∧ ∀ d ∈ ds, d.isDigit = true

/-- The number that decimal digits write, however many they are. -/
def numeralValue (ds : List Char) : Nat := Nat.ofDigitChars 10 ds 0

theorem isNumeral_toDigits (n : Nat) : IsNumeral (Nat.toDigits 10 n) :=
  ⟨Nat.toDigits_ne_nil, fun _ => Nat.isDigit_of_mem_toDigits (by decide) (by decide)⟩

theorem numeralValue_toDigits (n : Nat) : numeralValue (Nat.toDigits 10 n) = n :=
  Nat.ofDigitChars_ten_toDigits

theorem isBlank_of_isDigit {c : Char} (h : c.isDigit = true) : isBlank c = false := by
  simp only [Char.isDigit, Bool.and_eq_true, decide_eq_true_eq, ge_iff_le,
    UInt32.le_iff_toNat_le] at h
  have hlow : 48 ≤ c.toNat := h.1
  have hhigh : c.toNat ≤ 57 := h.2
  simp only [isBlank, Text.blankRanges, List.any_cons, List.any_nil, Bool.or_false,
    Bool.or_eq_false_iff, Bool.and_eq_false_iff, decide_eq_false_iff_not]
  omega

theorem isWord_numeral {ds : List Char} (hds : IsNumeral ds) (u : TimeUnit) :
    IsWord (ds ++ u.letters) := by
  constructor
  · simp [hds.1]
  · intro c hc
    rcases List.mem_append.1 hc with hc | hc
    · exact isBlank_of_isDigit (hds.2 c hc)
    · have hletters : u.letters.all (isBlank · = false) = true := by
        cases u <;> decide
      exact of_decide_eq_true (List.all_eq_true.1 hletters c hc)

/-- Where a unit follows a numeral, the numeral ends: no unit starts with a digit. -/
theorem span_numeral {ds : List Char} (hds : IsNumeral ds) (u : TimeUnit) :
    (ds ++ u.letters).span Char.isDigit = (ds, u.letters) := by
  have hunit : u.letters.takeWhile Char.isDigit = [] ∧
      u.letters.dropWhile Char.isDigit = u.letters := by
    cases u <;> decide
  rw [List.span_eq_takeWhile_dropWhile, List.takeWhile_append_of_pos hds.2,
    List.dropWhile_append_of_pos hds.2, hunit.1, hunit.2, List.append_nil]

/-! ## Guards -/

theorem within?_of_lt {n : Nat} (h : n < limit) : within? n = some n := if_pos h

theorem within?_eq_some_iff {n m : Nat} : within? n = some m ↔ n = m ∧ m < limit := by
  unfold within?
  split
  · simp only [Option.some.injEq]
    omega
  · simp only [reduceCtorEq, false_iff]
    omega

theorem within?_of_le {n : Nat} (h : limit ≤ n) : within? n = none := if_neg (Nat.not_lt.2 h)

/-- A guard on the way to a number that is guarded itself is not noticed, if the number on the way is
no larger. -/
theorem within?_bind {n m : Nat} {f : Nat → Option Nat} (hle : n ≤ m)
    (hf : n < limit → f n = within? m) : (within? n).bind f = within? m := by
  by_cases h : n < limit
  · rw [within?_of_lt h, Option.bind_some, hf h]
  · rw [within?_of_le (by omega), within?_of_le (by omega), Option.bind_none]

theorem le_ofDigitChars (ds : List Char) (n : Nat) : n ≤ Nat.ofDigitChars 10 ds n := by
  induction ds generalizing n with
  | nil => simp
  | cons d ds ih =>
    rw [Nat.ofDigitChars_cons]
    refine Nat.le_trans ?_ (ih _)
    omega

/-- Digits are read as the number they write, if that is not too large. -/
theorem readDigits?_eq (ds : List Char) {n : Nat} (h : n < limit) :
    readDigits? n ds = within? (Nat.ofDigitChars 10 ds n) := by
  induction ds generalizing n with
  | nil => rw [Nat.ofDigitChars_nil, within?_of_lt h, readDigits?]
  | cons d ds ih =>
    rw [readDigits?, Nat.ofDigitChars_cons]
    exact within?_bind (le_ofDigitChars ds _) fun hlt => ih hlt

/-- A numeral with a unit behind it counts for as many minutes, if these are not too many. -/
theorem wordMinutes?_numeral {ds : List Char} (hds : IsNumeral ds) (u : TimeUnit) :
    wordMinutes? (ds ++ u.letters) = within? (numeralValue ds * u.minutes) := by
  have hpos : 0 < u.minutes := by
    cases u <;> decide
  rw [wordMinutes?, span_numeral hds u]
  split
  · rename_i hnil
    exact absurd (Prod.mk.inj hnil).1 hds.1
  · rename_i amount unit _ hpair
    obtain ⟨rfl, rfl⟩ := Prod.mk.inj hpair
    rw [readDigits?_eq ds (by decide), unitMinutes?_letters]
    exact within?_bind (Nat.le_mul_of_pos_right _ hpos) fun _ => rfl

end Remediation

end PlsqlAudit
