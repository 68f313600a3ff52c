import Mathlib.Data.List.Induction
import PlsqlAudit.Proofs.Rule.Grammar

/-!
# The written form of a time is canonical

Of all the texts that write a time, one is in canonical form: each unit at most once and the largest
first, single spaces between the parts, amounts without leading zeros that are neither zero nor large
enough to fill the next unit.

* `Remediation.Canonical` — a text is in canonical form, told by its characters.
* `Remediation.toDigits_numeralValue` — a numeral without leading zeros is the printed form of its value.
* `Remediation.exists_shown` — a canonical text is given by its days, hours and minutes.
* `Remediation.parse?_display` — every time is read back from its written form.
* `Remediation.written_form_is_canonical` — every time is written in canonical form and read back, and no
  other canonical text writes it.
-/

namespace PlsqlAudit

namespace Remediation

open Text (pieces IsWord)

/-! ## Numerals without leading zeros -/

/-- A numeral for a number other than zero, without leading zeros. -/
structure IsPlain (ds : List Char) : Prop where
  numeral : IsNumeral ds
  head : ds.head? ≠ some '0'

theorem digitChar_of_isDigit {d : Char} (h : d.isDigit = true) :
    d.toNat - '0'.toNat < 10 ∧ (d.toNat - '0'.toNat).digitChar = d := by
  obtain ⟨hlow, hhigh⟩ := Char.isDigit_iff_toNat.1 h
  have hlow : 48 ≤ d.toNat := hlow
  have hhigh : d.toNat ≤ 57 := hhigh
  have hlt : d.toNat - 48 < 10 := by omega
  refine ⟨hlt, Char.toNat_inj.1 ?_⟩
  show (d.toNat - 48).digitChar.toNat = d.toNat
  rw [Nat.toNat_digitChar_of_lt_ten hlt]
  omega

theorem numeralValue_concat (ds : List Char) (d : Char) :
    numeralValue (ds ++ [d]) = 10 * numeralValue ds + (d.toNat - '0'.toNat) := by
  rw [numeralValue, Nat.ofDigitChars_append, Nat.ofDigitChars_cons, Nat.ofDigitChars_nil, numeralValue]

/-- **A numeral without leading zeros is the printed form of its value.** -/
theorem toDigits_numeralValue {ds : List Char} (h : IsPlain ds) :
    Nat.toDigits 10 (numeralValue ds) = ds := by
  induction ds using List.reverseRecOn with
  | nil => exact absurd rfl h.numeral.1
  | append_singleton ds d ih =>
    obtain ⟨hlt, hchar⟩ := digitChar_of_isDigit (h.numeral.2 d (by simp))
    rw [numeralValue_concat]
    cases ds with
    | nil =>
      have hzero : numeralValue [] = 0 := rfl
      rw [hzero, Nat.mul_zero, Nat.zero_add, Nat.toDigits_of_lt_base hlt, hchar, List.nil_append]
    | cons e es =>
      have hplain : IsPlain (e :: es) :=
        ⟨⟨by simp, fun c hc => h.numeral.2 c (by simp at hc ⊢; tauto)⟩, by simpa using h.head⟩
      have hdigits := ih hplain
      -- Otherwise the leading digits would be the printed zero.
      have hpos : 0 < numeralValue (e :: es) := by
        refine Nat.pos_of_ne_zero fun hzero => hplain.head ?_
        rw [← hdigits, hzero]
        rfl
      rw [← Nat.toDigits_append_toDigits (by decide) hpos hlt, hdigits,
        Nat.toDigits_of_lt_base hlt, hchar]

theorem isPlain_toDigits {n : Nat} (h : n ≠ 0) : IsPlain (Nat.toDigits 10 n) := by
  refine ⟨isNumeral_toDigits n, ?_⟩
  induction n using Nat.strongRecOn with
  | ind n ih =>
    rw [Nat.toDigits_eq_if (by decide)]
    split
    · simpa using h
    · have hfront := ih (n / 10) (by omega) (by omega)
      rw [List.head?_append]
      cases hhead : (Nat.toDigits 10 (n / 10)).head? with
      | none => exact absurd (List.head?_eq_none_iff.1 hhead) Nat.toDigits_ne_nil
      | some c => rwa [hhead] at hfront

theorem numeralValue_ne_zero {ds : List Char} (h : IsPlain ds) : numeralValue ds ≠ 0 := by
  intro hzero
  have hdigits := toDigits_numeralValue h
  rw [hzero] at hdigits
  exact h.head (by rw [← hdigits]; rfl)

/-! ## Canonical texts -/

/-- A part of a written time: an amount with its unit. -/
structure Part where
  amount : List Char
  unit : TimeUnit

namespace Part

/-- The characters of the part. -/
def text (p : Part) : List Char := p.amount ++ p.unit.letters

/-- The amount is not zero, has no leading zeros and does not fill a larger unit. -/
structure Plain (p : Part) : Prop where
  amount : IsPlain p.amount
  hours : p.unit = .hour → numeralValue p.amount < 8
  minutes : p.unit = .minute → numeralValue p.amount < 60

end Part

/-- The text is made of plain parts with single spaces between them, at most one for each unit and the
largest unit first. -/
def Canonical (text : String) : Prop :=
  ∃ ps : List Part, ps ≠ [] ∧ (ps.map Part.unit).Sublist [.day, .hour, .minute] ∧
    (∀ p ∈ ps, p.Plain) ∧ text.toList = [' '].intercalate (ps.map Part.text)

/-- The part for `n` of a unit, or nothing if `n` is zero. -/
def partOf (n : Nat) (u : TimeUnit) : List Part := if n = 0 then [] else [⟨Nat.toDigits 10 n, u⟩]

/-- The parts for so many days, hours and minutes. -/
def shown (days hours minutes : Nat) : List Part :=
  partOf days .day ++ (partOf hours .hour ++ partOf minutes .minute)

theorem units_partOf_sublist (n : Nat) (u : TimeUnit) : ((partOf n u).map Part.unit).Sublist [u] := by
  unfold partOf
  split <;> simp

theorem shown_units_sublist (d h m : Nat) :
    ((shown d h m).map Part.unit).Sublist [.day, .hour, .minute] := by
  unfold shown
  rw [List.map_append, List.map_append]
  exact (units_partOf_sublist d .day).append
    ((units_partOf_sublist h .hour).append (units_partOf_sublist m .minute))

theorem plain_of_mem_partOf {n : Nat} {u : TimeUnit} (hhours : u = .hour → n < 8)
    (hminutes : u = .minute → n < 60) {p : Part} (hp : p ∈ partOf n u) : p.Plain := by
  unfold partOf at hp
  split at hp
  · simp at hp
  · rename_i hne
    obtain rfl := List.mem_singleton.1 hp
    refine ⟨isPlain_toDigits hne, ?_, ?_⟩
    · simpa [numeralValue_toDigits] using hhours
    · simpa [numeralValue_toDigits] using hminutes

theorem plain_of_mem_shown {d h m : Nat} (hh : h < 8) (hm : m < 60) {p : Part}
    (hp : p ∈ shown d h m) : p.Plain := by
  unfold shown at hp
  rw [List.mem_append, List.mem_append] at hp
  rcases hp with hp | hp | hp
  · exact plain_of_mem_partOf (by simp) (by simp) hp
  · exact plain_of_mem_partOf (fun _ => hh) (by simp) hp
  · exact plain_of_mem_partOf (by simp) (fun _ => hm) hp

/-- Parts whose units are in order begin with the part for the first unit, which may be left out. -/
theorem exists_partOf {ps : List Part} {u : TimeUnit} {us : List TimeUnit}
    (hunits : (ps.map Part.unit).Sublist (u :: us)) (hplain : ∀ p ∈ ps, p.Plain) :
    ∃ n qs, ps = partOf n u ++ qs ∧ (qs.map Part.unit).Sublist us ∧ (∀ p ∈ qs, p.Plain) ∧
      (u = .hour → n < 8) ∧ (u = .minute → n < 60) := by
  rcases List.sublist_cons_iff.1 hunits with hrest | ⟨vs, hvs, hrest⟩
  · exact ⟨0, ps, rfl, hrest, hplain, fun _ => by decide, fun _ => by decide⟩
  · obtain ⟨p, qs, rfl, rfl, rfl⟩ := List.map_eq_cons_iff.1 hvs
    have hp := hplain p (by simp)
    refine ⟨numeralValue p.amount, qs, ?_, hrest, fun q hq => hplain q (by simp [hq]), hp.hours,
      hp.minutes⟩
    rw [partOf, if_neg (numeralValue_ne_zero hp.amount), toDigits_numeralValue hp.amount]
    rfl

/-- **The parts of a canonical text are given by its days, hours and minutes.** -/
theorem exists_shown {ps : List Part} (hunits : (ps.map Part.unit).Sublist [.day, .hour, .minute])
    (hplain : ∀ p ∈ ps, p.Plain) : ∃ d h m, ps = shown d h m ∧ h < 8 ∧ m < 60 := by
  obtain ⟨d, qs, rfl, hunits, hplain, -, -⟩ := exists_partOf hunits hplain
  obtain ⟨h, qs, rfl, hunits, hplain, hh, -⟩ := exists_partOf hunits hplain
  obtain ⟨m, qs, rfl, hunits, -, -, hm⟩ := exists_partOf hunits hplain
  obtain rfl : qs = [] := by simpa using hunits
  refine ⟨d, h, m, ?_, hh rfl, hm rfl⟩
  rw [List.append_nil, shown]

/-! ## What canonical texts write -/

theorem total_partOf (n : Nat) (u : TimeUnit) :
    Total ((partOf n u).map Part.text) (n * u.minutes) := by
  unfold partOf
  split
  · rename_i hzero
    rw [hzero, Nat.zero_mul]
    exact .nil
  · refine total_singleton_iff.2 ((counts_numeral_iff (isNumeral_toDigits n) u).2 ?_)
    rw [numeralValue_toDigits]

theorem total_shown (d h m : Nat) :
    Total ((shown d h m).map Part.text) (d * 480 + (h * 60 + m * 1)) := by
  unfold shown
  rw [List.map_append, List.map_append]
  exact total_append_iff.2 ⟨_, _, total_partOf d .day,
    total_append_iff.2 ⟨_, _, total_partOf h .hour, total_partOf m .minute, rfl⟩, rfl⟩

theorem pieces_of_intercalate {text : String} {ps : List Part} (hplain : ∀ p ∈ ps, p.Plain)
    (htext : text.toList = [' '].intercalate (ps.map Part.text)) :
    pieces text = ps.map Part.text := by
  have hwords : ∀ w ∈ ps.map Part.text, IsWord w := by
    intro w hw
    obtain ⟨p, hp, rfl⟩ := List.mem_map.1 hw
    exact isWord_numeral (hplain p hp).amount.numeral p.unit
  rw [pieces, ← Text.words_eq_filter_splitOnP, htext, Text.words_intercalate hwords]

/-! ## The written form -/

/-- One part of the written form: an amount with its unit, or nothing if the amount is zero. -/
def part (n : Nat) (unit : String) : List String := if n = 0 then [] else [toString n ++ unit]

theorem parts_eq (r : Remediation) :
    r.parts = part (r.minutes / minutesPerDay) "d" ++
      part (r.minutes % minutesPerDay / minutesPerHour) "h" ++
      part (r.minutes % minutesPerHour) "min" := by
  rfl

theorem map_toList_part (n : Nat) (u : TimeUnit) {unit : String} (h : unit.toList = u.letters) :
    (part n unit).map String.toList = (partOf n u).map Part.text := by
  unfold part partOf
  split
  · rfl
  · simp [Part.text, h]

/-- The parts of the written form. -/
def formParts (r : Remediation) : List Part :=
  shown (r.minutes / 480) (r.minutes % 480 / 60) (r.minutes % 60)

theorem map_toList_parts (r : Remediation) :
    r.parts.map String.toList = r.formParts.map Part.text := by
  rw [parts_eq, List.map_append, List.map_append, map_toList_part _ .day rfl,
    map_toList_part _ .hour rfl, map_toList_part _ .minute rfl, formParts, shown, List.map_append,
    List.map_append, List.append_assoc]
  rfl

theorem plain_of_mem_formParts {r : Remediation} {p : Part} (hp : p ∈ r.formParts) : p.Plain :=
  plain_of_mem_shown (by omega) (by omega) hp

theorem total_formParts (r : Remediation) : Total (r.formParts.map Part.text) r.minutes := by
  have htotal := total_shown (r.minutes / 480) (r.minutes % 480 / 60) (r.minutes % 60)
  have hsum : r.minutes / 480 * 480 + (r.minutes % 480 / 60 * 60 + r.minutes % 60 * 1) =
      r.minutes := by omega
  rwa [hsum] at htotal

theorem formParts_ne_nil {r : Remediation} (hne : r.minutes ≠ 0) : r.formParts ≠ [] := by
  intro hnil
  have htotal := total_formParts r
  rw [hnil] at htotal
  exact hne (htotal.unique .nil)

/-- A time other than zero is written as its parts, with single spaces between them. -/
theorem toList_display {r : Remediation} (hne : r.minutes ≠ 0) :
    r.display.toList = [' '].intercalate (r.formParts.map Part.text) := by
  unfold display
  split
  · rename_i hnil
    have hparts := map_toList_parts r
    rw [hnil] at hparts
    exact absurd (List.map_eq_nil_iff.1 hparts.symm) (formParts_ne_nil hne)
  · rw [String.toList_intercalate, map_toList_parts]
    rfl

theorem canonical_display {r : Remediation} (hne : r.minutes ≠ 0) : Canonical r.display :=
  ⟨r.formParts, formParts_ne_nil hne, shown_units_sublist _ _ _, fun _ => plain_of_mem_formParts,
    toList_display hne⟩

theorem eq_of_minutes {r q : Remediation} (h : r.minutes = q.minutes) : r = q := by
  cases r
  cases q
  cases h
  rfl

/-- The written form writes the time. -/
theorem writes_display (r : Remediation) : Writes r.display r.minutes := by
  by_cases hzero : r.minutes = 0
  · obtain rfl : r = zero := eq_of_minutes hzero
    exact parse?_eq_some_iff.1 (by decide)
  · rw [Writes, pieces_of_intercalate (fun _ => plain_of_mem_formParts) (toList_display hzero)]
    exact ⟨by simpa using formParts_ne_nil hzero, total_formParts r⟩

/-- **Every time is read back from its written form.** -/
@[simp] theorem parse?_display (r : Remediation) : parse? r.display = some r :=
  parse?_eq_some_iff.2 (writes_display r)

/-- **A canonical text is the written form of the time it writes.** -/
theorem eq_display_of_canonical {text : String} {r : Remediation} (h : Canonical text)
    (hr : parse text = .ok r) : text = r.display := by
  obtain ⟨ps, hne, hunits, hplain, htext⟩ := h
  have hpieces := pieces_of_intercalate hplain htext
  obtain ⟨d, h, m, rfl, hh, hm⟩ := exists_shown hunits hplain
  have hminutes : r.minutes = d * 480 + (h * 60 + m * 1) := by
    have hwrites := (parse_eq_ok_iff.1 hr).2
    rw [hpieces] at hwrites
    exact hwrites.unique (total_shown d h m)
  have hpos : r.minutes ≠ 0 := by
    intro hzero
    obtain ⟨rfl, rfl, rfl⟩ : d = 0 ∧ h = 0 ∧ m = 0 := by omega
    exact hne rfl
  have hd : r.minutes / 480 = d := by omega
  have hh : r.minutes % 480 / 60 = h := by omega
  have hm : r.minutes % 60 = m := by omega
  rw [← String.toList_inj, htext, toList_display hpos, formParts, hd, hh, hm]

theorem parse_display (r : Remediation) : parse r.display = .ok r :=
  parse_eq_ok_iff.2 (writes_display r)

/-- **Every time is written in canonical form, and is read back from it.** Zero alone is written
`0min`. No other canonical text is read as the time, and texts that write the same number of minutes
are brought to the same form. -/
theorem written_form_is_canonical (r : Remediation) :
    parse r.display = .ok r ∧
    (r.minutes = 0 → r.display = "0min") ∧
    (r.minutes ≠ 0 → Canonical r.display) ∧
    (∀ text, Canonical text → parse text = .ok r → text = r.display) ∧
    ∀ s t q, parse s = .ok r → parse t = .ok q →
      (r.display = q.display ↔ ∃ n, Writes s n ∧ Writes t n) := by
  refine ⟨parse_display r, ?_, canonical_display, fun text => eq_display_of_canonical, ?_⟩
  · intro hzero
    obtain rfl : r = zero := eq_of_minutes hzero
    decide
  · intro s t q hs ht
    rw [parse_eq_ok_iff] at hs ht
    constructor
    · intro hsame
      have hread : (.ok r : Except MetadataError Remediation) = .ok q := by
        rw [← parse_display, hsame, parse_display]
      obtain rfl : r = q := by injection hread
      exact ⟨r.minutes, hs, ht⟩
    · rintro ⟨n, hsn, htn⟩
      have hminutes : r.minutes = q.minutes := by
        rw [hs.2.unique hsn.2, ht.2.unique htn.2]
      rw [eq_of_minutes hminutes]

/-- The longest time. -/
example : display ⟨4294967295, by decide⟩ = "8947848d 4h 15min" := by decide

end Remediation

end PlsqlAudit
