import PlsqlAudit.Proofs.Rule.Remediation
import PlsqlAudit.Rule.Metadata

/-!
# Which texts write a time

The grammar of written times stands here on its own, with sums that have no bound, and the reader with
its three guards is shown to accept just the texts of the grammar whose sum is not too large.

* `Remediation.Counts`, `Remediation.Total`, `Remediation.Writes` — the minutes that a word, a list of
  words and a text write.
* `Remediation.addWords?_eq_some_iff` — the running sum is the sum, if that is not too large.
* `Remediation.durations_are_read_exactly` — the reader accepts exactly the texts that write a time.
-/

namespace PlsqlAudit

namespace Remediation

open Text (pieces)

/-! ## The grammar -/

/-- The word writes `m` minutes: it is a numeral with a unit right behind it. -/
def Counts (w : List Char) (m : Nat) : Prop :=
  ∃ ds, ∃ u : TimeUnit, IsNumeral ds ∧ w = ds ++ u.letters ∧ m = numeralValue ds * u.minutes

/-- The words write `n` minutes together. -/
inductive Total : List (List Char) → Nat → Prop
  | nil : Total [] 0
  | cons {w : List Char} {ws : List (List Char)} {m n : Nat} :
      Counts w m → Total ws n → Total (w :: ws) (m + n)

/-- The text writes `n` minutes: it has at least one word, and these are its words' minutes. -/
def Writes (text : String) (n : Nat) : Prop := pieces text ≠ [] ∧ Total (pieces text) n

/-! ## One word -/

/-- A word falls apart into its leading digits and the rest, and in no other way. -/
theorem counts_iff_span {w : List Char} {m : Nat} :
    Counts w m ↔ ∃ u : TimeUnit, w.takeWhile Char.isDigit ≠ [] ∧
      w.dropWhile Char.isDigit = u.letters ∧
      m = numeralValue (w.takeWhile Char.isDigit) * u.minutes := by
  constructor
  · rintro ⟨ds, u, hds, rfl, rfl⟩
    have hspan := span_numeral hds u
    rw [List.span_eq_takeWhile_dropWhile] at hspan
    obtain ⟨htake, hdrop⟩ := Prod.mk.inj hspan
    rw [htake, hdrop]
    exact ⟨u, hds.1, rfl, rfl⟩
  · rintro ⟨u, hne, hdrop, rfl⟩
    refine ⟨_, u, ⟨hne, fun d hd => List.mem_takeWhile_imp hd⟩, ?_, rfl⟩
    rw [← hdrop, List.takeWhile_append_dropWhile]

theorem counts_numeral_iff {ds : List Char} (hds : IsNumeral ds) (u : TimeUnit) {m : Nat} :
    Counts (ds ++ u.letters) m ↔ m = numeralValue ds * u.minutes := by
  constructor
  · rintro ⟨es, v, hes, hword, rfl⟩
    have hspan := span_numeral hds u
    rw [hword, span_numeral hes v] at hspan
    obtain ⟨rfl, hletters⟩ := Prod.mk.inj hspan
    have hminutes : some v.minutes = some u.minutes := by
      rw [← unitMinutes?_letters, ← unitMinutes?_letters, hletters]
    rw [Option.some.inj hminutes]
  · rintro rfl
    exact ⟨ds, u, hds, rfl, rfl⟩

/-- The minutes of a word are read, unless they are too many. -/
theorem wordMinutes?_eq_some_iff {w : List Char} {m : Nat} :
    wordMinutes? w = some m ↔ Counts w m ∧ m < limit := by
  constructor
  · intro h
    have hread := h
    rw [wordMinutes?, List.span_eq_takeWhile_dropWhile] at hread
    split at hread
    · cases hread
    · rename_i amount unit hne hpair
      obtain ⟨hamount, hunit⟩ := Prod.mk.inj hpair
      obtain ⟨n, -, hread⟩ := Option.bind_eq_some_iff.1 hread
      obtain ⟨factor, hfactor, -⟩ := Option.bind_eq_some_iff.1 hread
      obtain ⟨u, rfl⟩ := exists_unit hfactor
      have hds : IsNumeral amount := by
        refine ⟨fun hnil => hne hnil, fun d hd => ?_⟩
        rw [← hamount] at hd
        exact List.mem_takeWhile_imp hd
      have hw : w = amount ++ u.letters := by
        rw [← hamount, ← hunit, List.takeWhile_append_dropWhile]
      -- With the word taken apart, the guards come down to the one on its minutes.
      rw [hw, wordMinutes?_numeral hds u, within?_eq_some_iff] at h
      rw [hw, counts_numeral_iff hds u]
      exact ⟨h.1.symm, h.2⟩
  · rintro ⟨⟨ds, u, hds, rfl, rfl⟩, hlt⟩
    rw [wordMinutes?_numeral hds u]
    exact within?_of_lt hlt

/-! ## The sum -/

theorem total_append_iff {ws vs : List (List Char)} {n : Nat} :
    Total (ws ++ vs) n ↔ ∃ a b, Total ws a ∧ Total vs b ∧ n = a + b := by
  induction ws generalizing n with
  | nil =>
    constructor
    · intro h
      exact ⟨0, n, .nil, h, by omega⟩
    · rintro ⟨a, b, ha, hb, rfl⟩
      cases ha
      rwa [Nat.zero_add]
  | cons w ws ih =>
    constructor
    · intro h
      cases h with
      | @cons _ _ m _ hw hrest =>
        obtain ⟨a, b, ha, hb, rfl⟩ := ih.1 hrest
        exact ⟨m + a, b, .cons hw ha, hb, by omega⟩
    · rintro ⟨a, b, ha, hb, rfl⟩
      cases ha with
      | @cons _ _ m k hw hrest =>
        rw [Nat.add_assoc]
        exact .cons hw (ih.2 ⟨k, b, hrest, hb, rfl⟩)

theorem total_singleton_iff {w : List Char} {n : Nat} : Total [w] n ↔ Counts w n := by
  constructor
  · intro h
    cases h with
    | cons hw hnil =>
      cases hnil
      exact hw
  · exact fun hw => .cons hw .nil

/-- The order of the words does not matter to the sum. -/
theorem Total.perm {ws vs : List (List Char)} (hperm : ws.Perm vs) {n : Nat} (h : Total ws n) :
    Total vs n := by
  induction hperm generalizing n with
  | nil => exact h
  | cons w _ ih =>
    cases h with
    | cons hw hrest => exact .cons hw (ih hrest)
  | swap w v ws =>
    cases h with
    | @cons _ _ a _ hv hrest =>
      cases hrest with
      | @cons _ _ b c hw hrest =>
        have hsum : a + (b + c) = b + (a + c) := by omega
        rw [hsum]
        exact .cons hw (.cons hv hrest)
  | trans _ _ ih₁ ih₂ => exact ih₂ (ih₁ h)

/-- Words in the middle may be replaced by others that write the same. -/
theorem total_replace_iff {ws vs : List (List Char)} (h : ∀ m, Total ws m ↔ Total vs m)
    (before after : List (List Char)) {n : Nat} :
    Total (before ++ (ws ++ after)) n ↔ Total (before ++ (vs ++ after)) n := by
  simp only [total_append_iff, h]

theorem Total.unique {ws : List (List Char)} {n k : Nat} (hn : Total ws n) (hk : Total ws k) :
    n = k := by
  induction hn generalizing k with
  | nil => cases hk; rfl
  | cons hw _ ih =>
    cases hk with
    | cons hw' hrest =>
      obtain ⟨ds, u, hds, rfl, rfl⟩ := hw
      rw [(counts_numeral_iff hds u).1 hw', ih hrest]

/-- **The running sum is the sum of the words**, and it is given up only if that sum is too large. -/
theorem addWords?_eq_some_iff {ws : List (List Char)} {total n : Nat} (htotal : total < limit) :
    addWords? total ws = some n ↔ ∃ m, Total ws m ∧ n = total + m ∧ n < limit := by
  induction ws generalizing total with
  | nil =>
    constructor
    · intro h
      obtain rfl : total = n := Option.some.inj h
      exact ⟨0, .nil, rfl, htotal⟩
    · rintro ⟨m, hm, rfl, -⟩
      cases hm
      rfl
  | cons w ws ih =>
    constructor
    · intro h
      obtain ⟨m, hword, h⟩ := Option.bind_eq_some_iff.1 h
      obtain ⟨sum, hsum, h⟩ := Option.bind_eq_some_iff.1 h
      obtain ⟨rfl, hlt⟩ := within?_eq_some_iff.1 hsum
      obtain ⟨k, hrest, rfl, hn⟩ := (ih hlt).1 h
      exact ⟨m + k, .cons (wordMinutes?_eq_some_iff.1 hword).1 hrest, by omega, hn⟩
    · rintro ⟨m, hm, rfl, hn⟩
      cases hm with
      | @cons _ _ a b hw hrest =>
        have hword : wordMinutes? w = some a := wordMinutes?_eq_some_iff.2 ⟨hw, by omega⟩
        have hsum : within? (total + a) = some (total + a) := within?_of_lt (by omega)
        have hrest : addWords? (total + a) ws = some (total + (a + b)) :=
          (ih (by omega)).2 ⟨b, hrest, by omega, hn⟩
        simp only [addWords?, hword, hsum, hrest, Option.bind_eq_bind, Option.bind_some]

/-! ## The reader -/

theorem parse?_eq_some_iff {text : String} {r : Remediation} :
    parse? text = some r ↔ Writes text r.minutes := by
  have hwords : Text.words text.toList = pieces text := Text.words_eq_filter_splitOnP _
  unfold parse? Writes
  rw [hwords]
  split
  · rename_i hnil
    simp [hnil]
  · rename_i hne
    rw [Option.bind_eq_some_iff]
    constructor
    · rintro ⟨n, hn, hr⟩
      obtain ⟨m, hm, hsum, hlt⟩ := (addWords?_eq_some_iff (by decide)).1 hn
      obtain rfl : n = m := by omega
      rw [ofMinutes?, dif_pos hlt] at hr
      obtain rfl := Option.some.inj hr
      exact ⟨hne, hm⟩
    · rintro ⟨-, hm⟩
      refine ⟨r.minutes, (addWords?_eq_some_iff (by decide)).2 ⟨r.minutes, hm, by omega, r.fits⟩, ?_⟩
      exact dif_pos r.fits

theorem parse_eq_ok_iff {text : String} {r : Remediation} :
    parse text = .ok r ↔ Writes text r.minutes := by
  rw [← parse?_eq_some_iff, parse]
  cases parse? text <;> simp

theorem parse_eq_error_iff {text : String} :
    parse text = .error (.invalidDuration text) ↔ ∀ r, parse text ≠ .ok r := by
  rw [parse]
  cases parse? text <;> simp

/-! ## What the spelling leaves open -/

/-- Two texts are read alike: as the same time, or both as none. -/
def ReadAlike (text other : String) : Prop := ∀ r, parse text = .ok r ↔ parse other = .ok r

theorem readAlike_of_total {text other : String} (hne : pieces text ≠ [] ↔ pieces other ≠ [])
    (htotal : ∀ n, Total (pieces text) n ↔ Total (pieces other) n) : ReadAlike text other := by
  intro r
  rw [parse_eq_ok_iff, parse_eq_ok_iff, Writes, Writes, hne, htotal]

theorem readAlike_of_perm {text other : String} (h : (pieces text).Perm (pieces other)) :
    ReadAlike text other := by
  refine readAlike_of_total ?_ fun n => ⟨fun hn => hn.perm h, fun hn => hn.perm h.symm⟩
  rw [Ne, Ne, ← List.length_eq_zero_iff, ← List.length_eq_zero_iff, h.length_eq]

/-- Texts that differ in a few words are read alike, if these words write the same. -/
theorem readAlike_of_replace {text other : String} {before after ws vs : List (List Char)}
    (hws : ws ≠ []) (hvs : vs ≠ []) (h : ∀ m, Total ws m ↔ Total vs m)
    (htext : pieces text = before ++ (ws ++ after))
    (hother : pieces other = before ++ (vs ++ after)) : ReadAlike text other := by
  refine readAlike_of_total ?_ fun n => ?_
  · simp [htext, hother, hws, hvs]
  · rw [htext, hother, total_replace_iff h]

/-- Two numerals with the same unit write what their sum writes with that unit. -/
theorem total_repeated_iff {ds es fs : List Char} (hds : IsNumeral ds) (hes : IsNumeral es)
    (hfs : IsNumeral fs) (hsum : numeralValue fs = numeralValue ds + numeralValue es) (u : TimeUnit)
    (m : Nat) : Total [ds ++ u.letters, es ++ u.letters] m ↔ Total [fs ++ u.letters] m := by
  rw [← List.singleton_append, total_append_iff, total_singleton_iff, counts_numeral_iff hfs, hsum,
    Nat.add_mul]
  simp only [total_singleton_iff, counts_numeral_iff hds, counts_numeral_iff hes]
  constructor
  · rintro ⟨a, b, rfl, rfl, rfl⟩
    rfl
  · rintro rfl
    exact ⟨_, _, rfl, rfl, rfl⟩

theorem numeralValue_zeros (k : Nat) (ds : List Char) :
    numeralValue (List.replicate k '0' ++ ds) = numeralValue ds := by
  rw [numeralValue, Nat.ofDigitChars_append, Nat.ofDigitChars_replicate_zero, Nat.mul_zero,
    numeralValue]

/-- Zeros in front of a digit do not matter. -/
theorem counts_zeros_iff (k : Nat) {d : Char} (hd : d.isDigit = true) (w : List Char) {m : Nat} :
    Counts (List.replicate k '0' ++ d :: w) m ↔ Counts (d :: w) m := by
  have hzeros : ∀ z ∈ List.replicate k '0', z.isDigit = true := by
    intro z hz
    rw [List.eq_of_mem_replicate hz]
    decide
  have hne : (d :: w).takeWhile Char.isDigit ≠ [] := by simp [hd]
  rw [counts_iff_span, counts_iff_span, List.takeWhile_append_of_pos hzeros,
    List.dropWhile_append_of_pos hzeros, numeralValue_zeros]
  simp [hne]

/-- **The reader accepts exactly the texts that write a time below the limit**, and gives any other
text back as the reason. The order of the words does not matter, the same unit may be given twice,
and so may zeros in front of an amount. -/
theorem durations_are_read_exactly (text : String) :
    (∀ n, (∃ r, parse text = .ok r ∧ r.minutes = n) ↔ Writes text n ∧ n < limit) ∧
    (parse text = .error (.invalidDuration text) ↔ ¬ ∃ n, Writes text n ∧ n < limit) ∧
    (∀ other, (pieces text).Perm (pieces other) → ReadAlike text other) ∧
    (∀ other before after ds es fs, ∀ u : TimeUnit, IsNumeral ds → IsNumeral es → IsNumeral fs →
      numeralValue fs = numeralValue ds + numeralValue es →
      pieces text = before ++ ([ds ++ u.letters, es ++ u.letters] ++ after) →
      pieces other = before ++ ([fs ++ u.letters] ++ after) → ReadAlike text other) ∧
    ∀ other before after k d w, d.isDigit = true →
      pieces text = before ++ ([List.replicate k '0' ++ d :: w] ++ after) →
      pieces other = before ++ ([d :: w] ++ after) → ReadAlike text other := by
  have haccepts : ∀ n, (∃ r, parse text = .ok r ∧ r.minutes = n) ↔ Writes text n ∧ n < limit := by
    intro n
    constructor
    · rintro ⟨r, hr, rfl⟩
      exact ⟨parse_eq_ok_iff.1 hr, r.fits⟩
    · rintro ⟨hwrites, hlt⟩
      exact ⟨⟨n, hlt⟩, parse_eq_ok_iff.2 hwrites, rfl⟩
  refine ⟨haccepts, ?_, fun other => readAlike_of_perm, ?_, ?_⟩
  · simp only [parse_eq_error_iff, ← haccepts]
    constructor
    · rintro h ⟨n, r, hr, -⟩
      exact h r hr
    · exact fun h r hr => h ⟨r.minutes, r, hr, rfl⟩
  · intro other before after ds es fs u hds hes hfs hsum
    exact readAlike_of_replace (by simp) (by simp) (total_repeated_iff hds hes hfs hsum u)
  · intro other before after k d w hd
    refine readAlike_of_replace (by simp) (by simp) fun m => ?_
    rw [total_singleton_iff, total_singleton_iff, counts_zeros_iff k hd]

example : parse? "1h 007min 1h" = ofMinutes? 127 ∧ parse? "8947848d 4h 16min" = none := by decide

end Remediation

end PlsqlAudit
