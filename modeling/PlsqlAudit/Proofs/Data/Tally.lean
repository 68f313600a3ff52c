import Mathlib.Data.List.Induction
import PlsqlAudit.Proofs.Data.NameMap

/-!
# Tallies of names

A tally is a map that holds every name of a list with the number of its occurrences.

* `NameMap.tally` — the names of a list counted one by one; `NameMap.get?_tally` says what it holds.
* `NameMap.tally_append` — adding up the tallies of two lists gives the tally of both in a row.
* `NameMap.addAll_perm` — the order in which numbers are added does not matter.
* `NameMap.total` — the numbers of a map added up; those of a tally give the length of the list.
-/

namespace PlsqlAudit

namespace NameMap

/-! ## Counting one by one and in bulk -/

/-- The names counted one by one. -/
def tally (names : List String) : NameMap Nat := names.foldl (fun m k => m.addAt k 1) empty

theorem tally_concat (names : List String) (k : String) :
    tally (names ++ [k]) = (tally names).addAt k 1 := by
  simp [tally]

/-- Only names of the list have an entry. -/
theorem get?_tally (names : List String) (k : String) :
    (tally names).get? k = if k ∈ names then some (names.count k) else none := by
  induction names using List.reverseRecOn with
  | nil => rfl
  | append_singleton names x ih =>
    rw [tally_concat, get?_addAt]
    by_cases hk : k = x
    · subst hk
      rw [if_pos rfl, ih]
      by_cases hmem : k ∈ names
      · simp [hmem]
      · simp [hmem, List.count_eq_zero_of_not_mem hmem]
    · have hx : x ≠ k := fun h => hk h.symm
      rw [if_neg hk, ih]
      simp [hk, hx]

theorem tally_append (xs ys : List String) :
    tally (xs ++ ys) = (tally xs).addAll (tally ys).entries := by
  refine ext_get? fun k => ?_
  rw [get?_addAll_entries, get?_tally, get?_tally, get?_tally]
  by_cases hx : k ∈ xs <;> by_cases hy : k ∈ ys <;>
    simp [hx, hy, List.count_eq_zero_of_not_mem]

/-! ## The order of additions -/

theorem addAt_comm (m : NameMap Nat) (j k : String) (a b : Nat) :
    (m.addAt j a).addAt k b = (m.addAt k b).addAt j a := by
  refine ext_get? fun x => ?_
  simp only [get?_addAt]
  by_cases hjk : j = k
  · subst hjk
    by_cases hx : x = j
    · simp only [hx, if_true, Option.getD_some]
      congr 1
      omega
    · simp [hx]
  · have hkj : k ≠ j := fun h => hjk h.symm
    by_cases hx : x = k
    · simp [hx, hkj]
    · simp [hx, hjk]

/-- **The numbers may be added in any order.** -/
theorem addAll_perm (m : NameMap Nat) {es fs : List (String × Nat)} (h : es.Perm fs) :
    m.addAll es = m.addAll fs := by
  unfold addAll
  exact h.foldl_eq' (fun d _ e _ m => addAt_comm m d.1 e.1 d.2 e.2) m

/-! ## Totals -/

/-- The numbers of a list of entries added up. -/
def sumEntries : List (String × Nat) → Nat
  | [] => 0
  | e :: es => e.2 + sumEntries es

/-- The numbers of the map added up. -/
def total (m : NameMap Nat) : Nat := sumEntries m.entries

/-- A number that is set takes the place of the one that was there. -/
theorem sumEntries_insertEntry (k : String) (n : Nat) {es : List (String × Nat)}
    (h : es.Pairwise fun a b => a.1 < b.1) :
    sumEntries (insertEntry k n es) + (es.lookup k).getD 0 = sumEntries es + n := by
  induction es with
  | nil => simp [insertEntry, sumEntries]
  | cons e es ih =>
    obtain ⟨he, hes⟩ := List.pairwise_cons.1 h
    rw [insertEntry, lookup_cons_ite]
    split
    · rename_i hlt
      have hne : k ≠ e.1 := fun hk => String.lt_irrefl _ (hk ▸ hlt)
      have hnone : es.lookup k = none :=
        lookup_eq_none_of_lt fun d hd => String.lt_trans hlt (he d hd)
      simp only [if_neg hne, hnone, sumEntries, Option.getD_none]
      omega
    · split
      · rename_i heq
        simp only [sumEntries, Option.getD_some]
        omega
      · rename_i hne
        have hrest := ih hes
        simp only [sumEntries]
        omega

theorem total_addAt (m : NameMap Nat) (k : String) (n : Nat) :
    (m.addAt k n).total = m.total + n := by
  have h : sumEntries (insertEntry k ((m.get? k).getD 0 + n) m.entries) + (m.get? k).getD 0 =
      sumEntries m.entries + ((m.get? k).getD 0 + n) := sumEntries_insertEntry k _ m.sorted
  show sumEntries (insertEntry k ((m.get? k).getD 0 + n) m.entries) = sumEntries m.entries + n
  omega

theorem total_tally (names : List String) : (tally names).total = names.length := by
  induction names using List.reverseRecOn with
  | nil => rfl
  | append_singleton names k ih =>
    rw [tally_concat, total_addAt, ih, List.length_append, List.length_singleton]

theorem mem_keys_iff {α : Type} {m : NameMap α} {k : String} :
    k ∈ m.keys ↔ ∃ v, m.get? k = some v := by
  unfold keys
  simp only [List.mem_map, Prod.exists, exists_and_right, exists_eq_right, mem_entries_iff]

end NameMap

end PlsqlAudit
