import Mathlib.Data.List.Basic
import PlsqlAudit.Data.NameMap

/-!
# Finite maps from names, by what they hold

A map is seen through `NameMap.get?`: every operation is described by what it does to the value of a
name, and maps that agree on all names are equal.

* `NameMap.mem_entries_iff` — the entries are the names with their values.
* `NameMap.ext_get?` — maps with the same values are equal.
* `NameMap.get?_insert`, `NameMap.get?_addAll` — what setting a value and adding numbers do to a name.
* `NameMap.ofList_of_perm` — a map is had back from its entries.
* `NameMap.addAll_assoc`, `NameMap.addAll_comm` — it does not matter in which groups and in which order
  maps of numbers are added up.
-/

namespace PlsqlAudit

namespace NameMap

variable {α : Type}

theorem lookup_cons_ite (k : String) (e : String × α) (es : List (String × α)) :
    (e :: es).lookup k = if k = e.1 then some e.2 else es.lookup k := by
  rw [List.lookup_cons]
  by_cases h : k = e.1
  · simp [h]
  · have hb : (k == e.1) = false := by simpa using h
    simp [h, hb]

theorem lookup_eq_none_of_lt {es : List (String × α)} {k : String} (h : ∀ e ∈ es, k < e.1) :
    es.lookup k = none := by
  rw [List.lookup_eq_none_iff]
  intro e he
  have hne : k ≠ e.1 := fun hk => String.lt_irrefl _ (hk ▸ h e he)
  simpa using hne

theorem mem_iff_lookup {es : List (String × α)} (h : es.Pairwise fun a b => a.1 < b.1)
    {k : String} {v : α} : (k, v) ∈ es ↔ es.lookup k = some v := by
  induction es with
  | nil => simp
  | cons e es ih =>
    obtain ⟨he, hes⟩ := List.pairwise_cons.1 h
    rw [List.mem_cons, ih hes, lookup_cons_ite, Prod.ext_iff]
    by_cases hk : k = e.1
    · have hnone : es.lookup k = none := lookup_eq_none_of_lt (hk ▸ he)
      rw [hnone]
      simp [hk, eq_comm]
    · simp [hk]

theorem mem_entries_iff {m : NameMap α} {k : String} {v : α} :
    (k, v) ∈ m.entries ↔ m.get? k = some v :=
  mem_iff_lookup m.sorted

/-- **Maps that agree on all names are equal.** -/
theorem ext_get? {m n : NameMap α} (h : ∀ k, m.get? k = n.get? k) : m = n := by
  have hentries : m.entries = n.entries := by
    have hnodup : ∀ o : NameMap α, o.entries.Nodup := by
      intro o
      refine o.sorted.imp ?_
      rintro a b hlt rfl
      exact String.lt_irrefl _ hlt
    have hperm : m.entries.Perm n.entries := by
      rw [List.perm_ext_iff_of_nodup (hnodup m) (hnodup n)]
      rintro ⟨k, v⟩
      rw [mem_entries_iff, mem_entries_iff, h]
    refine hperm.eq_of_pairwise ?_ m.sorted n.sorted
    intro a b _ _ hab hba
    exact absurd (String.lt_trans hab hba) (String.lt_irrefl _)
  cases m
  cases n
  simpa using hentries

/-! ## Setting and adding -/

theorem lookup_insertEntry (k k' : String) (v : α) (es : List (String × α)) :
    (insertEntry k v es).lookup k' = if k' = k then some v else es.lookup k' := by
  induction es with
  | nil => rw [insertEntry, lookup_cons_ite]
  | cons e es ih =>
    rw [insertEntry]
    split
    · rw [lookup_cons_ite]
    · split
      · rename_i hke
        rw [lookup_cons_ite, lookup_cons_ite, ← hke]
        split <;> rfl
      · rename_i hke
        rw [lookup_cons_ite, lookup_cons_ite, ih]
        by_cases h : k' = e.1
        · have hk : e.1 ≠ k := fun heq => hke heq.symm
          simp [h, hk]
        · simp [h]

@[simp] theorem get?_empty (k : String) : (empty : NameMap α).get? k = none := rfl

theorem get?_insert (m : NameMap α) (k k' : String) (v : α) :
    (m.insert k v).get? k' = if k' = k then some v else m.get? k' :=
  lookup_insertEntry k k' v m.entries

theorem nodup_names (m : NameMap α) : (m.entries.map (·.1)).Nodup := by
  refine List.pairwise_map.2 (m.sorted.imp ?_)
  intro a b hlt heq
  exact String.lt_irrefl _ (heq ▸ hlt)

/-- Where no name is given twice, the entries that are set are found, and the others stay. -/
theorem get?_foldl_insert {es : List (String × α)} (h : (es.map (·.1)).Nodup) (m : NameMap α)
    {k : String} {v : α} :
    (es.foldl (fun m e => m.insert e.1 e.2) m).get? k = some v ↔
      (k, v) ∈ es ∨ k ∉ es.map (·.1) ∧ m.get? k = some v := by
  induction es generalizing m with
  | nil => simp
  | cons e es ih =>
    obtain ⟨he, hes⟩ := List.nodup_cons.1 h
    rw [List.foldl_cons, ih hes, get?_insert, List.mem_cons, Prod.ext_iff]
    by_cases hk : k = e.1
    · subst hk
      have hnot : ∀ w, (e.1, w) ∉ es := fun w hw => he (List.mem_map.2 ⟨_, hw, rfl⟩)
      simp [he, hnot, eq_comm]
    · simp [hk]

/-- **A map is had back from its entries, in whatever order they come.** -/
theorem ofList_of_perm {m : NameMap α} {es : List (String × α)} (h : es.Perm m.entries) :
    ofList es = m := by
  have hnodup : (es.map (·.1)).Nodup := (h.map _).nodup_iff.2 m.nodup_names
  refine ext_get? fun k => Option.ext fun v => ?_
  unfold ofList
  rw [get?_foldl_insert hnodup, h.mem_iff, mem_entries_iff]
  simp

theorem get?_addAt (m : NameMap Nat) (k k' : String) (n : Nat) :
    (m.addAt k n).get? k' = if k' = k then some ((m.get? k).getD 0 + n) else m.get? k' :=
  get?_insert m k k' _

/-- The numbers of a name are added; a name that only one side has keeps its number. -/
theorem get?_addAll (m : NameMap Nat) {es : List (String × Nat)}
    (h : es.Pairwise fun a b => a.1 < b.1) (k : String) :
    (m.addAll es).get? k = Option.merge (· + ·) (m.get? k) (es.lookup k) := by
  induction es generalizing m with
  | nil => simp [addAll]
  | cons e es ih =>
    obtain ⟨he, hes⟩ := List.pairwise_cons.1 h
    have hstep : m.addAll (e :: es) = (m.addAt e.1 e.2).addAll es := rfl
    rw [hstep, ih _ hes, get?_addAt]
    by_cases hk : k = e.1
    · have hnone : es.lookup k = none := lookup_eq_none_of_lt (hk ▸ he)
      rw [hnone, if_pos hk, lookup_cons_ite, if_pos hk, hk]
      cases m.get? e.1 <;> simp
    · rw [if_neg hk, lookup_cons_ite, if_neg hk]

theorem get?_addAll_entries (m n : NameMap Nat) (k : String) :
    (m.addAll n.entries).get? k = Option.merge (· + ·) (m.get? k) (n.get? k) :=
  get?_addAll m n.sorted k

theorem addAll_assoc (m n o : NameMap Nat) :
    (m.addAll n.entries).addAll o.entries = m.addAll (n.addAll o.entries).entries := by
  refine ext_get? fun k => ?_
  simp only [get?_addAll_entries]
  cases m.get? k <;> cases n.get? k <;> cases o.get? k <;> simp [Nat.add_assoc]

theorem addAll_comm (m n : NameMap Nat) : m.addAll n.entries = n.addAll m.entries := by
  refine ext_get? fun k => ?_
  simp only [get?_addAll_entries]
  cases m.get? k <;> cases n.get? k <;> simp [Nat.add_comm]

/-- It does not matter whether a number is added before or after the map it is in. -/
theorem addAll_addAt (m n : NameMap Nat) (k : String) (v : Nat) :
    m.addAll (n.addAt k v).entries = (m.addAll n.entries).addAt k v := by
  refine ext_get? fun k' => ?_
  simp only [get?_addAll_entries, get?_addAt]
  split
  · rename_i hk
    subst hk
    cases m.get? k' <;> cases n.get? k' <;> simp [Nat.add_assoc]
  · rfl

@[simp] theorem addAll_empty (m : NameMap Nat) : m.addAll (empty : NameMap Nat).entries = m := rfl

@[simp] theorem empty_addAll (m : NameMap Nat) : (empty : NameMap Nat).addAll m.entries = m := by
  refine ext_get? fun k => ?_
  simp [get?_addAll_entries]

end NameMap

end PlsqlAudit
