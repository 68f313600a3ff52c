/-!
# Finite maps from names

A map from names to values, kept as a list of entries in strictly increasing order of the names. As
no other list stands for the same map, two maps with the same entries are equal.

* `NameMap.get?`, `NameMap.insert` — look a name up; set its value.
* `NameMap.ofList` — the map of a list of entries, of which the last for each name counts.
* `NameMap.addAt`, `NameMap.addAll` — for maps of numbers: add to the number of one name, or of every
  name of another map. A name that is added to is an entry afterwards, even if nothing was added.
-/

namespace PlsqlAudit

/-- A map from names to values. -/
structure NameMap (α : Type) where
  entries : List (String × α)
  sorted : entries.Pairwise (fun a b => a.1 < b.1)

namespace NameMap

variable {α : Type}

instance [DecidableEq α] : DecidableEq (NameMap α) := fun m n =>
  decidable_of_iff (m.entries = n.entries) (by
    cases m; cases n; simp)

/-- The map without entries. -/
def empty : NameMap α := ⟨[], .nil⟩

instance : Inhabited (NameMap α) := ⟨empty⟩

/-- The value of a name. -/
def get? (m : NameMap α) (k : String) : Option α := m.entries.lookup k

/-- The names, in increasing order. -/
def keys (m : NameMap α) : List String := m.entries.map (·.1)

/-- The number of entries. -/
def size (m : NameMap α) : Nat := m.entries.length

/-- Sets the value of `k` in an ordered list of entries. -/
def insertEntry (k : String) (v : α) : List (String × α) → List (String × α)
  | [] => [(k, v)]
  | e :: es =>
    if k < e.1 then (k, v) :: e :: es
    else if k = e.1 then (k, v) :: es
    else e :: insertEntry k v es

theorem fst_mem_insertEntry {k : String} {v : α} {es : List (String × α)} {e : String × α}
    (h : e ∈ insertEntry k v es) : e.1 = k ∨ e ∈ es := by
  induction es with
  | nil => simp_all [insertEntry]
  | cons d ds ih =>
    rw [insertEntry] at h
    split at h
    · rcases List.mem_cons.1 h with rfl | h
      · exact .inl rfl
      · exact .inr h
    · split at h
      · rcases List.mem_cons.1 h with rfl | h
        · exact .inl rfl
        · exact .inr (List.mem_cons_of_mem _ h)
      · rcases List.mem_cons.1 h with rfl | h
        · exact .inr List.mem_cons_self
        · exact (ih h).imp id (List.mem_cons_of_mem _)

theorem sorted_insertEntry (k : String) (v : α) {es : List (String × α)}
    (h : es.Pairwise (fun a b => a.1 < b.1)) :
    (insertEntry k v es).Pairwise (fun a b => a.1 < b.1) := by
  induction es with
  | nil => simp [insertEntry]
  | cons e es ih =>
    obtain ⟨he, hes⟩ := List.pairwise_cons.1 h
    rw [insertEntry]
    split
    · rename_i hlt
      refine List.pairwise_cons.2 ⟨fun d hd => ?_, h⟩
      rcases List.mem_cons.1 hd with rfl | hd
      · exact hlt
      · exact String.lt_trans hlt (he d hd)
    · split
      · rename_i heq
        exact List.pairwise_cons.2 ⟨fun d hd => heq ▸ he d hd, hes⟩
      · rename_i hnlt hne
        refine List.pairwise_cons.2 ⟨fun d hd => ?_, ih hes⟩
        rcases fst_mem_insertEntry hd with hk | hd
        · rw [hk]
          exact Std.lt_of_le_of_ne (String.not_lt.1 hnlt) (Ne.symm hne)
        · exact he d hd

/-- Sets the value of `k`. -/
def insert (m : NameMap α) (k : String) (v : α) : NameMap α :=
  ⟨insertEntry k v m.entries, sorted_insertEntry k v m.sorted⟩

/-- The map of a list of entries; the last entry of a name counts. -/
def ofList (es : List (String × α)) : NameMap α := es.foldl (fun m e => m.insert e.1 e.2) empty

/-- Adds `n` to the number of `k`, which is none so far if there is no entry. -/
def addAt (m : NameMap Nat) (k : String) (n : Nat) : NameMap Nat := m.insert k ((m.get? k).getD 0 + n)

/-- Adds the numbers of `es`, name by name. -/
def addAll (m : NameMap Nat) (es : List (String × Nat)) : NameMap Nat :=
  es.foldl (fun m e => m.addAt e.1 e.2) m

end NameMap

end PlsqlAudit
