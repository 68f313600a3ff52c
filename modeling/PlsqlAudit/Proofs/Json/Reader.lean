import Mathlib.Data.List.Nodup
import PlsqlAudit.Json.Value
import PlsqlAudit.Proofs.Data.NameMap

/-!
# Readers of JSON values, by what they read back

* `Json.list_array`, `Json.nameMap_map`, `Json.optional_option` — a collection is read back if its
  members are.
* `Json.Restates` — the other values that stand for the object of a structure: the object with unknown
  fields among its own, and the array of its values.
* `Json.record_of_restates` — a structure is read from all of them if it is read from any fields in
  which its own are found, and from its items.
* `Json.ReadsBack` — a structure is read back from all of them.
-/

namespace PlsqlAudit

namespace Json

variable {α : Type}

theorem ok_bind {ε β : Type} (a : α) (f : α → Except ε β) : (Except.ok a >>= f) = f a := rfl

theorem pure_eq_ok {ε : Type} (a : α) : (pure a : Except ε α) = .ok a := rfl

theorem map_ok {ε β : Type} (f : α → β) (a : α) :
    (Except.ok a : Except ε α).map f = .ok (f a) := rfl

/-! ## Simple types -/

@[simp] theorem textAs_str (expected s : String) : textAs expected (.str s) = .ok s := rfl

@[simp] theorem text_str (s : String) : text (.str s) = .ok s := rfl

@[simp] theorem truth_bool (b : Bool) : truth (.bool b) = .ok b := rfl

theorem natBelow_nat {limit n : Nat} (type : String) (h : n < limit) :
    natBelow limit type (.nat n) = .ok n := by
  have hbounds : (0 : Int) ≤ n ∧ (n : Int) < limit := ⟨Int.natCast_nonneg n, Int.ofNat_lt.2 h⟩
  simp [nat, natBelow, hbounds]

@[simp] theorem word_nat {n : Nat} (h : n < Number.wordLimit) : word (.nat n) = .ok n :=
  natBelow_nat _ h

/-! ## Collections -/

theorem mapM_map_ok {ε β : Type} {read : β → Except ε α} {write : α → β} {xs : List α}
    (h : ∀ x ∈ xs, read (write x) = .ok x) : (xs.map write).mapM read = .ok xs := by
  induction xs with
  | nil => rfl
  | cons x xs ih =>
    rw [List.map_cons, List.mapM_cons, h x List.mem_cons_self,
      ih fun y hy => h y (List.mem_cons_of_mem x hy)]
    rfl

theorem list_array {read : Read α} {write : α → Json} {xs : List α}
    (h : ∀ x ∈ xs, read (write x) = .ok x) : list read (array write xs) = .ok xs :=
  mapM_map_ok h

theorem nameMap_map {read : Read α} {write : α → Json} {m : NameMap α}
    (h : ∀ e ∈ m.entries, read (write e.2) = .ok e.2) : nameMap read (map write m) = .ok m := by
  have hentries : (m.entries.map fun e => (e.1, write e.2)).mapM
      (fun f => (read f.2).map fun v => (f.1, v)) = .ok m.entries :=
    mapM_map_ok fun e he => by rw [h e he, map_ok]
  rw [map, nameMap, hentries, ok_bind, NameMap.ofList_of_perm (.refl _)]
  rfl

/-- A value that may be absent is read back, unless it is written like an absent one. -/
theorem optional_option {read : Read α} {write : α → Json} {o : Option α}
    (hnull : ∀ a, write a ≠ .null) (h : ∀ a, read (write a) = .ok a) :
    optional read (option write o) = .ok o := by
  cases o with
  | none => rfl
  | some a =>
    have hread : ∀ j : Json, j ≠ .null → optional read j = (read j).map some := by
      intro j hj
      cases j with
      | null => exact absurd rfl hj
      | _ => rfl
    rw [option, hread (write a) (hnull a), h a]
    rfl

theorem choice_str {known : List String} {ofName? : String → Option α} {name : String} {a : α}
    (h : ofName? name = some a) : choice known ofName? (.str name) = .ok a := by
  simp [choice, variant, noContent, h, ok_bind, pure_eq_ok]

/-! ## Structures -/

/-- The other values that stand for the object of a structure. -/
inductive Restates : Json → Json → Prop where
  /-- Fields of other names stand among those of the structure; the order does not matter. -/
  | object {written unknown fields : List (String × Json)}
      (apart : ∀ e ∈ unknown, e.1 ∉ written.map (·.1)) (perm : fields.Perm (written ++ unknown)) :
      Restates (.obj written) (.obj fields)
  /-- The values stand in an array, in order and without their names. -/
  | array (written : List (String × Json)) : Restates (.obj written) (.arr (written.map (·.2)))

theorem Restates.refl (written : List (String × Json)) : Restates (.obj written) (.obj written) :=
  @Restates.object written [] written (by simp) (by simp)

/-- A field is found under its name if no other field has that name. -/
theorem lookup_of_unique {fields : List (String × Json)} {name : String} {j : Json}
    (hmem : (name, j) ∈ fields) (hunique : ∀ k, (name, k) ∈ fields → k = j) :
    fields.lookup name = some j := by
  cases hlook : fields.lookup name with
  | none =>
    have hno := List.lookup_eq_none_iff.1 hlook (name, j) hmem
    simp at hno
  | some k =>
    obtain ⟨before, after, rfl, -⟩ := List.lookup_eq_some_iff.1 hlook
    rw [hunique k (by simp)]

/-- The fields of a structure are found among unknown ones. -/
theorem lookup_of_perm {written unknown fields : List (String × Json)}
    (hnodup : (written.map (·.1)).Nodup) (apart : ∀ e ∈ unknown, e.1 ∉ written.map (·.1))
    (perm : fields.Perm (written ++ unknown)) :
    ∀ e ∈ written, fields.lookup e.1 = some e.2 := by
  intro e he
  refine lookup_of_unique (perm.mem_iff.2 (List.mem_append_left _ he)) ?_
  intro k hk
  rcases List.mem_append.1 (perm.mem_iff.1 hk) with hk | hk
  · exact congrArg Prod.snd (List.inj_on_of_nodup_map hnodup hk he rfl)
  · exact absurd (List.mem_map.2 ⟨e, he, rfl⟩) (apart (e.1, k) hk)

/-- **A structure is read from every value that stands for its object**, if it is read from any
fields in which its own are found, and from its items. -/
theorem record_of_restates {name : String} {arity : Nat}
    {ofFields : List (String × Json) → Except Mismatch α} {ofItems : List Json → Except Mismatch α}
    {written : List (String × Json)} {j : Json} {a : α}
    (h : Restates (.obj written) j) (hnodup : (written.map (·.1)).Nodup)
    (harity : written.length = arity)
    (hfields : ∀ fields : List (String × Json),
      (∀ e ∈ written, fields.lookup e.1 = some e.2) → ofFields fields = .ok a)
    (hitems : ofItems (written.map (·.2)) = .ok a) :
    record name arity ofFields ofItems j = .ok a := by
  cases h with
  | object apart perm => exact hfields _ (lookup_of_perm hnodup apart perm)
  | array => simp [record, hitems, harity, ok_bind]

/-- The structure `a`, written as the object `j`, is read back: from `j`, from `j` with any unknown
fields in it, and from the array of its values in order. -/
def ReadsBack (read : Read α) (j : Json) (a : α) : Prop :=
  ∃ written, j = .obj written ∧
    read (.obj written) = .ok a ∧
    (∀ unknown fields : List (String × Json), (∀ e ∈ unknown, e.1 ∉ written.map (·.1)) →
      fields.Perm (written ++ unknown) → read (.obj fields) = .ok a) ∧
    read (.arr (written.map (·.2))) = .ok a

theorem ReadsBack.of_restates {read : Read α} {written : List (String × Json)} {a : α}
    (h : ∀ j, Restates (.obj written) j → read j = .ok a) : ReadsBack read (.obj written) a :=
  ⟨written, rfl, h _ (.refl written), fun _ _ apart perm => h _ (.object apart perm),
    h _ (.array written)⟩

end Json

end PlsqlAudit
