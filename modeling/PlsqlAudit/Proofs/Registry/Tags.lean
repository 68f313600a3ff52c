import PlsqlAudit.Proofs.Registry.Invariant
import PlsqlAudit.Proofs.Text.ByteOrder

/-!
# Switching detectors by tag

The stored detectors of a registry come in no particular order, so nothing that a registry shows may
depend on it.

* `Registry.Reachable` — the registries that operations lead to, whatever order the detectors are in
  before each of them.
* `Registry.Carries` — the tag is among those of a registered detector of the given id.
* `Registry.WellFormed.mem_dormant`, `Registry.WellFormed.dormant_increasing` — what a tag enables: the
  detectors that carry it and are not enabled, each once, in the order of the bytes of their ids.
* `Registry.dormant_reorder`, `Registry.WellFormed.get?_reorder` — the order of the detectors leaves no
  trace.
* `tags_switch_exactly_their_detectors` — what enabling and disabling a tag do, and how they combine.
-/

namespace PlsqlAudit

namespace Registry

variable {r : Registry} {id : String} {d : Detector} {t : Tag} {ds : List (String × Detector)}

/-! ## Names in increasing order -/

theorem pairwise_le_mergeSort (names : List String) :
    (names.mergeSort fun a b => decide (a ≤ b)).Pairwise (· ≤ ·) := by
  have hmerge := List.pairwise_mergeSort
    (fun a b c (hab : decide (a ≤ b)) (hbc : decide (b ≤ c)) =>
      decide_eq_true (String.le_trans (of_decide_eq_true hab) (of_decide_eq_true hbc)))
    (fun a b => by simpa using String.le_total a b) names
  simpa using hmerge

/-- A sorted list of names does not depend on the order they came in. -/
theorem mergeSort_eq_of_perm {as bs : List String} (h : as.Perm bs) :
    as.mergeSort (fun a b => decide (a ≤ b)) = bs.mergeSort (fun a b => decide (a ≤ b)) := by
  refine List.Perm.eq_of_pairwise (fun a b _ _ => String.le_antisymm) (pairwise_le_mergeSort as)
    (pairwise_le_mergeSort bs) ?_
  exact (List.mergeSort_perm as _).trans (h.trans (List.mergeSort_perm bs _).symm)

/-! ## Detectors in any order -/

/-- In a well formed registry, what is stored is what is found. -/
theorem WellFormed.get?_eq_some_iff (h : r.WellFormed) : r.get? id = some d ↔ (id, d) ∈ r.detectors := by
  refine ⟨mem_of_get?, fun hmem => ?_⟩
  obtain ⟨d', hd'⟩ := Option.isSome_iff_exists.1
    (contains_iff_mem_keys.2 (List.mem_map_of_mem (f := Prod.fst) hmem))
  -- Another detector under the same key would be the same entry.
  have heq := List.inj_on_of_nodup_map h.keys_nodup (mem_of_get? hd') hmem rfl
  rw [hd', (Prod.mk.inj heq).2]

theorem WellFormed.reorder (h : r.WellFormed) (hds : ds.Perm r.detectors) :
    WellFormed { r with detectors := ds } where
  enabled_nodup := h.enabled_nodup
  enabled_registered := by
    intro id hid
    rw [contains_iff_mem_keys, (hds.map _).mem_iff]
    exact contains_iff_mem_keys.1 (h.enabled_registered id hid)
  keys_nodup := (hds.map _).nodup_iff.2 h.keys_nodup
  key_eq_id := fun e he => h.key_eq_id e (hds.mem_iff.1 he)

/-- The same detector is found under an id, in whatever order they are. -/
theorem WellFormed.get?_reorder (h : r.WellFormed) (hds : ds.Perm r.detectors) :
    get? { r with detectors := ds } = r.get? := by
  funext id
  refine Option.ext fun d => ?_
  rw [(h.reorder hds).get?_eq_some_iff, h.get?_eq_some_iff]
  exact hds.mem_iff

theorem dormant_reorder (hds : ds.Perm r.detectors) (t : Tag) :
    dormant { r with detectors := ds } t = r.dormant t :=
  mergeSort_eq_of_perm ((hds.filter _).map _)

/-- The registries that operations lead to from one without detectors, where the detectors may come in
another order before each operation. -/
inductive Reachable : Registry → Prop where
  | start (s : Settings) : Reachable { settings := s }
  | perform {r : Registry} (h : Reachable r) (op : Operation) : Reachable (r.perform op)
  | reorder {r : Registry} {ds : List (String × Detector)} (h : Reachable r)
      (hds : ds.Perm r.detectors) : Reachable { r with detectors := ds }

theorem Reachable.wellFormed (h : r.Reachable) : r.WellFormed := by
  induction h with
  | start s => exact .without_detectors s
  | perform _ op ih => exact ih.perform op
  | reorder _ hds ih => exact ih.reorder hds

/-! ## What a tag switches -/

/-- Some registered detector of this id carries the tag. -/
def Carries (r : Registry) (t : Tag) (id : String) : Prop :=
  ∃ e ∈ r.detectors, e.2.id = id ∧ t ∈ e.2.tags

instance (r : Registry) (t : Tag) : DecidablePred (r.Carries t) := fun id =>
  inferInstanceAs (Decidable (∃ e ∈ r.detectors, e.2.id = id ∧ t ∈ e.2.tags))

namespace WellFormed

theorem carries_iff (h : r.WellFormed) :
    r.Carries t id ↔ ∃ e ∈ r.detectors, e.1 = id ∧ t ∈ e.2.tags := by
  constructor
  · rintro ⟨e, he, hid, ht⟩
    exact ⟨e, he, (h.key_eq_id e he).trans hid, ht⟩
  · rintro ⟨e, he, hkey, ht⟩
    exact ⟨e, he, (h.key_eq_id e he).symm.trans hkey, ht⟩

theorem carries_of_get? (h : r.WellFormed) (hd : r.get? id = some d) : r.Carries t id ↔ t ∈ d.tags := by
  rw [h.carries_iff]
  constructor
  · rintro ⟨⟨key, d'⟩, he, rfl, ht⟩
    rw [h.get?_eq_some_iff.2 he] at hd
    exact Option.some.inj hd ▸ ht
  · intro ht
    exact ⟨(id, d), mem_of_get? hd, rfl, ht⟩

theorem mem_dormant (h : r.WellFormed) : id ∈ r.dormant t ↔ r.Carries t id ∧ id ∉ r.enabled := by
  unfold dormant
  rw [List.mem_mergeSort, List.mem_map, h.carries_iff]
  simp only [List.mem_filter, decide_eq_true_eq]
  constructor
  · rintro ⟨e, ⟨he, ht, hnot⟩, rfl⟩
    exact ⟨⟨e, he, rfl, ht⟩, hnot⟩
  · rintro ⟨⟨e, he, rfl, ht⟩, hnot⟩
    exact ⟨e, ⟨he, ht, hnot⟩, rfl⟩

theorem dormant_increasing (h : r.WellFormed) (t : Tag) :
    (r.dormant t).Pairwise fun a b => Text.bytes a < Text.bytes b := by
  refine List.Pairwise.imp₂ ?_ (pairwise_le_mergeSort _) (h.dormant_fresh t).1
  intro a b hle hne
  exact Text.lt_iff_bytes_lt.1 (Std.lt_of_le_of_ne hle hne)

/-- A tag takes every detector that carries it out of the enabled ones, and no other. -/
theorem disableTag_eq (h : r.WellFormed) (t : Tag) :
    r.disableTag t = { r with enabled := r.enabled.filter fun id => ¬ r.Carries t id } := by
  unfold disableTag
  congr 1
  refine List.filter_congr fun id hid => ?_
  obtain ⟨d, hd⟩ := Option.isSome_iff_exists.1 (h.enabled_registered id hid)
  simp [hd, h.carries_of_get? hd]

theorem enableTag (h : r.WellFormed) (t : Tag) : (r.enableTag t).WellFormed := h.perform (.enableTag t)

theorem mem_enableTag (h : r.WellFormed) :
    id ∈ (r.enableTag t).enabled ↔ id ∈ r.enabled ∨ r.Carries t id := by
  have hmem : id ∈ (r.enableTag t).enabled ↔ id ∈ r.enabled ∨ id ∈ r.dormant t := List.mem_append
  rw [hmem, h.mem_dormant]
  by_cases hid : id ∈ r.enabled <;> simp [hid]

/-- Once a tag is enabled, nothing that carries it is left to enable. -/
theorem dormant_enableTag (h : r.WellFormed) (t : Tag) : (r.enableTag t).dormant t = [] := by
  refine List.eq_nil_iff_forall_not_mem.2 fun id hid => ?_
  obtain ⟨hcarries, hnot⟩ := (h.enableTag t).mem_dormant.1 hid
  exact hnot (h.mem_enableTag.2 (.inr hcarries))

theorem enableTag_enableTag (h : r.WellFormed) (t : Tag) :
    (r.enableTag t).enableTag t = r.enableTag t := by
  have hagain : (r.enableTag t).enableTag t =
      { r.enableTag t with enabled := (r.enableTag t).enabled ++ (r.enableTag t).dormant t } := rfl
  rw [hagain, h.dormant_enableTag, List.append_nil]

theorem disableTag_enableTag (h : r.WellFormed) (t : Tag) :
    (r.enableTag t).disableTag t = r.disableTag t := by
  have hdormant : (r.dormant t).filter (fun id => ¬ r.Carries t id) = [] := by
    refine List.filter_eq_nil_iff.2 fun id hid => ?_
    simp [(h.mem_dormant.1 hid).1]
  have hkept : (r.enableTag t).enabled.filter (fun id => ¬ r.Carries t id) =
      r.enabled.filter fun id => ¬ r.Carries t id := by
    show (r.enabled ++ r.dormant t).filter _ = _
    rw [List.filter_append, hdormant, List.append_nil]
  rw [(h.enableTag t).disableTag_eq, h.disableTag_eq, ← hkept]
  rfl

end WellFormed

end Registry

/-- **A tag switches exactly the detectors that carry it, in whatever order these are stored.** Enabling
puts the ids of the detectors that carry the tag and are not enabled behind the enabled ones, each once
and in the order of their bytes; disabling keeps the other ids in their order. So enabling a tag again
changes nothing, disabling it gives the same whether it was enabled before or not, and which of two tags
is enabled first does not matter for what is enabled in the end. -/
theorem tags_switch_exactly_their_detectors {r : Registry} (h : r.Reachable) (t : Tag) :
    (∃ fresh, r.enableTag t = { r with enabled := r.enabled ++ fresh } ∧
      fresh.Pairwise (fun a b => Text.bytes a < Text.bytes b) ∧
      ∀ id, id ∈ fresh ↔ r.Carries t id ∧ id ∉ r.enabled) ∧
    r.disableTag t = { r with enabled := r.enabled.filter fun id => ¬ r.Carries t id } ∧
    (∀ ds : List (String × Detector), ds.Perm r.detectors →
      let r' : Registry := { r with detectors := ds }
      r'.enableTag t = { r.enableTag t with detectors := ds } ∧
      r'.disableTag t = { r.disableTag t with detectors := ds }) ∧
    (r.enableTag t).enableTag t = r.enableTag t ∧
    (r.enableTag t).disableTag t = r.disableTag t ∧
    ∀ u id, id ∈ ((r.enableTag t).enableTag u).enabled ↔ id ∈ ((r.enableTag u).enableTag t).enabled := by
  have hwf := h.wellFormed
  refine ⟨⟨r.dormant t, rfl, hwf.dormant_increasing t, fun id => hwf.mem_dormant⟩,
    hwf.disableTag_eq t, ?_, hwf.enableTag_enableTag t, hwf.disableTag_enableTag t, ?_⟩
  · intro ds hds r'
    constructor
    · unfold Registry.enableTag
      rw [Registry.dormant_reorder hds]
    · unfold Registry.disableTag
      rw [hwf.get?_reorder hds]
  · intro u id
    rw [(hwf.enableTag t).mem_enableTag, (hwf.enableTag u).mem_enableTag, hwf.mem_enableTag,
      hwf.mem_enableTag]
    exact or_right_comm

/-- Detectors that were registered in another order come in the order of their bytes, behind the one that
is enabled already; the tag of the last one only looks alike. -/
theorem dormant_detectors_follow_in_byte_order :
    let rule (key : String) (tags : List Tag) (active : Bool) : Detector :=
      { metadata :=
          { key, name := key, description := "", severity := .minor, tags, activatedByDefault := active }
        subscriptions := []
        visitNode := fun _ c => { context := c } }
    let r := (((Registry.empty.register (rule "é" [.custom "bug", .design] false)).register
      (rule "z" [.custom "bug"] false)).register (rule "zz" [.custom "bug"] true)).register
      (rule "a" [.bug] false)
    r.Reachable ∧ (r.enableTag (.custom "bug")).enabled = ["zz", "z", "é"] ∧
      (r.enableTag (.custom "bug")).enableTag (.custom "bug") = r.enableTag (.custom "bug") ∧
      ((r.enableTag (.custom "bug")).disableTag (.custom "bug")).enabled = [] := by
  intro rule r
  have hreachable : r.Reachable :=
    .perform (.perform (.perform (.perform (.start {}) (.register _)) (.register _)) (.register _))
      (.register _)
  obtain ⟨-, -, -, hagain, hundone, -⟩ := tags_switch_exactly_their_detectors hreachable (.custom "bug")
  have hdormant : r.dormant (.custom "bug") = ["z", "é"] :=
    calc r.dormant (.custom "bug")
      _ = ["é", "z"].mergeSort (fun a b => decide (a ≤ b)) :=
        congrArg (List.mergeSort · fun a b => decide (a ≤ b)) (by decide +kernel)
      _ = ["z", "é"].mergeSort (fun a b => decide (a ≤ b)) := Registry.mergeSort_eq_of_perm (.swap ..)
      _ = ["z", "é"] := List.mergeSort_of_pairwise (by decide)
  refine ⟨hreachable, congrArg (["zz"] ++ ·) hdormant, hagain, ?_⟩
  rw [hundone]
  decide +kernel

end PlsqlAudit
