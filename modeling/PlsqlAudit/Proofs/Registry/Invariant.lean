import Mathlib.Data.List.Nodup
import PlsqlAudit.Config.Basic
import PlsqlAudit.Registry.Run

/-!
# What every history of a registry keeps

* `Registry.Operation`, `Registry.perform` — the ways to change a registry. An operation that is
  refused leaves what it leaves.
* `Registry.WellFormed` — enabled ids are distinct and registered, and detectors are stored under
  distinct keys, each under its own id.
* `Rearranged` — how one operation changes the list of enabled ids: some of them stay, in their order,
  and new ones come last.
* `Registry.WellFormed.reachable` — every registry that operations lead to from the empty one is well
  formed.
* `Registry.WellFormed.selected_ids_nodup`, `Registry.WellFormed.get?_selected` — a run of a well
  formed registry does not run two detectors of one id, and finds each under its id.
-/

namespace PlsqlAudit

/-! ## Lists of enabled ids -/

/-- The ids `new` are those of `old` that `keep` keeps, in their order, and then fresh ones, each
once, that are registered and not among those kept. -/
def Rearranged (registered : String → Bool) (old new : List String) : Prop :=
  ∃ (keep : String → Bool) (fresh : List String), new = old.filter keep ++ fresh ∧ fresh.Nodup ∧
    ∀ id ∈ fresh, id ∉ old.filter keep ∧ registered id = true

namespace Rearranged

variable {registered : String → Bool} {old new newer : List String}

theorem of_filter (old : List String) (keep : String → Bool) :
    Rearranged registered old (old.filter keep) :=
  ⟨keep, [], (List.append_nil _).symm, List.nodup_nil, fun _ h => absurd h List.not_mem_nil⟩

theorem refl (old : List String) : Rearranged registered old old := by
  have h : Rearranged registered old (old.filter fun _ => true) := of_filter old _
  rwa [List.filter_true] at h

/-- Ids that are not enabled yet may come on top. -/
theorem of_append {fresh : List String} (old : List String) (hnodup : fresh.Nodup)
    (h : ∀ id ∈ fresh, id ∉ old ∧ registered id = true) :
    Rearranged registered old (old ++ fresh) := by
  refine ⟨fun _ => true, fresh, ?_, hnodup, ?_⟩
  · rw [List.filter_true]
  · rwa [List.filter_true]

theorem trans (h : Rearranged registered old new) (h' : Rearranged registered new newer) :
    Rearranged registered old newer := by
  obtain ⟨keep, fresh, rfl, hnodup, hfresh⟩ := h
  obtain ⟨keep', fresh', rfl, hnodup', hfresh'⟩ := h'
  refine ⟨fun id => keep' id && keep id, fresh.filter keep' ++ fresh', ?_, ?_, ?_⟩
  · rw [List.filter_append, List.filter_filter, List.append_assoc]
  · refine List.nodup_append.2 ⟨hnodup.filter _, hnodup', ?_⟩
    rintro a ha b hb rfl
    refine (hfresh' a hb).1 ?_
    rw [List.filter_append]
    exact List.mem_append_right _ ha
  · intro id hid
    rcases List.mem_append.1 hid with hid | hid
    · obtain ⟨hid, -⟩ := List.mem_filter.1 hid
      obtain ⟨hnot, hreg⟩ := hfresh id hid
      refine ⟨fun hmem => hnot ?_, hreg⟩
      rw [← List.filter_filter] at hmem
      exact (List.mem_filter.1 hmem).1
    · obtain ⟨hnot, hreg⟩ := hfresh' id hid
      refine ⟨fun hmem => hnot ?_, hreg⟩
      rw [List.filter_append, List.filter_filter]
      exact List.mem_append_left _ hmem

theorem nodup (h : Rearranged registered old new) (hold : old.Nodup) : new.Nodup := by
  obtain ⟨keep, fresh, rfl, hnodup, hfresh⟩ := h
  refine List.nodup_append.2 ⟨hold.filter _, hnodup, ?_⟩
  rintro a ha b hb rfl
  exact (hfresh a hb).1 ha

theorem mem (h : Rearranged registered old new) {id : String} (hid : id ∈ new) :
    id ∈ old ∨ registered id = true := by
  obtain ⟨keep, fresh, rfl, -, hfresh⟩ := h
  rcases List.mem_append.1 hid with hid | hid
  · exact .inl (List.mem_filter.1 hid).1
  · exact .inr (hfresh id hid).2

end Rearranged

namespace Registry

/-! ## Stored detectors -/

theorem keys_store (id : String) (d : Detector) (es : List (String × Detector)) :
    (store id d es).map (·.1) =
      if id ∈ es.map (·.1) then es.map (·.1) else es.map (·.1) ++ [id] := by
  induction es with
  | nil => rfl
  | cons e es ih =>
    rw [store]
    by_cases h : e.1 = id
    · rw [if_pos h]
      simp [h]
    · rw [if_neg h, List.map_cons, ih]
      have h' : ¬ id = e.1 := fun he => h he.symm
      by_cases hmem : id ∈ es.map (·.1)
      · simp only [List.map_cons, List.mem_cons, hmem, or_true, if_true]
      · simp only [List.map_cons, List.mem_cons, hmem, h', or_self, if_false, List.cons_append]

theorem mem_store {id : String} {d : Detector} {es : List (String × Detector)}
    {e : String × Detector} (h : e ∈ store id d es) : e ∈ es ∨ e = (id, d) := by
  induction es with
  | nil => exact .inr (List.mem_singleton.1 h)
  | cons x xs ih =>
    rw [store] at h
    split at h
    · rcases List.mem_cons.1 h with h | h
      · exact .inr h
      · exact .inl (List.mem_cons_of_mem _ h)
    · rcases List.mem_cons.1 h with h | h
      · exact .inl (h ▸ List.mem_cons_self)
      · exact (ih h).imp_left (List.mem_cons_of_mem _)

variable {r : Registry} {id : String} {d : Detector}

theorem contains_iff_mem_keys : r.contains id = true ↔ id ∈ r.detectors.map (·.1) := by
  unfold contains get?
  rw [List.lookup_isSome_iff]
  simp only [beq_iff_eq, List.mem_map]
  exact ⟨fun ⟨e, he, h⟩ => ⟨e, he, h.symm⟩, fun ⟨e, he, h⟩ => ⟨e, he, h.symm⟩⟩

/-- What is registered is a matter of the stored detectors alone. -/
theorem contains_congr {r' : Registry} (h : r'.detectors = r.detectors) :
    r'.contains = r.contains := by
  funext id
  unfold contains get?
  rw [h]

theorem mem_of_get? (h : r.get? id = some d) : (id, d) ∈ r.detectors := by
  obtain ⟨l₁, l₂, hl, -⟩ := List.lookup_eq_some_iff.1 h
  rw [hl]
  exact List.mem_append_right _ List.mem_cons_self

/-! ## The invariant -/

/-- Enabled ids are distinct and registered, and detectors are stored under distinct keys, each under
its own id. -/
structure WellFormed (r : Registry) : Prop where
  enabled_nodup : r.enabled.Nodup
  enabled_registered : ∀ id ∈ r.enabled, r.contains id = true
  keys_nodup : (r.detectors.map (·.1)).Nodup
  key_eq_id : ∀ e ∈ r.detectors, e.1 = e.2.id

/-- A registry without detectors is well formed, whatever its settings. -/
theorem WellFormed.without_detectors (s : Settings) : WellFormed { settings := s } where
  enabled_nodup := List.nodup_nil
  enabled_registered := fun _ h => absurd h List.not_mem_nil
  keys_nodup := List.nodup_nil
  key_eq_id := fun _ h => absurd h List.not_mem_nil

/-- A change of the enabled ids alone keeps a registry well formed if it only rearranges them. -/
theorem WellFormed.of_rearranged {r' : Registry} (h : r.WellFormed)
    (hdetectors : r'.detectors = r.detectors)
    (henabled : Rearranged r.contains r.enabled r'.enabled) : r'.WellFormed where
  enabled_nodup := henabled.nodup h.enabled_nodup
  enabled_registered := by
    intro id hid
    rw [contains_congr hdetectors]
    rcases henabled.mem hid with hid | hid
    · exact h.enabled_registered id hid
    · exact hid
  keys_nodup := by
    rw [hdetectors]
    exact h.keys_nodup
  key_eq_id := by
    rw [hdetectors]
    exact h.key_eq_id

/-! ## Operations -/

theorem activate_detectors (r : Registry) (id : String) :
    (r.activate id).detectors = r.detectors := by
  unfold activate
  split <;> rfl

/-- Activating a registered id puts it last, unless it is enabled. -/
theorem activate_rearranged {registered : String → Bool} (r : Registry)
    (h : registered id = true) : Rearranged registered r.enabled (r.activate id).enabled := by
  unfold activate
  split
  · exact .refl _
  · rename_i hnot
    refine .of_append _ (List.nodup_singleton id) fun x hx => ?_
    rw [List.mem_singleton.1 hx]
    exact ⟨hnot, h⟩

theorem register_detectors (r : Registry) (d : Detector) :
    (r.register d).detectors = store d.id d r.detectors := by
  unfold register
  split
  · show store d.id d (r.activate d.id).detectors = _
    rw [activate_detectors]
  · rfl

theorem register_enabled (r : Registry) (d : Detector) :
    (r.register d).enabled =
      if d.activeByDefault then (r.activate d.id).enabled else r.enabled := by
  unfold register
  split <;> rfl

theorem register_contains_self (r : Registry) (d : Detector) :
    (r.register d).contains d.id = true := by
  rw [contains_iff_mem_keys, register_detectors, keys_store]
  split
  · assumption
  · simp

theorem register_rearranged (r : Registry) (d : Detector) :
    Rearranged (r.register d).contains r.enabled (r.register d).enabled := by
  rw [register_enabled]
  split
  · exact activate_rearranged r (register_contains_self r d)
  · exact .refl _

theorem WellFormed.register (h : r.WellFormed) (d : Detector) : (r.register d).WellFormed where
  enabled_nodup := (register_rearranged r d).nodup h.enabled_nodup
  enabled_registered := by
    intro id hid
    rcases (register_rearranged r d).mem hid with hid | hid
    · have hold := contains_iff_mem_keys.1 (h.enabled_registered id hid)
      rw [contains_iff_mem_keys, register_detectors, keys_store]
      split
      · exact hold
      · exact List.mem_append_left _ hold
    · exact hid
  keys_nodup := by
    rw [register_detectors, keys_store]
    split
    · exact h.keys_nodup
    · rename_i hnot
      refine List.nodup_append.2 ⟨h.keys_nodup, List.nodup_singleton _, ?_⟩
      rintro a ha b hb rfl
      exact hnot (List.mem_singleton.1 hb ▸ ha)
  key_eq_id := by
    intro e he
    rw [register_detectors] at he
    rcases mem_store he with he | rfl
    · exact h.key_eq_id e he
    · rfl

theorem enable_rearranged {r' : Registry} (h : r.enable id = .ok r') :
    r'.detectors = r.detectors ∧ Rearranged r.contains r.enabled r'.enabled := by
  unfold enable at h
  split at h
  · rename_i hid
    obtain rfl := Except.ok.inj h
    exact ⟨activate_detectors r id, activate_rearranged r hid⟩
  · cases h

/-- The ids that a tag enables are registered, not enabled so far, and distinct. -/
theorem WellFormed.dormant_fresh (h : r.WellFormed) (t : Tag) :
    (r.dormant t).Nodup ∧ ∀ id ∈ r.dormant t, id ∉ r.enabled ∧ r.contains id = true := by
  unfold dormant
  constructor
  · rw [(List.mergeSort_perm _ _).nodup_iff]
    exact h.keys_nodup.sublist (List.filter_sublist.map _)
  · intro id hid
    obtain ⟨e, he, rfl⟩ := List.mem_map.1 (List.mem_mergeSort.1 hid)
    obtain ⟨he, hcond⟩ := List.mem_filter.1 he
    refine ⟨(of_decide_eq_true hcond).2, ?_⟩
    rw [contains_iff_mem_keys]
    exact List.mem_map_of_mem he

theorem enableAll_rearranged (ids : List String) (r : Registry) :
    (r.enableAll ids).1.detectors = r.detectors ∧
      Rearranged r.contains r.enabled (r.enableAll ids).1.enabled := by
  induction ids generalizing r with
  | nil => exact ⟨rfl, .refl _⟩
  | cons id ids ih =>
    rw [enableAll]
    split
    · exact ⟨rfl, .refl _⟩
    · rename_i r' hr'
      obtain ⟨hdetectors, henabled⟩ := enable_rearranged hr'
      obtain ⟨hdetectors', henabled'⟩ := ih r'
      rw [contains_congr hdetectors] at henabled'
      exact ⟨hdetectors'.trans hdetectors, henabled.trans henabled'⟩

theorem foldl_disable_rearranged (ids : List String) (r : Registry) :
    (ids.foldl disable r).detectors = r.detectors ∧
      Rearranged r.contains r.enabled (ids.foldl disable r).enabled := by
  induction ids generalizing r with
  | nil => exact ⟨rfl, .refl _⟩
  | cons id ids ih =>
    obtain ⟨hdetectors, henabled⟩ := ih (r.disable id)
    have hstep : Rearranged r.contains r.enabled (r.disable id).enabled := .of_filter _ _
    exact ⟨hdetectors, hstep.trans henabled⟩

/-- Taking over a configuration leaves the detectors alone and rearranges the enabled ids, also when
it fails. -/
theorem apply_rearranged (r : Registry) (c : Config) :
    (r.apply c).1.detectors = r.detectors ∧
      Rearranged r.contains r.enabled (r.apply c).1.enabled := by
  unfold Registry.apply
  split
  · exact ⟨rfl, .refl _⟩
  · obtain ⟨hd, he⟩ := foldl_disable_rearranged c.rules.disabledRules (r.withSettings c.settings)
    obtain ⟨hd', he'⟩ := enableAll_rearranged c.rules.enabledRules
      (c.rules.disabledRules.foldl disable (r.withSettings c.settings))
    rw [contains_congr hd] at he'
    exact ⟨hd'.trans hd, Rearranged.trans he he'⟩

/-- A way to change a registry. -/
inductive Operation where
  | register (d : Detector)
  | enable (id : String)
  | disable (id : String)
  | enableTag (t : Tag)
  | disableTag (t : Tag)
  | setSettings (s : Settings)
  | applyConfig (c : Config)

/-- The registry after an operation, also one that is refused. -/
def perform (r : Registry) : Operation → Registry
  | .register d => r.register d
  | .enable id =>
    match r.enable id with
    | .ok r' => r'
    | .error _ => r
  | .disable id => r.disable id
  | .enableTag t => r.enableTag t
  | .disableTag t => r.disableTag t
  | .setSettings s => r.withSettings s
  | .applyConfig c => (r.apply c).1

/-- The registry after a history of operations, beginning with no detectors and default settings. -/
def after (ops : List Operation) : Registry := ops.foldl perform empty

/-- Every operation keeps a registry well formed. -/
theorem WellFormed.perform (h : r.WellFormed) (op : Operation) : (r.perform op).WellFormed := by
  cases op with
  | register d => exact h.register d
  | enable id =>
    show (match r.enable id with | .ok r' => r' | .error _ => r).WellFormed
    split
    · rename_i r' hr'
      obtain ⟨hdetectors, henabled⟩ := enable_rearranged hr'
      exact h.of_rearranged hdetectors henabled
    · exact h
  | disable id => exact h.of_rearranged rfl (.of_filter _ _)
  | enableTag t =>
    obtain ⟨hnodup, hfresh⟩ := h.dormant_fresh t
    exact h.of_rearranged rfl (.of_append _ hnodup hfresh)
  | disableTag t => exact h.of_rearranged rfl (.of_filter _ _)
  | setSettings s => exact h.of_rearranged rfl (.refl _)
  | applyConfig c =>
    obtain ⟨hdetectors, henabled⟩ := apply_rearranged r c
    exact h.of_rearranged hdetectors henabled

/-- **Every history of operations leads to a well formed registry.** -/
theorem WellFormed.reachable (ops : List Operation) : (after ops).WellFormed := by
  suffices h : ∀ r : Registry, r.WellFormed → (ops.foldl Registry.perform r).WellFormed from
    h empty (.without_detectors {})
  induction ops with
  | nil => intro r h; exact h
  | cons op ops ih => intro r h; exact ih _ (h.perform op)

/-! ## Detectors of a run -/

namespace WellFormed

theorem id_of_get? (h : r.WellFormed) (hd : r.get? id = some d) : d.id = id :=
  (h.key_eq_id _ (mem_of_get? hd)).symm

/-- The enabled detectors are found under the enabled ids, one by one. -/
theorem enabled_ids (h : r.WellFormed) :
    (r.enabled.filterMap r.get?).map Detector.id = r.enabled := by
  have hids : ∀ ids : List String, (∀ id ∈ ids, r.contains id = true) →
      (ids.filterMap r.get?).map Detector.id = ids := by
    intro ids
    induction ids with
    | nil => intro _; rfl
    | cons id ids ih =>
      intro hreg
      obtain ⟨d, hd⟩ := Option.isSome_iff_exists.1 (hreg id List.mem_cons_self)
      rw [List.filterMap_cons_some hd, List.map_cons, h.id_of_get? hd,
        ih fun x hx => hreg x (List.mem_cons_of_mem _ hx)]
  exact hids r.enabled h.enabled_registered

/-- No two detectors of a run have the same id. -/
theorem selected_ids_nodup (h : r.WellFormed) (file : SourceFile) :
    ((r.selected file).map Detector.id).Nodup := by
  have hsub : ((r.selected file).map Detector.id).Sublist
      ((r.enabled.filterMap r.get?).map Detector.id) := by
    unfold selected
    exact List.filter_sublist.map _
  rw [h.enabled_ids] at hsub
  exact h.enabled_nodup.sublist hsub

end WellFormed

end Registry

end PlsqlAudit
