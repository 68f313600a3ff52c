import PlsqlAudit.Proofs.Registry.Invariant
import PlsqlAudit.Proofs.Registry.Run

/-!
# What a history leaves enabled, and what of it runs

* `Registry.switchesOff` — the ids that an operation switches off.
* `Registry.WellFormed.kept_prefix` — the enabled ids that an operation does not switch off stay in
  front, in their order.
* `Registry.WellFormed.selected_ids` — a run takes the enabled ids whose detectors fit, none left out
  and none twice.
* `histories_keep_registries_sound` — both hold after every history of operations.
-/

namespace PlsqlAudit

namespace Registry

variable {r : Registry}

/-! ## One operation -/

/-- Whether the operation switches the detector of an id off; a refused one switches nothing. -/
def switchesOff (r : Registry) : Operation → String → Bool
  | .disable id', id => id = id'
  | .disableTag t, id => (r.get? id).any fun d => t ∈ d.tags
  | .applyConfig c, id =>
    match c.validate r with
    | .ok () => id ∈ c.rules.disabledRules
    | .error _ => false
  | _, _ => false

/-- The enabled ids that an operation does not switch off, in their order. -/
def kept (r : Registry) (op : Operation) : List String :=
  r.enabled.filter fun id => !r.switchesOff op id

theorem kept_eq_enabled {op : Operation} (h : ∀ id, r.switchesOff op id = false) :
    r.kept op = r.enabled := by
  simp [kept, h]

theorem enabled_prefix_activate (r : Registry) (id : String) :
    r.enabled <+: (r.activate id).enabled := by
  unfold activate
  split
  · exact List.prefix_rfl
  · exact List.prefix_append _ _

theorem enabled_prefix_enable {r' : Registry} {id : String} (h : r.enable id = .ok r') :
    r.enabled <+: r'.enabled := by
  unfold enable at h
  split at h
  · obtain rfl := Except.ok.inj h
    exact enabled_prefix_activate r id
  · cases h

theorem enabled_prefix_enableAll (ids : List String) (r : Registry) :
    r.enabled <+: (r.enableAll ids).1.enabled := by
  induction ids generalizing r with
  | nil => exact List.prefix_rfl
  | cons id ids ih =>
    rw [enableAll]
    split
    · exact List.prefix_rfl
    · rename_i r' hr'
      exact (enabled_prefix_enable hr').trans (ih r')

/-- Disabling ids one after the other drops them from the enabled ones and changes nothing else. -/
theorem foldl_disable_eq (ids : List String) (r : Registry) :
    ids.foldl disable r = { r with enabled := r.enabled.filter fun id => !decide (id ∈ ids) } := by
  induction ids generalizing r with
  | nil => simp
  | cons id ids ih =>
    rw [List.foldl_cons, ih, disable]
    simp only [List.filter_filter]
    congr 1
    refine List.filter_congr fun x _ => ?_
    by_cases hx : x = id <;> simp [hx]

theorem enabled_foldl_disable (ids : List String) (r : Registry) :
    (ids.foldl disable r).enabled = r.enabled.filter fun id => !decide (id ∈ ids) := by
  rw [foldl_disable_eq]

/-- In a well formed registry, what an operation does not switch off stays in front. -/
theorem WellFormed.kept_prefix (h : r.WellFormed) (op : Operation) :
    r.kept op <+: (r.perform op).enabled := by
  cases op with
  | register d =>
    have henabled : (r.perform (.register d)).enabled = _ := register_enabled r d
    rw [kept_eq_enabled fun _ => rfl, henabled]
    split
    · exact enabled_prefix_activate r d.id
    · exact List.prefix_rfl
  | enable id =>
    rw [kept_eq_enabled fun _ => rfl]
    simp only [Registry.perform]
    split
    · rename_i r' hr'
      exact enabled_prefix_enable hr'
    · exact List.prefix_rfl
  | disable id =>
    have hkept : r.kept (.disable id) = (r.disable id).enabled := by
      simp [kept, switchesOff, disable]
    rw [hkept]
    exact List.prefix_rfl
  | enableTag t =>
    rw [kept_eq_enabled fun _ => rfl]
    exact List.prefix_append _ _
  | disableTag t =>
    have hkept : r.kept (.disableTag t) = (r.disableTag t).enabled := by
      refine List.filter_congr fun id hid => ?_
      -- All enabled ids are registered, so keeping those without the tag drops nothing else.
      obtain ⟨d, hd⟩ := Option.isSome_iff_exists.1 (h.enabled_registered id hid)
      simp [switchesOff, hd]
    rw [hkept]
    exact List.prefix_rfl
  | setSettings s =>
    rw [kept_eq_enabled fun _ => rfl]
    exact List.prefix_rfl
  | applyConfig c =>
    show r.kept (.applyConfig c) <+: (r.apply c).1.enabled
    unfold Registry.apply
    cases hvalid : c.validate r with
    | error e =>
      have hkept : r.kept (.applyConfig c) = r.enabled :=
        kept_eq_enabled fun id => by simp only [switchesOff, hvalid]
      exact hkept ▸ List.prefix_rfl
    | ok u =>
      have hkept : r.kept (.applyConfig c) =
          (c.rules.disabledRules.foldl disable (r.withSettings c.settings)).enabled := by
        rw [enabled_foldl_disable]
        simp only [kept, switchesOff, hvalid]
        rfl
      rw [hkept]
      exact enabled_prefix_enableAll _ _

/-- What an operation enables comes last, each id once and none that was kept. -/
theorem WellFormed.perform_enabled (h : r.WellFormed) (op : Operation) :
    ∃ fresh, (r.perform op).enabled = r.kept op ++ fresh ∧ fresh.Nodup ∧
      ∀ id ∈ fresh, id ∉ r.kept op := by
  obtain ⟨fresh, hfresh⟩ := h.kept_prefix op
  have hnodup := (h.perform op).enabled_nodup
  rw [← hfresh] at hnodup
  obtain ⟨-, hfresh', hdisjoint⟩ := List.nodup_append.1 hnodup
  exact ⟨fresh, hfresh.symm, hfresh', fun id hid hkept => hdisjoint id hkept id hid rfl⟩

/-! ## A run -/

/-- The detectors of a run are those of the enabled ids that fit the file. -/
theorem WellFormed.selected_ids (h : r.WellFormed) (file : SourceFile) :
    (r.selected file).map Detector.id =
      r.enabled.filter fun id => (r.get? id).any (r.wants file) := by
  have hwants : r.selected file = (r.enabled.filterMap r.get?).filter
      ((fun id => (r.get? id).any (r.wants file)) ∘ Detector.id) := by
    refine List.filter_congr fun d hd => ?_
    obtain ⟨id, -, hget⟩ := List.mem_filterMap.1 hd
    simp [h.id_of_get? hget, hget]
  rw [hwants, ← List.filter_map, h.enabled_ids]

end Registry

/-- **Every history of operations keeps a registry sound.** The enabled ids are distinct and
registered, and detectors are stored under their own ids. One more operation keeps the ids that it
does not switch off, in their order, and puts the others last. So a run looks up a detector for every
enabled id, runs none twice, and counts those that fit the file. -/
theorem histories_keep_registries_sound (ops : List Registry.Operation) :
    let r := Registry.after ops
    r.enabled.Nodup ∧
    (∀ id ∈ r.enabled, r.contains id = true) ∧
    (∀ e ∈ r.detectors, e.1 = e.2.id) ∧
    (∀ op, ∃ fresh, (r.perform op).enabled = r.kept op ++ fresh ∧ fresh.Nodup ∧
      ∀ id ∈ fresh, id ∉ r.kept op) ∧
    ∀ file,
      (r.enabled.filterMap r.get?).map Detector.id = r.enabled ∧
      ((r.selected file).map Detector.id).Nodup ∧
      (r.settings.failFast = false → ∃ report, (r.run file).value = .ok report) ∧
      ∀ report, (r.run file).value = .ok report →
        report.stats.detectorsRun =
          (r.enabled.filter fun id => (r.get? id).any (r.wants file)).length := by
  intro r
  have hwf : r.WellFormed := .reachable ops
  refine ⟨hwf.enabled_nodup, hwf.enabled_registered, hwf.key_eq_id, hwf.perform_enabled, ?_⟩
  intro file
  refine ⟨hwf.enabled_ids, hwf.selected_ids_nodup file, ?_, ?_⟩
  · intro hlenient
    exact ⟨_, r.runAll_lenient (r.selected file) file hlenient⟩
  · intro report hreport
    rw [r.eq_summarize_of_runAll (r.selected file) file hreport, Registry.summarize_detectorsRun,
      ← hwf.selected_ids, List.length_map]

end PlsqlAudit
