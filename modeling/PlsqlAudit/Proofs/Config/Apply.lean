import PlsqlAudit.Proofs.Registry.Activation

/-!
# Taking over a configuration is all or nothing

A registry checks a configuration before it changes anything, so the later steps cannot fail half-way.

* `Config.validate_eq_ok_iff`, `Config.validate_eq_error` — when the check passes, and which rule it
  names when it does not.
* `Registry.enableAll_registered` — enabling registered ids one after the other cannot fail, and puts
  the new ones last in the order of their first mention.
* `Config.activation` — the ids that are enabled once the configuration is taken over.
* `Registry.apply_of_ok`, `Registry.apply_of_error` — the two ways in which that can go.
* `apply_is_all_or_nothing` — the contract as a whole.
-/

namespace PlsqlAudit

namespace Config

variable {r : Registry} {c : Config}

/-! ## The check -/

theorem mem_mentioned {key : String} :
    key ∈ c.mentioned ↔
      key ∈ c.rules.enabledRules ∨ key ∈ c.rules.disabledRules ∨ key ∈ c.rules.overrides.keys := by
  simp [mentioned]

theorem validate_eq_ok_iff :
    c.validate r = .ok () ↔ ∀ key ∈ c.mentioned, r.contains key = true := by
  unfold validate
  split
  · rename_i key hkey
    have hmem := List.mem_of_find?_eq_some hkey
    have hnot := List.find?_some hkey
    simp only [reduceCtorEq, false_iff]
    intro hall
    simp [hall key hmem] at hnot
  · rename_i hnone
    simpa using hnone

/-- The check names a rule of the two lists if one of them is not registered, and only else one that
is overridden. -/
theorem validate_eq_error {e : RegistryError} (h : c.validate r = .error e) :
    ∃ key, e = .unknownRule key ∧ r.contains key = false ∧
      ((c.rules.enabledRules ++ c.rules.disabledRules).find? (fun k => !r.contains k) = some key ∨
        (∀ k ∈ c.rules.enabledRules ++ c.rules.disabledRules, r.contains k = true) ∧
          key ∈ c.rules.overrides.keys) := by
  unfold validate at h
  split at h
  · rename_i key hkey
    obtain rfl := Except.error.inj h
    have hnot : r.contains key = false := by simpa using List.find?_some hkey
    refine ⟨key, rfl, hnot, ?_⟩
    rw [mentioned, List.find?_append] at hkey
    rcases Option.or_eq_some_iff.1 hkey with hlists | ⟨hnone, hoverride⟩
    · exact .inl hlists
    · refine .inr ⟨fun k hk => ?_, List.mem_of_find?_eq_some hoverride⟩
      simpa using List.find?_eq_none.1 hnone k hk
  · cases h

/-! ## The ids that end up enabled -/

/-- What the enabled `ids` become: those that are not disabled, and then, in the order of their first
mention, the enabled rules that are not among these. -/
def activation (c : Config) (ids : List String) : List String :=
  let kept := ids.filter (· ∉ c.rules.disabledRules)
  kept ++ (c.rules.enabledRules.filter (· ∉ kept)).eraseDups

/-- Enabled rules end up enabled, whether they are disabled as well or not. -/
theorem mem_activation {ids : List String} {id : String} :
    id ∈ c.activation ids ↔
      id ∈ c.rules.enabledRules ∨ id ∈ ids ∧ id ∉ c.rules.disabledRules := by
  unfold activation
  simp only [List.mem_append, List.mem_eraseDups, List.mem_filter, decide_eq_true_eq]
  tauto

theorem mem_activation_activation {ids : List String} {id : String} :
    id ∈ c.activation (c.activation ids) ↔ id ∈ c.activation ids := by
  simp only [mem_activation]
  tauto

end Config

namespace Registry

variable {r : Registry} {c : Config}

/-! ## Enabling one id after the other -/

/-- A registered id comes last, unless it is enabled already. -/
theorem enable_registered {id : String} (h : r.contains id = true) :
    r.enable id =
      .ok (if id ∈ r.enabled then r else { r with enabled := r.enabled ++ [id] }) := by
  unfold enable activate
  rw [if_pos h]

/-- A new id that comes first is kept there and dropped from the rest. -/
theorem eraseDups_filter_cons {ids enabled : List String} {id : String} (h : id ∉ enabled) :
    ((id :: ids).filter (· ∉ enabled)).eraseDups =
      id :: (ids.filter (· ∉ enabled ++ [id])).eraseDups := by
  have hfilter : (ids.filter (· ∉ enabled)).filter (fun x => !x == id) =
      ids.filter (· ∉ enabled ++ [id]) := by
    rw [List.filter_filter]
    refine List.filter_congr fun x _ => ?_
    by_cases hx : x = id <;> simp [hx]
  rw [List.filter_cons_of_pos (by simpa using h), List.eraseDups_cons, hfilter]

theorem enableAll_registered (ids : List String) (r : Registry)
    (h : ∀ id ∈ ids, r.contains id = true) :
    r.enableAll ids =
      ({ r with enabled := r.enabled ++ (ids.filter (· ∉ r.enabled)).eraseDups }, .ok ()) := by
  induction ids generalizing r with
  | nil => simp [enableAll]
  | cons id ids ih =>
    have hrest : ∀ x ∈ ids, r.contains x = true := fun x hx => h x (List.mem_cons_of_mem _ hx)
    rw [enableAll, enable_registered (h id List.mem_cons_self)]
    by_cases hid : id ∈ r.enabled
    · simp only [if_pos hid]
      rw [ih r hrest, List.filter_cons_of_neg (by simpa using hid)]
    · simp only [if_neg hid]
      -- What is registered does not depend on what is enabled.
      have hnext := ih { r with enabled := r.enabled ++ [id] } hrest
      rw [hnext, eraseDups_filter_cons hid, List.append_assoc, List.singleton_append]

/-! ## The whole step -/

theorem apply_of_error {e : RegistryError} (h : c.validate r = .error e) :
    r.apply c = (r, .error e) := by
  unfold Registry.apply
  rw [h]

/-- Once the check has passed, no later step fails. -/
theorem apply_of_ok (h : c.validate r = .ok ()) :
    r.apply c =
      ({ r with enabled := c.activation r.enabled, settings := c.settings }, .ok ()) := by
  have hall := Config.validate_eq_ok_iff.1 h
  have henable : ∀ id ∈ c.rules.enabledRules, r.contains id = true := fun id hid =>
    hall id (Config.mem_mentioned.2 (.inl hid))
  unfold Registry.apply
  rw [h]
  simp only
  rw [foldl_disable_eq, enableAll_registered]
  · simp only [Config.activation, decide_not]
    rfl
  · exact henable

end Registry

/-- **Taking over a configuration is all or nothing.** It succeeds just if every rule that is mentioned
is registered. If not, the first such rule of the two lists is named, or an overridden one if there
is none, and the registry stays as it was. On success the detectors stay, the settings are those of
the configuration, and the enabled ids are the old ones that are not disabled, in their order, followed
by the enabled rules that are not among these, in the order of their first mention. So what is both
enabled and disabled ends up enabled, and the same configuration once more enables nothing else. -/
theorem apply_is_all_or_nothing (r : Registry) (c : Config) :
    let kept := r.enabled.filter (· ∉ c.rules.disabledRules)
    let added := (c.rules.enabledRules.filter (· ∉ kept)).eraseDups
    let r' := (r.apply c).1
    ((r.apply c).2 = .ok () ↔
      ∀ key, key ∈ c.rules.enabledRules ∨ key ∈ c.rules.disabledRules ∨
        key ∈ c.rules.overrides.keys → r.contains key = true) ∧
    (∀ e, (r.apply c).2 = .error e →
      r' = r ∧
      ∃ key, e = .unknownRule key ∧ r.contains key = false ∧
        ((c.rules.enabledRules ++ c.rules.disabledRules).find? (fun k => !r.contains k) = some key ∨
          (∀ k ∈ c.rules.enabledRules ++ c.rules.disabledRules, r.contains k = true) ∧
            key ∈ c.rules.overrides.keys)) ∧
    ((r.apply c).2 = .ok () →
      r'.detectors = r.detectors ∧ r'.settings = c.settings ∧ r'.enabled = kept ++ added ∧
      (∀ key ∈ c.rules.enabledRules, key ∈ c.rules.disabledRules → key ∈ r'.enabled) ∧
      (r'.apply c).2 = .ok () ∧
      ∀ id, id ∈ (r'.apply c).1.enabled ↔ id ∈ r'.enabled) := by
  intro kept added r'
  cases hvalid : c.validate r with
  | error e =>
    have happly := Registry.apply_of_error hvalid
    have hr' : r' = r := congrArg Prod.fst happly
    rw [happly]
    refine ⟨?_, ?_, fun h => by cases h⟩
    · simp only [reduceCtorEq, false_iff]
      intro hall
      have hpasses : c.validate r = .ok () :=
        Config.validate_eq_ok_iff.2 fun key hkey => hall key (Config.mem_mentioned.1 hkey)
      rw [hvalid] at hpasses
      cases hpasses
    · intro e' he'
      obtain rfl := Except.error.inj he'
      exact ⟨hr', Config.validate_eq_error hvalid⟩
  | ok u =>
    have happly := Registry.apply_of_ok hvalid
    have hall := Config.validate_eq_ok_iff.1 hvalid
    have hr' : r' = { r with enabled := c.activation r.enabled, settings := c.settings } :=
      congrArg Prod.fst happly
    -- The detectors are the same afterwards, so the check passes again.
    have hvalid' : c.validate r' = .ok () := by
      rw [Config.validate_eq_ok_iff, hr']
      exact hall
    have hagain := Registry.apply_of_ok hvalid'
    rw [happly, hagain]
    refine ⟨?_, ?_, fun _ => ?_⟩
    · simp only [true_iff]
      intro key hkey
      exact hall key (Config.mem_mentioned.2 hkey)
    · intro e he
      cases he
    · refine ⟨by rw [hr'], by rw [hr'], by rw [hr']; rfl, ?_, rfl, ?_⟩
      · intro key henabled _
        rw [hr']
        exact Config.mem_activation.2 (.inl henabled)
      · intro id
        rw [hr']
        exact Config.mem_activation_activation

end PlsqlAudit
