import PlsqlAudit.Proofs.Registry.Run

/-!
# Overrides and the severity filter act after the run

* `Settings.select_eq`, `Settings.select_of_plain`, `Settings.select_minSeverity` — what settings make
  of findings: replace severities and times to fix, then filter.
* `Registry.lastStage` — a run before its findings are selected. Of the settings it depends on fail-fast
  alone, and through the detectors it is given on the tags.
* `settings_act_after_run` — two runs under settings that agree in these go the same way, and differ in
  what is selected.
-/

namespace PlsqlAudit

/-! ## Selecting findings -/

namespace Settings

/-- An override replaces the severity and the time to fix that it gives, and nothing else. -/
theorem adjust_eq (s : Settings) (f : Finding) :
    s.adjust f =
      { f with
        severity := ((s.overrides.get? f.detectorId).bind (·.severity)).getD f.severity
        remediation :=
          ((s.overrides.get? f.detectorId).bind (·.remediation)).getD f.remediation } := by
  unfold adjust
  cases s.overrides.get? f.detectorId with
  | none => rfl
  | some o => rfl

/-- Findings are overridden first, and filtered by the severity that they have then. -/
theorem select_eq (s : Settings) (fs : List Finding) :
    s.select fs = (fs.map fun f =>
      { f with
        severity := ((s.overrides.get? f.detectorId).bind (·.severity)).getD f.severity
        remediation := ((s.overrides.get? f.detectorId).bind (·.remediation)).getD
          f.remediation }).filter (s.minSeverity ≤ ·.severity) := by
  unfold select
  rw [funext s.adjust_eq]

/-- Settings without overrides and of the least severity keep every finding as it is. -/
theorem select_of_plain {s : Settings} (hoverrides : s.overrides = .empty)
    (hmin : s.minSeverity = .info) (fs : List Finding) : s.select fs = fs := by
  have hadjust : s.adjust = id := by
    funext f
    simp only [adjust, hoverrides]
    rfl
  unfold select
  rw [hadjust, List.map_id, hmin, List.filter_eq_self]
  intro f _
  exact decide_eq_true (Nat.zero_le f.severity.rank)

theorem select_minSeverity (s : Settings) (m : Severity) (fs : List Finding) :
    { s with minSeverity := m }.select fs =
      ({ s with minSeverity := .info }.select fs).filter (m ≤ ·.severity) := by
  have hadjust : ∀ m' : Severity, { s with minSeverity := m' }.adjust = s.adjust := fun _ => rfl
  unfold select
  rw [hadjust, hadjust, List.filter_filter]
  refine List.filter_congr fun f _ => ?_
  have hinfo : Severity.info ≤ f.severity := Nat.zero_le f.severity.rank
  simp [hinfo]

end Settings

/-! ## Two runs -/

namespace Registry

/-- The run up to the point where its findings are selected. -/
def lastStage (failFast : Bool) (ds : List Detector) (file : SourceFile) :
    Except Failure Progress :=
  match (opened failFast ds file).stopped with
  | some e => .error e
  | none =>
    match (closed failFast ds file).stopped with
    | some e => .error e
    | none => .ok (closed failFast ds file)

theorem runAll_eq_map (r : Registry) (ds : List Detector) (file : SourceFile) :
    (r.runAll ds file).value =
      (lastStage r.settings.failFast ds file).map (r.summarize ds file.root.count) := by
  rw [runAll_value]
  unfold lastStage
  cases (opened r.settings.failFast ds file).stopped with
  | some e => rfl
  | none =>
    cases (closed r.settings.failFast ds file).stopped with
    | some e => rfl
    | none => rfl

variable (r : Registry) (file : SourceFile) (s s' : Settings)

theorem selected_withSettings {s s' : Settings} (h : s.enabledTags = s'.enabledTags) :
    (r.withSettings s).selected file = (r.withSettings s').selected file := by
  have hwants : (r.withSettings s).wants file = (r.withSettings s').wants file := by
    funext d
    show (d.scope.includes file.isTest && s.wantsTags d.tags) =
      (d.scope.includes file.isTest && s'.wantsTags d.tags)
    simp only [Settings.wantsTags, h]
  unfold selected
  rw [hwants]
  rfl

/-- Settings that agree on fail-fast and tags lead to the same last stage. -/
theorem run_withSettings (hfailFast : s.failFast = s'.failFast)
    (htags : s.enabledTags = s'.enabledTags) :
    ((r.withSettings s).run file).value =
      (lastStage s'.failFast ((r.withSettings s').selected file) file).map
        ((r.withSettings s).summarize ((r.withSettings s').selected file) file.root.count) := by
  have hrun : ((r.withSettings s).run file).value =
      (lastStage s.failFast ((r.withSettings s).selected file) file).map
        ((r.withSettings s).summarize ((r.withSettings s).selected file) file.root.count) :=
    runAll_eq_map _ _ _
  rw [hrun, hfailFast, r.selected_withSettings file htags]

end Registry

/-- **Overrides and the least severity act after the run.** Take any settings, and plain ones that
agree with them on fail-fast and tags. A run fails under both, in the same way, or under neither. If
it does not, it has the findings of the plain run, in their order, with the severity and the time to
fix that the overrides give for their rules, as far as they are then severe enough; errors and the
numbers of detectors, files and nodes are the same. So a least severity picks the findings of at
least this severity from the run without one. -/
theorem settings_act_after_run (r : Registry) (file : SourceFile) (s plain : Settings)
    (hfailFast : s.failFast = plain.failFast) (htags : s.enabledTags = plain.enabledTags)
    (hoverrides : plain.overrides = .empty) (hmin : plain.minSeverity = .info) :
    (∀ e, ((r.withSettings s).run file).value = .error e ↔
      ((r.withSettings plain).run file).value = .error e) ∧
    (∀ report report', ((r.withSettings s).run file).value = .ok report →
      ((r.withSettings plain).run file).value = .ok report' →
      report.findings = (report'.findings.map fun f =>
        { f with
          severity := ((s.overrides.get? f.detectorId).bind (·.severity)).getD f.severity
          remediation := ((s.overrides.get? f.detectorId).bind (·.remediation)).getD
            f.remediation }).filter (s.minSeverity ≤ ·.severity) ∧
      report.errors = report'.errors ∧
      report.stats.detectorsRun = report'.stats.detectorsRun ∧
      report.stats.filesAnalyzed = report'.stats.filesAnalyzed ∧
      report.stats.nodesVisited = report'.stats.nodesVisited) ∧
    ∀ m, ((r.withSettings { s with minSeverity := m }).run file).value.map Report.findings =
      ((r.withSettings { s with minSeverity := .info }).run file).value.map (·.atLeast m) := by
  rw [r.run_withSettings file s plain hfailFast htags, r.run_withSettings file plain plain rfl rfl]
  refine ⟨?_, ?_, ?_⟩
  · cases Registry.lastStage plain.failFast ((r.withSettings plain).selected file) file with
    | error e => exact fun e' => .rfl
    | ok p => exact fun e' => ⟨fun h => (by cases h), fun h => (by cases h)⟩
  · cases Registry.lastStage plain.failFast ((r.withSettings plain).selected file) file with
    | error e => exact fun report report' h => (by cases h)
    | ok p =>
      intro report report' h h'
      obtain rfl := Except.ok.inj h
      obtain rfl := Except.ok.inj h'
      have hplain : (r.withSettings plain).settings.select p.context.findings = p.context.findings :=
        Settings.select_of_plain hoverrides hmin _
      simp only [Registry.summarize_findings, Registry.summarize_errors,
        Registry.summarize_detectorsRun, Registry.summarize_filesAnalyzed,
        Registry.summarize_nodesVisited, hplain, and_self, and_true]
      exact s.select_eq p.context.findings
  · intro m
    rw [r.run_withSettings file { s with minSeverity := m } s rfl rfl,
      r.run_withSettings file { s with minSeverity := .info } s rfl rfl]
    cases Registry.lastStage s.failFast ((r.withSettings s).selected file) file with
    | error e => rfl
    | ok p =>
      have hselect := s.select_minSeverity m p.context.findings
      simp only [Except.map, Report.atLeast, Registry.summarize_findings]
      exact congrArg Except.ok hselect

/-- A finding that an override makes worse passes a filter that it would not pass as it is. -/
theorem override_precedes_filter :
    let datatype : Node := ⟨.datatype, none, [.leaf .identifier "NVARCHAR2" default], default⟩
    let file : SourceFile :=
      { path := "p.prc", root := ⟨.parameterDeclaration, none, [datatype], default⟩ }
    let s : Settings :=
      { minSeverity := .blocker
        overrides := NameMap.empty.insert "in-nvarchar2-usage" { severity := some .blocker } }
    let plain : Settings := { maxThreads := 4 }
    (s.failFast = plain.failFast ∧ s.enabledTags = plain.enabledTags ∧
      plain.overrides = .empty ∧ plain.minSeverity = .info) ∧
    ∃ report report', ((Registry.standard.withSettings s).run file).value = .ok report ∧
      ((Registry.standard.withSettings plain).run file).value = .ok report' ∧
      report'.findings.map (·.severity) = [.major] ∧
      report.findings.map (·.severity) = [.blocker] := by
  intro datatype file s plain
  have hagree : s.failFast = plain.failFast ∧ s.enabledTags = plain.enabledTags ∧
      plain.overrides = .empty ∧ plain.minSeverity = .info := ⟨rfl, rfl, rfl, rfl⟩
  obtain ⟨hfailFast, htags, hoverrides, hmin⟩ := hagree
  have hplain : (((Registry.standard.withSettings plain).run file).value.map fun report =>
      report.findings.map fun f => (f.detectorId, f.severity)) =
      .ok [("in-nvarchar2-usage", .major)] := by decide +kernel
  obtain ⟨report, hrun⟩ : ∃ report,
      ((Registry.standard.withSettings s).run file).value = .ok report :=
    ⟨_, Registry.runAll_lenient _ _ _ rfl⟩
  obtain ⟨report', hrun'⟩ : ∃ report',
      ((Registry.standard.withSettings plain).run file).value = .ok report' :=
    ⟨_, Registry.runAll_lenient _ _ _ rfl⟩
  obtain ⟨-, hselect, -⟩ :=
    settings_act_after_run Registry.standard file s plain hfailFast htags hoverrides hmin
  obtain ⟨hfindings, -⟩ := hselect report report' hrun hrun'
  rw [hrun'] at hplain
  obtain ⟨f, hf, hfield⟩ := List.map_eq_singleton_iff.1 (Except.ok.inj hplain)
  obtain ⟨hid, hseverity⟩ := Prod.mk.inj hfield
  have hoverride : s.overrides.get? "in-nvarchar2-usage" = some { severity := some .blocker } := by
    decide
  refine ⟨⟨hfailFast, htags, hoverrides, hmin⟩, report, report', hrun, hrun', ?_, ?_⟩
  · rw [hf, List.map_singleton, hseverity]
  · rw [hfindings, hf, List.map_singleton, hid, hoverride]
    rfl

end PlsqlAudit
