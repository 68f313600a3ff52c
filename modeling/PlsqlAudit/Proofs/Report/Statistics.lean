import PlsqlAudit.Proofs.Data.Tally
import PlsqlAudit.Proofs.Registry.Batch

/-!
# Statistics match the findings

A report counts its findings by severity and by detector, one by one as they are added and in bulk
when reports are merged.

* `Report.Tallied` — both maps are the tallies of the findings. Adding a finding or an error and merging
  keep this.
* `Report.Built` — the reports that additions and merges lead to from the empty one.
* `NameMap.Counts` — what a map of counts says about findings, name by name.
* `Registry.tallied_run`, `Registry.tallied_analyze` — the reports of runs and analyses are tallied, after
  whatever their settings made of the findings.
* `statistics_match_findings` — the statistics of all these reports are right.
-/

namespace PlsqlAudit

/-! ## Counts of findings -/

/-- The map counts findings by a feature: it has the name of a feature if some finding has the
feature, with the number of such findings, and no other name. -/
structure NameMap.Counts {α : Type} [DecidableEq α] (m : NameMap Nat) (feature : Finding → α)
    (name : α → String) (fs : List Finding) : Prop where
  mem_keys : ∀ a, name a ∈ m.keys ↔ ∃ f ∈ fs, feature f = a
  get?_eq : ∀ a, name a ∈ m.keys → m.get? (name a) = some (fs.countP (feature · = a))
  no_other : ∀ k ∈ m.keys, ∃ a, k = name a
  total_eq : m.total = fs.length

/-- Features with names of their own are counted by the tally of the names. -/
theorem NameMap.counts_tally {α : Type} [DecidableEq α] {feature : Finding → α} {name : α → String}
    (hname : Function.Injective name) (fs : List Finding) :
    (tally (fs.map fun f => name (feature f))).Counts feature name fs := by
  have hkeys : ∀ k, k ∈ (tally (fs.map fun f => name (feature f))).keys ↔
      k ∈ fs.map fun f => name (feature f) := by
    intro k
    rw [mem_keys_iff, get?_tally]
    split <;> simp [*]
  have hmem : ∀ a, name a ∈ fs.map (fun f => name (feature f)) ↔ ∃ f ∈ fs, feature f = a := by
    intro a
    simp only [List.mem_map]
    exact exists_congr fun f => and_congr_right fun _ => hname.eq_iff
  constructor
  case mem_keys =>
    intro a
    rw [hkeys, hmem]
  case get?_eq =>
    intro a ha
    rw [hkeys] at ha
    rw [get?_tally, if_pos ha, List.count, List.countP_map]
    congr 1
    refine List.countP_congr fun f _ => ?_
    simp [hname.eq_iff]
  case no_other =>
    intro k hk
    obtain ⟨f, -, rfl⟩ := List.mem_map.1 ((hkeys k).1 hk)
    exact ⟨feature f, rfl⟩
  case total_eq => rw [total_tally, List.length_map]

theorem Severity.display_injective : Function.Injective display := by
  intro a b h
  cases a <;> cases b <;> simp_all [display]

namespace Report

/-- The statistics of the report count its findings by severity and by detector. -/
structure StatisticsMatch (r : Report) : Prop where
  bySeverity : r.stats.findingsBySeverity.Counts Finding.severity Severity.display r.findings
  byDetector : r.stats.findingsByDetector.Counts Finding.detectorId (fun id => id) r.findings

/-! ## What keeps the statistics in step -/

/-- Both maps of counts are tallies of the findings. -/
structure Tallied (r : Report) : Prop where
  bySeverity :
    r.stats.findingsBySeverity = .tally (r.findings.map fun f => f.severity.display)
  byDetector : r.stats.findingsByDetector = .tally (r.findings.map fun f => f.detectorId)

namespace Tallied

variable {r s : Report}

theorem statisticsMatch (h : r.Tallied) : r.StatisticsMatch where
  bySeverity := by
    rw [h.bySeverity]
    exact NameMap.counts_tally Severity.display_injective r.findings
  byDetector := by
    rw [h.byDetector]
    exact NameMap.counts_tally Function.injective_id r.findings

theorem empty : Report.empty.Tallied := ⟨rfl, rfl⟩

/-- A finding is counted as it is added. -/
theorem add (h : r.Tallied) (f : Finding) : (r.add f).Tallied where
  bySeverity := by simp [Report.add, Stats.record, h.bySeverity, NameMap.tally_concat]
  byDetector := by simp [Report.add, Stats.record, h.byDetector, NameMap.tally_concat]

theorem addAll (h : r.Tallied) (fs : List Finding) : (r.addAll fs).Tallied := by
  unfold Report.addAll
  induction fs generalizing r with
  | nil => exact h
  | cons f fs ih => exact ih (h.add f)

theorem addError (h : r.Tallied) (text : String) : (r.addError text).Tallied :=
  ⟨h.bySeverity, h.byDetector⟩

/-- Counts that are added in bulk are the counts of all findings together. -/
theorem merge (h : r.Tallied) (h' : s.Tallied) : (r.merge s).Tallied where
  bySeverity := by
    simp [Report.merge, Stats.merge, h.bySeverity, h'.bySeverity, NameMap.tally_append]
  byDetector := by
    simp [Report.merge, Stats.merge, h.byDetector, h'.byDetector, NameMap.tally_append]

theorem mergeAll {as : List Report} (h : ∀ a ∈ as, a.Tallied) : (mergeAll as).Tallied := by
  induction as with
  | nil => exact .empty
  | cons a as ih =>
    rw [mergeAll_cons]
    exact (h a List.mem_cons_self).merge (ih fun b hb => h b (List.mem_cons_of_mem _ hb))

end Tallied

/-- The reports that additions and merges lead to, beginning with the empty one. -/
inductive Built : Report → Prop where
  | empty : Built .empty
  | add {r : Report} (h : Built r) (f : Finding) : Built (r.add f)
  | addError {r : Report} (h : Built r) (text : String) : Built (r.addError text)
  | merge {r s : Report} (h : Built r) (h' : Built s) : Built (r.merge s)

theorem Built.tallied {r : Report} (h : r.Built) : r.Tallied := by
  induction h with
  | empty => exact .empty
  | add _ f ih => exact ih.add f
  | addError _ text ih => exact ih.addError text
  | merge _ _ ih ih' => exact ih.merge ih'

end Report

/-! ## Runs and analyses -/

namespace Registry

variable {r : Registry}

/-- What overrides and the least severity leave is counted as it is taken up. -/
theorem tallied_summarize (r : Registry) (ds : List Detector) (visited : Nat) (p : Progress) :
    (r.summarize ds visited p).Tallied := by
  unfold summarize
  exact Report.Tallied.addAll ⟨rfl, rfl⟩ _

theorem tallied_run {file : SourceFile} {report : Report} (h : (r.run file).value = .ok report) :
    report.Tallied := by
  rw [r.eq_summarize_of_runAll (r.selected file) file h]
  exact r.tallied_summarize ..

/-- What an input adds to an analysis is tallied, be it a report or a failure. -/
theorem tallied_share {ι : Type} (r : Registry) (load : ι → Except Failure SourceFile) (i : ι) :
    (Batch.share (r.runInput load i).value).Tallied := by
  unfold runInput
  cases load i with
  | error e => exact ⟨rfl, rfl⟩
  | ok file =>
    show (Batch.share (r.run file).value).Tallied
    cases hrun : (r.run file).value with
    | error e => exact ⟨rfl, rfl⟩
    | ok report => exact tallied_run hrun

theorem tallied_analyze {ι : Type} {load : ι → Except Failure SourceFile} {inputs : List ι}
    {report : Report} (h : (r.analyze load inputs).value = .ok report) : report.Tallied := by
  rw [analyze_value] at h
  cases hended : r.endedBy load inputs with
  | some e => simp [hended] at h
  | none =>
    rw [hended] at h
    obtain rfl := Except.ok.inj h
    refine Report.Tallied.mergeAll fun a ha => ?_
    obtain ⟨i, -, rfl⟩ := List.mem_map.1 ha
    exact r.tallied_share load i

end Registry

/-- **Statistics match the findings.** In every report that additions and merges lead to, in every
report of a run and in every report of an analysis of many files, the statistics have a severity or a
detector just if some finding has it, with the number of such findings; they have no other name, and
the numbers of each map add up to the number of findings. Merging gives the same maps in whatever
order it goes through those of the other report. -/
theorem statistics_match_findings :
    (∀ report : Report, report.Built → report.StatisticsMatch) ∧
    (∀ (r : Registry) (file : SourceFile) (report : Report),
      (r.run file).value = .ok report → report.StatisticsMatch) ∧
    (∀ (r : Registry) (ι : Type) (load : ι → Except Failure SourceFile) (inputs : List ι)
      (report : Report), (r.analyze load inputs).value = .ok report → report.StatisticsMatch) ∧
    ∀ (a b : Report) (bySeverity byDetector : List (String × Nat)),
      bySeverity.Perm b.stats.findingsBySeverity.entries →
      byDetector.Perm b.stats.findingsByDetector.entries →
      a.stats.findingsBySeverity.addAll bySeverity = (a.merge b).stats.findingsBySeverity ∧
      a.stats.findingsByDetector.addAll byDetector = (a.merge b).stats.findingsByDetector := by
  refine ⟨?_, ?_, ?_, ?_⟩
  · intro report h
    exact h.tallied.statisticsMatch
  · intro r file report h
    exact (Registry.tallied_run h).statisticsMatch
  · intro r ι load inputs report h
    exact (Registry.tallied_analyze h).statisticsMatch
  · intro a b bySeverity byDetector hseverity hdetector
    exact ⟨a.stats.findingsBySeverity.addAll_perm hseverity,
      a.stats.findingsByDetector.addAll_perm hdetector⟩

end PlsqlAudit
