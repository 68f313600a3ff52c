import PlsqlAudit.Proofs.Data.NameMap
import PlsqlAudit.Report

/-!
# Merging reports

* `Report.merge_assoc`, `Report.empty_merge`, `Report.merge_empty` — reports under merging are a monoid.
* `Stats.merge_comm`, `Report.merge_add` — the statistics do not depend on the order, and a finding may be
  added before or after a merge.
* `Report.mergeAll` — the reports of a list, merged in order. Findings and errors are put one behind
  the other, files and nodes are added up, and the largest number of detectors counts.
-/

namespace PlsqlAudit

namespace Stats

theorem merge_assoc (s t u : Stats) : (s.merge t).merge u = s.merge (t.merge u) := by
  simp only [merge, NameMap.addAll_assoc, Nat.add_assoc, Nat.max_assoc]

theorem merge_comm (s t : Stats) : s.merge t = t.merge s := by
  unfold merge
  rw [Nat.max_comm s.detectorsRun, Nat.add_comm s.filesAnalyzed, Nat.add_comm s.nodesVisited,
    Nat.add_comm s.totalTimeMs, NameMap.addAll_comm s.findingsBySeverity,
    NameMap.addAll_comm s.findingsByDetector]

/-- A finding may be counted before or after the statistics that count it are merged. -/
theorem merge_record (s t : Stats) (f : Finding) : s.merge (t.record f) = (s.merge t).record f := by
  unfold merge record
  rw [NameMap.addAll_addAt, NameMap.addAll_addAt]

theorem empty_merge (s : Stats) : ({} : Stats).merge s = s := by
  simp [merge]

theorem merge_empty (s : Stats) : s.merge {} = s := by
  simp [merge]

end Stats

namespace Report

theorem merge_assoc (a b c : Report) : (a.merge b).merge c = a.merge (b.merge c) := by
  simp only [merge, Stats.merge_assoc, List.append_assoc]

theorem empty_merge (a : Report) : empty.merge a = a := by
  simp [merge, empty, Stats.empty_merge]

theorem merge_empty (a : Report) : a.merge empty = a := by
  simp [merge, empty, Stats.merge_empty]

instance : Std.Associative merge := ⟨merge_assoc⟩

theorem merge_add (a b : Report) (f : Finding) : a.merge (b.add f) = (a.merge b).add f := by
  unfold merge add
  rw [Stats.merge_record, List.append_assoc]

theorem atLeast_merge (a b : Report) (severity : Severity) :
    (a.merge b).atLeast severity = a.atLeast severity ++ b.atLeast severity :=
  List.filter_append _ _

theorem fromDetector_merge (a b : Report) (id : String) :
    (a.merge b).fromDetector id = a.fromDetector id ++ b.fromDetector id :=
  List.filter_append _ _

theorem addError_eq_merge (a : Report) (text : String) :
    a.addError text = a.merge { errors := [text] } := by
  simp [merge, addError, Stats.merge_empty]

/-! ## Many reports -/

/-- The reports merged in order. -/
def mergeAll (as : List Report) : Report := as.foldl merge empty

theorem foldl_merge (a : Report) (as : List Report) : as.foldl merge a = a.merge (mergeAll as) := by
  have hassoc : as.foldl merge (a.merge empty) = a.merge (mergeAll as) := List.foldl_assoc
  rwa [merge_empty] at hassoc

theorem mergeAll_cons (a : Report) (as : List Report) : mergeAll (a :: as) = a.merge (mergeAll as) := by
  have hcons : mergeAll (a :: as) = as.foldl merge (empty.merge a) := rfl
  rw [hcons, foldl_merge, empty_merge]

theorem mergeAll_append (as bs : List Report) :
    mergeAll (as ++ bs) = (mergeAll as).merge (mergeAll bs) := by
  have happend : mergeAll (as ++ bs) = bs.foldl merge (mergeAll as) := List.foldl_append
  rw [happend, foldl_merge]

end Report

/-- **Reports are a monoid under merging, and adding a finding goes along with it.** Whatever the
statistics of the reports say, they may be merged in any grouping, the empty report changes nothing, and
the statistics do not depend on which report comes first. A finding may be added before or after a
merge, and the findings picked by severity or by detector are those of the one report and then those of
the other. -/
theorem reports_merge_as_monoid :
    (∀ a b c : Report, (a.merge b).merge c = a.merge (b.merge c)) ∧
    (∀ a : Report, Report.empty.merge a = a ∧ a.merge .empty = a) ∧
    (∀ a b : Report, (a.merge b).stats = (b.merge a).stats) ∧
    (∀ (a b : Report) (f : Finding), a.merge (b.add f) = (a.merge b).add f) ∧
    ∀ a b : Report,
      (∀ severity, (a.merge b).atLeast severity = a.atLeast severity ++ b.atLeast severity) ∧
      ∀ id, (a.merge b).fromDetector id = a.fromDetector id ++ b.fromDetector id := by
  refine ⟨Report.merge_assoc, fun a => ⟨a.empty_merge, a.merge_empty⟩, ?_, Report.merge_add, ?_⟩
  · intro a b
    exact a.stats.merge_comm b.stats
  · intro a b
    exact ⟨a.atLeast_merge b, a.fromDetector_merge b⟩

end PlsqlAudit
