import PlsqlAudit.Proofs.Registry.FailFast
import PlsqlAudit.Proofs.Report.Merge

/-!
# The analysis of many files is a merge of runs

* `Batch.share` — what an input adds to the merged report, be it a report or a failure.
* `Batch.foldl_take_lenient`, `Batch.foldl_take_strict` — one pass over the outcomes merges the shares,
  or ends with the first failure.
* `Registry.MergesRuns` — a report put together from the runs of the files that can be loaded.
* `analyze_merges_runs` — the analysis gives such a report, and the analysis of two lists of inputs in a
  row is the merge of their analyses.
-/

namespace PlsqlAudit

namespace Batch

/-! ## Outcomes one after the other -/

def share : Except Failure Report → Report
  | .ok report => report
  | .error e => { errors := [s!"Analysis failed: {e.message}"] }

def failure? : Except Failure Report → Option Failure
  | .ok _ => none
  | .error e => some e

variable {b : Batch}

theorem take_lenient_eq (h : b.stopped = none) (outcome : Except Failure Report) :
    (b.take false outcome).stopped = none ∧
      (b.take false outcome).report = b.report.merge (share outcome) := by
  cases outcome with
  | ok report =>
    rw [take_ok h]
    exact ⟨h, rfl⟩
  | error e =>
    rw [take_error_lenient h]
    exact ⟨h, Report.addError_eq_merge _ _⟩

theorem foldl_take_lenient (outcomes : List (Except Failure Report)) (h : b.stopped = none) :
    (outcomes.foldl (take false) b).result =
      .ok ((outcomes.map share).foldl Report.merge b.report) := by
  induction outcomes generalizing b with
  | nil => simp [result, h]
  | cons outcome outcomes ih =>
    obtain ⟨hrunning, hreport⟩ := take_lenient_eq h outcome
    rw [List.foldl_cons, ih hrunning, hreport]
    rfl

theorem foldl_take_of_stopped {failFast : Bool} {e : Failure} (h : b.stopped = some e)
    (outcomes : List (Except Failure Report)) : outcomes.foldl (take failFast) b = b := by
  induction outcomes with
  | nil => rfl
  | cons outcome outcomes ih => rw [List.foldl_cons, take_of_stopped h, ih]

/-- With fail-fast the first failure is the result, and without any failure all reports are merged. -/
theorem foldl_take_strict (outcomes : List (Except Failure Report)) (h : b.stopped = none) :
    (outcomes.foldl (take true) b).result =
      match outcomes.findSome? failure? with
      | some e => .error e
      | none => .ok ((outcomes.map share).foldl Report.merge b.report) := by
  induction outcomes generalizing b with
  | nil => simp [result, h]
  | cons outcome outcomes ih =>
    cases outcome with
    | ok report =>
      rw [List.foldl_cons, take_ok h]
      exact ih h
    | error e =>
      rw [List.foldl_cons, take_error_strict h, foldl_take_of_stopped rfl]
      rfl

end Batch

namespace Registry

variable {ι : Type} (r : Registry) (load : ι → Except Failure SourceFile)

/-! ## Inputs one after the other -/

/-- The failure of an input: that of loading it, or the one that stops its run. -/
def failureOn (i : ι) : Option Failure :=
  match load i with
  | .error e => some e
  | .ok file =>
    match (r.run file).value with
    | .error e => some e
    | .ok _ => none

theorem failure?_runInput (i : ι) :
    Batch.failure? (r.runInput load i).value = r.failureOn load i := by
  unfold runInput failureOn
  cases load i with
  | error e => rfl
  | ok file =>
    show Batch.failure? (r.run file).value = match (r.run file).value with
      | .error e => some e
      | .ok _ => none
    cases (r.run file).value <;> rfl

/-- The failure that ends the analysis of the inputs. -/
def endedBy (inputs : List ι) : Option Failure :=
  if r.settings.failFast then inputs.findSome? (r.failureOn load) else none

/-- What the inputs add up to if no failure ends the analysis. -/
def total (inputs : List ι) : Report :=
  .mergeAll (inputs.map fun i => Batch.share (r.runInput load i).value)

theorem analyze_value (inputs : List ι) :
    (r.analyze load inputs).value =
      match r.endedBy load inputs with
      | some e => .error e
      | none => .ok (r.total load inputs) := by
  have hfailure : (inputs.map fun i => (r.runInput load i).value).findSome? Batch.failure? =
      inputs.findSome? (r.failureOn load) := by
    rw [List.findSome?_map]
    congr 1
    funext i
    exact r.failure?_runInput load i
  unfold analyze endedBy
  simp only [List.map_map]
  cases r.settings.failFast with
  | false =>
    rw [Batch.foldl_take_lenient _ rfl, List.map_map]
    rfl
  | true =>
    rw [Batch.foldl_take_strict _ rfl, List.map_map]
    simp only [if_true, ← hfailure]
    rfl

theorem endedBy_append (xs ys : List ι) :
    r.endedBy load (xs ++ ys) = (r.endedBy load xs).or (r.endedBy load ys) := by
  unfold endedBy
  split
  · exact List.findSome?_append
  · rfl

theorem total_append (xs ys : List ι) :
    r.total load (xs ++ ys) = (r.total load xs).merge (r.total load ys) := by
  unfold total
  rw [List.map_append, Report.mergeAll_append]

/-- **The analysis of inputs in a row is the merge of the analyses**, and fails as the first that does. -/
theorem analyze_append (xs ys : List ι) :
    (r.analyze load (xs ++ ys)).value = do
      let a ← (r.analyze load xs).value
      let b ← (r.analyze load ys).value
      return a.merge b := by
  rw [analyze_value, analyze_value, analyze_value, endedBy_append, total_append]
  cases r.endedBy load xs with
  | some e => rfl
  | none =>
    cases r.endedBy load ys with
    | some e => rfl
    | none => rfl

/-! ## The parts of the merged report -/

/-- The report on a file, empty if its run fails. -/
def reportOn (file : SourceFile) : Report :=
  match (r.run file).value with
  | .ok report => report
  | .error _ => .empty

/-- The files that can be loaded, in input order. -/
def loaded (inputs : List ι) : List SourceFile := inputs.filterMap fun i => (load i).toOption

/-- The report is put together from the runs of the files that can be loaded, in input order, with an
error for each of the other inputs. -/
structure MergesRuns (inputs : List ι) (report : Report) : Prop where
  ran : ∀ file ∈ loaded load inputs, (r.run file).value = .ok (r.reportOn file)
  findings : report.findings = (loaded load inputs).flatMap fun file => (r.reportOn file).findings
  errors : report.errors = inputs.flatMap fun i =>
    match load i with
    | .ok file => (r.reportOn file).errors
    | .error e => [s!"Analysis failed: {e.message}"]
  filesAnalyzed : report.stats.filesAnalyzed = (loaded load inputs).length
  nodesVisited : report.stats.nodesVisited = Node.countAll ((loaded load inputs).map (·.root))
  detectorsRun : report.stats.detectorsRun =
    ((loaded load inputs).map fun file => (r.reportOn file).stats.detectorsRun).foldr max 0

variable {r load} {i : ι} {inputs : List ι} {rest : Report}

theorem MergesRuns.nil : r.MergesRuns load [] .empty where
  ran := fun _ h => absurd h List.not_mem_nil
  findings := rfl
  errors := rfl
  filesAnalyzed := rfl
  nodesVisited := rfl
  detectorsRun := rfl

/-- An input that cannot be loaded adds an error and nothing else. -/
theorem MergesRuns.cons_error {e : Failure} (h : r.MergesRuns load inputs rest)
    (hload : load i = .error e) :
    r.MergesRuns load (i :: inputs) ((Batch.share (r.runInput load i).value).merge rest) := by
  have hshare : Batch.share (r.runInput load i).value =
      { errors := [s!"Analysis failed: {e.message}"] } := by
    unfold runInput
    rw [hload]
    rfl
  have hloaded : loaded load (i :: inputs) = loaded load inputs := by
    simp [loaded, hload, Except.toOption]
  rw [hshare]
  constructor
  case ran =>
    rw [hloaded]
    exact h.ran
  case findings => simp [Report.merge, hloaded, h.findings]
  case errors => simp [Report.merge, hload, h.errors]
  case filesAnalyzed => simp [Report.merge, Stats.merge, hloaded, h.filesAnalyzed]
  case nodesVisited => simp [Report.merge, Stats.merge, hloaded, h.nodesVisited]
  case detectorsRun => simp [Report.merge, Stats.merge, hloaded, h.detectorsRun]

/-- An input that is loaded and run adds the report of its run. -/
theorem MergesRuns.cons_ok {file : SourceFile} {report : Report} (h : r.MergesRuns load inputs rest)
    (hload : load i = .ok file) (hrun : (r.run file).value = .ok report) :
    r.MergesRuns load (i :: inputs) ((Batch.share (r.runInput load i).value).merge rest) := by
  have hreport : r.reportOn file = report := by
    unfold reportOn
    rw [hrun]
  have hshare : Batch.share (r.runInput load i).value = report := by
    unfold runInput
    rw [hload]
    show Batch.share (r.run file).value = report
    rw [hrun]
    rfl
  have hloaded : loaded load (i :: inputs) = file :: loaded load inputs := by
    simp [loaded, hload, Except.toOption]
  have hsum := r.eq_summarize_of_runAll (r.selected file) file hrun
  have hfiles : report.stats.filesAnalyzed = 1 := by rw [hsum, summarize_filesAnalyzed]
  have hnodes : report.stats.nodesVisited = file.root.count := by rw [hsum, summarize_nodesVisited]
  rw [hshare]
  constructor
  case ran =>
    intro f hf
    rw [hloaded] at hf
    rcases List.mem_cons.1 hf with rfl | hf
    · rw [hreport, hrun]
    · exact h.ran f hf
  case findings => simp [Report.merge, hloaded, hreport, h.findings]
  case errors => simp [Report.merge, hload, hreport, h.errors]
  case filesAnalyzed =>
    simp only [Report.merge, Stats.merge, hloaded, hfiles, h.filesAnalyzed, List.length_cons]
    omega
  case nodesVisited =>
    simp [Report.merge, Stats.merge, hloaded, hnodes, h.nodesVisited, Node.countAll]
  case detectorsRun => simp [Report.merge, Stats.merge, hloaded, hreport, h.detectorsRun]

/-- If every file that can be loaded is run to its end, the shares add up to the runs. -/
theorem mergesRuns_total (inputs : List ι)
    (h : ∀ i ∈ inputs, ∀ file, load i = .ok file → ∃ report, (r.run file).value = .ok report) :
    r.MergesRuns load inputs (r.total load inputs) := by
  induction inputs with
  | nil => exact .nil
  | cons i inputs ih =>
    have hrest := ih fun j hj => h j (List.mem_cons_of_mem _ hj)
    have hcons : r.total load (i :: inputs) =
        (Batch.share (r.runInput load i).value).merge (r.total load inputs) :=
      Report.mergeAll_cons _ _
    rw [hcons]
    cases hload : load i with
    | error e => exact hrest.cons_error hload
    | ok file =>
      obtain ⟨report, hrun⟩ := h i List.mem_cons_self file hload
      exact hrest.cons_ok hload hrun

theorem run_of_failureOn_eq_none {file : SourceFile} (h : r.failureOn load i = none)
    (hload : load i = .ok file) : ∃ report, (r.run file).value = .ok report := by
  unfold failureOn at h
  rw [hload] at h
  cases hrun : (r.run file).value with
  | error e => simp [hrun] at h
  | ok report => exact ⟨report, rfl⟩

end Registry

/-- **The analysis of many files is the merge of their runs, in input order.** Without fail-fast it
always gives a report: findings and errors of the runs one behind the other, an error for each input
that cannot be loaded, and the numbers of files, nodes and detectors. With fail-fast the first failing
input ends it with its failure, and if there is none the report is the same. So the analysis of two
lists of inputs in a row is the merge of the two analyses, and fails as the first of them that does. -/
theorem analyze_merges_runs (r : Registry) {ι : Type} (load : ι → Except Failure SourceFile) :
    (r.settings.failFast = false → ∀ inputs,
      ∃ report, (r.analyze load inputs).value = .ok report ∧ r.MergesRuns load inputs report) ∧
    (r.settings.failFast = true → ∀ inputs,
      (∀ e, inputs.findSome? (r.failureOn load) = some e →
        (r.analyze load inputs).value = .error e) ∧
      (inputs.findSome? (r.failureOn load) = none →
        ∃ report, (r.analyze load inputs).value = .ok report ∧ r.MergesRuns load inputs report ∧
          ((r.withFailFast false).analyze load inputs).value = .ok report)) ∧
    ∀ xs ys, (r.analyze load (xs ++ ys)).value = do
      let a ← (r.analyze load xs).value
      let b ← (r.analyze load ys).value
      return a.merge b := by
  refine ⟨?_, ?_, r.analyze_append load⟩
  · intro hlenient inputs
    refine ⟨r.total load inputs, ?_, Registry.mergesRuns_total inputs fun i _ file _ => ?_⟩
    · rw [Registry.analyze_value, Registry.endedBy, hlenient]
      rfl
    · exact ⟨_, r.runAll_lenient (r.selected file) file hlenient⟩
  · intro hstrict inputs
    have hended : r.endedBy load inputs = inputs.findSome? (r.failureOn load) := by
      simp [Registry.endedBy, hstrict]
    rw [Registry.analyze_value, hended]
    constructor
    · intro e he
      rw [he]
    · intro hnone
      rw [hnone]
      have hclean := List.findSome?_eq_none_iff.1 hnone
      refine ⟨_, rfl, Registry.mergesRuns_total inputs fun i hi file hload => ?_, ?_⟩
      · exact Registry.run_of_failureOn_eq_none (hclean i hi) hload
      · -- A run with fail-fast that succeeds is the lenient one.
        have hself : r.withFailFast true = r := by
          rw [← hstrict]
          rfl
        obtain ⟨report, hlenient, h⟩ := r.analyze_agree load inputs
        rw [hself, Registry.analyze_value, hended, hnone] at h
        rcases h with ⟨-, h⟩ | ⟨-, e, h⟩
        · rw [hlenient, ← h]
        · cases h

end PlsqlAudit
