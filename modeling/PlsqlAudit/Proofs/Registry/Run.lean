import PlsqlAudit.Proofs.Registry.Schedule
import PlsqlAudit.Registry.Run

/-!
# The stages of a run

A run shows the file to the detectors, walks the tree, goes through the failures of the walk and
sums up. This module says of each stage what it does, so that later proofs do not open the run.

* `Detector.AppendsOnly` — a detector that changes the context only by adding findings. A run of such
  detectors stays with its file (`Registry.walked_path`); of others nothing of the kind can be said.
* `failurePlace`, `failureText` — how a run words a failure.
* `Progress.openFile_of_ok`, `Progress.openFile_of_failure` — what a detector can do to a run when it
  is shown the file.
* `Progress.foldl_replay_lenient` — without fail-fast, going through failures drops the findings of
  the detectors concerned and keeps one error for each.
* `Registry.opened`, `Registry.closed` — the run after its first and after its third stage.
* `Registry.runAll_value`, `Registry.runAll_lenient` — a run is the report on its last stage, unless
  it was stopped; without fail-fast it never is.
-/

namespace PlsqlAudit

/-! ## Contexts -/

namespace Context

variable (c : Context)

@[simp] theorem report_path (fs : List Finding) : (c.report fs).path = c.path := rfl

@[simp] theorem report_isTest (fs : List Finding) : (c.report fs).isTest = c.isTest := rfl

@[simp] theorem report_findings (fs : List Finding) :
    (c.report fs).findings = c.findings ++ fs := rfl

@[simp] theorem report_nil : c.report [] = c := by
  simp [report]

@[simp] theorem discard_path (id : String) : (c.discard id).path = c.path := rfl

@[simp] theorem discard_isTest (id : String) : (c.discard id).isTest = c.isTest := rfl

end Context

/-! ## Visits that only add findings -/

/-- The visit, made in context `c`, changed the context at most by adding findings. -/
def Visit.Appends (c : Context) (v : Visit) : Prop := ∃ fs, v.context = c.report fs

theorem Visit.Appends.path {c : Context} {v : Visit} (h : v.Appends c) : v.context.path = c.path := by
  obtain ⟨fs, hfs⟩ := h
  rw [hfs, Context.report_path]

theorem Visit.Appends.isTest {c : Context} {v : Visit} (h : v.Appends c) :
    v.context.isTest = c.isTest := by
  obtain ⟨fs, hfs⟩ := h
  rw [hfs, Context.report_isTest]

/-- A detector that changes the context only by adding findings, whether it fails or not. -/
structure Detector.AppendsOnly (d : Detector) : Prop where
  node : ∀ n c, (d.visitNode n c).Appends c
  file : ∀ file c, (d.visitFile file c).Appends c

namespace Dispatch

/-- A walk of detectors that only add findings stays with its file. -/
theorem foldl_offer_path {failFast : Bool} (xs : List Call) (h : ∀ x ∈ xs, x.1.AppendsOnly)
    (s : Dispatch) : (xs.foldl (offer failFast) s).context.path = s.context.path := by
  induction xs generalizing s with
  | nil => rfl
  | cons x xs ih =>
    rw [List.foldl_cons, ih fun y hy => h y (List.mem_cons_of_mem _ hy)]
    unfold offer
    split
    · rfl
    · rw [call_context, ((h x List.mem_cons_self).node x.2 s.context).path]

end Dispatch

/-! ## Failures of a run -/

/-- Where a detector failed. -/
def failurePlace (path id : String) : String := s!"Detector {id} failed on {path}"

/-- Where and how a detector failed. -/
def failureText (path id : String) (e : Failure) : String :=
  s!"Detector {id} failed on {path}: {e.message}"

theorem failureText_eq (path id : String) (e : Failure) :
    failureText path id e = failurePlace path id ++ ": " ++ e.message := rfl

namespace Progress

variable {failFast : Bool} {file : SourceFile} {p : Progress} {d : Detector}

theorem fail_lenient (p : Progress) (id : String) (e : Failure) :
    p.fail false id e =
      { p with
        context := p.context.discard id
        errors := p.errors ++ [failureText p.context.path id e]
        log := p.log ++ [⟨.warn, failureText p.context.path id e⟩] } := rfl

theorem fail_strict_stopped (p : Progress) (id : String) (e : Failure) :
    (p.fail true id e).stopped = some (e.inContext (failurePlace p.context.path id)) := rfl

/-- Without fail-fast, going through failures drops the findings of the detectors concerned and
keeps one error for each failure, in order. -/
theorem foldl_replay_lenient (fs : List (String × Failure)) (h : p.stopped = none) :
    (fs.foldl (replay false) p).stopped = none ∧
      (fs.foldl (replay false) p).context = (fs.map (·.1)).foldl Context.discard p.context ∧
      (fs.foldl (replay false) p).errors =
        p.errors ++ fs.map fun f => failureText p.context.path f.1 f.2 := by
  induction fs generalizing p with
  | nil => exact ⟨h, rfl, (List.append_nil _).symm⟩
  | cons f fs ih =>
    have hreplay : replay false p f = p.fail false f.1 f.2 := by
      unfold replay
      rw [h]
      rfl
    rw [List.foldl_cons, hreplay, fail_lenient]
    obtain ⟨h1, h2, h3⟩ := ih (p :=
      { p with
        context := p.context.discard f.1
        errors := p.errors ++ [failureText p.context.path f.1 f.2]
        log := p.log ++ [⟨.warn, failureText p.context.path f.1 f.2⟩] }) h
    refine ⟨h1, h2, ?_⟩
    rw [h3]
    simp

/-! ## Showing the file -/

/-- A detector that takes the file is active from then on. -/
theorem openFile_of_ok (h : p.stopped = none) (hv : (d.visitFile file p.context).failure = none) :
    openFile failFast file p d =
      { p with
        context := (d.visitFile file p.context).context
        log := p.log ++ (d.visitFile file p.context).log
        active := p.active ++ [d] } := by
  unfold openFile
  rw [h]
  simp [hv]

/-- A detector that fails on the file leaves its context behind, and the run takes note. -/
theorem openFile_of_failure {e : Failure} (h : p.stopped = none)
    (hv : (d.visitFile file p.context).failure = some e) :
    openFile failFast file p d =
      fail failFast
        { p with
          context := (d.visitFile file p.context).context
          log := p.log ++ (d.visitFile file p.context).log } d.id e := by
  unfold openFile
  rw [h]
  simp [hv]

theorem openFile_of_stopped {e : Failure} (h : p.stopped = some e) :
    openFile failFast file p d = p := by
  unfold openFile
  rw [h]
  rfl

theorem mem_active_openFile {x : Detector} (h : x ∈ (openFile failFast file p d).active) :
    x ∈ p.active ∨ x = d := by
  cases hs : p.stopped with
  | some e =>
    rw [openFile_of_stopped hs] at h
    exact .inl h
  | none =>
    cases hv : (d.visitFile file p.context).failure with
    | none =>
      rw [openFile_of_ok hs hv] at h
      exact (List.mem_append.1 h).imp id List.mem_singleton.1
    | some e =>
      rw [openFile_of_failure hs hv] at h
      cases failFast <;> exact .inl h

/-- Without fail-fast, showing the file to a detector does not stop the run and keeps the errors so
far. -/
theorem openFile_lenient (file : SourceFile) (d : Detector) (h : p.stopped = none) :
    (openFile false file p d).stopped = none ∧ p.errors <+: (openFile false file p d).errors := by
  cases hv : (d.visitFile file p.context).failure with
  | none =>
    rw [openFile_of_ok h hv]
    exact ⟨h, List.prefix_rfl⟩
  | some e =>
    rw [openFile_of_failure h hv, fail_lenient]
    exact ⟨h, List.prefix_append _ _⟩

theorem foldl_openFile_lenient (ds : List Detector) (h : p.stopped = none) :
    (ds.foldl (openFile false file) p).stopped = none := by
  induction ds generalizing p with
  | nil => exact h
  | cons d ds ih => exact ih (openFile_lenient file d h).1

/-- A detector that only adds findings leaves the run with its file. -/
theorem openFile_path (hd : d.AppendsOnly) :
    (openFile failFast file p d).context.path = p.context.path := by
  have hpath := (hd.file file p.context).path
  cases hs : p.stopped with
  | some e => rw [openFile_of_stopped hs]
  | none =>
    cases hv : (d.visitFile file p.context).failure with
    | none =>
      rw [openFile_of_ok hs hv]
      exact hpath
    | some e =>
      rw [openFile_of_failure hs hv]
      cases failFast <;> exact hpath

theorem foldl_openFile_path (ds : List Detector) (hds : ∀ d ∈ ds, d.AppendsOnly) :
    (ds.foldl (openFile failFast file) p).context.path = p.context.path := by
  induction ds generalizing p with
  | nil => rfl
  | cons d ds ih =>
    rw [List.foldl_cons, ih fun x hx => hds x (List.mem_cons_of_mem _ hx),
      openFile_path (hds d List.mem_cons_self)]

end Progress

/-! ## Reports -/

namespace Report

theorem addAll_eq (r : Report) (fs : List Finding) :
    r.addAll fs =
      { r with findings := r.findings ++ fs, stats := fs.foldl Stats.record r.stats } := by
  unfold addAll
  induction fs generalizing r with
  | nil => simp
  | cons f fs ih => rw [List.foldl_cons, ih]; simp [add]

end Report

theorem Stats.foldl_record (s : Stats) (fs : List Finding) :
    ∃ bySeverity byDetector, fs.foldl Stats.record s =
      { s with findingsBySeverity := bySeverity, findingsByDetector := byDetector } := by
  induction fs generalizing s with
  | nil => exact ⟨_, _, rfl⟩
  | cons f fs ih => exact ih (s.record f)

/-! ## The whole run -/

namespace Registry

/-- The run after the file was shown to the detectors. -/
def opened (failFast : Bool) (ds : List Detector) (file : SourceFile) : Progress :=
  ds.foldl (Progress.openFile failFast file) { context := file.context }

/-- The walk of a run. -/
def walked (failFast : Bool) (ds : List Detector) (file : SourceFile) : Dispatch :=
  dispatch failFast (opened failFast ds file).active (opened failFast ds file).context file.root

/-- The run after it went through the failures of its walk. -/
def closed (failFast : Bool) (ds : List Detector) (file : SourceFile) : Progress :=
  (walked failFast ds file).failures.foldl (Progress.replay failFast)
    { opened failFast ds file with
      context := (walked failFast ds file).context
      log := (opened failFast ds file).log ++ (walked failFast ds file).log }

variable (r : Registry) (ds : List Detector) (file : SourceFile)

/-- A run gives the failure that stopped it, or else the report on its last stage. -/
theorem runAll_value :
    (r.runAll ds file).value =
      match (opened r.settings.failFast ds file).stopped with
      | some e => .error e
      | none =>
        match (closed r.settings.failFast ds file).stopped with
        | some e => .error e
        | none =>
          .ok (r.summarize ds file.root.count (closed r.settings.failFast ds file)) := by
  have hvisited : (walked r.settings.failFast ds file).visited = file.root.count := by
    unfold walked
    rw [dispatch_eq_foldl_offer]
  rw [← hvisited]
  show (match (opened r.settings.failFast ds file).stopped with
      | some e => Logged.mk (Except.error e) _
      | none =>
        match (closed r.settings.failFast ds file).stopped with
        | some e => Logged.mk (Except.error e) _
        | none =>
          Logged.mk (Except.ok (r.summarize ds _ (closed r.settings.failFast ds file))) _).value = _
  split
  · rfl
  · split <;> rfl

/-- A report can only be the one on the last stage. -/
theorem eq_summarize_of_runAll {report : Report} (h : (r.runAll ds file).value = .ok report) :
    report = r.summarize ds file.root.count (closed r.settings.failFast ds file) := by
  rw [runAll_value] at h
  split at h
  · cases h
  · split at h
    · cases h
    · exact (Except.ok.inj h).symm

/-- Only detectors of the run become active. -/
theorem mem_active_opened (failFast : Bool) : ∀ d ∈ (opened failFast ds file).active, d ∈ ds := by
  suffices h : ∀ (ds : List Detector) (p : Progress),
      ∀ d ∈ (ds.foldl (Progress.openFile failFast file) p).active, d ∈ p.active ∨ d ∈ ds by
    intro d hd
    exact (h ds _ d hd).resolve_left List.not_mem_nil
  intro ds
  induction ds with
  | nil => intro p d hd; exact .inl hd
  | cons x xs ih =>
    intro p d hd
    rcases ih _ d hd with hd | hd
    · rcases Progress.mem_active_openFile hd with hd | rfl
      · exact .inl hd
      · exact .inr List.mem_cons_self
    · exact .inr (List.mem_cons_of_mem _ hd)

theorem opened_path (failFast : Bool) (hds : ∀ d ∈ ds, d.AppendsOnly) :
    (opened failFast ds file).context.path = file.path :=
  Progress.foldl_openFile_path ds hds

/-- A run of detectors that only add findings stays with its file. -/
theorem walked_path (failFast : Bool) (hds : ∀ d ∈ ds, d.AppendsOnly) :
    (walked failFast ds file).context.path = file.path := by
  have hplan : ∀ x ∈ schedule (opened failFast ds file).active file.root, x.1.AppendsOnly :=
    fun x hx => hds _ (mem_active_opened ds file failFast _ (mem_schedule hx).1)
  unfold walked
  rw [dispatch_eq_foldl_offer]
  exact (Dispatch.foldl_offer_path _ hplan _).trans (opened_path ds file failFast hds)

/-- Without fail-fast the run is not stopped when the file is shown. -/
theorem opened_lenient : (opened false ds file).stopped = none :=
  Progress.foldl_openFile_lenient ds rfl

/-- Without fail-fast, the last stage has the findings of the walk less those of the detectors that
failed, and one error for each failure. -/
theorem closed_lenient :
    (closed false ds file).stopped = none ∧
      (closed false ds file).context =
        ((walked false ds file).failures.map (·.1)).foldl Context.discard
          (walked false ds file).context ∧
      (closed false ds file).errors =
        (opened false ds file).errors ++ (walked false ds file).failures.map fun f =>
          failureText (walked false ds file).context.path f.1 f.2 :=
  Progress.foldl_replay_lenient (walked false ds file).failures (opened_lenient ds file)

/-- **Without fail-fast a run always gives a report.** -/
theorem runAll_lenient (h : r.settings.failFast = false) :
    (r.runAll ds file).value = .ok (r.summarize ds file.root.count (closed false ds file)) := by
  rw [runAll_value, h, opened_lenient ds file, (closed_lenient ds file).1]

@[simp] theorem summarize_findings (n : Nat) (p : Progress) :
    (r.summarize ds n p).findings = r.settings.select p.context.findings := by
  unfold summarize
  rw [Report.addAll_eq]
  simp

@[simp] theorem summarize_errors (n : Nat) (p : Progress) :
    (r.summarize ds n p).errors = p.errors := by
  unfold summarize
  rw [Report.addAll_eq]

/-- Of the statistics of a run, only the counts of findings depend on what was found. -/
theorem summarize_stats (n : Nat) (p : Progress) :
    ∃ bySeverity byDetector, (r.summarize ds n p).stats =
      { detectorsRun := ds.length
        filesAnalyzed := 1
        nodesVisited := n
        findingsBySeverity := bySeverity
        findingsByDetector := byDetector } := by
  unfold summarize
  rw [Report.addAll_eq]
  exact Stats.foldl_record _ _

@[simp] theorem summarize_nodesVisited (n : Nat) (p : Progress) :
    (r.summarize ds n p).stats.nodesVisited = n := by
  obtain ⟨_, _, h⟩ := r.summarize_stats ds n p
  rw [h]

@[simp] theorem summarize_detectorsRun (n : Nat) (p : Progress) :
    (r.summarize ds n p).stats.detectorsRun = ds.length := by
  obtain ⟨_, _, h⟩ := r.summarize_stats ds n p
  rw [h]

@[simp] theorem summarize_filesAnalyzed (n : Nat) (p : Progress) :
    (r.summarize ds n p).stats.filesAnalyzed = 1 := by
  obtain ⟨_, _, h⟩ := r.summarize_stats ds n p
  rw [h]

end Registry

end PlsqlAudit
