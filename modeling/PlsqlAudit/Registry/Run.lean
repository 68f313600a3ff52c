import PlsqlAudit.Registry.Basic
import PlsqlAudit.Registry.Dispatch

/-!
# Running detectors on a file

* `Registry.run` — runs the enabled detectors whose scope and tags fit, in one walk of the tree. Each
  is shown the file first; those that do not fail then see the nodes.
* `Registry.runDetector` — runs one detector, enabled or not, and gives its findings as they are.

When a detector fails, its findings are dropped and the failure becomes an error of the report; with
fail-fast the failure ends the run instead. The time a run takes is left to the caller to measure:
reports say zero.
-/

namespace PlsqlAudit

/-- The state of a run outside the walk. -/
structure Progress where
  context : Context
  /-- The detectors that took the file without failing, in order. -/
  active : List Detector := []
  errors : List String := []
  log : List LogLine := []
  /-- The failure that ended the run, if one did. -/
  stopped : Option Failure := none

namespace Progress

/-- Takes note that detector `id` failed. -/
def fail (failFast : Bool) (p : Progress) (id : String) (e : Failure) : Progress :=
  let place := s!"Detector {id} failed on {p.context.path}"
  let text := s!"{place}: {e.message}"
  if failFast then
    { p with log := p.log ++ [⟨.error, text⟩], stopped := some (e.inContext place) }
  else
    { p with
      context := p.context.discard id
      errors := p.errors ++ [text]
      log := p.log ++ [⟨.warn, text⟩] }

/-- Takes note of a failure during the walk, unless the run has ended. -/
def replay (failFast : Bool) (p : Progress) (f : String × Failure) : Progress :=
  if p.stopped.isSome then p else p.fail failFast f.1 f.2

/-- Shows the file to detector `d`, unless the run has ended. -/
def openFile (failFast : Bool) (file : SourceFile) (p : Progress) (d : Detector) : Progress :=
  if p.stopped.isSome then p
  else
    let v := d.visitFile file p.context
    let p' := { p with context := v.context, log := p.log ++ v.log }
    match v.failure with
    | none => { p' with active := p'.active ++ [d] }
    | some e => p'.fail failFast d.id e

end Progress

/-- The context in which the analysis of a file begins. -/
def SourceFile.context (file : SourceFile) : Context := { path := file.path, isTest := file.isTest }

namespace Registry

/-- Whether detector `d` is to run on the file. -/
def wants (r : Registry) (file : SourceFile) (d : Detector) : Bool :=
  d.scope.includes file.isTest && r.settings.wantsTags d.tags

/-- The enabled detectors that are to run on the file, in the order in which they were enabled. -/
def selected (r : Registry) (file : SourceFile) : List Detector :=
  (r.enabled.filterMap r.get?).filter (r.wants file)

/-- The report of a run that came to its end. -/
def summarize (r : Registry) (ds : List Detector) (visited : Nat) (p : Progress) : Report :=
  let base : Report :=
    { stats := { detectorsRun := ds.length, filesAnalyzed := 1, nodesVisited := visited }
      errors := p.errors }
  base.addAll (r.settings.select p.context.findings)

/-- Runs the given detectors on a file. -/
def runAll (r : Registry) (ds : List Detector) (file : SourceFile) :
    Logged (Except Failure Report) :=
  let failFast := r.settings.failFast
  let opened := ds.foldl (Progress.openFile failFast file) { context := file.context }
  match opened.stopped with
  | some e => ⟨.error e, opened.log⟩
  | none =>
    let d := dispatch failFast opened.active opened.context file.root
    let walked : Progress := { opened with context := d.context, log := opened.log ++ d.log }
    let closed := d.failures.foldl (Progress.replay failFast) walked
    match closed.stopped with
    | some e => ⟨.error e, closed.log⟩
    | none =>
      let report := r.summarize ds d.visited closed
      let line := s!"{file.path}: {ds.length} detectors, {d.visited} nodes, " ++
        s!"{report.findings.length} findings"
      ⟨.ok report, closed.log ++ [⟨.debug, line⟩]⟩

/-- Runs the enabled detectors that fit on a file. -/
def run (r : Registry) (file : SourceFile) : Logged (Except Failure Report) :=
  r.runAll (r.selected file) file

end Registry

end PlsqlAudit
