import PlsqlAudit.Registry.Run

/-!
# Running detectors on many files

Files are loaded and analysed independently of each other, and their reports are merged in input
order. A file that cannot be loaded, or whose run ends early, becomes an error of the merged report;
with fail-fast the first such file, in input order, ends the analysis. Either way all files are
looked at, so all of them are in the log.
-/

namespace PlsqlAudit

/-- The state of a merge of reports. -/
structure Batch where
  report : Report := {}
  log : List LogLine := []
  /-- The failure that ended the analysis, if one did. -/
  stopped : Option Failure := none

namespace Batch

/-- Merges what one more file gave, unless the analysis has ended. -/
def take (failFast : Bool) (b : Batch) (outcome : Except Failure Report) : Batch :=
  if b.stopped.isSome then b
  else
    match outcome with
    | .ok report => { b with report := b.report.merge report }
    | .error e =>
      if failFast then { b with stopped := some e }
      else
        { b with
          report := b.report.addError s!"Analysis failed: {e.message}"
          log := b.log ++ [⟨.warn, s!"File analysis failed: {e.message}"⟩] }

/-- What the analysis gave in the end. -/
def result (b : Batch) : Except Failure Report :=
  match b.stopped with
  | some e => .error e
  | none => .ok b.report

end Batch

namespace Registry

variable {ι : Type}

/-- Loads one input and runs the detectors on it. -/
def runInput (r : Registry) (load : ι → Except Failure SourceFile) (input : ι) :
    Logged (Except Failure Report) :=
  match load input with
  | .error e => ⟨.error e, []⟩
  | .ok file => r.run file

/-- Runs the detectors on all inputs and merges the reports in input order. -/
def analyze (r : Registry) (load : ι → Except Failure SourceFile) (inputs : List ι) :
    Logged (Except Failure Report) :=
  let outcomes := inputs.map (r.runInput load)
  let merged := (outcomes.map (·.value)).foldl (Batch.take r.settings.failFast) {}
  ⟨merged.result, outcomes.flatMap (·.log) ++ merged.log⟩

end Registry

end PlsqlAudit
