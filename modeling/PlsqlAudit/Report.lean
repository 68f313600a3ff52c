import PlsqlAudit.Data.NameMap
import PlsqlAudit.Report.Finding

/-!
# Reports

* `Stats` — how much was looked at and how many findings there are, by severity and by detector.
* `Report` — the findings of one or more files, statistics about them, and the errors met.
* `Report.add` keeps the statistics in step with the findings; `Report.merge` puts the report on
  further files behind this one.
-/

namespace PlsqlAudit

/-- Statistics about an analysis. -/
structure Stats where
  detectorsRun : Nat := 0
  filesAnalyzed : Nat := 0
  nodesVisited : Nat := 0
  totalTimeMs : Nat := 0
  findingsBySeverity : NameMap Nat := .empty
  findingsByDetector : NameMap Nat := .empty
  deriving DecidableEq

namespace Stats

/-- Counts one more finding. -/
def record (s : Stats) (f : Finding) : Stats :=
  { s with
    findingsBySeverity := s.findingsBySeverity.addAt f.severity.display 1
    findingsByDetector := s.findingsByDetector.addAt f.detectorId 1 }

/-- The statistics of two analyses together. The detectors are taken to be the same ones, so the
larger number of them counts; all else adds up. -/
def merge (s t : Stats) : Stats where
  detectorsRun := max s.detectorsRun t.detectorsRun
  filesAnalyzed := s.filesAnalyzed + t.filesAnalyzed
  nodesVisited := s.nodesVisited + t.nodesVisited
  totalTimeMs := s.totalTimeMs + t.totalTimeMs
  findingsBySeverity := s.findingsBySeverity.addAll t.findingsBySeverity.entries
  findingsByDetector := s.findingsByDetector.addAll t.findingsByDetector.entries

end Stats

/-- What an analysis of one or more files gives. -/
structure Report where
  findings : List Finding := []
  stats : Stats := {}
  errors : List String := []
  deriving DecidableEq

namespace Report

/-- The report on no file. -/
def empty : Report := {}

/-- Adds a finding and counts it. -/
def add (r : Report) (f : Finding) : Report :=
  { r with findings := r.findings ++ [f], stats := r.stats.record f }

/-- Adds findings one after the other. -/
def addAll (r : Report) (fs : List Finding) : Report := fs.foldl add r

/-- Adds an error. -/
def addError (r : Report) (text : String) : Report := { r with errors := r.errors ++ [text] }

/-- Puts the report on further files behind this one. -/
def merge (r s : Report) : Report where
  findings := r.findings ++ s.findings
  stats := r.stats.merge s.stats
  errors := r.errors ++ s.errors

/-- The findings of at least the given severity. -/
def atLeast (r : Report) (severity : Severity) : List Finding :=
  r.findings.filter (severity ≤ ·.severity)

/-- The findings of one detector. -/
def fromDetector (r : Report) (id : String) : List Finding :=
  r.findings.filter (·.detectorId = id)

end Report

end PlsqlAudit
