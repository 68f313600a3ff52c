import PlsqlAudit.Json.Rule
import PlsqlAudit.Json.Source
import PlsqlAudit.Report

/-!
# JSON forms of findings, statistics and reports
-/

namespace PlsqlAudit

/-- The finding as an object. -/
def Finding.toJson (f : Finding) : Json :=
  .obj
    [("detector_id", .str f.detectorId), ("severity", f.severity.toJson),
     ("message", .str f.message), ("primary_location", f.primaryLocation.toJson),
     ("tags", .array Tag.toJson f.tags), ("remediation", f.remediation.toJson),
     ("fix_suggestion", .option .str f.fixSuggestion)]

/-- Reads a finding. -/
def Finding.ofJson : Json.Read Finding :=
  Json.record "Finding" 7
    (fun fields => do
      let id ← Json.field? fields "detector_id" Json.text
      let fix ← Json.field? fields "fix_suggestion" (Json.optional Json.text)
      let message ← Json.field? fields "message" Json.text
      let location ← Json.field? fields "primary_location" Location.ofJson
      let remediation ← Json.field? fields "remediation" Remediation.ofJson
      let severity ← Json.field? fields "severity" Severity.ofJson
      let tags ← Json.field? fields "tags" (Json.list Tag.ofJson)
      let id ← Json.need "detector_id" id
      let severity ← Json.need "severity" severity
      let message ← Json.need "message" message
      let location ← Json.need "primary_location" location
      let tags ← Json.need "tags" tags
      let remediation ← Json.need "remediation" remediation
      return ⟨id, severity, message, location, tags, remediation, fix.getD none⟩)
    (fun items => do
      let id ← Json.item "Finding" 7 items 0 Json.text
      let severity ← Json.item "Finding" 7 items 1 Severity.ofJson
      let message ← Json.item "Finding" 7 items 2 Json.text
      let location ← Json.item "Finding" 7 items 3 Location.ofJson
      let tags ← Json.item "Finding" 7 items 4 (Json.list Tag.ofJson)
      let remediation ← Json.item "Finding" 7 items 5 Remediation.ofJson
      let fix ← Json.item "Finding" 7 items 6 (Json.optional Json.text)
      return ⟨id, severity, message, location, tags, remediation, fix⟩)

/-- The statistics as an object. -/
def Stats.toJson (s : Stats) : Json :=
  .obj
    [("detectors_run", .nat s.detectorsRun), ("files_analyzed", .nat s.filesAnalyzed),
     ("nodes_visited", .nat s.nodesVisited), ("total_time_ms", .nat s.totalTimeMs),
     ("findings_by_severity", .map .nat s.findingsBySeverity),
     ("findings_by_detector", .map .nat s.findingsByDetector)]

/-- Reads a time in milliseconds, a number of 64 bits. -/
def Json.milliseconds : Json.Read Nat := Json.natBelow Number.wordLimit "u64"

/-- Reads statistics. -/
def Stats.ofJson : Json.Read Stats :=
  Json.record "AnalysisStats" 6
    (fun fields => do
      let detectors ← Json.field? fields "detectors_run" Json.word
      let files ← Json.field? fields "files_analyzed" Json.word
      let byDetector ← Json.field? fields "findings_by_detector" (Json.nameMap Json.word)
      let bySeverity ← Json.field? fields "findings_by_severity" (Json.nameMap Json.word)
      let nodes ← Json.field? fields "nodes_visited" Json.word
      let time ← Json.field? fields "total_time_ms" Json.milliseconds
      let detectors ← Json.need "detectors_run" detectors
      let files ← Json.need "files_analyzed" files
      let nodes ← Json.need "nodes_visited" nodes
      let time ← Json.need "total_time_ms" time
      let bySeverity ← Json.need "findings_by_severity" bySeverity
      let byDetector ← Json.need "findings_by_detector" byDetector
      return ⟨detectors, files, nodes, time, bySeverity, byDetector⟩)
    (fun items => do
      let detectors ← Json.item "AnalysisStats" 6 items 0 Json.word
      let files ← Json.item "AnalysisStats" 6 items 1 Json.word
      let nodes ← Json.item "AnalysisStats" 6 items 2 Json.word
      let time ← Json.item "AnalysisStats" 6 items 3 Json.milliseconds
      let bySeverity ← Json.item "AnalysisStats" 6 items 4 (Json.nameMap Json.word)
      let byDetector ← Json.item "AnalysisStats" 6 items 5 (Json.nameMap Json.word)
      return ⟨detectors, files, nodes, time, bySeverity, byDetector⟩)

/-- The report as an object. -/
def Report.toJson (r : Report) : Json :=
  .obj
    [("findings", .array Finding.toJson r.findings), ("stats", r.stats.toJson),
     ("errors", .array .str r.errors)]

/-- Reads a report. -/
def Report.ofJson : Json.Read Report :=
  Json.record "AnalysisResult" 3
    (fun fields => do
      let errors ← Json.field? fields "errors" (Json.list Json.text)
      let findings ← Json.field? fields "findings" (Json.list Finding.ofJson)
      let stats ← Json.field? fields "stats" Stats.ofJson
      let findings ← Json.need "findings" findings
      let stats ← Json.need "stats" stats
      let errors ← Json.need "errors" errors
      return ⟨findings, stats, errors⟩)
    (fun items => do
      let findings ← Json.item "AnalysisResult" 3 items 0 (Json.list Finding.ofJson)
      let stats ← Json.item "AnalysisResult" 3 items 1 Stats.ofJson
      let errors ← Json.item "AnalysisResult" 3 items 2 (Json.list Json.text)
      return ⟨findings, stats, errors⟩)

end PlsqlAudit
