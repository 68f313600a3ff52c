import PlsqlAudit.Config.Basic
import PlsqlAudit.Number.Width
import PlsqlAudit.Report

/-!
# Data whose numbers have 64 bits

Lines, counts and times are numbers without a bound here, whereas data files hold numbers of 64 bits.
A value fits if all its numbers do.
-/

namespace PlsqlAudit

/-- Line, column and offset have 64 bits. -/
def Position.Fits (p : Position) : Prop :=
  p.line < Number.wordLimit ∧ p.column < Number.wordLimit ∧ p.offset < Number.wordLimit

/-- The numbers of both ends have 64 bits. -/
def Range.Fits (r : Range) : Prop := r.start.Fits ∧ r.stop.Fits

/-- The numbers of the range have 64 bits. -/
def Location.Fits (l : Location) : Prop := l.range.Fits

/-- The numbers of the location have 64 bits. -/
def Finding.Fits (f : Finding) : Prop := f.primaryLocation.Fits

/-- All numbers of a map have 64 bits. -/
def NameMap.Fits (m : NameMap Nat) : Prop := ∀ e ∈ m.entries, e.2 < Number.wordLimit

/-- All counts have 64 bits. -/
structure Stats.Fits (s : Stats) : Prop where
  detectorsRun : s.detectorsRun < Number.wordLimit
  filesAnalyzed : s.filesAnalyzed < Number.wordLimit
  nodesVisited : s.nodesVisited < Number.wordLimit
  totalTimeMs : s.totalTimeMs < Number.wordLimit
  bySeverity : s.findingsBySeverity.Fits
  byDetector : s.findingsByDetector.Fits

/-- The numbers of all findings and of the statistics have 64 bits. -/
def Report.Fits (r : Report) : Prop := (∀ f ∈ r.findings, f.Fits) ∧ r.stats.Fits

/-- The number of threads has 64 bits. -/
def Config.Fits (c : Config) : Prop := c.general.maxThreads < Number.wordLimit

end PlsqlAudit
