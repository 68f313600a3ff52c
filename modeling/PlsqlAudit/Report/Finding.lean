import PlsqlAudit.Rule.Metadata
import PlsqlAudit.Tree.Node

/-!
# Findings

* `Finding` — what a detector reports about one place of a file.
* `Context` — the file under analysis and the findings about it so far, in the order reported.
* `Metadata.finding` — a finding with the severity, tags and time to fix of a rule.
-/

namespace PlsqlAudit

/-- What a detector reports about one place. -/
structure Finding where
  detectorId : String
  severity : Severity
  message : String
  primaryLocation : Location
  tags : List Tag := []
  remediation : Remediation := .zero
  fixSuggestion : Option String := none
  deriving DecidableEq

/-- Adds tags behind those the finding has, repeated or not. -/
def Finding.withTags (f : Finding) (tags : List Tag) : Finding := { f with tags := f.tags ++ tags }

/-- The file under analysis and the findings so far. -/
structure Context where
  path : String
  isTest : Bool
  findings : List Finding := []
  deriving DecidableEq

namespace Context

/-- A range of the file under analysis. -/
def locate (c : Context) (range : Range) : Location := ⟨c.path, range⟩

/-- Takes up findings behind those so far. -/
def report (c : Context) (findings : List Finding) : Context :=
  { c with findings := c.findings ++ findings }

/-- Drops the findings of one detector. -/
def discard (c : Context) (id : String) : Context :=
  { c with findings := c.findings.filter (·.detectorId ≠ id) }

end Context

/-- A finding of the rule at `range` of the file under analysis. -/
def Metadata.finding (m : Metadata) (c : Context) (message : String) (range : Range) : Finding where
  detectorId := m.key
  severity := m.severity
  message := message
  primaryLocation := c.locate range
  tags := m.tags
  remediation := m.remediation

end PlsqlAudit
