import PlsqlAudit.Report

/-!
# Settings of a registry

* `Override` — a severity or a time to fix that takes the place of a rule's own in its findings.
* `Settings` — how a registry runs its detectors and which findings it keeps.
* `Settings.select` — the findings after overrides, less those that are not severe enough.
-/

namespace PlsqlAudit

/-- What takes the place of a rule's own severity and time to fix. -/
structure Override where
  severity : Option Severity := none
  remediation : Option Remediation := none
  deriving DecidableEq

/-- The finding with what the override gives. -/
def Override.apply (o : Override) (f : Finding) : Finding :=
  { f with
    severity := o.severity.getD f.severity
    remediation := o.remediation.getD f.remediation }

/-- How a registry runs its detectors. -/
structure Settings where
  /-- The largest number of files to look at side by side; none means one for each core. -/
  maxThreads : Nat := 0
  /-- Whether the first failure of a detector ends the run. -/
  failFast : Bool := false
  /-- The least severity of a finding that is kept. -/
  minSeverity : Severity := .info
  /-- The tags of which a detector must carry one; none means that all detectors run. -/
  enabledTags : List Tag := []
  /-- Overrides by rule. -/
  overrides : NameMap Override := .empty
  deriving DecidableEq

namespace Settings

/-- The finding with the override of its rule, if there is one. -/
def adjust (s : Settings) (f : Finding) : Finding :=
  match s.overrides.get? f.detectorId with
  | none => f
  | some o => o.apply f

/-- The findings with their overrides, of which those that are severe enough are kept. -/
def select (s : Settings) (fs : List Finding) : List Finding :=
  (fs.map s.adjust).filter (s.minSeverity ≤ ·.severity)

/-- Whether a rule with these tags is to run. -/
def wantsTags (s : Settings) (tags : List Tag) : Bool :=
  s.enabledTags.isEmpty || tags.any (· ∈ s.enabledTags)

end Settings

end PlsqlAudit
