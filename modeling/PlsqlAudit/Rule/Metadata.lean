import PlsqlAudit.Rule.Severity
import PlsqlAudit.Rule.Remediation

/-!
# Metadata of a rule

Everything there is to know about a rule without running it. A rule is called by its key, which
must hold more than blanks.
-/

namespace PlsqlAudit

/-- The static description of a rule. -/
structure Metadata where
  key : String
  name : String
  description : String
  severity : Severity
  tags : List Tag := []
  remediation : Remediation := .zero
  scope : Scope := .main
  activatedByDefault : Bool := false
  deriving DecidableEq

/-- Why metadata cannot be made. -/
inductive MetadataError where
  | emptyKey
  | invalidDuration (text : String)
  deriving DecidableEq, Repr

namespace MetadataError

/-- The wording of the error. -/
def message : MetadataError → String
  | emptyKey => "rule key must not be empty"
  | invalidDuration text => Remediation.refusal text

end MetadataError

/-- The time that `text` writes, or the text itself as the reason for refusal. -/
def Remediation.parse (text : String) : Except MetadataError Remediation :=
  match parse? text with
  | some r => .ok r
  | none => .error (.invalidDuration text)

namespace Metadata

/-- A rule with no tags, no time to fix, for production sources, that has to be enabled. -/
def create (key name description : String) (severity : Severity) :
    Except MetadataError Metadata :=
  if Text.allBlank key then .error .emptyKey
  else .ok { key, name, description, severity }

/-- Adds a tag, unless the rule carries it already. -/
def withTag (m : Metadata) (t : Tag) : Metadata :=
  if t ∈ m.tags then m else { m with tags := m.tags ++ [t] }

end Metadata

end PlsqlAudit
