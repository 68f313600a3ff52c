import PlsqlAudit.Detector
import PlsqlAudit.Tree.Occurrence

/-!
# Input parameters of national character type

The rule that input parameters should not be declared `NVARCHAR2`: comparing them with `VARCHAR2`
columns forces implicit conversions.

* `ParameterMode.classify` — a parameter is an output as soon as one of its own children is the
  keyword `OUT`; an `OUT` deeper down belongs to something else.
* `NationalInput.violation?` — the first `NVARCHAR2`, in any case, at or below the first datatype of
  an input parameter.
* `NationalInput.detector` — the detector, which reports each such parameter once.
-/

namespace PlsqlAudit

/-- The direction of a parameter. -/
inductive ParameterMode where
  /-- `IN`, or no mode at all. -/
  | input
  /-- `OUT` or `IN OUT`. -/
  | outputOrInOut
  deriving DecidableEq, Repr

/-- The direction of a parameter, told by its own children. -/
def ParameterMode.classify (param : Node) : ParameterMode :=
  if param.hasChild (.keyword .outWord) then .outputOrInOut else .input

namespace NationalInput

/-- The type name that input parameters should not use. -/
def typeName : String := "nvarchar2"

/-- What a finding says. -/
def message : String :=
  "Avoid using NVARCHAR2 in IN parameters: implicit conversions against VARCHAR2 columns can " ++
  "prevent index usage."

/-- What a finding suggests. -/
def suggestion : String :=
  "Declare the parameter as VARCHAR2, or convert explicitly where the national character set is " ++
  "required"

/-- The rule as it ships. -/
def metadata : Metadata where
  key := "in-nvarchar2-usage"
  name := "IN parameters should not use NVARCHAR2"
  description :=
    "Detects IN parameters declared with NVARCHAR2, which force implicit conversions when " ++
    "compared against VARCHAR2 data"
  severity := .major
  tags := [.performance]
  remediation := ⟨5, by decide⟩
  scope := .all
  activatedByDefault := true

/-- The node that a finding about the parameter points at, if there is one. -/
def violation? (param : Node) : Option Occurrence :=
  match ParameterMode.classify param with
  | .outputOrInOut => none
  | .input => (param.firstChild? .datatype).bind (·.find? typeName)

/-- What the rule answers when it is shown a node. -/
def visit (m : Metadata) (n : Node) (c : Context) : Visit :=
  if n.isKind .parameterDeclaration then
    match violation? n with
    | none => { context := c }
    | some o =>
      let f := { m.finding c message o.node.range with fixSuggestion := some suggestion }
      { context := c.report [f]
        log := [⟨.trace, s!"{c.path}: NVARCHAR2 input parameter at {o.node.range.describe}"⟩] }
  else { context := c }

/-- The detector of the rule, described by `m`. -/
def detectorWith (m : Metadata) : Detector where
  metadata := m
  subscriptions := [.parameterDeclaration]
  visitNode := visit m
  shipped := true

/-- The detector of the rule as it ships. -/
def detector : Detector := detectorWith metadata

end NationalInput

end PlsqlAudit
