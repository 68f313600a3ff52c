import PlsqlAudit.Log
import PlsqlAudit.Report.Finding

/-!
# Detectors

A detector looks for violations of one rule. It is shown the file once and then every node of the
kinds it subscribes to, in document order, each time with the context: the file under analysis and
the findings so far. It answers with a visit: the context as it leaves it, log lines, and a failure
if it has to give up. Detectors are there to add findings, but nothing keeps them from changing the
context in other ways, also when they fail. A detector keeps no state of its own.
-/

namespace PlsqlAudit

/-- What a detector answers when it is shown a file or a node. -/
structure Visit where
  /-- The context as the detector leaves it. -/
  context : Context
  log : List LogLine := []
  failure : Option Failure := none

/-- A check for violations of one rule. -/
structure Detector where
  metadata : Metadata
  subscriptions : List Kind
  visitNode : Node → Context → Visit
  visitFile : SourceFile → Context → Visit := fun _ c => { context := c }
  /-- Whether the detector is one of those that ship with the library. -/
  shipped : Bool := false

namespace Detector

/-- A detector is called by the key of its rule. -/
def id (d : Detector) : String := d.metadata.key

/-- The tags of the rule. -/
def tags (d : Detector) : List Tag := d.metadata.tags

/-- The source sets that the rule looks at. -/
def scope (d : Detector) : Scope := d.metadata.scope

/-- Whether the rule is active unless configured otherwise. -/
def activeByDefault (d : Detector) : Bool := d.metadata.activatedByDefault

end Detector

end PlsqlAudit
