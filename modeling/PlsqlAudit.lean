import PlsqlAudit.Config.File
import PlsqlAudit.Json.Config
import PlsqlAudit.Json.Report
import PlsqlAudit.Json.Tree
import PlsqlAudit.Registry.Batch
import PlsqlAudit.Tree.Layout
import PlsqlAudit.Proofs.Registry.Schedule
import PlsqlAudit.Proofs.Registry.Calls
import PlsqlAudit.Proofs.Registry.FailFast
import PlsqlAudit.Proofs.Registry.Invariant
import PlsqlAudit.Proofs.Registry.Isolation
import PlsqlAudit.Proofs.Detector.NationalInput
import PlsqlAudit.Proofs.Source.Coordinates
import PlsqlAudit.Proofs.Tree.Layout
import PlsqlAudit.Proofs.Registry.Activation
import PlsqlAudit.Proofs.Registry.Tags
import PlsqlAudit.Proofs.Registry.Batch
import PlsqlAudit.Proofs.Config.Apply
import PlsqlAudit.Proofs.Report.Statistics
import PlsqlAudit.Proofs.Detector.Location
import PlsqlAudit.Proofs.Tree.Topmost
import PlsqlAudit.Proofs.Json.RoundTrip
import PlsqlAudit.Proofs.Config.Yaml
import PlsqlAudit.Proofs.Rule.Canonical
import PlsqlAudit.Proofs.Detector.Respelling
import PlsqlAudit.Proofs.Tree.Bracket
import PlsqlAudit.Proofs.Tree.Span
