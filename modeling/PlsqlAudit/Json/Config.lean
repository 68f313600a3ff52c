import PlsqlAudit.Config.Basic
import PlsqlAudit.Json.Rule

/-!
# JSON forms of configurations and settings

Everything in a configuration has a default, so fields may be missing from its objects, and items
from the end of its arrays.
-/

namespace PlsqlAudit

/-- The override as an object. -/
def Override.toJson (o : Override) : Json :=
  .obj
    [("severity", .option Severity.toJson o.severity),
     ("remediation", .option Remediation.toJson o.remediation)]

/-- Reads an override. -/
def Override.ofJson : Json.Read Override :=
  Json.record "RuleSettings" 2
    (fun fields => do
      let remediation ← Json.field? fields "remediation" (Json.optional Remediation.ofJson)
      let severity ← Json.field? fields "severity" (Json.optional Severity.ofJson)
      return ⟨severity.getD none, remediation.getD none⟩)
    (fun items => do
      let severity ← Json.itemD items 0 (Json.optional Severity.ofJson) none
      let remediation ← Json.itemD items 1 (Json.optional Remediation.ofJson) none
      return ⟨severity, remediation⟩)

/-- The general settings as an object. -/
def General.toJson (g : General) : Json :=
  .obj
    [("min_severity", g.minSeverity.toJson), ("fail_fast", .bool g.failFast),
     ("max_threads", .nat g.maxThreads)]

/-- Reads general settings. -/
def General.ofJson : Json.Read General :=
  Json.record "GeneralConfig" 3
    (fun fields => do
      let failFast ← Json.field? fields "fail_fast" Json.truth
      let maxThreads ← Json.field? fields "max_threads" Json.word
      let minSeverity ← Json.field? fields "min_severity" Severity.ofJson
      return ⟨minSeverity.getD .info, failFast.getD false, maxThreads.getD 0⟩)
    (fun items => do
      let minSeverity ← Json.itemD items 0 Severity.ofJson .info
      let failFast ← Json.itemD items 1 Json.truth false
      let maxThreads ← Json.itemD items 2 Json.word 0
      return ⟨minSeverity, failFast, maxThreads⟩)

/-- The choice of rules as an object. -/
def RuleChoice.toJson (c : RuleChoice) : Json :=
  .obj
    [("enabled_rules", .array .str c.enabledRules), ("disabled_rules", .array .str c.disabledRules),
     ("enabled_tags", .array Tag.toJson c.enabledTags), ("overrides", .map Override.toJson c.overrides)]

/-- Reads a choice of rules. -/
def RuleChoice.ofJson : Json.Read RuleChoice :=
  Json.record "RulesConfig" 4
    (fun fields => do
      let disabled ← Json.field? fields "disabled_rules" (Json.list Json.text)
      let enabled ← Json.field? fields "enabled_rules" (Json.list Json.text)
      let tags ← Json.field? fields "enabled_tags" (Json.list Tag.ofJson)
      let overrides ← Json.field? fields "overrides" (Json.nameMap Override.ofJson)
      return ⟨enabled.getD [], disabled.getD [], tags.getD [], overrides.getD .empty⟩)
    (fun items => do
      let enabled ← Json.itemD items 0 (Json.list Json.text) []
      let disabled ← Json.itemD items 1 (Json.list Json.text) []
      let tags ← Json.itemD items 2 (Json.list Tag.ofJson) []
      let overrides ← Json.itemD items 3 (Json.nameMap Override.ofJson) .empty
      return ⟨enabled, disabled, tags, overrides⟩)

/-- The configuration as an object. -/
def Config.toJson (c : Config) : Json :=
  .obj [("general", c.general.toJson), ("rules", c.rules.toJson)]

/-- Reads a configuration. -/
def Config.ofJson : Json.Read Config :=
  Json.record "AnalyzerConfig" 2
    (fun fields => do
      let general ← Json.field? fields "general" General.ofJson
      let rules ← Json.field? fields "rules" RuleChoice.ofJson
      return ⟨general.getD {}, rules.getD {}⟩)
    (fun items => do
      let general ← Json.itemD items 0 General.ofJson {}
      let rules ← Json.itemD items 1 RuleChoice.ofJson {}
      return ⟨general, rules⟩)

/-- The settings of a registry as an object. -/
def Settings.toJson (s : Settings) : Json :=
  .obj
    [("max_threads", .nat s.maxThreads), ("fail_fast", .bool s.failFast),
     ("min_severity", s.minSeverity.toJson), ("enabled_tags", .array Tag.toJson s.enabledTags),
     ("overrides", .map Override.toJson s.overrides)]

end PlsqlAudit
