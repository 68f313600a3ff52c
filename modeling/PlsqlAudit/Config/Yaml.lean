import PlsqlAudit.Config.Basic
import PlsqlAudit.Yaml.Decode
import PlsqlAudit.Yaml.Node.Parser
import PlsqlAudit.Yaml.Value.Printer

/-!
# Configurations in YAML

* `Config.ofNode` — reads a configuration from a YAML value; whatever is not given has its default.
* `Config.toValue` — the YAML value of a configuration.
* `Config.ofYaml`, `Config.toYaml` — the same for text.
-/

namespace PlsqlAudit

open Yaml (Read Value)

/-- Reads a severity. -/
def Severity.ofNode : Read Severity :=
  Yaml.choice (Severity.all.map Severity.name) Severity.ofName?

/-- Reads a tag; a custom one is a text with the local tag `custom`. -/
def Tag.ofNode : Read Tag := Yaml.named fun path n => do
  let (name, tagged) ← Yaml.variant path n
  if name = "custom" then
    if tagged then return .custom (← Yaml.text path n)
    else Yaml.refuse path n (.invalidType .unitVariant "newtype variant")
  else
    match Tag.fixed.find? (fun t => t.name = name) with
    | none => Yaml.unknownVariant path n name tagged Tag.names
    | some t => do
      if tagged then Yaml.noContent path n
      return t

/-- Reads a time to fix. A text that writes none is known as such only to what holds it. -/
def Remediation.ofNode : Read Remediation := fun path n => do
  let text ← Yaml.text path n
  match Remediation.parse? text with
  | some r => return r
  | none => Yaml.refuseUnplaced (.invalidDuration text)

/-- The fields of an override. -/
def Override.field? : String → Option (Override → Read Override)
  | "severity" => some fun o path n =>
    return { o with severity := ← Yaml.optional Severity.ofNode path n }
  | "remediation" => some fun o path n =>
    return { o with remediation := ← Yaml.optional Remediation.ofNode path n }
  | _ => none

/-- Reads an override. -/
def Override.ofNode : Read Override := Yaml.record "RuleSettings" {} Override.field?

/-- The fields of the general settings. -/
def General.field? : String → Option (General → Read General)
  | "min_severity" => some fun g path n =>
    return { g with minSeverity := ← Severity.ofNode path n }
  | "fail_fast" => some fun g path n => return { g with failFast := ← Yaml.truth path n }
  | "max_threads" => some fun g path n => return { g with maxThreads := ← Yaml.word path n }
  | _ => none

/-- Reads general settings. -/
def General.ofNode : Read General := Yaml.record "GeneralConfig" {} General.field?

/-- The fields of a choice of rules. -/
def RuleChoice.field? : String → Option (RuleChoice → Read RuleChoice)
  | "enabled_rules" => some fun c path n =>
    return { c with enabledRules := ← Yaml.list Yaml.text path n }
  | "disabled_rules" => some fun c path n =>
    return { c with disabledRules := ← Yaml.list Yaml.text path n }
  | "enabled_tags" => some fun c path n =>
    return { c with enabledTags := ← Yaml.list Tag.ofNode path n }
  | "overrides" => some fun c path n =>
    return { c with overrides := ← Yaml.nameMap Override.ofNode path n }
  | _ => none

/-- Reads a choice of rules. -/
def RuleChoice.ofNode : Read RuleChoice := Yaml.record "RulesConfig" {} RuleChoice.field?

/-- The fields of a configuration. -/
def Config.field? : String → Option (Config → Read Config)
  | "general" => some fun c path n => return { c with general := ← General.ofNode path n }
  | "rules" => some fun c path n => return { c with rules := ← RuleChoice.ofNode path n }
  | _ => none

/-- Reads a configuration. -/
def Config.ofNode : Read Config := Yaml.record "AnalyzerConfig" {} Config.field?

/-- The YAML value of a tag. -/
def Tag.toValue : Tag → Value
  | .custom text => .tagged "custom" text
  | t => .text t.name

/-- The YAML value of an override. -/
def Override.toValue (o : Override) : Value :=
  .mapping
    [("severity", (o.severity.map fun s => Value.text s.name).getD .null),
     ("remediation", (o.remediation.map fun r => Value.text r.display).getD .null)]

/-- The YAML value of the general settings. -/
def General.toValue (g : General) : Value :=
  .mapping
    [("min_severity", .text g.minSeverity.name), ("fail_fast", .bool g.failFast),
     ("max_threads", .nat g.maxThreads)]

/-- The YAML value of a choice of rules. -/
def RuleChoice.toValue (c : RuleChoice) : Value :=
  .mapping
    [("enabled_rules", .sequence (c.enabledRules.map .text)),
     ("disabled_rules", .sequence (c.disabledRules.map .text)),
     ("enabled_tags", .sequence (c.enabledTags.map Tag.toValue)),
     ("overrides", .mapping (c.overrides.entries.map fun e => (e.1, e.2.toValue)))]

/-- The YAML value of a configuration. -/
def Config.toValue (c : Config) : Value :=
  .mapping [("general", c.general.toValue), ("rules", c.rules.toValue)]

/-- The configuration as YAML text. -/
def Config.toYaml (c : Config) : String := c.toValue.document

/-- Why a text is not a configuration. -/
inductive ConfigError where
  /-- The text is not YAML. -/
  | malformed (e : Yaml.Malformed)
  /-- The text is YAML, but does not say a configuration. -/
  | invalid (f : Yaml.Fault)

namespace ConfigError

/-- The reason alone. -/
def reason : ConfigError → String
  | malformed e => s!"{e.problem} at line {e.mark.line + 1} column {e.mark.column + 1}"
  | invalid f => f.message

/-- The wording of the error. -/
def message (e : ConfigError) : String := s!"invalid configuration: {e.reason}"

end ConfigError

/-- Reads a configuration from YAML text. -/
def Config.ofYaml (text : String) : Except ConfigError Config :=
  match Yaml.parse text with
  | .error e => .error (.malformed e)
  | .ok n =>
    match Config.ofNode.run n with
    | .error f => .error (.invalid f)
    | .ok c => .ok c

end PlsqlAudit
