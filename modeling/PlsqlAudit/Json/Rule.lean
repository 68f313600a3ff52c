import PlsqlAudit.Json.Value
import PlsqlAudit.Rule.Metadata

/-!
# JSON forms of severities, tags, scopes, times to fix and metadata
-/

namespace PlsqlAudit

/-- The name of the severity. -/
def Severity.toJson (s : Severity) : Json := .str s.name

/-- Reads a severity. -/
def Severity.ofJson : Json.Read Severity :=
  Json.choice (Severity.all.map Severity.name) Severity.ofName?

/-- The name of the scope. -/
def Scope.toJson (s : Scope) : Json := .str s.name

/-- Reads a scope. -/
def Scope.ofJson : Json.Read Scope := Json.choice (Scope.every.map Scope.name) Scope.ofName?

/-- The name of the tag; the text of a custom tag stands in an object. -/
def Tag.toJson : Tag → Json
  | .custom text => .obj [("custom", .str text)]
  | t => .str t.name

/-- Reads a tag. -/
def Tag.ofJson : Json.Read Tag := fun j => do
  let (name, content) ← Json.variant j
  if name = "custom" then
    return .custom (← Json.text (← Json.content content))
  else
    match Tag.fixed.find? (fun t => t.name = name) with
    | none => .error (.unknownVariant name Tag.names)
    | some t => do
      Json.noContent content
      return t

/-- The written form of the time. -/
def Remediation.toJson (r : Remediation) : Json := .str r.display

/-- Reads a time to fix. -/
def Remediation.ofJson : Json.Read Remediation := fun j => do
  let text ← Json.text j
  match Remediation.parse? text with
  | some r => return r
  | none => .error (.invalidDuration text)

/-- The metadata as an object. -/
def Metadata.toJson (m : Metadata) : Json :=
  .obj
    [("key", .str m.key), ("name", .str m.name), ("description", .str m.description),
     ("severity", m.severity.toJson), ("tags", .array Tag.toJson m.tags),
     ("remediation", m.remediation.toJson), ("scope", m.scope.toJson),
     ("activated_by_default", .bool m.activatedByDefault)]

/-- Reads metadata. -/
def Metadata.ofJson : Json.Read Metadata :=
  Json.record "RuleMetadata" 8
    (fun fields => do
      let activated ← Json.field? fields "activated_by_default" Json.truth
      let description ← Json.field? fields "description" Json.text
      let key ← Json.field? fields "key" Json.text
      let name ← Json.field? fields "name" Json.text
      let remediation ← Json.field? fields "remediation" Remediation.ofJson
      let scope ← Json.field? fields "scope" Scope.ofJson
      let severity ← Json.field? fields "severity" Severity.ofJson
      let tags ← Json.field? fields "tags" (Json.list Tag.ofJson)
      let key ← Json.need "key" key
      let name ← Json.need "name" name
      let description ← Json.need "description" description
      let severity ← Json.need "severity" severity
      let tags ← Json.need "tags" tags
      let remediation ← Json.need "remediation" remediation
      let scope ← Json.need "scope" scope
      let activated ← Json.need "activated_by_default" activated
      return ⟨key, name, description, severity, tags, remediation, scope, activated⟩)
    (fun items => do
      let key ← Json.item "RuleMetadata" 8 items 0 Json.text
      let name ← Json.item "RuleMetadata" 8 items 1 Json.text
      let description ← Json.item "RuleMetadata" 8 items 2 Json.text
      let severity ← Json.item "RuleMetadata" 8 items 3 Severity.ofJson
      let tags ← Json.item "RuleMetadata" 8 items 4 (Json.list Tag.ofJson)
      let remediation ← Json.item "RuleMetadata" 8 items 5 Remediation.ofJson
      let scope ← Json.item "RuleMetadata" 8 items 6 Scope.ofJson
      let activated ← Json.item "RuleMetadata" 8 items 7 Json.truth
      return ⟨key, name, description, severity, tags, remediation, scope, activated⟩)

end PlsqlAudit
