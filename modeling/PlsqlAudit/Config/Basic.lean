import PlsqlAudit.Registry.Basic

/-!
# Configurations

A configuration says how an analysis runs and which rules take part. Everything in it has a default.

* `Config.settings` — the settings of a registry that it stands for.
* `Config.validate` — whether all rules that it mentions are registered.
* `Registry.apply` — validates a configuration, takes over its settings, disables the rules it
  disables and enables those it enables; a rule that it both disables and enables ends up enabled.
-/

namespace PlsqlAudit

/-- General settings of an analysis. -/
structure General where
  minSeverity : Severity := .info
  failFast : Bool := false
  maxThreads : Nat := 0
  deriving DecidableEq

/-- Which rules take part, and how. -/
structure RuleChoice where
  enabledRules : List String := []
  disabledRules : List String := []
  enabledTags : List Tag := []
  overrides : NameMap Override := .empty
  deriving DecidableEq

/-- How an analysis runs. -/
structure Config where
  general : General := {}
  rules : RuleChoice := {}
  deriving DecidableEq

namespace Config

/-- The settings of a registry that the configuration stands for. -/
def settings (c : Config) : Settings where
  maxThreads := c.general.maxThreads
  failFast := c.general.failFast
  minSeverity := c.general.minSeverity
  enabledTags := c.rules.enabledTags
  overrides := c.rules.overrides

/-- All rules that the configuration mentions: enabled, then disabled, then overridden ones. -/
def mentioned (c : Config) : List String :=
  c.rules.enabledRules ++ c.rules.disabledRules ++ c.rules.overrides.keys

/-- Refuses the first mentioned rule that is not registered. -/
def validate (c : Config) (r : Registry) : Except RegistryError Unit :=
  match c.mentioned.find? (fun key => !r.contains key) with
  | some key => .error (.unknownRule key)
  | none => .ok ()

end Config

namespace Registry

/-- Enables detectors one after the other, up to the first that is not registered. -/
def enableAll (r : Registry) : List String → Registry × Except RegistryError Unit
  | [] => (r, .ok ())
  | id :: ids =>
    match r.enable id with
    | .error e => (r, .error e)
    | .ok r' => r'.enableAll ids

/-- Takes over a configuration, and says whether that succeeded. -/
def apply (r : Registry) (c : Config) : Registry × Except RegistryError Unit :=
  match c.validate r with
  | .error e => (r, .error e)
  | .ok () =>
    let trimmed := c.rules.disabledRules.foldl disable (r.withSettings c.settings)
    trimmed.enableAll c.rules.enabledRules

end Registry

end PlsqlAudit
