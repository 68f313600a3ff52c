/-!
# Severity, tags and scope of a rule

* `Severity` — how bad a finding is, from `info` to `blocker`.
* `Tag` — what a rule is about: one of six fixed topics or a topic of the user's own.
* `Scope` — which source set a rule looks at.
-/

namespace PlsqlAudit

/-- How bad a finding is. -/
inductive Severity where
  | info
  | minor
  | major
  | critical
  | blocker
  deriving DecidableEq, Repr

namespace Severity

/-- All severities, from the least to the worst. -/
def all : List Severity := [.info, .minor, .major, .critical, .blocker]

/-- The place of a severity in the order from `info` to `blocker`. -/
def rank : Severity → Nat
  | info => 0
  | minor => 1
  | major => 2
  | critical => 3
  | blocker => 4

instance : Ord Severity := ⟨fun a b => compare a.rank b.rank⟩

instance : LE Severity := ⟨fun a b => a.rank ≤ b.rank⟩

instance (a b : Severity) : Decidable (a ≤ b) := inferInstanceAs (Decidable (a.rank ≤ b.rank))

/-- The severity as reports and log lines show it. -/
def display : Severity → String
  | info => "INFO"
  | minor => "MINOR"
  | major => "MAJOR"
  | critical => "CRITICAL"
  | blocker => "BLOCKER"

/-- The severity as data files name it. -/
def name : Severity → String
  | info => "Info"
  | minor => "Minor"
  | major => "Major"
  | critical => "Critical"
  | blocker => "Blocker"

/-- The severity of a given name. -/
def ofName? (s : String) : Option Severity := all.find? fun a => a.name = s

theorem ofName?_name (s : Severity) : ofName? s.name = some s := by
  cases s <;> rfl

end Severity

/-- What a rule is about. -/
inductive Tag where
  | bug
  | convention
  | design
  | performance
  | security
  | unused
  | custom (text : String)
  deriving DecidableEq, Repr

namespace Tag

/-- The tags that carry no text of their own. -/
def fixed : List Tag := [.bug, .convention, .design, .performance, .security, .unused]

/-- The tag as data files name it; the text of a custom tag stands apart from its name. -/
def name : Tag → String
  | bug => "bug"
  | convention => "convention"
  | design => "design"
  | performance => "performance"
  | security => "security"
  | unused => "unused"
  | custom _ => "custom"

/-- The names that data files may use. -/
def names : List String := fixed.map name ++ ["custom"]

/-- The tag as people read it: its name, or the text of a custom tag. -/
def display : Tag → String
  | custom text => text
  | t => t.name

end Tag

/-- Which source set a rule looks at. -/
inductive Scope where
  /-- Production and test sources. -/
  | all
  /-- Production sources only. -/
  | main
  /-- Test sources only. -/
  | test
  deriving DecidableEq, Repr

namespace Scope

instance : Inhabited Scope := ⟨.main⟩

/-- All scopes. -/
def every : List Scope := [.all, .main, .test]

/-- Whether a rule of this scope looks at a file, told whether the file is a test source. -/
def includes : Scope → Bool → Bool
  | all, _ => true
  | main, isTest => !isTest
  | test, isTest => isTest

/-- The scope as data files name it. -/
def name : Scope → String
  | all => "All"
  | main => "Main"
  | test => "Test"

/-- The scope of a given name. -/
def ofName? (s : String) : Option Scope := every.find? fun a => a.name = s

theorem ofName?_name (s : Scope) : ofName? s.name = some s := by
  cases s <;> rfl

end Scope

end PlsqlAudit
