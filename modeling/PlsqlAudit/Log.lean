/-!
# Log lines and failures

* `LogLine` — a message with its level. What is logged is part of what a computation returns.
* `Failure` — why something went wrong: an outermost text and the causes below it.
-/

namespace PlsqlAudit

/-- How important a log line is. -/
inductive LogLevel where
  | error
  | warn
  | debug
  | trace
  deriving DecidableEq, Repr

/-- The level as logs show it. -/
def LogLevel.display : LogLevel → String
  | error => "ERROR"
  | warn => "WARN"
  | debug => "DEBUG"
  | trace => "TRACE"

/-- One message of a log. -/
structure LogLine where
  level : LogLevel
  text : String
  deriving DecidableEq, Repr

/-- The line as logs show it. -/
def LogLine.display (l : LogLine) : String := s!"{l.level.display} {l.text}"

/-- A value together with the log lines written on the way to it. -/
structure Logged (α : Type) where
  value : α
  log : List LogLine := []

/-- Why something went wrong. -/
structure Failure where
  message : String
  causes : List String := []
  deriving DecidableEq, Repr

namespace Failure

/-- Puts the failure in a context, whose text becomes the outermost one. -/
def inContext (f : Failure) (text : String) : Failure := ⟨text, f.message :: f.causes⟩

/-- All texts, from the outermost to the root cause. -/
def chain (f : Failure) : List String := f.message :: f.causes

end Failure

end PlsqlAudit
