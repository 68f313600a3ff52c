import PlsqlAudit.Config.Yaml
import PlsqlAudit.Log

/-!
# Configuration files

What stands under the name of a file is given by the caller: its bytes, or why it cannot be read.
Loading a configuration from it either succeeds, with a log line, or tells why it does not.

* `ReadError` — why a file cannot be read.
* `Config.load` — a configuration from a file.
-/

namespace PlsqlAudit

/-- Why the text of a file cannot be had. -/
inductive ReadError where
  | absent
  | directory
  | nameTooLong
  | zeroInName
  | notUtf8
  deriving DecidableEq, Repr

namespace ReadError

/-- The wording of the error. -/
def message : ReadError → String
  | absent => "No such file or directory (os error 2)"
  | directory => "Is a directory (os error 21)"
  | nameTooLong => "File name too long (os error 36)"
  | zeroInName => "file name contained an unexpected NUL byte"
  | notUtf8 => "stream did not contain valid UTF-8"

end ReadError

/-- The text of a file. -/
def fileText (bytes : ByteArray) : Except ReadError String :=
  match String.fromUTF8? bytes with
  | some s => .ok s
  | none => .error .notUtf8

/-- Why a configuration file cannot be loaded. -/
inductive LoadError where
  | unreadable (name : String) (e : ReadError)
  | unparsable (name : String) (e : ConfigError)

namespace LoadError

/-- The error and its causes. -/
def failure : LoadError → Failure
  | unreadable name e =>
    ⟨s!"failed to read configuration file {name}: {e.message}", [e.message]⟩
  | unparsable name e =>
    ⟨s!"Failed to parse config file: {name}", [e.message, e.reason]⟩

end LoadError

/-- Loads the configuration file `name`, under which `entry` stands. -/
def Config.load (name : String) (entry : Except ReadError ByteArray) :
    Logged (Except LoadError Config) :=
  match entry.bind fileText with
  | .error e => ⟨.error (.unreadable name e), []⟩
  | .ok text =>
    match Config.ofYaml text with
    | .error e => ⟨.error (.unparsable name e), []⟩
    | .ok c => ⟨.ok c, [⟨.debug, s!"Loaded configuration from {name}"⟩]⟩

end PlsqlAudit
