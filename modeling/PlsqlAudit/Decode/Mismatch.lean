import PlsqlAudit.Number.Shortest
import PlsqlAudit.Number.Width
import PlsqlAudit.Rule.Remediation
import PlsqlAudit.Text.Quoted

/-!
# Data that does not fit

Reading a value from data can fail because the data has another shape than expected.

* `Found` — what the data was, as far as messages tell.
* `Mismatch` — how it did not fit.
* `Dialect` — the words in which data formats differ when they speak of what was found.
-/

namespace PlsqlAudit

/-- What was found where something else was expected. -/
inductive Found where
  | nothing
  | bool (b : Bool)
  | int (n : Int)
  | real (x : Float)
  | text (s : String)
  | sequence
  | mapping
  | unitVariant

/-- How data did not fit. -/
inductive Mismatch where
  | missingField (name : String)
  | duplicateField (name : String)
  | unknownVariant (name : String) (known : List String)
  | invalidType (found : Found) (expected : String)
  | invalidValue (found : Found) (expected : String)
  | invalidLength (length : Nat) (expected : String)
  | invalidDuration (text : String)

/-- The words in which data formats differ. -/
structure Dialect where
  /-- The word for the absence of a value. -/
  nothing : String
  /-- How a number that is not whole is written. -/
  real : Float → String

/-- A name between backquotes. -/
def codeQuote (s : String) : String := s!"\x60{s}\x60"

/-- What was found, in words. A whole number that does not fit 64 bits is given with the width that
it needs. -/
def Found.describe (d : Dialect) : Found → String
  | nothing => d.nothing
  | bool b => "boolean " ++ codeQuote (if b then "true" else "false")
  | int n =>
    let width :=
      if n < -(Number.signedWordLimit : Int) then " as i128"
      else if (Number.wordLimit : Int) ≤ n then " as u128" else ""
    "integer " ++ codeQuote (toString n) ++ width
  | real x => "floating point " ++ codeQuote (d.real x)
  | text s => "string " ++ Text.quote s
  | sequence => "sequence"
  | mapping => "map"
  | unitVariant => "unit variant"

/-- The mismatch in words. -/
def Mismatch.message (d : Dialect) : Mismatch → String
  | missingField name => "missing field " ++ codeQuote name
  | duplicateField name => "duplicate field " ++ codeQuote name
  | unknownVariant name known =>
    "unknown variant " ++ codeQuote name ++ ", expected one of " ++
      ", ".intercalate (known.map codeQuote)
  | invalidType found expected => s!"invalid type: {found.describe d}, expected {expected}"
  | invalidValue found expected => s!"invalid value: {found.describe d}, expected {expected}"
  | invalidLength length expected => s!"invalid length {length}, expected {expected}"
  | invalidDuration text => Remediation.refusal text

end PlsqlAudit
