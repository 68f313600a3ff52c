/-!
# YAML values to be written

What a document is to say, without regard to how it is written.
-/

namespace PlsqlAudit.Yaml

/-- A value to be written. -/
inductive Value where
  | null
  | bool (b : Bool)
  | nat (n : Nat)
  | text (s : String)
  /-- A text with a local tag. -/
  | tagged (tag text : String)
  | sequence (items : List Value)
  | mapping (fields : List (String × Value))
  deriving Repr

end PlsqlAudit.Yaml
