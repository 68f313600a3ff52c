import PlsqlAudit.Yaml.Cursor

/-!
# Tokens of YAML

A YAML text is read as a list of tokens: indicators, scalars, and marks for where collections that
are told by indentation start and end.
-/

namespace PlsqlAudit.Yaml

/-- How a scalar is written. -/
inductive Style where
  | plain
  | singleQuoted
  | doubleQuoted
  | literal
  | folded
  deriving DecidableEq, Repr

/-- The bytes of a tag. Escapes in a tag give bytes, which need not be those of characters. -/
abbrev Octets := List UInt8

/-- The byte of an exclamation mark. -/
def bang : UInt8 := 0x21

/-- What a token is. -/
inductive Token.Kind where
  | streamEnd
  | version (major minor : Nat)
  | tagHandle (handle : String) (expansion : Octets)
  | documentStart
  | documentEnd
  | blockSequenceStart
  | blockMappingStart
  | blockEnd
  | flowSequenceStart
  | flowSequenceEnd
  | flowMappingStart
  | flowMappingEnd
  | blockEntry
  | flowEntry
  | key
  | value
  /-- An alias of the value with that anchor. -/
  | reference (name : String)
  | anchor (name : String)
  /-- A tag, as a handle and what follows it; the handle is empty if the tag stands as it is. -/
  | tag (handle : String) (suffix : Octets)
  | scalar (style : Style) (text : String)
  deriving DecidableEq, Repr

/-- A token, with the places where it starts and where it stops. -/
structure Token where
  kind : Token.Kind
  start : Mark
  stop : Mark
  deriving DecidableEq, Repr

end PlsqlAudit.Yaml
