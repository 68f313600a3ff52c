import PlsqlAudit.Decode.Mismatch
import PlsqlAudit.Number.Real
import PlsqlAudit.Yaml.Node

/-!
# What plain scalars mean

A scalar without quotes may stand for nothing, a truth value or a number; otherwise it is a text.

* `readsNull`, `readsBool?`, `readsNat?`, `readsNegative?`, `readsReal?` — the spellings of each.
* `resolve` — what a plain scalar stands for.
* `Node.mismatch` — what to say of a value that is not of the expected type.
-/

namespace PlsqlAudit.Yaml

/-- The spellings of nothing. -/
def readsNull (s : String) : Bool := s = "~" || s = "null" || s = "Null" || s = "NULL"

/-- The spellings of truth values. -/
def readsBool? (s : String) : Option Bool :=
  if s = "true" || s = "True" || s = "TRUE" then some true
  else if s = "false" || s = "False" || s = "FALSE" then some false
  else none

/-- The characters behind a sign, if there is one. -/
def unsigned : List Char → List Char
  | '+' :: cs => cs
  | '-' :: cs => cs
  | cs => cs

/-- Whether the text is a run of two or more digits that starts with a zero, perhaps behind a sign.
Such a text is not a number, unless a tag says so. -/
def hasLeadingZero (cs : List Char) : Bool :=
  match unsigned cs with
  | '0' :: d :: ds => (d :: ds).all Char.isDigit
  | _ => false

/-- The number that digits write, behind a mark for their base if it is not ten. -/
def readsDigits? (cs : List Char) : Option Nat :=
  match cs with
  | '0' :: 'x' :: ds => Number.ofDigits? 16 ds
  | '0' :: 'o' :: ds => Number.ofDigits? 8 ds
  | '0' :: 'b' :: ds => Number.ofDigits? 2 ds
  | ds => Number.ofDigits? 10 ds

/-- The spellings of whole numbers from zero on; a plus sign may stand before them. -/
def readsNat? (s : String) : Option Nat :=
  if hasLeadingZero s.toList then none
  else
    match s.toList with
    | '+' :: cs => readsDigits? cs
    | cs => readsDigits? cs

/-- The spellings of whole numbers with a minus sign. -/
def readsNegative? (s : String) : Option Int :=
  if hasLeadingZero s.toList then none
  else
    match s.toList with
    | '-' :: cs => (readsDigits? cs).map fun n => -(n : Int)
    | _ => none

/-- The spellings of numbers with a point or a power of ten, and of infinities. Whole numbers are
spelled so, too, with zeros before them if need be. -/
def readsReal? (s : String) : Option Float :=
  let infinity : Float := 1.0 / 0.0
  if s = ".inf" || s = ".Inf" || s = ".INF" || s = "+.inf" || s = "+.Inf" || s = "+.INF" then
    some infinity
  else if s = "-.inf" || s = "-.Inf" || s = "-.INF" then some (-infinity)
  else if s = ".nan" || s = ".NaN" || s = ".NAN" then some (0.0 / 0.0)
  else
    match s.toList with
    | '+' :: '-' :: _ => none
    | '+' :: cs => Number.parseReal? cs
    | cs => Number.parseReal? cs

/-- The whole number that a text spells, if 128 bits can hold it. -/
def readsInt? (s : String) : Option Int :=
  match readsNat? s with
  | some n => if n < Number.doubleWordLimit then some (n : Int) else none
  | none =>
    match readsNegative? s with
    | some n => if -(Number.signedDoubleWordLimit : Int) ≤ n then some n else none
    | none => none

/-- What a plain scalar stands for. -/
def resolve (s : String) : Found :=
  if s.isEmpty || readsNull s then .nothing
  else
    let real? := if hasLeadingZero s.toList then none else readsReal? s
    match readsBool? s, readsInt? s, real? with
    | some b, _, _ => .bool b
    | none, some n, _ => .int n
    | none, none, some x => .real x
    | none, none, none => .text s

/-! ## Values of another type -/

/-- How messages about YAML speak. -/
def dialect : Dialect where
  nothing := "unit value"
  real := Number.text .up Number.Decimal.positional

/-- What to say of a scalar where something else is expected. A tag of a standard type asks for a
text of that type. -/
def scalarMismatch (tag : Option NodeTag) (style : Style) (text expected : String) : Mismatch :=
  let typed (found : Option Found) (type : String) : Mismatch :=
    match found with
    | some f => .invalidType f expected
    | none => .invalidValue (.text text) type
  let untyped : Mismatch :=
    .invalidType (if style = .plain then resolve text else .text text) expected
  match tag with
  | none => untyped
  | some .bool => typed ((readsBool? text).map .bool) "a boolean"
  | some .int => typed ((readsInt? text).map .int) "an integer"
  | some .real => typed ((readsReal? text).map .real) "a float"
  | some .null => typed (if readsNull text then some .nothing else none) "null"
  | some (.custom _) => untyped
  | some .other => .invalidType (.text text) expected

/-- What to say of a value where something else is expected. -/
def Node.mismatch (n : Node) (expected : String) : Mismatch :=
  match n with
  | .scalar h style text => scalarMismatch h.tag style text expected
  | .sequence _ _ => .invalidType .sequence expected
  | .mapping _ _ => .invalidType .mapping expected
  | .reference _ _ => .invalidType .nothing expected

end PlsqlAudit.Yaml
