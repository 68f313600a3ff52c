import PlsqlAudit.Data.NameMap
import PlsqlAudit.Decode.Mismatch

/-!
# JSON values and how to read them

* `Json` — a JSON value. Whole numbers are kept apart from other numbers, and the fields of an object
  are a list in which the first field of a name counts.
* `Json.Read` — a reader of some type from JSON values.
* `Json.word`, `Json.text`, `Json.list`, … — readers of simple types.
* `Json.choice`, `Json.variant` — for types whose values have names.
* `Json.record` — for structures, from an object or from an array of all fields in order.

Readers of structures take the fields of an object in increasing order of their names, so of several
bad fields the first in this order is reported; only then do missing fields count.
-/

namespace PlsqlAudit

/-- A JSON value. -/
inductive Json where
  | null
  | bool (b : Bool)
  | int (n : Int)
  | real (x : Float)
  | str (s : String)
  | arr (items : List Json)
  | obj (fields : List (String × Json))
  deriving Inhabited

namespace Json

/-- How messages about JSON speak. -/
def dialect : Dialect where
  nothing := "null"
  real := Number.text .even Number.Decimal.compact

/-- What a value is, for messages. -/
def found : Json → Found
  | null => .nothing
  | bool b => .bool b
  | int n => .int n
  | real x => .real x
  | str s => .text s
  | arr _ => .sequence
  | obj _ => .mapping

/-- A whole number that is not negative. -/
def nat (n : Nat) : Json := int n

/-- An array of values. -/
def array {α : Type} (write : α → Json) (xs : List α) : Json := arr (xs.map write)

/-- A value that may be absent. -/
def option {α : Type} (write : α → Json) : Option α → Json
  | none => null
  | some a => write a

/-- An object with the entries of a map. -/
def map {α : Type} (write : α → Json) (m : NameMap α) : Json :=
  obj (m.entries.map fun e => (e.1, write e.2))

/-- A reader of `α`. -/
abbrev Read (α : Type) := Json → Except Mismatch α

/-! ## Simple types -/

/-- Reads a text; `expected` says what for. -/
def textAs (expected : String) : Read String
  | str s => .ok s
  | j => .error (.invalidType j.found expected)

/-- Reads a text. -/
def text : Read String := textAs "a string"

/-- Reads a truth value. -/
def truth : Read Bool
  | bool b => .ok b
  | j => .error (.invalidType j.found "a boolean")

/-- Reads a whole number from zero up to `limit`, not included, of the type called `type`. -/
def natBelow (limit : Nat) (type : String) : Read Nat
  | int n => if 0 ≤ n ∧ n < limit then .ok n.toNat else .error (.invalidValue (.int n) type)
  | j => .error (.invalidType j.found type)

/-- Reads a count or a place, a number of 64 bits. -/
def word : Read Nat := natBelow Number.wordLimit "usize"

/-- Reads a list. -/
def list {α : Type} (read : Read α) : Read (List α)
  | arr items => items.mapM read
  | j => .error (.invalidType j.found "a sequence")

/-- Reads a value that may be absent. -/
def optional {α : Type} (read : Read α) : Read (Option α)
  | null => .ok none
  | j => (read j).map some

/-- Reads a map from names. -/
def nameMap {α : Type} (read : Read α) : Read (NameMap α)
  | obj fields => do
    let entries ← fields.mapM fun f => (read f.2).map fun v => (f.1, v)
    return .ofList entries
  | j => .error (.invalidType j.found "a map")

/-! ## Values with names -/

/-- Reads the name of a value, and its content if it has one: the name alone, or an object whose one
field has that name. -/
def variant : Read (String × Option Json)
  | str name => .ok (name, none)
  | obj [(name, content)] => .ok (name, some content)
  | obj _ => .error (.invalidValue .mapping "map with a single key")
  | j => .error (.invalidType j.found "string or map")

/-- Makes sure that a value without content comes with none, or with null. -/
def noContent : Option Json → Except Mismatch Unit
  | none => .ok ()
  | some null => .ok ()
  | some j => .error (.invalidType j.found "unit")

/-- The content of a value that has one. -/
def content : Option Json → Except Mismatch Json
  | some j => .ok j
  | none => .error (.invalidType .unitVariant "newtype variant")

/-- Reads a value that is nothing but its name. -/
def choice {α : Type} (known : List String) (ofName? : String → Option α) : Read α := fun j => do
  let (name, content) ← variant j
  match ofName? name with
  | none => .error (.unknownVariant name known)
  | some a => do
    noContent content
    return a

/-! ## Structures -/

/-- Reads the field `name`, if there is one. -/
def field? {α : Type} (fields : List (String × Json)) (name : String) (read : Read α) :
    Except Mismatch (Option α) :=
  match fields.lookup name with
  | none => .ok none
  | some j => (read j).map some

/-- Asks for a field that must be there. -/
def need {α : Type} (name : String) : Option α → Except Mismatch α
  | some a => .ok a
  | none => .error (.missingField name)

/-- Reads item `i` of the array that gives a structure of `arity` fields. -/
def item {α : Type} (structureName : String) (arity : Nat) (items : List Json) (i : Nat)
    (read : Read α) : Except Mismatch α :=
  match items[i]? with
  | some j => read j
  | none => .error (.invalidLength i s!"struct {structureName} with {arity} elements")

/-- Reads item `i` of an array, or takes the default if the array ends before it. -/
def itemD {α : Type} (items : List Json) (i : Nat) (read : Read α) (default : α) :
    Except Mismatch α :=
  match items[i]? with
  | some j => read j
  | none => .ok default

/-- Reads a structure from the fields of an object or the items of an array. -/
def record {α : Type} (structureName : String) (arity : Nat)
    (ofFields : List (String × Json) → Except Mismatch α)
    (ofItems : List Json → Except Mismatch α) : Read α
  | obj fields => ofFields fields
  | arr items => do
    let a ← ofItems items
    if arity < items.length then
      .error (.invalidLength items.length "fewer elements in array")
    else .ok a
  | j => .error (.invalidType j.found s!"struct {structureName}")

end Json

end PlsqlAudit
