import PlsqlAudit.Yaml.Value
import PlsqlAudit.Yaml.Value.Presentation

/-!
# Writing YAML values

Collections are told by indentation, two columns for each level; a sequence under a key is not
indented, and empty collections stand in brackets. A key that is long or has several lines stands
behind a question mark.
-/

namespace PlsqlAudit.Yaml

namespace Value

/-- The columns by which each level is indented. -/
def indentStep : Nat := 2

/-- Ends a line, unless it ended with a line break of its own. -/
def endLine (line : String) : String :=
  if line.toList.getLast?.any isBreak then line else line ++ "\n"

/-- `n` spaces. -/
def spaces (n : Nat) : String := "".pushn ' ' n

/-- A text as a scalar in a collection that is indented by `indent` columns. -/
def scalar (s : String) (indent : Nat) : String :=
  (style s false).write s (indent + indentStep)

/-- Whether a text can be a key on the line of its value: it has one line and at most 128 bytes. -/
def isSimpleKey (s : String) : Bool := !(traits s.toList).multiline && s.utf8ByteSize ≤ 128

mutual

/-- What follows a key, a dash or a question mark at column `indent`, up to the end of the line or of
the lines that belong to it. `compact` says that a collection starts on this line; `inMapping` that
the sign was a key, under which sequences are not indented. -/
def render (indent : Nat) (compact inMapping : Bool) : Value → String
  | null => " null\n"
  | bool b => if b then " true\n" else " false\n"
  | nat n => " " ++ toString n ++ "\n"
  | text s => endLine (" " ++ scalar s indent)
  | tagged tag s => endLine (" !" ++ tag ++ " " ++ scalar s indent)
  | sequence [] => " []\n"
  | mapping [] => " \x7b\x7d\n"
  | sequence (item :: items) =>
    let inner := if inMapping && !compact then indent else indent + indentStep
    (if compact then spaces (inner - indent - 1) else "\n") ++
      renderItems inner (!compact) (item :: items)
  | mapping (field :: fields) =>
    (if compact then " " else "\n") ++
      renderFields (indent + indentStep) (!compact) (field :: fields)

/-- The items of a sequence at column `indent`; `fresh` says that the first starts a line. -/
def renderItems (indent : Nat) (fresh : Bool) : List Value → String
  | [] => ""
  | item :: items =>
    (if fresh then spaces indent else "") ++ "-" ++ render indent true false item ++
      renderItems indent true items

/-- The fields of a mapping at column `indent`; `fresh` says that the first starts a line. -/
def renderFields (indent : Nat) (fresh : Bool) : List (String × Value) → String
  | [] => ""
  | (key, value) :: fields =>
    let lead := if fresh then spaces indent else ""
    let entry :=
      if isSimpleKey key then
        (style key true).write key indent ++ ":" ++ render indent false true value
      else
        endLine ("? " ++ scalar key indent) ++ spaces indent ++ ":" ++ render indent true true value
    lead ++ entry ++ renderFields indent true fields

end

/-- The document that says `v`. -/
def document : Value → String
  | mapping (field :: fields) => renderFields 0 true (field :: fields)
  | sequence (item :: items) => renderItems 0 true (item :: items)
  | v => String.ofList ((render 0 false false v).toList.drop 1)

end Value

end PlsqlAudit.Yaml
