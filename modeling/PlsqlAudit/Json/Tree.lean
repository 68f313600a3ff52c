import PlsqlAudit.Json.Value
import PlsqlAudit.Tree.Kind

/-!
# JSON forms of keywords and kinds
-/

namespace PlsqlAudit

/-- The name of the keyword. -/
def Keyword.toJson (k : Keyword) : Json := .str k.name

/-- Reads a keyword. -/
def Keyword.ofJson : Json.Read Keyword := Json.choice (Keyword.all.map Keyword.name) Keyword.ofName?

/-- The name of the kind; a keyword stands in an object of its own. -/
def Kind.toJson : Kind → Json
  | .keyword word => .obj [("Keyword", word.toJson)]
  | k => .str k.name

/-- Reads a kind. -/
def Kind.ofJson : Json.Read Kind := fun j => do
  let (name, content) ← Json.variant j
  if name = "Keyword" then
    return .keyword (← Keyword.ofJson (← Json.content content))
  else
    match Kind.plain.find? (fun k => k.name = name) with
    | none => .error (.unknownVariant name Kind.names)
    | some k => do
      Json.noContent content
      return k

end PlsqlAudit
