import PlsqlAudit.Json.Value
import PlsqlAudit.Source.Range

/-!
# JSON forms of positions, ranges and locations
-/

namespace PlsqlAudit

/-- The position as an object. -/
def Position.toJson (p : Position) : Json :=
  .obj [("line", .nat p.line), ("column", .nat p.column), ("offset", .nat p.offset)]

/-- Reads a position. -/
def Position.ofJson : Json.Read Position :=
  Json.record "Position" 3
    (fun fields => do
      let column ← Json.field? fields "column" Json.word
      let line ← Json.field? fields "line" Json.word
      let offset ← Json.field? fields "offset" Json.word
      return ⟨← Json.need "line" line, ← Json.need "column" column, ← Json.need "offset" offset⟩)
    (fun items => do
      let line ← Json.item "Position" 3 items 0 Json.word
      let column ← Json.item "Position" 3 items 1 Json.word
      let offset ← Json.item "Position" 3 items 2 Json.word
      return ⟨line, column, offset⟩)

/-- The range as an object. -/
def Range.toJson (r : Range) : Json := .obj [("start", r.start.toJson), ("end", r.stop.toJson)]

/-- Reads a range. -/
def Range.ofJson : Json.Read Range :=
  Json.record "SourceRange" 2
    (fun fields => do
      let stop ← Json.field? fields "end" Position.ofJson
      let start ← Json.field? fields "start" Position.ofJson
      return ⟨← Json.need "start" start, ← Json.need "end" stop⟩)
    (fun items => do
      let start ← Json.item "SourceRange" 2 items 0 Position.ofJson
      let stop ← Json.item "SourceRange" 2 items 1 Position.ofJson
      return ⟨start, stop⟩)

/-- The location as an object. -/
def Location.toJson (l : Location) : Json := .obj [("file", .str l.file), ("range", l.range.toJson)]

/-- Reads a location. -/
def Location.ofJson : Json.Read Location :=
  Json.record "SourceLocation" 2
    (fun fields => do
      let file ← Json.field? fields "file" (Json.textAs "path string")
      let range ← Json.field? fields "range" Range.ofJson
      return ⟨← Json.need "file" file, ← Json.need "range" range⟩)
    (fun items => do
      let file ← Json.item "SourceLocation" 2 items 0 (Json.textAs "path string")
      let range ← Json.item "SourceLocation" 2 items 1 Range.ofJson
      return ⟨file, range⟩)

end PlsqlAudit
