import PlsqlAudit.Source.Position

/-!
# Ranges of a source text

A range runs from a start position to an end position. Nothing forces the end to follow the start:
an inverted range is empty and has length zero.

* `Range.cover` — the smallest range around two ranges.
* `Range.contains`, `Range.byteLength`, `Range.isEmpty` — judged by byte offsets.
* `Location` — a range in a named file, shown as `file:line:column`.
-/

namespace PlsqlAudit

/-- A stretch of a source text. -/
structure Range where
  start : Position
  stop : Position
  deriving DecidableEq, Repr

namespace Range

/-- The range that begins and ends at `p`. -/
def single (p : Position) : Range := ⟨p, p⟩

instance : Inhabited Range := ⟨single .start⟩

/-- Whether `p` lies in the range, both ends included. -/
def contains (r : Range) (p : Position) : Bool := r.start ≤ p && p ≤ r.stop

/-- The range from the earlier start to the later end. -/
def cover (r s : Range) : Range := ⟨r.start.earlier s.start, r.stop.later s.stop⟩

/-- The number of bytes in the range, none if it is inverted. -/
def byteLength (r : Range) : Nat := r.stop.offset - r.start.offset

/-- Whether the range holds no byte. -/
def isEmpty (r : Range) : Bool := r.stop.offset ≤ r.start.offset

/-- The range written out field by field, as log lines show it. -/
def describe (r : Range) : String :=
  s!"SourceRange \x7b start: {r.start.describe}, end: {r.stop.describe} \x7d"

end Range

/-- A range of the file called `file`. -/
structure Location where
  file : String
  range : Range
  deriving DecidableEq, Repr

namespace Location

/-- The line on which the range starts. -/
def line (l : Location) : Nat := l.range.start.line

/-- The column at which the range starts. -/
def column (l : Location) : Nat := l.range.start.column

/-- The number of bytes in the range. -/
def byteLength (l : Location) : Nat := l.range.byteLength

/-- The location as `file:line:column`. -/
def display (l : Location) : String := s!"{l.file}:{l.line}:{l.column}"

end Location

end PlsqlAudit
