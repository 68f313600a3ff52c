/-!
# Positions in a source text

A position names a place between two characters of a text: the 1-based line and column of the
character that follows, and the number of UTF-8 bytes before it.

* `Position.start` — the place before the first character.
* `Position.advance`, `Position.advanceText` — the place after one more character, or a whole text.
* Positions are compared by their byte offset alone, whereas two positions are equal only if they
  agree in all three numbers. `Position.earlier` keeps the first of two positions at one offset,
  `Position.later` the second.
-/

namespace PlsqlAudit

/-- A place in a source text. -/
structure Position where
  line : Nat
  column : Nat
  offset : Nat
  deriving DecidableEq, Repr

namespace Position

/-- The place before the first character of a text. -/
def start : Position := ⟨1, 1, 0⟩

instance : Inhabited Position := ⟨start⟩

/-- The place after `c`: a line feed opens the next line, any other character takes one column. -/
def advance (p : Position) (c : Char) : Position :=
  if c = '\n' then ⟨p.line + 1, 1, p.offset + c.utf8Size⟩
  else ⟨p.line, p.column + 1, p.offset + c.utf8Size⟩

/-- The place after all characters of `text`. -/
def advanceText (p : Position) (text : String) : Position :=
  text.toList.foldl advance p

/-- Positions are ordered by offset; line and column do not take part. -/
instance : Ord Position := ⟨fun p q => compare p.offset q.offset⟩

instance : LE Position := ⟨fun p q => p.offset ≤ q.offset⟩

instance : LT Position := ⟨fun p q => p.offset < q.offset⟩

instance (p q : Position) : Decidable (p ≤ q) := inferInstanceAs (Decidable (p.offset ≤ q.offset))

instance (p q : Position) : Decidable (p < q) := inferInstanceAs (Decidable (p.offset < q.offset))

/-- The earlier of two positions, `p` if they stand at one offset. -/
def earlier (p q : Position) : Position := if q < p then q else p

/-- The later of two positions, `q` if they stand at one offset. -/
def later (p q : Position) : Position := if q < p then p else q

/-- The position written out field by field, as log lines show it. -/
def describe (p : Position) : String :=
  s!"Position \x7b line: {p.line}, column: {p.column}, offset: {p.offset} \x7d"

end Position

end PlsqlAudit
