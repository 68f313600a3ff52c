/-!
# Spellings up to ASCII case

Two texts have the same spelling if they differ in the case of ASCII letters at most. All other
characters, accented and full-width letters among them, count as they stand.

* `fold` — a text with its ASCII capitals made small.
* `sameSpelling` — equality of the folded texts.
-/

namespace PlsqlAudit.Text

/-- The small letter of an ASCII capital; any other character is kept. -/
def foldChar (c : Char) : Char :=
  if 'A' ≤ c ∧ c ≤ 'Z' then Char.ofNat (c.toNat + 32) else c

/-- The text with its ASCII capitals made small. -/
def fold (s : String) : List Char := s.toList.map foldChar

/-- Whether two texts agree up to the case of ASCII letters. -/
def sameSpelling (s t : String) : Bool := fold s == fold t

end PlsqlAudit.Text
