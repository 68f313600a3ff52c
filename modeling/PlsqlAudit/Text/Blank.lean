/-!
# Blank characters and words

The characters with the Unicode property White_Space, and what follows from them.

* `isBlank` — the property, as a table of ranges.
* `words` — the maximal runs of characters that are not blank, in order.
* `allBlank` — whether a text holds no word at all.
-/

namespace PlsqlAudit.Text

/-- The ranges of code points with the property White_Space, both ends included. -/
def blankRanges : List (Nat × Nat) :=
  [(0x09, 0x0d), (0x20, 0x20), (0x85, 0x85), (0xa0, 0xa0), (0x1680, 0x1680), (0x2000, 0x200a),
   (0x2028, 0x2029), (0x202f, 0x202f), (0x205f, 0x205f), (0x3000, 0x3000)]

/-- Whether `c` has the property White_Space. -/
def isBlank (c : Char) : Bool :=
  blankRanges.any fun r => r.1 ≤ c.toNat && c.toNat ≤ r.2

/-- The maximal runs of characters that are not blank. -/
def words : List Char → List (List Char)
  | [] => []
  | c :: cs =>
    if isBlank c then words cs
    else
      match cs with
      | [] => [[c]]
      | d :: _ =>
        if isBlank d then [c] :: words cs
        else
          match words cs with
          | [] => [[c]]
          | w :: ws => (c :: w) :: ws

/-- Whether the text holds blank characters only. -/
def allBlank (s : String) : Bool := s.toList.all isBlank

end PlsqlAudit.Text
