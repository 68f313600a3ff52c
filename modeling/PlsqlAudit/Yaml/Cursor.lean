/-!
# Places in a YAML text

* `Mark` — a place in the text: how many bytes and lines come before it, and how many characters on
  its line.
* `Cursor` — the characters still to be read, and the mark where they begin.
* The classes of characters that YAML tells apart. The end of the text reads as the character NUL,
  which no text may hold (`isAllowed`).
* `Gap` — what stands between two stretches of a scalar: blanks, or line breaks that are folded.
-/

namespace PlsqlAudit.Yaml

/-- A place in a text, counted from zero: `index` in bytes of UTF-8, `column` in characters. -/
structure Mark where
  index : Nat := 0
  line : Nat := 0
  column : Nat := 0
  deriving DecidableEq, Repr

namespace Mark

/-- The place behind `c`, which is not a line break. -/
def past (m : Mark) (c : Char) : Mark := ⟨m.index + c.utf8Size, m.line, m.column + 1⟩

/-- The place behind some characters, of which none is a line break. -/
def pastAll (m : Mark) (cs : List Char) : Mark := cs.foldl past m

/-- The start of the next line, behind a line break of `n` bytes. -/
def newline (m : Mark) (n : Nat) : Mark := ⟨m.index + n, m.line + 1, 0⟩

end Mark

/-- Why a text is not YAML, and where. -/
structure Malformed where
  problem : String
  mark : Mark
  deriving DecidableEq, Repr

/-! ## Classes of characters -/

/-- The character that stands for the end of the text. -/
def endOfText : Char := '\x00'

/-- The characters that a text may hold. -/
def isAllowed (c : Char) : Bool :=
  let n := c.toNat
  n = 0x09 || n = 0x0a || n = 0x0d || (0x20 ≤ n && n ≤ 0x7e) || n = 0x85 ||
    (0xa0 ≤ n && n ≤ 0xd7ff) || (0xe000 ≤ n && n ≤ 0xfffd) || 0x10000 ≤ n

/-- Line breaks. -/
def isBreak (c : Char) : Bool :=
  c = '\n' || c = '\r' || c = '\u0085' || c = '\u2028' || c = '\u2029'

/-- Spaces and tabs. -/
def isBlank (c : Char) : Bool := c = ' ' || c = '\t'

/-- Line breaks and the end of the text. -/
def isBreakOrEnd (c : Char) : Bool := isBreak c || c = endOfText

/-- Blanks, line breaks and the end of the text. -/
def isBlankOrEnd (c : Char) : Bool := isBlank c || isBreakOrEnd c

/-- The characters of names of anchors and of handles of tags. -/
def isWordChar (c : Char) : Bool := c.isAlphanum || c = '_' || c = '-'

/-- How a line break is taken into a scalar: separators are kept, all others become a line feed. -/
def breakText (c : Char) : String :=
  if c = '\u2028' || c = '\u2029' then String.singleton c else "\n"

/-! ## Cursors -/

/-- The rest of a text. -/
structure Cursor where
  rest : List Char
  mark : Mark := {}

namespace Cursor

/-- The `i`-th character from here. -/
def peek (c : Cursor) (i : Nat) : Char := c.rest.getD i endOfText

/-- The next character. -/
def head (c : Cursor) : Char := c.peek 0

/-- Goes `n` characters further; there must be no line break among them. -/
def skip (c : Cursor) (n : Nat) : Cursor := ⟨c.rest.drop n, c.mark.pastAll (c.rest.take n)⟩

/-- Goes on while `p` holds; no line break may satisfy `p`. -/
def skipWhile (c : Cursor) (p : Char → Bool) : Cursor :=
  ⟨c.rest.dropWhile p, c.mark.pastAll (c.rest.takeWhile p)⟩

/-- Takes the characters while `p` holds; no line break may satisfy `p`. -/
def takeWhile (c : Cursor) (p : Char → Bool) : String × Cursor :=
  (String.ofList (c.rest.takeWhile p), c.skipWhile p)

/-- Goes past a line break, if there is one. -/
def skipBreak (c : Cursor) : Cursor :=
  match c.rest with
  | '\r' :: '\n' :: rest => ⟨rest, c.mark.newline 2⟩
  | x :: rest => if isBreak x then ⟨rest, c.mark.newline x.utf8Size⟩ else c
  | [] => c

/-- Whether a line starts here that marks the start or the end of a document. -/
def atDocumentMark (c : Cursor) (sign : Char) : Bool :=
  c.mark.column = 0 && c.peek 0 = sign && c.peek 1 = sign && c.peek 2 = sign &&
    isBlankOrEnd (c.peek 3)

/-- Whether a line starts here that marks the start or the end of a document. -/
def atAnyDocumentMark (c : Cursor) : Bool := c.atDocumentMark '-' || c.atDocumentMark '.'

/-- Goes past blanks and a comment to the end of the line, and past the line break. -/
def finishLine (c : Cursor) : Except Malformed Cursor :=
  let c := c.skipWhile isBlank
  let c := if c.head = '#' then c.skipWhile (fun x => !isBreak x) else c
  if isBreakOrEnd c.head then .ok c.skipBreak
  else .error ⟨"did not find expected comment or line break", c.mark⟩

end Cursor

/-! ## Gaps inside scalars -/

/-- What stands between two stretches of a scalar. -/
inductive Gap where
  | none
  | blanks (text : String)
  | breaks (first more : String)

namespace Gap

/-- One more blank; blanks at the start of a line do not count. -/
def blank (g : Gap) (c : Char) : Gap :=
  match g with
  | none => blanks (String.singleton c)
  | blanks text => blanks (text.push c)
  | breaks first more => breaks first more

/-- One more line break; blanks at the end of a line do not count. -/
def lineBreak (g : Gap) (text : String) : Gap :=
  match g with
  | breaks first more => breaks first (more ++ text)
  | _ => breaks text ""

/-- What the gap adds to the scalar: blanks as they are; a single line feed becomes a space, and of
several the first is dropped. -/
def folded : Gap → String
  | none => ""
  | blanks text => text
  | breaks first more => if first = "\n" then (if more.isEmpty then " " else more) else first ++ more

/-- Whether the gap holds a line break. -/
def isBroken : Gap → Bool
  | breaks _ _ => true
  | _ => false

/-- Whether there is a gap at all. -/
def isSome : Gap → Bool
  | none => false
  | _ => true

end Gap

end PlsqlAudit.Yaml
