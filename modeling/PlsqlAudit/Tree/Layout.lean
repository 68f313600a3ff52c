import PlsqlAudit.Tree.Node

/-!
# Laying out tokens as text

A layout is the text written so far and the place where it ends. Tokens are written one after the
other, with a single space between two tokens on a line, and every token node gets the range that
its text takes up.

* `Layout.token` — writes a token and gives its node.
* `Layout.newline` — starts the next token on a new line.
* `Layout.node` — a node over children that were made before; it writes nothing.
-/

namespace PlsqlAudit

/-- A text under construction. -/
structure Layout where
  text : String
  cursor : Position
  deriving DecidableEq, Repr

namespace Layout

/-- The layout with nothing written. -/
def blank : Layout := ⟨"", .start⟩

/-- Writes `s` at the end. -/
def put (l : Layout) (s : String) : Layout := ⟨l.text ++ s, l.cursor.advanceText s⟩

/-- Writes the space that parts two tokens, unless the next token starts a line. -/
def gap (l : Layout) : Layout :=
  if l.text.isEmpty || l.text.endsWith '\n' then l else l.put " "

/-- Goes to the start of a new line. -/
def newline (l : Layout) : Layout := l.put "\n"

/-- Writes a token, and gives the node that stands for it. -/
def token (l : Layout) (kind : Kind) (text : String) : Node × Layout :=
  let before := l.gap
  let after := before.put text
  (.leaf kind text ⟨before.cursor, after.cursor⟩, after)

/-- Writes a keyword in capitals. -/
def keyword (l : Layout) (word : Keyword) : Node × Layout := l.token (.keyword word) word.spelling

/-- Writes an identifier. -/
def identifier (l : Layout) (text : String) : Node × Layout := l.token .identifier text

/-- Writes a literal. -/
def literal (l : Layout) (text : String) : Node × Layout := l.token .literal text

/-- Writes a punctuator. -/
def punctuator (l : Layout) (text : String) : Node × Layout := l.token .punctuator text

/-- A node over the given children; without any, it stands at the end of the text. -/
def node (l : Layout) (kind : Kind) (children : List Node) : Node :=
  (Node.composite kind (.single l.cursor)).pushChildren children

end Layout

end PlsqlAudit
