import PlsqlAudit.Number.Digits
import PlsqlAudit.Yaml.Token

/-!
# Reading scalars

* `plain` — a scalar without quotes: it goes on over blanks and more deeply indented lines, and ends
  before a comment, a colon that opens a value, or (within brackets) an indicator.
* `singleQuoted`, `doubleQuoted` — a scalar between quotes; line breaks inside are folded.
* `block` — a scalar given as an indented block of lines, kept as they are or folded.
-/

namespace PlsqlAudit.Yaml.Scalar

/-! ## Plain scalars -/

/-- A scalar that was read, what gap came behind it, and the rest of the text. -/
structure PlainEnd where
  text : String
  gap : Gap
  stop : Mark
  cursor : Cursor

/-- The indicators that end a plain scalar within brackets. -/
def isFlowIndicator (c : Char) : Bool := c = ',' || c = '[' || c = ']' || c = '\x7b' || c = '\x7d'

/-- Reads a plain scalar. `inFlow` says whether it stands within brackets, `indent` how deep its
further lines must be indented outside of them; `stop` is where the text so far ends. -/
def plain (inFlow : Bool) (indent : Int) (text : String) (gap : Gap) (stop : Mark) (mark : Mark) :
    List Char → Except Malformed PlainEnd
  | [] => .ok ⟨text, gap, stop, ⟨[], mark⟩⟩
  | '\r' :: '\n' :: cs => plain inFlow indent text (gap.lineBreak "\n") stop (mark.newline 2) cs
  | c :: cs =>
    if isBlank c then
      if gap.isBroken && c = '\t' && (mark.column : Int) < indent then
        .error ⟨"found a tab character that violates indentation", mark⟩
      else plain inFlow indent text (gap.blank c) stop (mark.past c) cs
    else if isBreak c then
      plain inFlow indent text (gap.lineBreak (breakText c)) stop (mark.newline c.utf8Size) cs
    else
      let here : Cursor := ⟨c :: cs, mark⟩
      let next := here.peek 1
      if gap.isBroken && !inFlow && (mark.column : Int) < indent then .ok ⟨text, gap, stop, here⟩
      else if gap.isSome && (here.atAnyDocumentMark || c = '#') then .ok ⟨text, gap, stop, here⟩
      else if inFlow && c = ':' && (isFlowIndicator next || next = '?') then
        .error ⟨"found unexpected ':'", mark⟩
      else if c = ':' && isBlankOrEnd next then .ok ⟨text, gap, stop, here⟩
      else if inFlow && isFlowIndicator c then .ok ⟨text, gap, stop, here⟩
      else plain inFlow indent ((text ++ gap.folded).push c) .none (mark.past c) (mark.past c) cs

/-! ## Quoted scalars -/

/-- Reads a scalar between single quotes, behind the opening one; a quote inside is doubled. -/
def singleQuoted (text : String) (gap : Gap) (mark : Mark) :
    List Char → Except Malformed (String × Cursor)
  | [] => .error ⟨"found unexpected end of stream", mark⟩
  | '\r' :: '\n' :: cs => singleQuoted text (gap.lineBreak "\n") (mark.newline 2) cs
  | '\'' :: '\'' :: cs =>
    singleQuoted ((text ++ gap.folded).push '\'') .none (mark.pastAll ['\'', '\'']) cs
  | '\'' :: cs => .ok (text ++ gap.folded, ⟨cs, mark.past '\''⟩)
  | c :: cs =>
    if Cursor.atAnyDocumentMark ⟨c :: cs, mark⟩ then
      .error ⟨"found unexpected document indicator", mark⟩
    else if isBlank c then singleQuoted text (gap.blank c) (mark.past c) cs
    else if isBreak c then
      singleQuoted text (gap.lineBreak (breakText c)) (mark.newline c.utf8Size) cs
    else singleQuoted ((text ++ gap.folded).push c) .none (mark.past c) cs

/-- The character that a one-letter escape stands for. -/
def escaped? : Char → Option Char
  | '0' => some '\x00'
  | 'a' => some '\x07'
  | 'b' => some '\x08'
  | 't' => some '\t'
  | '\t' => some '\t'
  | 'n' => some '\n'
  | 'v' => some '\x0b'
  | 'f' => some '\x0c'
  | 'r' => some '\r'
  | 'e' => some '\x1b'
  | ' ' => some ' '
  | '"' => some '"'
  | '/' => some '/'
  | '\\' => some '\\'
  | 'N' => some '\u0085'
  | '_' => some '\u00a0'
  | 'L' => some '\u2028'
  | 'P' => some '\u2029'
  | _ => none

/-- The number of hexadecimal digits behind an escape that gives a code point. -/
def hexLength? : Char → Option Nat
  | 'x' => some 2
  | 'u' => some 4
  | 'U' => some 8
  | _ => none

/-- The character that exactly `n` hexadecimal digits give the code point of. -/
def codePoint? (n : Nat) (cs : List Char) : Option Char :=
  if cs.length < n then none
  else
    match Number.ofDigits? 16 (cs.take n) with
    | none => none
    | some v => if v.isValidChar then some (Char.ofNat v) else none

/-- Reads a scalar between double quotes, behind the opening one. -/
def doubleQuoted (text : String) (gap : Gap) (mark : Mark) (chars : List Char) :
    Except Malformed (String × Cursor) :=
  match chars with
  | [] => .error ⟨"found unexpected end of stream", mark⟩
  | ['\\'] => .error ⟨"found unexpected end of stream", mark⟩
  | '\r' :: '\n' :: cs => doubleQuoted text (gap.lineBreak "\n") (mark.newline 2) cs
  | '"' :: cs => .ok (text ++ gap.folded, ⟨cs, mark.past '"'⟩)
  | '\\' :: '\r' :: '\n' :: cs =>
    doubleQuoted (text ++ gap.folded) (.breaks "" "") ((mark.past '\\').newline 2) cs
  | '\\' :: e :: cs =>
    if isBreak e then
      doubleQuoted (text ++ gap.folded) (.breaks "" "") ((mark.past '\\').newline e.utf8Size) cs
    else
      match escaped? e, hexLength? e with
      | some x, _ => doubleQuoted ((text ++ gap.folded).push x) .none (mark.pastAll ['\\', e]) cs
      | none, some n =>
        match codePoint? n cs with
        | some x =>
          doubleQuoted ((text ++ gap.folded).push x) .none (mark.pastAll ('\\' :: e :: cs.take n))
            (cs.drop n)
        | none => .error ⟨"found invalid Unicode character escape code", mark⟩
      | none, none => .error ⟨"found unknown escape character", mark⟩
  | c :: cs =>
    if Cursor.atAnyDocumentMark ⟨c :: cs, mark⟩ then
      .error ⟨"found unexpected document indicator", mark⟩
    else if isBlank c then doubleQuoted text (gap.blank c) (mark.past c) cs
    else if isBreak c then
      doubleQuoted text (gap.lineBreak (breakText c)) (mark.newline c.utf8Size) cs
    else doubleQuoted ((text ++ gap.folded).push c) .none (mark.past c) cs
termination_by chars.length
decreasing_by
  all_goals simp only [List.length_cons, List.length_drop]
  all_goals omega

/-! ## Block scalars -/

/-- Goes past blank lines and the indentation of the next line with text, up to `limit` columns; a
limit of zero takes all spaces. Gives the line breaks and the deepest column met. -/
def indentation (limit : Nat) (breaks : String) (deepest : Nat) (mark : Mark) :
    List Char → Except Malformed (String × Nat × Cursor)
  | [] => .ok (breaks, max deepest mark.column, ⟨[], mark⟩)
  | '\r' :: '\n' :: cs =>
    indentation limit (breaks ++ "\n") (max deepest mark.column) (mark.newline 2) cs
  | c :: cs =>
    let isOpen := limit = 0 || mark.column < limit
    if c = ' ' && isOpen then indentation limit breaks deepest (mark.past c) cs
    else if c = '\t' && isOpen then
      .error ⟨"found a tab character where an indentation space is expected", mark⟩
    else if isBreak c then
      indentation limit (breaks ++ breakText c) (max deepest mark.column)
        (mark.newline c.utf8Size) cs
    else .ok (breaks, max deepest mark.column, ⟨c :: cs, mark⟩)

/-- The lines of a block so far. -/
structure Block where
  text : String := ""
  /-- The line break behind the last line. -/
  last : String := ""
  /-- The line breaks of the blank lines behind it. -/
  more : String := ""
  /-- Whether the last line started with a blank. -/
  startsBlank : Bool := false

/-- Puts the next line behind the block. Between folded lines one line feed becomes a space, unless
one of them starts with a blank. -/
def Block.add (b : Block) (isLiteral startsBlank : Bool) (line last more : String) : Block :=
  let joint :=
    if !isLiteral && b.last = "\n" && !b.startsBlank && !startsBlank then
      if b.more.isEmpty then " " else ""
    else b.last
  { text := b.text ++ joint ++ b.more ++ line, last, more, startsBlank }

/-- Reads the lines of a block that is indented by `indent` columns. Each line takes at least one
character, so `fuel` need not be more than the number of characters. -/
def blockLines (isLiteral : Bool) (indent : Nat) (fuel : Nat) (b : Block) (c : Cursor) :
    Except Malformed (Block × Cursor) :=
  match fuel with
  | 0 => .ok (b, c)
  | fuel + 1 =>
    if c.mark.column = indent && !c.rest.isEmpty then do
      let startsBlank := isBlank c.head
      let (line, c) := c.takeWhile (fun x => !isBreak x)
      let last := if isBreak c.head then breakText c.head else ""
      let c := c.skipBreak
      let (more, _, c) ← indentation indent "" 0 c.mark c.rest
      blockLines isLiteral indent fuel (b.add isLiteral startsBlank line last more) c
    else .ok (b, c)

/-- What happens to line breaks at the end of a block. -/
inductive Chomp where
  | strip
  | clip
  | keep
  deriving DecidableEq, Repr

/-- Reads the chomping sign and the indentation digit of a block, in either order. -/
def blockHeader (c : Cursor) : Except Malformed (Chomp × Nat × Cursor) :=
  let chomp? (c : Cursor) : Option Chomp :=
    if c.head = '+' then some .keep else if c.head = '-' then some .strip else none
  let depth? (c : Cursor) : Option Nat :=
    if c.head.isDigit then some (c.head.toNat - '0'.toNat) else none
  let parts : Chomp × Option Nat × Cursor :=
    match chomp? c with
    | some h =>
      match depth? (c.skip 1) with
      | some d => (h, some d, c.skip 2)
      | none => (h, none, c.skip 1)
    | none =>
      match depth? c with
      | none => (.clip, none, c)
      | some d =>
        match chomp? (c.skip 1) with
        | some h => (h, some d, c.skip 2)
        | none => (.clip, some d, c.skip 1)
  match parts with
  | (_, some 0, _) => .error ⟨"found an indentation indicator equal to 0", c.mark⟩
  | (h, d, c) => .ok (h, d.getD 0, c)

/-- Reads a block scalar, from its indicator on; `parent` is the indentation around it. -/
def block (isLiteral : Bool) (parent : Int) (c : Cursor) : Except Malformed (String × Cursor) := do
  let (chomp, depth, c) ← blockHeader (c.skip 1)
  let c ← c.finishLine
  let base : Nat := (max parent 0).toNat
  let limit := if depth = 0 then 0 else base + depth
  let (more, deepest, c) ← indentation limit "" 0 c.mark c.rest
  let indent := if limit = 0 then max deepest (max (parent + 1) 1).toNat else limit
  let (b, c) ← blockLines isLiteral indent c.rest.length { more } c
  let tail :=
    match chomp with
    | .strip => ""
    | .clip => b.last
    | .keep => b.last ++ b.more
  return (b.text ++ tail, c)

end PlsqlAudit.Yaml.Scalar
