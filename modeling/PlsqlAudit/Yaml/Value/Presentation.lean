import PlsqlAudit.Yaml.Scalar

/-!
# How a text is written as a scalar

A text is written without quotes if it then reads back as itself. Otherwise single quotes are used,
or double quotes where single ones cannot express it. A text of several lines is a literal block.

* `Traits` — what about a text bears on the choice.
* `style` — the choice.
* `Style.write` — the scalar, where lines behind the first are indented.
-/

namespace PlsqlAudit.Yaml

/-- Whether a character can stand for itself in a scalar. -/
def isPrintable (c : Char) : Bool :=
  let n := c.toNat
  n = 0x0a || (0x20 ≤ n && n ≤ 0x7e) || (0xa0 ≤ n && n ≤ 0xd7ff) ||
    (0xe000 ≤ n && n ≤ 0xfffd && n ≠ 0xfeff) || 0x10000 ≤ n

/-- What about a text bears on how it can be written. -/
structure Traits where
  /-- It holds a line break. -/
  multiline : Bool
  /-- It can be written without quotes. -/
  allowsPlain : Bool
  /-- It can be written between single quotes. -/
  allowsSingle : Bool
  /-- It can be written as a literal block. -/
  allowsLiteral : Bool

/-- Whether the text starts with, or holds, what would be taken for an indicator. -/
def looksStructural (cs : List Char) : Bool :=
  let startsWith (p : List Char) : Bool := cs.take p.length == p
  let next : Char := cs.getD 1 endOfText
  let first : Char := cs.getD 0 endOfText
  startsWith ['-', '-', '-'] || startsWith ['.', '.', '.'] ||
    "#,[]\x7b\x7d&*!|>'\"%@\x60".toList.contains first ||
    ((first = '?' || first = '-') && isBlankOrEnd next) ||
    (cs.zip (cs.drop 1 ++ [endOfText])).any (fun (c, d) => c = ':' && isBlankOrEnd d) ||
    (cs.zip (cs.drop 1)).any (fun (c, d) => isBlankOrEnd c && d = '#')

/-- The traits of a text. -/
def traits (cs : List Char) : Traits :=
  let pairs := cs.zip (cs.drop 1)
  let padded := cs.head?.any (fun c => c = ' ' || isBreak c) ||
    cs.getLast?.any (fun c => c = ' ' || isBreak c)
  let multiline := cs.any isBreak
  let breakThenSpace := pairs.any fun (c, d) => isBreak c && d = ' '
  let spaceThenBreak := pairs.any fun (c, d) => c = ' ' && isBreak d
  let special := cs.any fun c => !isPrintable c
  { multiline
    allowsPlain := !(padded || multiline || special || looksStructural cs)
    allowsSingle := !(breakThenSpace || spaceThenBreak || special)
    allowsLiteral := !cs.isEmpty && cs.getLast? ≠ some ' ' && !spaceThenBreak && !special }

/-- Whether a text, written plainly, would read as something other than itself. -/
def misreads (s : String) : Bool :=
  match resolve s with
  | .text _ => hasLeadingZero s.toList
  | _ => true

/-- The style in which a text is written; `inLine` says that it must stand on one line. -/
def style (s : String) (inLine : Bool) : Style :=
  let t := traits s.toList
  if inLine && t.multiline then .doubleQuoted
  else if s.toList.contains '\n' then
    if t.allowsLiteral && !inLine then .literal else .doubleQuoted
  else if t.allowsPlain && !misreads s then .plain
  else if t.allowsSingle then .singleQuoted
  else .doubleQuoted

/-! ## Writing in a style -/

/-- The digits of a number in base sixteen, in capitals, at least `width` of them. -/
def hexText (width n : Nat) : String :=
  let digits := String.ofList ((Nat.toDigits 16 n).map Char.toUpper)
  "".pushn '0' (width - digits.length) ++ digits

/-- One character between double quotes. -/
def escapeChar (c : Char) : String :=
  match c with
  | '\x00' => "\\0"
  | '\x07' => "\\a"
  | '\x08' => "\\b"
  | '\t' => "\\t"
  | '\n' => "\\n"
  | '\x0b' => "\\v"
  | '\x0c' => "\\f"
  | '\r' => "\\r"
  | '\x1b' => "\\e"
  | '"' => "\\\""
  | '\\' => "\\\\"
  | '\u0085' => "\\N"
  | '\u2028' => "\\L"
  | '\u2029' => "\\P"
  | _ =>
    if isPrintable c then String.singleton c
    else if c.toNat ≤ 0xff then "\\x" ++ hexText 2 c.toNat
    else if c.toNat ≤ 0xffff then "\\u" ++ hexText 4 c.toNat
    else "\\U" ++ hexText 8 c.toNat

/-- The characters, where a line behind a break starts with `indent` spaces. `fresh` says that a line
starts here. -/
def indentLines (indent : Nat) (fresh : Bool) : List Char → String
  | [] => ""
  | c :: cs =>
    if isBreak c then String.singleton c ++ indentLines indent true cs
    else
      (if fresh then "".pushn ' ' indent else "") ++ String.singleton c ++ indentLines indent false cs

/-- The text between single quotes. -/
def writeSingle (s : String) (indent : Nat) : String :=
  let doubled := s.toList.flatMap fun c => if c = '\'' then ['\'', '\''] else [c]
  let tail := if s.toList.getLast?.any isBreak then "".pushn ' ' indent else ""
  "'" ++ indentLines indent false doubled ++ tail ++ "'"

/-- The signs behind the bar of a literal block: how deep it is indented, if its first line does not
tell, and what to do with line breaks at its end. -/
def literalSigns (cs : List Char) : String :=
  let depth := if cs.head?.any (fun c => c = ' ' || isBreak c) then "2" else ""
  let chomp :=
    match cs.reverse with
    | [] => "-"
    | [c] => if isBreak c then "+" else "-"
    | c :: d :: _ => if !isBreak c then "-" else if isBreak d then "+" else ""
  depth ++ chomp

/-- The text as a literal block. -/
def writeLiteral (s : String) (indent : Nat) : String :=
  "|" ++ literalSigns s.toList ++ "\n" ++ indentLines indent true s.toList

/-- A text in a style, where lines behind the first start with `indent` spaces. A block that would be
folded is written as a literal one, which reads as the same text. -/
def Style.write (style : Style) (s : String) (indent : Nat) : String :=
  match style with
  | .plain => s
  | .singleQuoted => writeSingle s indent
  | .doubleQuoted => "\"" ++ String.join (s.toList.map escapeChar) ++ "\""
  | .literal | .folded => writeLiteral s indent

end PlsqlAudit.Yaml
