import PlsqlAudit.Yaml.Token.Tag

/-!
# From text to tokens

Indentation outside of brackets opens and closes collections. A key of a mapping is known as such
only when its colon is met; until then its place is remembered, and the tokens for the key and for
the start of its mapping are put in there afterwards. Such a key must stand on one line and must not
be longer than 1024 bytes.

* `Lexer` — the tokens so far and the rest of the text.
* `Lexer.step` — reads the next token.
* `tokens` — all tokens of a text.
-/

namespace PlsqlAudit.Yaml

/-- The place of a token that may turn out to be a key. -/
structure KeyPlace where
  /-- The number of tokens before it. -/
  index : Nat
  mark : Mark
  /-- Whether nothing but a key can stand here. -/
  required : Bool

/-- The state of reading tokens. -/
structure Lexer where
  cursor : Cursor
  tokens : Array Token := #[]
  /-- The column of the innermost collection outside of brackets, `-1` if there is none. -/
  indent : Int := -1
  /-- The columns of the collections around it, innermost first. -/
  outer : List Int := []
  /-- Possible keys, one for each level of brackets, innermost first; the last is outside. -/
  keys : List (Option KeyPlace) := [none]
  /-- Whether a key may start here. -/
  keyAllowed : Bool := true
  done : Bool := false

namespace Lexer

/-- Whether the next token stands within brackets. -/
def inFlow (l : Lexer) : Bool := 1 < l.keys.length

/-- The place of the next token. -/
def mark (l : Lexer) : Mark := l.cursor.mark

/-- Adds a token that takes no text. -/
def push (l : Lexer) (kind : Token.Kind) : Lexer :=
  { l with tokens := l.tokens.push ⟨kind, l.mark, l.mark⟩ }

/-- Adds a token that takes the text up to `next`. -/
def take (l : Lexer) (kind : Token.Kind) (next : Cursor) : Lexer :=
  { l with tokens := l.tokens.push ⟨kind, l.mark, next.mark⟩, cursor := next }

/-! ## Possible keys -/

/-- Drops possible keys that can no longer be keys. -/
def dropStaleKeys (l : Lexer) : Except Malformed Lexer := do
  let keys ← l.keys.mapM fun
    | none => pure none
    | some k =>
      if k.mark.line < l.mark.line || k.mark.index + 1024 < l.mark.index then
        if k.required then throw ⟨"could not find expected ':'", k.mark⟩ else pure none
      else pure (some k)
  return { l with keys }

/-- Drops the possible key of this level. -/
def dropKey (l : Lexer) : Except Malformed Lexer :=
  match l.keys with
  | some k :: keys =>
    if k.required then .error ⟨"could not find expected ':'", k.mark⟩
    else .ok { l with keys := none :: keys }
  | _ => .ok l

/-- Remembers that the next token may be a key. -/
def saveKey (l : Lexer) : Except Malformed Lexer :=
  if l.keyAllowed then do
    let l ← l.dropKey
    let k : KeyPlace :=
      { index := l.tokens.size
        mark := l.mark
        required := !l.inFlow && l.indent = l.mark.column }
    return { l with keys := some k :: l.keys.drop 1 }
  else .ok l

/-! ## Indentation -/

/-- Opens a collection at `mark`, if that is deeper than the innermost one; its token is put in
front of token number `index`. -/
def openBlock (l : Lexer) (kind : Token.Kind) (mark : Mark) (index : Nat) : Lexer :=
  if !l.inFlow && l.indent < mark.column then
    { l with
      tokens := l.tokens.insertIdxIfInBounds index ⟨kind, mark, mark⟩
      indent := mark.column
      outer := l.indent :: l.outer }
  else l

/-- Closes the collections that are deeper than `column`. -/
def closeBlocks (l : Lexer) (column : Int) : Lexer :=
  if l.inFlow then l else close column l.outer l
where
  close (column : Int) : List Int → Lexer → Lexer
    | [], l => l
    | i :: outer, l =>
      if column < l.indent then close column outer { l.push .blockEnd with indent := i, outer }
      else l

/-! ## Between tokens -/

/-- Goes past blanks, comments and line breaks. Behind a line break, outside of brackets, a key may
start and tabs are not taken for blanks. A mark for the byte order may start any line. Gives the rest
and whether a key may start. -/
def blanks (inFlow inComment keyAllowed : Bool) (mark : Mark) : List Char → Cursor × Bool
  | [] => (⟨[], mark⟩, keyAllowed)
  | '\r' :: '\n' :: cs => blanks inFlow false (keyAllowed || !inFlow) (mark.newline 2) cs
  | c :: cs =>
    if isBreak c then blanks inFlow false (keyAllowed || !inFlow) (mark.newline c.utf8Size) cs
    else if inComment || c = '#' then blanks inFlow true keyAllowed (mark.past c) cs
    else if c = ' ' || (c = '\t' && (inFlow || !keyAllowed)) ||
        (c = '\ufeff' && mark.column = 0) then
      blanks inFlow false keyAllowed (mark.past c) cs
    else (⟨c :: cs, mark⟩, keyAllowed)

/-! ## Tokens -/

/-- The end of the text. -/
def endStream (l : Lexer) : Except Malformed Lexer := do
  let mark := if l.mark.column = 0 then l.mark else l.mark.newline 0
  let l := { l with cursor := ⟨[], mark⟩ }
  let l ← (l.closeBlocks (-1)).dropKey
  return { l.push .streamEnd with keyAllowed := false, done := true }

/-- A directive. -/
def directive (l : Lexer) : Except Malformed Lexer := do
  let l ← (l.closeBlocks (-1)).dropKey
  let (kind, next) ← l.cursor.directive
  return { l.take kind next with keyAllowed := false }

/-- The start or the end of a document. -/
def documentMark (l : Lexer) (kind : Token.Kind) : Except Malformed Lexer := do
  let l ← (l.closeBlocks (-1)).dropKey
  return { l.take kind (l.cursor.skip 3) with keyAllowed := false }

/-- An opening bracket. -/
def openFlow (l : Lexer) (kind : Token.Kind) : Except Malformed Lexer := do
  let l ← l.saveKey
  let l := l.take kind (l.cursor.skip 1)
  return { l with keys := none :: l.keys, keyAllowed := true }

/-- A closing bracket. -/
def closeFlow (l : Lexer) (kind : Token.Kind) : Except Malformed Lexer := do
  let l ← l.dropKey
  let l := l.take kind (l.cursor.skip 1)
  return { l with keys := if l.inFlow then l.keys.drop 1 else l.keys, keyAllowed := false }

/-- A comma. -/
def flowEntry (l : Lexer) : Except Malformed Lexer := do
  let l ← l.dropKey
  return { l.take .flowEntry (l.cursor.skip 1) with keyAllowed := true }

/-- A dash that opens an item of a sequence. -/
def blockEntry (l : Lexer) : Except Malformed Lexer := do
  if !l.inFlow && !l.keyAllowed then
    throw ⟨"block sequence entries are not allowed in this context", l.mark⟩
  let l ← (l.openBlock .blockSequenceStart l.mark l.tokens.size).dropKey
  return { l.take .blockEntry (l.cursor.skip 1) with keyAllowed := true }

/-- A question mark that opens a key. -/
def explicitKey (l : Lexer) : Except Malformed Lexer := do
  if !l.inFlow && !l.keyAllowed then
    throw ⟨"mapping keys are not allowed in this context", l.mark⟩
  let l ← (l.openBlock .blockMappingStart l.mark l.tokens.size).dropKey
  return { l.take .key (l.cursor.skip 1) with keyAllowed := !l.inFlow }

/-- A colon that opens a value. -/
def value (l : Lexer) : Except Malformed Lexer :=
  match l.keys with
  | some k :: keys =>
    let l := { l with tokens := l.tokens.insertIdxIfInBounds k.index ⟨.key, k.mark, k.mark⟩ }
    let l := l.openBlock .blockMappingStart k.mark k.index
    .ok { l.take .value (l.cursor.skip 1) with keys := none :: keys, keyAllowed := false }
  | _ =>
    if !l.inFlow && !l.keyAllowed then
      .error ⟨"mapping values are not allowed in this context", l.mark⟩
    else
      let l := l.openBlock .blockMappingStart l.mark l.tokens.size
      .ok { l.take .value (l.cursor.skip 1) with keyAllowed := !l.inFlow }

/-- An anchor or an alias. -/
def anchor (l : Lexer) (kind : String → Token.Kind) : Except Malformed Lexer := do
  let l ← l.saveKey
  let (name, next) ← l.cursor.anchorName
  return { l.take (kind name) next with keyAllowed := false }

/-- A tag. -/
def tag (l : Lexer) : Except Malformed Lexer := do
  let l ← l.saveKey
  let (kind, next) ← l.cursor.tag l.inFlow
  return { l.take kind next with keyAllowed := false }

/-- A block scalar. -/
def blockScalar (l : Lexer) (style : Style) : Except Malformed Lexer := do
  let l ← l.dropKey
  let (text, next) ← Scalar.block (style = .literal) l.indent l.cursor
  return { l.take (.scalar style text) next with keyAllowed := true }

/-- A quoted scalar. -/
def quotedScalar (l : Lexer) (style : Style) : Except Malformed Lexer := do
  let l ← l.saveKey
  let start := l.cursor.skip 1
  let (text, next) ←
    if style = .singleQuoted then Scalar.singleQuoted "" .none start.mark start.rest
    else Scalar.doubleQuoted "" .none start.mark start.rest
  return { l.take (.scalar style text) next with keyAllowed := false }

/-- A plain scalar. -/
def plainScalar (l : Lexer) : Except Malformed Lexer := do
  let l ← l.saveKey
  let read ← Scalar.plain l.inFlow (l.indent + 1) "" .none l.mark l.mark l.cursor.rest
  return { l.take (.scalar .plain read.text) read.cursor with keyAllowed := read.gap.isBroken }

/-- Whether a plain scalar can start with the next characters. -/
def startsPlain (l : Lexer) : Bool :=
  let c := l.cursor.head
  let next := l.cursor.peek 1
  !(isBlankOrEnd c || "-?:,[]\x7b\x7d#&*!|>'\"%@\x60".toList.contains c) ||
    (c = '-' && !isBlank next) ||
    (!l.inFlow && (c = '?' || c = ':') && !isBlankOrEnd next)

/-- Reads the next token. -/
def step (l : Lexer) : Except Malformed Lexer := do
  let (cursor, keyAllowed) := blanks l.inFlow false l.keyAllowed l.mark l.cursor.rest
  let l ← { l with cursor, keyAllowed }.dropStaleKeys
  let l := l.closeBlocks l.mark.column
  let c := l.cursor.head
  let opensValue := l.inFlow || isBlankOrEnd (l.cursor.peek 1)
  if c = endOfText then l.endStream
  else if l.mark.column = 0 && c = '%' then l.directive
  else if l.cursor.atDocumentMark '-' then l.documentMark .documentStart
  else if l.cursor.atDocumentMark '.' then l.documentMark .documentEnd
  else if c = '[' then l.openFlow .flowSequenceStart
  else if c = '\x7b' then l.openFlow .flowMappingStart
  else if c = ']' then l.closeFlow .flowSequenceEnd
  else if c = '\x7d' then l.closeFlow .flowMappingEnd
  else if c = ',' then l.flowEntry
  else if c = '-' && isBlankOrEnd (l.cursor.peek 1) then l.blockEntry
  else if c = '?' && opensValue then l.explicitKey
  else if c = ':' && opensValue then l.value
  else if c = '*' then l.anchor .reference
  else if c = '&' then l.anchor .anchor
  else if c = '!' then l.tag
  else if c = '|' && !l.inFlow then l.blockScalar .literal
  else if c = '>' && !l.inFlow then l.blockScalar .folded
  else if c = '\'' then l.quotedScalar .singleQuoted
  else if c = '"' then l.quotedScalar .doubleQuoted
  else if l.startsPlain then l.plainScalar
  else throw ⟨"found character that cannot start any token", l.mark⟩

/-- Reads tokens to the end. Each takes at least one character, so `fuel` need not be more than one
above the number of characters. -/
def run : Nat → Lexer → Except Malformed Lexer
  | 0, l => .ok l
  | fuel + 1, l => if l.done then .ok l else do run fuel (← l.step)

end Lexer

/-- All tokens of a text. -/
def tokens (text : String) : Except Malformed (List Token) := do
  let chars := text.toList
  if !chars.all isAllowed then throw ⟨"control characters are not allowed", {}⟩
  let l ← Lexer.run (chars.length + 1) { cursor := ⟨chars, {}⟩ }
  return l.tokens.toList

end PlsqlAudit.Yaml
