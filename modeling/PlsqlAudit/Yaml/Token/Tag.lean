import PlsqlAudit.Yaml.Token.Scalar

/-!
# Reading tags, anchors and directives

A tag is a handle and a suffix, as in `!custom` or `!!str`, or stands as it is between angle
brackets. Characters in a tag may be given by their UTF-8 bytes, as in `%C3%A9`: each has as many
bytes as the first of them says, but nobody asks whether they are the shortest way to write it, or
write a character at all.
-/

namespace PlsqlAudit.Yaml

/-- The characters that a tag may hold; within angle brackets a few more. -/
def isTagChar (verbatim : Bool) (c : Char) : Bool :=
  isWordChar c || (";/?:@&=+$.%!~*'()".toList.contains c) ||
    (verbatim && (c = ',' || c = '[' || c = ']'))

/-- The number of bytes of a character that starts with byte `n`, if one can. -/
def leadWidth? (n : Nat) : Option Nat :=
  if n < 0x80 then some 1
  else if n < 0xc0 then none
  else if n < 0xe0 then some 2
  else if n < 0xf0 then some 3
  else if n < 0xf8 then some 4
  else none

/-- The bytes of a tag, with its escapes resolved. The last character that was given by escapes
still lacks `missing` bytes. -/
def unescapeTag? (missing : Nat) : List Char → Option Octets
  | '%' :: a :: b :: cs => do
    let n ← Number.ofDigits? 16 [a, b]
    let missing ←
      match missing with
      | 0 => (leadWidth? n).map (· - 1)
      | k + 1 => if 0x80 ≤ n && n < 0xc0 then some k else none
    return n.toUInt8 :: (← unescapeTag? missing cs)
  | c :: cs =>
    if c = '%' || missing ≠ 0 then none
    else (unescapeTag? 0 cs).map (c.toNat.toUInt8 :: ·)
  | [] => if missing = 0 then some [] else none

namespace Cursor

/-- Reads the characters of a tag; `head` are those read before, of which there may be none only if
more follow. A zero byte ends the tag, whatever stands behind it. -/
def tagText (c : Cursor) (verbatim : Bool) (head : String) : Except Malformed (Octets × Cursor) :=
  let (text, next) := c.takeWhile (isTagChar verbatim)
  if head.isEmpty && text.isEmpty then .error ⟨"did not find expected tag URI", c.mark⟩
  else
    match unescapeTag? 0 (head.toList.drop 1 ++ text.toList) with
    | none => .error ⟨"found an invalid escape in a tag", c.mark⟩
    | some bytes => .ok (bytes.takeWhile (· ≠ 0), next)

/-- Reads a handle: an exclamation mark, perhaps with a word and another mark behind it. -/
def tagHandle (c : Cursor) : String × Cursor :=
  let (word, next) := (c.skip 1).takeWhile isWordChar
  if next.head = '!' then ("!" ++ word ++ "!", next.skip 1) else ("!" ++ word, next)

/-- Reads a tag. -/
def tag (c : Cursor) (inFlow : Bool) : Except Malformed (Token.Kind × Cursor) := do
  let (kind, next) ←
    if c.peek 1 = '<' then do
      let (suffix, next) ← (c.skip 2).tagText true ""
      if next.head = '>' then pure (Token.Kind.tag "" suffix, next.skip 1)
      else throw ⟨"did not find the expected '>'", next.mark⟩
    else do
      let (handle, next) := c.tagHandle
      if 1 < handle.length && handle.back = '!' then
        let (suffix, next) ← next.tagText false ""
        pure (Token.Kind.tag handle suffix, next)
      else
        let (suffix, next) ← next.tagText false handle
        pure (if suffix.isEmpty then Token.Kind.tag "" [bang] else Token.Kind.tag "!" suffix, next)
  if isBlankOrEnd next.head || (inFlow && next.head = ',') then return (kind, next)
  else throw ⟨"did not find expected whitespace or line break", next.mark⟩

/-- Reads the name of an anchor or an alias, behind its indicator. -/
def anchorName (c : Cursor) : Except Malformed (String × Cursor) :=
  let (name, next) := (c.skip 1).takeWhile isWordChar
  if !name.isEmpty && (isBlankOrEnd next.head || "?:,]\x7d%@\x60".toList.contains next.head) then
    .ok (name, next)
  else .error ⟨"did not find expected alphabetic or numeric character", next.mark⟩

/-- Reads a number of at most nine digits. -/
def versionNumber (c : Cursor) : Except Malformed (Nat × Cursor) :=
  let (digits, next) := c.takeWhile Char.isDigit
  match Number.ofDigits? 10 digits.toList with
  | some n =>
    if digits.length ≤ 9 then .ok (n, next)
    else .error ⟨"found extremely long version number", c.mark⟩
  | none => .error ⟨"did not find expected version number", c.mark⟩

/-- Reads a directive, which takes up the rest of its line. -/
def directive (c : Cursor) : Except Malformed (Token.Kind × Cursor) := do
  let (name, next) := (c.skip 1).takeWhile isWordChar
  if !isBlankOrEnd next.head then
    throw ⟨"found unexpected non-alphabetical character", next.mark⟩
  let next := next.skipWhile isBlank
  let (kind, next) ←
    if name = "YAML" then do
      let (major, next) ← next.versionNumber
      if next.head ≠ '.' then
        throw ⟨"did not find expected digit or '.' character", next.mark⟩
      let (minor, next) ← (next.skip 1).versionNumber
      pure (Token.Kind.version major minor, next)
    else if name = "TAG" then do
      if next.head ≠ '!' then throw ⟨"did not find expected '!'", next.mark⟩
      let (handle, next) := next.tagHandle
      if handle ≠ "!" && handle.back ≠ '!' then throw ⟨"did not find expected '!'", next.mark⟩
      if !isBlank next.head then throw ⟨"did not find expected whitespace", next.mark⟩
      let (expansion, next) ← (next.skipWhile isBlank).tagText true ""
      if !isBlankOrEnd next.head then
        throw ⟨"did not find expected whitespace or line break", next.mark⟩
      pure (Token.Kind.tagHandle handle expansion, next)
    else throw ⟨"found unknown directive name", next.mark⟩
  return (kind, ← next.finishLine)

end Cursor

end PlsqlAudit.Yaml
