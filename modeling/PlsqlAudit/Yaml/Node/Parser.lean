import PlsqlAudit.Yaml.Node
import PlsqlAudit.Yaml.Token.Lexer

/-!
# From tokens to values

The grammar of YAML over tokens, by recursive descent. A text holds one document; one that holds
nothing gives the absent value.

Anchors are numbered: the number of an anchor is how many names were known before it. An alias takes
the number that its name has at that point, and stands for the last value of the whole document with
that number. So a name that is given again stands for the new value, but it also makes the next new
name get the same number.

* `Parser.node` — one value, with its tag and anchor.
* `Parser.document` — the one document of a text.
* `parse` — the value of a text.

Every value and every item takes at least one token or closes a collection, so the functions here
count down a number that starts well above the number of tokens.
-/

namespace PlsqlAudit.Yaml

/-- The state of reading values. -/
structure ParseState where
  tokens : List Token
  /-- The names of anchors, each once, with their numbers. -/
  names : List (String × Nat) := []
  /-- What the handles of tags stand for. -/
  handles : List (String × Octets) := []

/-- A reader of tokens. -/
abbrev Parser := StateT ParseState (Except Malformed)

namespace Parser

/-- The next token. -/
def peek : Parser Token := do
  return (← get).tokens.headD ⟨.streamEnd, {}, {}⟩

/-- Goes past the next token. -/
def skip : Parser Unit := modify fun s => { s with tokens := s.tokens.drop 1 }

/-- Refuses the next token. -/
def refuse {α : Type} (problem : String) : Parser α := do
  throw ⟨problem, (← peek).start⟩

/-- What the handles of tags stand for, if no directive says otherwise. -/
def standardHandles : List (String × Octets) :=
  [("!", [bang]), ("!!", "tag:yaml.org,2002:".toUTF8.toList)]

/-- The full tag of a handle and a suffix. -/
def fullTag (handle : String) (suffix : Octets) : Parser Octets := do
  if handle.isEmpty then return suffix
  match (← get).handles.lookup handle with
  | some expansion => return expansion ++ suffix
  | none => refuse "found undefined tag handle"

/-- The number of an anchor with a name, which the name has from now on. -/
def number (name : String) : Parser Nat := do
  let names := (← get).names
  modify fun s => { s with names := (name, names.length) :: names.filter (·.1 ≠ name) }
  return names.length

/-- Reads an anchor, if one comes next. -/
def anchor? : Parser (Option Nat) := do
  match (← peek).kind with
  | .anchor name => do
    skip
    return some (← number name)
  | _ => return none

/-- Reads a tag, if one comes next. -/
def tag? : Parser (Option NodeTag) := do
  match (← peek).kind with
  | .tag handle suffix => do
    skip
    return some (.ofOctets (← fullTag handle suffix))
  | _ => return none

/-- Reads a tag and an anchor, in either order, of a value that starts at `mark`. -/
def properties (mark : Mark) : Parser Header := do
  match ← anchor? with
  | some number => return { mark, tag := ← tag?, anchor := some number }
  | none => do
    let tag ← tag?
    match tag with
    | none => return { mark }
    | some _ => return { mark, tag, anchor := ← anchor? }

mutual

/-- Reads a value. `inBlock` says whether it may be told by indentation, `indentless` whether it may
be a sequence that is not indented more than the key before it. -/
def node (fuel : Nat) (inBlock indentless : Bool) : Parser Node := do
  match fuel with
  | 0 => refuse "nested too deeply"
  | fuel + 1 =>
    let first ← peek
    match first.kind with
    | .reference name =>
      match (← get).names.lookup name with
      | some number => do
        skip
        return .reference first.start number
      | none => refuse "unknown anchor"
    | _ => do
      let header ← properties first.start
      let next ← peek
      match next.kind, inBlock, indentless with
      | .blockEntry, _, true => return .sequence header (← indentlessItems fuel)
      | .scalar style text, _, _ => do
        skip
        return .scalar header style text
      | .flowSequenceStart, _, _ => do
        skip
        return .sequence header (← flowItems fuel true)
      | .flowMappingStart, _, _ => do
        skip
        return .mapping header (← flowEntries fuel true)
      | .blockSequenceStart, true, _ => do
        skip
        return .sequence header (← blockItems fuel)
      | .blockMappingStart, true, _ => do
        skip
        return .mapping header (← blockEntries fuel)
      | _, _, _ =>
        if header.tag.isSome || header.anchor.isSome then return .scalar header .plain ""
        else refuse "did not find expected node content"

/-- Reads the items of an indented sequence, up to its end. -/
def blockItems (fuel : Nat) : Parser (List Node) := do
  match fuel with
  | 0 => refuse "nested too deeply"
  | fuel + 1 =>
    let dash ← peek
    match dash.kind with
    | .blockEntry => do
      skip
      let item ←
        match (← peek).kind with
        | .blockEntry => pure (Node.absent dash.stop)
        | .blockEnd => pure (Node.absent dash.stop)
        | _ => node fuel true false
      return item :: (← blockItems fuel)
    | .blockEnd => do
      skip
      return []
    | _ => refuse "did not find expected '-' indicator"

/-- Reads the items of a sequence that is not indented, up to the next key. -/
def indentlessItems (fuel : Nat) : Parser (List Node) := do
  match fuel with
  | 0 => refuse "nested too deeply"
  | fuel + 1 =>
    let dash ← peek
    match dash.kind with
    | .blockEntry => do
      skip
      let item ←
        match (← peek).kind with
        | .blockEntry => pure (Node.absent dash.stop)
        | .key => pure (Node.absent dash.stop)
        | .value => pure (Node.absent dash.stop)
        | .blockEnd => pure (Node.absent dash.stop)
        | _ => node fuel true false
      return item :: (← indentlessItems fuel)
    | _ => return []

/-- Reads the part of an entry of an indented mapping that follows the token `sign`. -/
def blockPart (fuel : Nat) (sign : Token) : Parser Node := do
  match fuel with
  | 0 => refuse "nested too deeply"
  | fuel + 1 =>
    match (← peek).kind with
    | .key => return .absent sign.stop
    | .value => return .absent sign.stop
    | .blockEnd => return .absent sign.stop
    | _ => node fuel true true

/-- Reads the entries of an indented mapping, up to its end. -/
def blockEntries (fuel : Nat) : Parser (List (Node × Node)) := do
  match fuel with
  | 0 => refuse "nested too deeply"
  | fuel + 1 =>
    let sign ← peek
    match sign.kind with
    | .key => do
      skip
      let key ← blockPart fuel sign
      let colon ← peek
      let value ←
        match colon.kind with
        | .value => do
          skip
          blockPart fuel colon
        | _ => pure (Node.absent colon.start)
      return (key, value) :: (← blockEntries fuel)
    | .blockEnd => do
      skip
      return []
    | _ => refuse "did not find expected key"

/-- Reads the one entry of a mapping that stands within brackets without braces, from its key on. -/
def singlePair (fuel : Nat) (mark : Mark) : Parser Node := do
  match fuel with
  | 0 => refuse "nested too deeply"
  | fuel + 1 =>
    let next ← peek
    let key ←
      match next.kind with
      | .value => do
        skip
        pure (Node.absent next.stop)
      | .flowEntry => do
        skip
        pure (Node.absent next.stop)
      | .flowSequenceEnd => do
        skip
        pure (Node.absent next.stop)
      | _ => node fuel false false
    let colon ← peek
    let value ←
      match colon.kind with
      | .value => do
        skip
        let next ← peek
        match next.kind with
        | .flowEntry => pure (Node.absent next.start)
        | .flowSequenceEnd => pure (Node.absent next.start)
        | _ => node fuel false false
      | _ => pure (Node.absent colon.start)
    return .mapping { mark } [(key, value)]

/-- Reads the items of a sequence in brackets, up to the closing one. -/
def flowItems (fuel : Nat) (isFirst : Bool) : Parser (List Node) := do
  match fuel with
  | 0 => refuse "nested too deeply"
  | fuel + 1 =>
    match (← peek).kind, isFirst with
    | .flowSequenceEnd, _ => do
      skip
      return []
    | .flowEntry, false => do
      skip
      flowItem fuel
    | _, false => refuse "did not find expected ',' or ']'"
    | _, true => flowItem fuel

/-- Reads an item of a sequence in brackets and those behind it; behind a comma there may be none. -/
def flowItem (fuel : Nat) : Parser (List Node) := do
  match fuel with
  | 0 => refuse "nested too deeply"
  | fuel + 1 =>
    let next ← peek
    match next.kind with
    | .flowSequenceEnd => do
      skip
      return []
    | .key => do
      skip
      let item ← singlePair fuel next.start
      return item :: (← flowItems fuel false)
    | _ => do
      let item ← node fuel false false
      return item :: (← flowItems fuel false)

/-- Reads the entries of a mapping in braces, up to the closing one. -/
def flowEntries (fuel : Nat) (isFirst : Bool) : Parser (List (Node × Node)) := do
  match fuel with
  | 0 => refuse "nested too deeply"
  | fuel + 1 =>
    match (← peek).kind, isFirst with
    | .flowMappingEnd, _ => do
      skip
      return []
    | .flowEntry, false => do
      skip
      flowPair fuel
    | _, false => refuse "did not find expected ',' or closing brace"
    | _, true => flowPair fuel

/-- Reads an entry of a mapping in braces and those behind it; behind a comma there may be none. -/
def flowPair (fuel : Nat) : Parser (List (Node × Node)) := do
  match fuel with
  | 0 => refuse "nested too deeply"
  | fuel + 1 =>
    match (← peek).kind with
    | .flowMappingEnd => do
      skip
      return []
    | .key => do
      skip
      let key ← flowPart fuel
      let colon ← peek
      let value ←
        match colon.kind with
        | .value => do
          skip
          flowPart fuel
        | _ => pure (Node.absent colon.start)
      return (key, value) :: (← flowEntries fuel false)
    | _ => do
      let key ← node fuel false false
      let value := Node.absent (← peek).start
      return (key, value) :: (← flowEntries fuel false)

/-- Reads a key or a value of a mapping in braces, which may be absent. -/
def flowPart (fuel : Nat) : Parser Node := do
  match fuel with
  | 0 => refuse "nested too deeply"
  | fuel + 1 =>
    let next ← peek
    match next.kind with
    | .value => return .absent next.start
    | .flowEntry => return .absent next.start
    | .flowMappingEnd => return .absent next.start
    | _ => node fuel false false

end

/-- Reads directives; each may stand once. -/
def directives (fuel : Nat) (versioned : Bool) : Parser Unit := do
  match fuel with
  | 0 => refuse "too many directives"
  | fuel + 1 =>
    match (← peek).kind with
    | .version major minor => do
      if versioned then refuse "found duplicate %YAML directive"
      if major ≠ 1 || (minor ≠ 1 && minor ≠ 2) then refuse "found incompatible YAML document"
      skip
      directives fuel true
    | .tagHandle handle expansion => do
      if ((← get).handles.lookup handle).isSome then refuse "found duplicate %TAG directive"
      skip
      modify fun s => { s with handles := (handle, expansion) :: s.handles }
      directives fuel versioned
    | _ => return ()

/-- Reads what a document holds, behind the sign of its start. -/
def content (fuel : Nat) : Parser Node := do
  let next ← peek
  match next.kind with
  | .version _ _ => return .absent next.start
  | .tagHandle _ _ => return .absent next.start
  | .documentStart => return .absent next.start
  | .documentEnd => return .absent next.start
  | .streamEnd => return .absent next.start
  | _ => node fuel true false

/-- Adds the standard handles behind those of directives. -/
def addStandardHandles : Parser Unit :=
  modify fun s => { s with handles := s.handles ++ standardHandles }

/-- Reads the one document of a text. -/
def document (fuel : Nat) : Parser Node := do
  let first ← peek
  let isExplicit :=
    match first.kind with
    | .version _ _ => true
    | .tagHandle _ _ => true
    | .documentStart => true
    | _ => false
  let root ←
    if first.kind = .streamEnd then pure (Node.absent first.start)
    else if isExplicit then do
      directives fuel false
      addStandardHandles
      match (← peek).kind with
      | .documentStart => do
        skip
        content fuel
      | _ => refuse "did not find expected <document start>"
    else do
      addStandardHandles
      node fuel true false
  modify fun s => { s with tokens := s.tokens.dropWhile (·.kind = .documentEnd) }
  match (← peek).kind with
  | .streamEnd => return root
  | _ => refuse "found more than one document"

end Parser

/-- The value of a text that holds one document. -/
def parse (text : String) : Except Malformed Node := do
  let ts ← tokens text
  let (root, _) ← (Parser.document (4 * ts.length + 4)).run { tokens := ts }
  return root

end PlsqlAudit.Yaml
