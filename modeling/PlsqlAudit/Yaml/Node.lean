import PlsqlAudit.Yaml.Token

/-!
# Located YAML values

A YAML document is a tree of scalars, sequences and mappings, each with the place where it starts, its
tag and its anchor, if it has them. Keys of mappings may be any values. Where a value is given by an
alias, the tree only says so: a value may hold an alias of itself, so aliases are followed by whoever
reads the tree, step by step.

* `Node` — a value.
* `NodeTag` — what a tag says about a value.
* `Anchors` — the values of a document that aliases may stand for.
* `Node.anchors` — those of a tree.
* `Node.weight` — the size of a tree.
-/

namespace PlsqlAudit.Yaml

/-- What a tag says about a value. -/
inductive NodeTag where
  | bool
  | int
  | real
  | null
  /-- A tag that starts with an exclamation mark, and the name that it gives: what stands behind the
  mark or, if nothing does, the mark itself. Bytes that are not UTF-8 give no name. -/
  | custom (name : Option String)
  | other
  deriving DecidableEq, Repr

namespace NodeTag

/-- The meaning of a tag that is written in UTF-8. -/
def ofText (text : String) : NodeTag :=
  match text with
  | "tag:yaml.org,2002:bool" => bool
  | "tag:yaml.org,2002:int" => int
  | "tag:yaml.org,2002:float" => real
  | "tag:yaml.org,2002:null" => null
  | text =>
    match text.toList with
    | ['!'] => custom (some "!")
    | '!' :: name => custom (some (String.ofList name))
    | _ => other

/-- The meaning of a tag. -/
def ofOctets (bytes : Octets) : NodeTag :=
  match String.fromUTF8? ⟨bytes.toArray⟩ with
  | some text => ofText text
  | none => if bytes.head? = some bang then custom none else other

end NodeTag

/-- What a value has beside its content. -/
structure Header where
  /-- The place where it starts. -/
  mark : Mark
  tag : Option NodeTag := none
  /-- The number of its anchor. -/
  anchor : Option Nat := none
  deriving DecidableEq, Repr

/-- A value of a YAML document. -/
inductive Node where
  | scalar (header : Header) (style : Style) (text : String)
  | sequence (header : Header) (items : List Node)
  | mapping (header : Header) (entries : List (Node × Node))
  /-- A value that is given elsewhere, with the anchor of that number. -/
  | reference (mark : Mark) (number : Nat)
  deriving Repr

namespace Node

/-- Where the value is written. -/
def mark : Node → Mark
  | scalar h _ _ => h.mark
  | sequence h _ => h.mark
  | mapping h _ => h.mark
  | reference m _ => m

/-- The tag of the value. -/
def tag : Node → Option NodeTag
  | scalar h _ _ => h.tag
  | sequence h _ => h.tag
  | mapping h _ => h.tag
  | reference _ _ => none

/-- The number of the anchor of the value. -/
def anchor : Node → Option Nat
  | scalar h _ _ => h.anchor
  | sequence h _ => h.anchor
  | mapping h _ => h.anchor
  | reference _ _ => none

/-- The absence of a value at a place. -/
def absent (mark : Mark) : Node := scalar { mark } .plain ""

/-- Whether nothing is written for the value. -/
def isAbsent : Node → Bool
  | scalar _ .plain "" => true
  | _ => false

/-- The name that the tag of the value gives. -/
def tagName? (n : Node) : Option String :=
  match n.tag with
  | some (.custom name) => name
  | _ => none

end Node

/-! ## Anchors -/

/-- The values of a document that have an anchor, by its number, the one that starts last first. -/
abbrev Anchors := List (Nat × Node)

/-- Puts a value before others, if it has an anchor. -/
def Anchors.add (anchors : Anchors) (n : Node) : Anchors :=
  match n.anchor with
  | some number => (number, n) :: anchors
  | none => anchors

namespace Node

mutual

/-- Puts the values of a tree that have an anchor before others, the last one first. -/
def addAnchors (n : Node) (anchors : Anchors) : Anchors :=
  match n with
  | scalar h style text => anchors.add (scalar h style text)
  | sequence h items => addItemAnchors items (anchors.add (sequence h items))
  | mapping h entries => addEntryAnchors entries (anchors.add (mapping h entries))
  | reference _ _ => anchors

/-- The same for the items of a sequence. -/
def addItemAnchors (items : List Node) (anchors : Anchors) : Anchors :=
  match items with
  | [] => anchors
  | n :: items => addItemAnchors items (addAnchors n anchors)

/-- The same for the entries of a mapping. -/
def addEntryAnchors (entries : List (Node × Node)) (anchors : Anchors) : Anchors :=
  match entries with
  | [] => anchors
  | (key, value) :: entries => addEntryAnchors entries (addAnchors value (addAnchors key anchors))

end

/-- The values of a tree that have an anchor. -/
def anchors (n : Node) : Anchors := n.addAnchors []

/-! ## Size -/

mutual

/-- The size of a tree: scalars and aliases count once, collections twice, for start and end. -/
def weight : Node → Nat
  | scalar _ _ _ => 1
  | sequence _ items => itemWeight items + 2
  | mapping _ entries => entryWeight entries + 2
  | reference _ _ => 1

/-- The size of the items of a sequence. -/
def itemWeight : List Node → Nat
  | [] => 0
  | n :: items => weight n + itemWeight items

/-- The size of the entries of a mapping. -/
def entryWeight : List (Node × Node) → Nat
  | [] => 0
  | (key, value) :: entries => weight key + weight value + entryWeight entries

end

end Node

end PlsqlAudit.Yaml
