import PlsqlAudit.Yaml.Scalar
import PlsqlAudit.Data.NameMap

/-!
# Reading data from YAML values

* `Place` — where a value stands: the path of keys and indexes to it, and its mark.
* `Fault` — why a value cannot be read: a mismatch and, once it is known, the place of it. A mismatch
  without a place is about a value that only the collection around it can locate (`placed`).
* `Decode` — a computation that may follow aliases, but only so many of them.
* `Read` — a reader of some type from a value at a path.
* `text`, `truth`, `word`, `list`, `nameMap`, `optional`, `record`, `choice` — readers.

Structures are read from mappings only, entry by entry, over a value that holds the defaults; unknown
keys are passed over, and no alias in their values is followed.
-/

namespace PlsqlAudit.Yaml

/-- One step of a path. -/
inductive PathStep where
  | key (name : String)
  | index (i : Nat)
  /-- A key that is not written where it stands, but given by an alias. -/
  | unknown
  deriving DecidableEq, Repr

/-- The way to a value, the last step first. -/
abbrev Path := List PathStep

/-- The path as messages show it: keys with a point between them, indexes in brackets, and a question
mark for a key that is not known. -/
def Path.display : Path → String
  | [] => "."
  | .index i :: [] => s!".[{i}]"
  | .index i :: parent => s!"{display parent}[{i}]"
  | .key name :: [] => name
  | .key name :: parent => s!"{display parent}.{name}"
  | .unknown :: [] => "?"
  | .unknown :: parent => s!"{display parent}.?"

/-- Where a value stands. -/
structure Place where
  path : Path
  mark : Mark
  deriving DecidableEq, Repr

/-- Why a value cannot be read. -/
inductive Fault where
  /-- Data that does not fit, and where it stands if that is known. -/
  | mismatch (m : Mismatch) (place : Option Place)
  /-- Too many aliases were followed. -/
  | repetition

namespace Fault

/-- The fault, of which it is now known where it is. -/
def located (f : Fault) (place : Place) : Fault :=
  match f with
  | mismatch m none => mismatch m (some place)
  | f => f

/-- The fault in words. The root of the document has no path worth saying, and the first character
of the text no position. -/
def message : Fault → String
  | mismatch m none => m.message dialect
  | mismatch m (some p) =>
    let path := if p.path.isEmpty then "" else s!"{p.path.display}: "
    let position :=
      if p.mark.line = 0 && p.mark.column = 0 then ""
      else s!" at line {p.mark.line + 1} column {p.mark.column + 1}"
    path ++ m.message dialect ++ position
  | repetition => "repetition limit exceeded"

end Fault

/-! ## Following aliases -/

/-- What there is to know of a document while it is read. -/
structure Session where
  anchors : Anchors
  /-- How many more aliases may be followed. -/
  allowance : Nat

/-- A document may be read as if it were a hundred times as large, but not more. -/
def Session.ofRoot (root : Node) : Session := ⟨root.anchors, 100 * root.weight⟩

/-- A computation on the values of a document. -/
abbrev Decode := StateT Session (Except Fault)

/-- A reader of `α` from a value at a path. -/
abbrev Read (α : Type) := Path → Node → Decode α

/-- The value of a document as `read` reads it. -/
def Read.run {α : Type} (read : Read α) (root : Node) : Except Fault α :=
  (read [] root).run' (.ofRoot root)

/-- The value that an alias stands for; any other value stands for itself. -/
def follow (n : Node) : Decode Node := do
  match n with
  | .reference mark number => do
    let s ← get
    if s.allowance = 0 then throw .repetition
    set { s with allowance := s.allowance - 1 }
    return (s.anchors.lookup number).getD (.absent mark)
  | n => return n

/-- Gives a fault without a place the place of value `n`. -/
def placed {α : Type} (path : Path) (n : Node) (result : Decode α) : Decode α :=
  tryCatch result fun f => throw (f.located ⟨path, n.mark⟩)

/-- Refuses a value at its own place. -/
def refuse {α : Type} (path : Path) (n : Node) (m : Mismatch) : Decode α :=
  throw (.mismatch m (some ⟨path, n.mark⟩))

/-- Refuses a value that only the collection around it can locate. -/
def refuseUnplaced {α : Type} (m : Mismatch) : Decode α := throw (.mismatch m none)

/-! ## Simple types -/

/-- Reads the text of any scalar; `expected` says what for. -/
def textAs (expected : String) : Read String := fun path n => do
  let n ← follow n
  match n with
  | .scalar _ _ text => return text
  | _ => refuse path n (n.mismatch expected)

/-- Reads the text of any scalar. -/
def text : Read String := textAs "a string"

/-- Whether the scalar may be taken for one of a standard type: it is plain, or a literal block with
the tag of that type. -/
def readsAs (type : NodeTag) (tag : Option NodeTag) (style : Style) : Bool :=
  style = .plain || (style = .literal && tag = some type)

/-- Reads a truth value. -/
def truth : Read Bool := fun path n => do
  let n ← follow n
  match n with
  | .scalar h style text =>
    match if readsAs .bool h.tag style then readsBool? text else none with
    | some b => return b
    | none => refuse path n (n.mismatch "a boolean")
  | _ => refuse path n (n.mismatch "a boolean")

/-- Reads a number of 64 bits. -/
def word : Read Nat := fun path n => do
  let n ← follow n
  match n with
  | .scalar h style text =>
    match if readsAs .int h.tag style then readsNat? text else none with
    | some k => if k < Number.wordLimit then return k else refuse path n (n.mismatch "usize")
    | none => refuse path n (n.mismatch "usize")
  | _ => refuse path n (n.mismatch "usize")

/-- Reads a list; an absent value is an empty one. -/
def list {α : Type} (read : Read α) : Read (List α) := fun path n => do
  let n ← follow n
  match n with
  | .sequence _ items =>
    placed path n (items.zipIdx.mapM fun (item, i) => read (.index i :: path) item)
  | _ => if n.isAbsent then return [] else refuse path n (n.mismatch "a sequence")

/-- Whether a scalar stands for nothing, where a value may be missing. -/
def isNothing (tag : Option NodeTag) (style : Style) (text : String) : Decode Bool :=
  match style, tag with
  | .plain, none => return text.isEmpty || readsNull text
  | .plain, some .null =>
    if readsNull text then return true else refuseUnplaced (.invalidValue (.text text) "null")
  | _, _ => return false

/-- Reads a value that may be missing. -/
def optional {α : Type} (read : Read α) : Read (Option α) := fun path n => do
  let n ← follow n
  let missing ←
    match n with
    | .scalar h style text => isNothing h.tag style text
    | _ => pure false
  if missing then return none else return some (← read path n)

/-! ## Values with names -/

/-- Makes sure that a tagged value without content comes with none. -/
def noContent (path : Path) (n : Node) : Decode Unit :=
  match n with
  | .scalar _ style text =>
    if style = .plain && (text.isEmpty || readsNull text) then return ()
    else refuse path n (.invalidValue (.text text) "null")
  | _ => refuse path n (n.mismatch "unit")

/-- Reads the name of a value: that of its tag, in which case the value itself is the content, or the
text of a scalar. -/
def variant (path : Path) (n : Node) : Decode (String × Bool) :=
  match n.tagName?, n with
  | some name, _ => return (name, true)
  | none, .scalar _ _ text => return (text, false)
  | none, n => refuse path n (n.mismatch "a YAML tag starting with '!'")

/-- Refuses a name that is not known. A name given by a tag has no place of its own. -/
def unknownVariant {α : Type} (path : Path) (n : Node) (name : String) (tagged : Bool)
    (known : List String) : Decode α :=
  if tagged then refuseUnplaced (.unknownVariant name known)
  else refuse path n (.unknownVariant name known)

/-- Reads a value that has a name. A fault without a place in a value that an alias stands for is
located at the alias. -/
def named {α : Type} (read : Read α) : Read α := fun path n =>
  match n with
  | .reference _ _ => placed path n (do read path (← follow n))
  | n => read path n

/-- Reads a value that is nothing but its name. -/
def choice {α : Type} (known : List String) (ofName? : String → Option α) : Read α :=
  named fun path n => do
    let (name, tagged) ← variant path n
    match ofName? name with
    | none => unknownVariant path n name tagged known
    | some a => do
      if tagged then noContent path n
      return a

/-! ## Structures and maps -/

/-- The step to the value of a key, which reads as `name`. -/
def PathStep.ofKey (key : Node) (name : String) : PathStep :=
  match key with
  | .reference _ _ => .unknown
  | _ => .key name

/-- Reads the fields of a structure, entry by entry, into `σ`. A field may be given once; `seen` are
those already given. -/
def fields {σ : Type} (field? : String → Option (σ → Read σ)) (path : Path)
    (seen : List String) (s : σ) : List (Node × Node) → Decode σ
  | [] => return s
  | (key, value) :: entries => do
    let name ← textAs "field identifier" path key
    match field? name with
    | none => fields field? path seen s entries
    | some read =>
      if name ∈ seen then refuseUnplaced (.duplicateField name)
      else do
        let s ← read s (.ofKey key name :: path) value
        fields field? path (name :: seen) s entries

/-- Reads a structure from a mapping, over its defaults; an absent value gives the defaults. -/
def record {σ : Type} (name : String) (defaults : σ) (field? : String → Option (σ → Read σ)) :
    Read σ := fun path n => do
  let n ← follow n
  match n with
  | .mapping _ entries => placed path n (fields field? path [] defaults entries)
  | _ => if n.isAbsent then return defaults else refuse path n (n.mismatch s!"struct {name}")

/-- Reads a map from names; of several entries of a name the last counts. -/
def nameMap {α : Type} (read : Read α) : Read (NameMap α) := fun path n => do
  let n ← follow n
  match n with
  | .mapping _ entries => do
    let pairs ← placed path n (entries.mapM fun (key, value) => do
      let name ← text path key
      return (name, ← read (.ofKey key name :: path) value))
    return .ofList pairs
  | _ => if n.isAbsent then return .empty else refuse path n (n.mismatch "a map")

end PlsqlAudit.Yaml
