import PlsqlAudit.Text.Spelling
import PlsqlAudit.Tree.Node

/-!
# Occurrences of a spelling in a tree

Searching a tree gives occurrences: nodes together with the way to them from where the search
began. Tokens are compared up to ASCII case, and no token matches an empty target.

* `Node.find?` — the first occurrence, a node before its children.
* `Node.findAll` — all occurrences that are not below another occurrence, in the same order.
* `Node.findRec?`, `Node.findAllRec` — the same by recursion on the tree, as a reference.
* `Node.childrenOf`, `Node.firstChild?` — the children of a kind.

The searches keep the nodes still to be looked at on a list, so that the depth of the tree does not
weigh on the call stack.
-/

namespace PlsqlAudit

/-- A node found in a tree. The trail holds the child indexes from the node up to where the search
began, so the innermost index comes first. -/
structure Occurrence where
  trail : List Nat
  node : Node

namespace Occurrence

/-- The node where a search begins. -/
def root (n : Node) : Occurrence := ⟨[], n⟩

/-- The child indexes from where the search began down to the node. -/
def path (o : Occurrence) : List Nat := o.trail.reverse

/-- The children of the node, in order. -/
def children (o : Occurrence) : List Occurrence :=
  o.node.children.mapIdx fun i n => ⟨i :: o.trail, n⟩

/-- The number of nodes below and at the occurrences together. -/
def countAll (os : List Occurrence) : Nat := Node.countAll (os.map (·.node))

theorem countAll_children_append (o : Occurrence) (rest : List Occurrence) :
    countAll (o.children ++ rest) < countAll (o :: rest) := by
  have h : o.children.map (·.node) = o.node.children := by
    simp [children, List.mapIdx_eq_zipIdx_map, Function.comp_def]
  simp only [countAll, List.map_append, h, List.map_cons, Node.countAll_append, Node.countAll,
    Node.count_eq]
  omega

end Occurrence

namespace Node

/-- Whether the node has a token, spelled like `target`. -/
def spells (n : Node) (target : String) : Bool := n.token.any (Text.sameSpelling · target)

/-! ## First occurrence -/

/-- The first node spelled like `target` at or below the nodes on the list. -/
def findOn (target : String) (work : List Occurrence) : Option Occurrence :=
  match work with
  | [] => none
  | o :: rest =>
    if o.node.spells target then some o else findOn target (o.children ++ rest)
termination_by Occurrence.countAll work
decreasing_by exact Occurrence.countAll_children_append o rest

/-- The first node spelled like `target`, looking at a node before its children. -/
def find? (n : Node) (target : String) : Option Occurrence :=
  if target.isEmpty then none else findOn target [.root n]

mutual

/-- The path below `path` of the first node spelled like `target`, by recursion: the node itself if
it matches, else the first that one of its children gives. -/
def findRecFrom? (target : String) (path : List Nat) : Node → Option (List Nat)
  | ⟨kind, token, children, range⟩ =>
    if spells ⟨kind, token, children, range⟩ target then some path
    else findRecAll? target path 0 children

/-- The same for a list of children that starts at index `i`. -/
def findRecAll? (target : String) (path : List Nat) (i : Nat) : List Node → Option (List Nat)
  | [] => none
  | n :: ns => (findRecFrom? target (path ++ [i]) n).or (findRecAll? target path (i + 1) ns)

end

/-- The path of the first node spelled like `target`, by recursion on the tree. -/
def findRec? (n : Node) (target : String) : Option (List Nat) :=
  if target.isEmpty then none else findRecFrom? target [] n

/-! ## All topmost occurrences -/

/-- The topmost nodes spelled like `target` at or below the nodes on the list, after those already
found. -/
def findAllOn (target : String) (work : List Occurrence) (found : Array Occurrence) :
    Array Occurrence :=
  match work with
  | [] => found
  | o :: rest =>
    if o.node.spells target then findAllOn target rest (found.push o)
    else findAllOn target (o.children ++ rest) found
termination_by Occurrence.countAll work
decreasing_by
  · simp only [Occurrence.countAll, List.map_cons, Node.countAll, Node.count_eq]
    omega
  · exact Occurrence.countAll_children_append o rest

/-- All nodes spelled like `target` that are not below another such node, in the order of
`find?`. -/
def findAll (n : Node) (target : String) : List Occurrence :=
  if target.isEmpty then [] else (findAllOn target [.root n] #[]).toList

mutual

/-- The paths below `path` of the topmost nodes spelled like `target`, by recursion: the node
itself if it matches, else those that its children give. -/
def findAllRecFrom (target : String) (path : List Nat) : Node → List (List Nat)
  | ⟨kind, token, children, range⟩ =>
    if spells ⟨kind, token, children, range⟩ target then [path]
    else findAllRecAll target path 0 children

/-- The same for a list of children that starts at index `i`. -/
def findAllRecAll (target : String) (path : List Nat) (i : Nat) : List Node → List (List Nat)
  | [] => []
  | n :: ns => findAllRecFrom target (path ++ [i]) n ++ findAllRecAll target path (i + 1) ns

end

/-- The paths of the topmost nodes spelled like `target`, by recursion on the tree. -/
def findAllRec (n : Node) (target : String) : List (List Nat) :=
  if target.isEmpty then [] else findAllRecFrom target [] n

/-! ## Children of a kind -/

/-- The children of kind `k`. -/
def childrenOf (n : Node) (k : Kind) : List Occurrence :=
  (Occurrence.root n).children.filter (·.node.isKind k)

/-- The first child of kind `k`. -/
def firstChild? (n : Node) (k : Kind) : Option Occurrence :=
  (Occurrence.root n).children.find? (·.node.isKind k)

end Node

/-- The first node spelled like `target` at or below an occurrence, with the way to it from where
the occurrence's own search began. -/
def Occurrence.find? (o : Occurrence) (target : String) : Option Occurrence :=
  if target.isEmpty then none else Node.findOn target [o]

end PlsqlAudit
