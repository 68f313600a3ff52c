import PlsqlAudit.Source.Range
import PlsqlAudit.Tree.Kind

/-!
# Syntax tree nodes

A node has a kind, the token it stands for (if any), children and the range of text it takes up.

* `Node.leaf`, `Node.composite` — a node without children, with or without a token.
* `Node.pushChild` — adds a last child and widens the range to cover it. The range a composite node
  was made with is only a placeholder: its first child replaces it.
* `Node.get?` — the node at a path of child indexes.
* `Node.preorder` — all nodes with their paths, a node before its children.
* `Node.size` — the number of nodes, counted with a work list; `Node.count` counts by recursion.
-/

namespace PlsqlAudit

/-- A node of the syntax tree, with everything below it. -/
structure Node where
  kind : Kind
  token : Option String
  children : List Node
  range : Range
  deriving Repr

namespace Node

/-- A node that stands for the token `text`. -/
def leaf (kind : Kind) (text : String) (range : Range) : Node := ⟨kind, some text, [], range⟩

/-- A node that will be made up of children. -/
def composite (kind : Kind) (range : Range) : Node := ⟨kind, none, [], range⟩

/-- Adds a last child. The range grows to cover it, and is the child's own if so far the node had
neither token nor child. -/
def pushChild (n child : Node) : Node :=
  { n with
    range := if n.children.isEmpty && n.token.isNone then child.range else n.range.cover child.range
    children := n.children ++ [child] }

/-- Adds children one after the other. -/
def pushChildren (n : Node) (children : List Node) : Node := children.foldl pushChild n

/-- Whether the node is of kind `k`. -/
def isKind (n : Node) (k : Kind) : Bool := n.kind = k

/-- Whether one of the children is of kind `k`. -/
def hasChild (n : Node) (k : Kind) : Bool := n.children.any (·.isKind k)

/-- The token, or the kind of a node without one. -/
def label (n : Node) : String := n.token.getD n.kind.display

/-- The node at the end of a path of child indexes. -/
def get? (n : Node) : List Nat → Option Node
  | [] => some n
  | i :: path =>
    match n.children[i]? with
    | none => none
    | some child => child.get? path

mutual

/-- The number of nodes, by recursion on the tree. -/
def count : Node → Nat
  | ⟨_, _, children, _⟩ => countAll children + 1

/-- The number of nodes in all the trees together. -/
def countAll : List Node → Nat
  | [] => 0
  | n :: ns => n.count + countAll ns

end

theorem count_eq (n : Node) : n.count = countAll n.children + 1 := by
  cases n; rfl

theorem countAll_append (ns ms : List Node) : countAll (ns ++ ms) = countAll ns + countAll ms := by
  induction ns with
  | nil => simp [countAll]
  | cons n ns ih => simp [countAll, ih, Nat.add_assoc]

mutual

/-- All nodes with their paths below `path`, a node before its children and earlier children before
later ones. -/
def preorderFrom (path : List Nat) : Node → List (List Nat × Node)
  | ⟨kind, token, children, range⟩ =>
    (path, ⟨kind, token, children, range⟩) :: preorderAll path 0 children

/-- The same for a list of children that starts at index `i`. -/
def preorderAll (path : List Nat) (i : Nat) : List Node → List (List Nat × Node)
  | [] => []
  | n :: ns => preorderFrom (path ++ [i]) n ++ preorderAll path (i + 1) ns

end

/-- All nodes with their paths, a node before its children. -/
def preorder (n : Node) : List (List Nat × Node) := preorderFrom [] n

/-- Puts children on a work list, one by one. -/
def pushAll (work children : List Node) : List Node := children.foldl (fun w c => c :: w) work

theorem countAll_pushAll (work children : List Node) :
    countAll (pushAll work children) = countAll work + countAll children := by
  induction children generalizing work with
  | nil => simp [pushAll, countAll]
  | cons c cs ih =>
    have h : pushAll work (c :: cs) = pushAll (c :: work) cs := rfl
    rw [h, ih]
    simp only [countAll]
    omega

/-- Takes nodes off the work list, counts each and puts its children on the list. -/
def sizeFrom (work : List Node) (n : Nat) : Nat :=
  match work with
  | [] => n
  | x :: rest => sizeFrom (pushAll rest x.children) (n + 1)
termination_by countAll work
decreasing_by
  rw [countAll_pushAll, countAll, count_eq]
  omega

/-- The number of nodes. The work list keeps the depth of the tree off the call stack. -/
def size (n : Node) : Nat := sizeFrom [n] 0

end Node

/-- A file to look at: its path, whether it is a test source, and its tree. -/
structure SourceFile where
  path : String
  isTest : Bool := false
  root : Node

end PlsqlAudit
