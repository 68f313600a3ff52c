import PlsqlAudit.Tree.Node

/-!
# Walking a tree

A walk enters every node before its children and leaves it after them, and carries along whatever
state the visitor keeps.

* `Visitor` — what happens to the state when a node is entered and when it is left.
* `Node.walk` — the walk, with the steps still to be taken on a list.
* `Node.steps` — the steps in order, by recursion on the tree, as a reference.
* `Node.enterLine` — what a trace of a walk says when a node is entered.
-/

namespace PlsqlAudit

/-- What a walk does to the state `σ` at each node. -/
structure Visitor (σ : Type) where
  enter : σ → Node → σ
  leave : σ → Node → σ := fun s _ => s

/-- One step of a walk. -/
inductive Step where
  | enter (n : Node)
  | leave (n : Node)

namespace Step

/-- The state after one step. -/
def apply {σ : Type} (v : Visitor σ) (s : σ) : Step → σ
  | enter n => v.enter s n
  | leave n => v.leave s n

/-- An upper bound on the steps that follow from a step still to be taken. -/
def weight : Step → Nat
  | enter n => 2 * n.count
  | leave _ => 1

/-- The weight of several steps. -/
def weightAll : List Step → Nat
  | [] => 0
  | s :: ss => s.weight + weightAll ss

/-- What follows the entry of a node: enter each child, then leave the node. -/
def inside (n : Node) : List Step := n.children.map enter ++ [leave n]

theorem weightAll_append (ss ts : List Step) :
    weightAll (ss ++ ts) = weightAll ss + weightAll ts := by
  induction ss with
  | nil => simp [weightAll]
  | cons s ss ih => simp only [List.cons_append, weightAll, ih, Nat.add_assoc]

theorem weightAll_map_enter (ns : List Node) :
    weightAll (ns.map enter) = 2 * Node.countAll ns := by
  induction ns with
  | nil => rfl
  | cons n ns ih =>
    simp only [List.map_cons, weightAll, weight, Node.countAll, ih]
    omega

theorem weightAll_inside_append (n : Node) (rest : List Step) :
    weightAll (inside n ++ rest) < weightAll (enter n :: rest) := by
  simp only [inside, weightAll_append, weightAll_map_enter, weightAll, weight, Node.count_eq]
  omega

end Step

namespace Node

/-- Takes the steps on the list, and those that entering a node gives rise to. -/
def walkOn {σ : Type} (v : Visitor σ) (steps : List Step) (s : σ) : σ :=
  match steps with
  | [] => s
  | .leave n :: rest => walkOn v rest (v.leave s n)
  | .enter n :: rest => walkOn v (Step.inside n ++ rest) (v.enter s n)
termination_by Step.weightAll steps
decreasing_by
  · simp [Step.weightAll, Step.weight]
  · exact Step.weightAll_inside_append n rest

/-- Walks the tree, starting with the state `s`. -/
def walk {σ : Type} (n : Node) (v : Visitor σ) (s : σ) : σ := walkOn v [.enter n] s

mutual

/-- The steps of a walk in order: enter the node, the steps of its children, leave the node. -/
def steps : Node → List Step
  | ⟨kind, token, children, range⟩ =>
    .enter ⟨kind, token, children, range⟩ ::
      (stepsAll children ++ [.leave ⟨kind, token, children, range⟩])

/-- The steps of several trees, one after the other. -/
def stepsAll : List Node → List Step
  | [] => []
  | n :: ns => n.steps ++ stepsAll ns

end

/-- What a trace of a walk says when the node is entered. -/
def enterLine (n : Node) : String := s!"enter {n.kind.display} at {n.range.start.describe}"

end Node

end PlsqlAudit
