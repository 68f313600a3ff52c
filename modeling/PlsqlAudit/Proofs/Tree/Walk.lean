import Mathlib.Data.List.Basic
import PlsqlAudit.Tree.Walk

/-!
# A walk takes the steps of the tree in order

* `Node.inductOnChildren` — the induction that every statement about whole trees uses: what holds of
  a node as soon as it holds of its children holds of all nodes.
* `Node.nodes` — the nodes of a tree in pre-order, without their paths.
* `Node.walk_eq_foldl_steps` — the walk, which keeps the steps still to be taken on a list, takes the
  steps that the recursion on the tree gives, whatever the visitor does.
* `Node.walk_eq_foldl_nodes` — a visitor that does nothing when it leaves a node sees the nodes in
  pre-order.
-/

namespace PlsqlAudit

namespace Node

/-- What passes from the children to their parent holds of every node. -/
theorem inductOnChildren {P : Node → Prop} (step : ∀ n : Node, (∀ c ∈ n.children, P c) → P n) :
    ∀ n, P n
  | ⟨kind, token, children, range⟩ =>
    step ⟨kind, token, children, range⟩ fun c hc =>
      have : sizeOf c < sizeOf children := List.sizeOf_lt_of_mem hc
      inductOnChildren step c
termination_by n => sizeOf n
decreasing_by
  simp only [Node.mk.sizeOf_spec]
  omega

/-! ## Nodes in pre-order -/

/-- The nodes of the tree, a node before its children and earlier children before later ones. -/
def nodes (n : Node) : List Node := n.preorder.map (·.2)

theorem preorderFrom_eq (path : List Nat) (n : Node) :
    preorderFrom path n = (path, n) :: preorderAll path 0 n.children := by
  cases n
  rfl

/-- The paths do not matter to the nodes themselves. -/
theorem map_snd_preorderFrom (n : Node) :
    ∀ path, (preorderFrom path n).map (·.2) = n.nodes := by
  induction n using inductOnChildren with
  | step n ih =>
    have all : ∀ (cs : List Node), (∀ c ∈ cs, c ∈ n.children) → ∀ p q i j,
        (preorderAll p i cs).map (·.2) = (preorderAll q j cs).map (·.2) := by
      intro cs
      induction cs with
      | nil => intro _ p q i j; rfl
      | cons c cs ihcs =>
        intro hmem p q i j
        have hc := ih c (hmem c List.mem_cons_self)
        simp only [preorderAll, List.map_append, hc]
        rw [ihcs (fun x hx => hmem x (List.mem_cons_of_mem _ hx)) p q (i + 1) (j + 1)]
    intro path
    unfold nodes preorder
    rw [preorderFrom_eq, preorderFrom_eq, List.map_cons, List.map_cons,
      all n.children (fun _ h => h) path [] 0 0]

theorem map_snd_preorderAll (path : List Nat) (cs : List Node) :
    ∀ i, (preorderAll path i cs).map (·.2) = cs.flatMap nodes := by
  induction cs with
  | nil => intro i; rfl
  | cons c cs ih =>
    intro i
    rw [preorderAll, List.map_append, map_snd_preorderFrom, ih, List.flatMap_cons]

/-- The nodes of a tree are its root and the nodes of the subtrees, in order. -/
theorem nodes_eq (n : Node) : n.nodes = n :: n.children.flatMap nodes := by
  show (preorderFrom [] n).map (·.2) = _
  rw [preorderFrom_eq, List.map_cons, map_snd_preorderAll]

theorem nodes_leaf (kind : Kind) (text : String) (range : Range) :
    (leaf kind text range).nodes = [leaf kind text range] := nodes_eq _

theorem length_nodes (n : Node) : n.nodes.length = n.count := by
  induction n using inductOnChildren with
  | step n ih =>
    have all : ∀ cs : List Node, (∀ c ∈ cs, c.nodes.length = c.count) →
        (cs.flatMap nodes).length = countAll cs := by
      intro cs
      induction cs with
      | nil => intro _; rfl
      | cons c cs ihcs =>
        intro h
        rw [List.flatMap_cons, List.length_append, h c List.mem_cons_self,
          ihcs fun x hx => h x (List.mem_cons_of_mem _ hx), countAll]
    rw [nodes_eq, List.length_cons, all n.children ih, count_eq]

/-! ## Steps of a walk -/

theorem stepsAll_eq_flatMap (ns : List Node) : stepsAll ns = ns.flatMap steps := by
  induction ns with
  | nil => rfl
  | cons n ns ih => rw [stepsAll, ih, List.flatMap_cons]

/-- A node is entered, its children are walked one after the other, and the node is left. -/
theorem steps_eq (n : Node) : n.steps = .enter n :: (n.children.flatMap steps ++ [.leave n]) := by
  cases n
  rw [steps, stepsAll_eq_flatMap]

end Node

namespace Step

/-- A step together with all the steps that it gives rise to. -/
def full : Step → List Step
  | enter n => n.steps
  | leave n => [leave n]

/-- The node that a step enters. -/
def entered? : Step → Option Node
  | enter n => some n
  | leave _ => none

/-- Entering a node gives rise to what stands inside it. -/
theorem full_enter (n : Node) : (enter n).full = enter n :: (inside n).flatMap full := by
  show n.steps = _
  rw [Node.steps_eq, inside, List.flatMap_append, List.flatMap_map]
  rfl

end Step

namespace Node

/-- The walk from a list of steps takes each of them with all that it gives rise to. -/
theorem walkOn_eq_foldl {σ : Type} (v : Visitor σ) (todo : List Step) (s : σ) :
    walkOn v todo s = (todo.flatMap Step.full).foldl (Step.apply v) s := by
  fun_induction walkOn v todo s with
  | case1 s => rfl
  | case2 s n rest ih =>
    rw [ih, List.flatMap_cons, List.foldl_append]
    rfl
  | case3 s n rest ih =>
    rw [ih, List.flatMap_append, List.flatMap_cons, Step.full_enter]
    rfl

/-- **A walk takes the steps of the tree in order**, whatever state the visitor keeps. -/
theorem walk_eq_foldl_steps {σ : Type} (n : Node) (v : Visitor σ) (s : σ) :
    n.walk v s = n.steps.foldl (Step.apply v) s := by
  unfold walk
  rw [walkOn_eq_foldl, List.flatMap_singleton]
  rfl

/-- The nodes that a walk enters are those of the tree in pre-order. -/
theorem filterMap_entered_steps (n : Node) : n.steps.filterMap Step.entered? = n.nodes := by
  induction n using inductOnChildren with
  | step n ih =>
    have hchildren : (n.children.flatMap steps).filterMap Step.entered? = n.children.flatMap nodes := by
      rw [List.filterMap_flatMap]
      exact List.flatMap_congr ih
    have henter : Step.entered? (.enter n) = some n := rfl
    rw [steps_eq, nodes_eq, List.filterMap_cons_some henter, List.filterMap_append, hchildren]
    simp [Step.entered?]

/-- **A visitor that does nothing when it leaves a node sees the nodes in pre-order.** -/
theorem walk_eq_foldl_nodes {σ : Type} (n : Node) (v : Visitor σ) (s : σ)
    (h : ∀ s n, v.leave s n = s) : n.walk v s = n.nodes.foldl v.enter s := by
  rw [walk_eq_foldl_steps, ← filterMap_entered_steps, List.foldl_filterMap]
  congr 1
  funext s x
  cases x with
  | enter n => rfl
  | leave n => exact h s n

/-- A walk that collects the nodes it enters gives them in pre-order. -/
theorem walk_collect (n : Node) :
    n.walk { enter := fun seen m => seen ++ [m] } [] = n.nodes := by
  rw [walk_eq_foldl_nodes n _ [] fun _ _ => rfl, List.foldl_append_eq_append, List.nil_append,
    ← List.flatMap_def, List.flatMap_singleton']

end Node

end PlsqlAudit
