import PlsqlAudit.Proofs.Tree.Path

/-!
# A walk opens and closes every node once

A walk hands over nodes, and nodes that look alike may stand in many places of a tree. What a walk does
where is told here by moments, which name a node by its path.

* `Node.moments` — the moments of a walk in order, by recursion on the tree.
* `Node.map_step?_moments` — at each moment the walk takes the step that the moment names.
* `Node.mem_moments_iff`, `Node.nodup_moments` — every node is entered and left, and only once.
* `Node.moments_nested`, `Node.moments_apart` — what is below a node happens between its two moments;
  what is below an earlier child happens before what is below a later one.
* `Node.size_eq_count` — the count over a work list is the recursive count.
* `Node.walk_brackets_every_node` — all of this, of the walk.
-/

namespace PlsqlAudit

/-- A moment of a walk: the node at a path is entered or left. -/
inductive Moment where
  | enter (path : List Nat)
  | leave (path : List Nat)
  deriving DecidableEq

namespace Moment

/-- The path of the node that is entered or left. -/
def path : Moment → List Nat
  | enter p => p
  | leave p => p

/-- The step that a walk of `root` takes at the moment. -/
def step? (root : Node) : Moment → Option Step
  | enter p => (root.get? p).map .enter
  | leave p => (root.get? p).map .leave

end Moment

namespace Node

mutual

/-- The moments of a walk of a tree that stands at `path`: the node is entered, its children are walked
one after the other, and the node is left. -/
def momentsFrom (path : List Nat) : Node → List Moment
  | ⟨_, _, children, _⟩ => .enter path :: (momentsAll path 0 children ++ [.leave path])

/-- The same for a list of children that starts at index `i`. -/
def momentsAll (path : List Nat) (i : Nat) : List Node → List Moment
  | [] => []
  | n :: ns => momentsFrom (path ++ [i]) n ++ momentsAll path (i + 1) ns

end

/-- The moments of a walk in order. -/
def moments (n : Node) : List Moment := momentsFrom [] n

theorem momentsFrom_eq (path : List Nat) (n : Node) :
    momentsFrom path n = .enter path :: (momentsAll path 0 n.children ++ [.leave path]) := by
  cases n
  rfl

/-! ## The steps at the moments -/

mutual

/-- At the moments of a subtree the walk takes the steps of the subtree. -/
theorem map_step?_momentsFrom (root : Node) (path : List Nat) :
    (n : Node) → root.get? path = some n →
      (momentsFrom path n).map (Moment.step? root) = n.steps.map some
  | ⟨kind, token, children, range⟩, h => by
    have hall := map_step?_momentsAll root path 0 children fun j c hc => by
      rw [get?_concat h, Nat.zero_add]
      exact hc
    simp [momentsFrom, steps, hall, Moment.step?, h]

theorem map_step?_momentsAll (root : Node) (path : List Nat) (i : Nat) :
    (ns : List Node) → (∀ j c, ns[j]? = some c → root.get? (path ++ [i + j]) = some c) →
      (momentsAll path i ns).map (Moment.step? root) = (stepsAll ns).map some
  | [], _ => rfl
  | n :: ns, h => by
    have hn := map_step?_momentsFrom root (path ++ [i]) n (h 0 n rfl)
    have hns := map_step?_momentsAll root path (i + 1) ns fun j c hc => by
      rw [Nat.add_assoc, Nat.add_comm 1 j]
      exact h (j + 1) c hc
    rw [momentsAll, stepsAll, List.map_append, List.map_append, hn, hns]

end

theorem map_step?_moments (n : Node) : n.moments.map (Moment.step? n) = n.steps.map some :=
  map_step?_momentsFrom n [] n (get?_nil n)

/-! ## Every node once -/

mutual

theorem mem_momentsFrom (path : List Nat) (x : Moment) :
    (n : Node) → (x ∈ momentsFrom path n ↔ ∃ m, (x.path, m) ∈ preorderFrom path n)
  | ⟨kind, token, children, range⟩ => by
    have hall := mem_momentsAll path x 0 children
    cases x with
    | enter p => simp [momentsFrom, preorderFrom, hall, Moment.path, exists_or]
    | leave p => simp [momentsFrom, preorderFrom, hall, Moment.path, exists_or, or_comm]

theorem mem_momentsAll (path : List Nat) (x : Moment) (i : Nat) :
    (ns : List Node) → (x ∈ momentsAll path i ns ↔ ∃ m, (x.path, m) ∈ preorderAll path i ns)
  | [] => by simp [momentsAll, preorderAll]
  | n :: ns => by
    rw [momentsAll, preorderAll, List.mem_append, mem_momentsFrom (path ++ [i]) x n,
      mem_momentsAll path x (i + 1) ns]
    simp [exists_or]

end

/-- A walk enters and leaves just the nodes of the tree. -/
theorem mem_moments_iff {n : Node} {x : Moment} : x ∈ n.moments ↔ (n.get? x.path).isSome := by
  rw [moments, mem_momentsFrom, Option.isSome_iff_exists]
  exact exists_congr fun m => mem_preorder_iff

theorem path_mem_of_mem_momentsAll {path : List Nat} {i : Nat} {ns : List Node} {x : Moment}
    (h : x ∈ momentsAll path i ns) : x.path ∈ (preorderAll path i ns).map (·.1) := by
  obtain ⟨m, hm⟩ := (mem_momentsAll path x i ns).1 h
  exact List.mem_map_of_mem hm

mutual

theorem nodup_momentsFrom (path : List Nat) : (n : Node) → (momentsFrom path n).Nodup
  | ⟨kind, token, children, range⟩ => by
    -- The path of the node itself is no path of a child, so neither are its two moments.
    have hpath := nodup_preorderFrom path ⟨kind, token, children, range⟩
    rw [preorderFrom, List.map_cons, List.nodup_cons] at hpath
    have houtside : ∀ x : Moment, x.path = path → x ∉ momentsAll path 0 children := by
      intro x hx hmem
      have hbelow := path_mem_of_mem_momentsAll hmem
      rw [hx] at hbelow
      exact hpath.1 hbelow
    rw [momentsFrom, List.nodup_cons, List.nodup_append]
    refine ⟨?_, nodup_momentsAll path 0 children, by simp, ?_⟩
    · simpa using houtside (.enter path) rfl
    · intro x hx y hy hxy
      obtain rfl := List.mem_singleton.1 hy
      exact houtside _ rfl (hxy ▸ hx)

theorem nodup_momentsAll (path : List Nat) (i : Nat) :
    (ns : List Node) → (momentsAll path i ns).Nodup
  | [] => by simp [momentsAll]
  | n :: ns => by
    have hpath := nodup_preorderAll path i (n :: ns)
    rw [preorderAll, List.map_append, List.nodup_append] at hpath
    rw [momentsAll, List.nodup_append]
    refine ⟨nodup_momentsFrom (path ++ [i]) n, nodup_momentsAll path (i + 1) ns, ?_⟩
    rintro x hx _ hy rfl
    obtain ⟨m, hm⟩ := (mem_momentsFrom _ _ _).1 hx
    exact hpath.2.2 x.path (List.mem_map_of_mem hm) x.path (path_mem_of_mem_momentsAll hy) rfl

end

theorem nodup_moments (n : Node) : n.moments.Nodup := nodup_momentsFrom [] n

/-! ## The order of the moments -/

theorem enter_leave_sublist (path : List Nat) (n : Node) :
    [Moment.enter path, .leave path].Sublist (momentsFrom path n) := by
  rw [momentsFrom_eq]
  exact (List.sublist_append_right _ _).cons_cons _

theorem momentsFrom_sublist_momentsAll {ns : List Node} {j : Nat} {c : Node} (hc : ns[j]? = some c)
    (path : List Nat) (i : Nat) :
    (momentsFrom (path ++ [i + j]) c).Sublist (momentsAll path i ns) := by
  induction ns generalizing i j with
  | nil => simp at hc
  | cons n ns ih =>
    rw [momentsAll]
    cases j with
    | zero =>
      obtain rfl : n = c := by simpa using hc
      exact List.sublist_append_left _ _
    | succ j =>
      have hrest := ih (by simpa using hc) (i + 1)
      rw [Nat.add_assoc, Nat.add_comm 1 j] at hrest
      exact hrest.trans (List.sublist_append_right _ _)

/-- The walk of an earlier child is over before that of a later one begins. -/
theorem append_sublist_momentsAll {ns : List Node} {j k : Nat} {c d : Node} (hjk : j < k)
    (hc : ns[j]? = some c) (hd : ns[k]? = some d) (path : List Nat) (i : Nat) :
    (momentsFrom (path ++ [i + j]) c ++ momentsFrom (path ++ [i + k]) d).Sublist
      (momentsAll path i ns) := by
  induction ns generalizing i j k with
  | nil => simp at hc
  | cons n ns ih =>
    obtain ⟨k, rfl⟩ : ∃ l, k = l + 1 := ⟨k - 1, by omega⟩
    have hd : ns[k]? = some d := by simpa using hd
    rw [momentsAll]
    cases j with
    | zero =>
      obtain rfl : n = c := by simpa using hc
      have hrest := momentsFrom_sublist_momentsAll hd path (i + 1)
      rw [Nat.add_assoc, Nat.add_comm 1 k] at hrest
      exact hrest.append_left _
    | succ j =>
      have hrest := ih (Nat.lt_of_succ_lt_succ hjk) (by simpa using hc) hd (i + 1)
      rw [Nat.add_assoc, Nat.add_assoc, Nat.add_comm 1 j, Nat.add_comm 1 k] at hrest
      exact hrest.trans (List.sublist_append_right _ _)

theorem momentsAll_sublist_momentsFrom (path : List Nat) (n : Node) :
    (momentsAll path 0 n.children).Sublist (momentsFrom path n) := by
  rw [momentsFrom_eq]
  exact (List.sublist_append_left _ _).cons _

/-- The moments of a subtree occur in their order among those of the tree. -/
theorem momentsFrom_sublist {n m : Node} {q : List Nat} (h : n.get? q = some m) (path : List Nat) :
    (momentsFrom (path ++ q) m).Sublist (momentsFrom path n) := by
  induction q generalizing n path with
  | nil =>
    obtain rfl : n = m := by simpa using h
    simp
  | cons i q ih =>
    rw [get?_cons, Option.bind_eq_some_iff] at h
    obtain ⟨c, hc, hm⟩ := h
    have hchild := momentsFrom_sublist_momentsAll hc path 0
    rw [Nat.zero_add] at hchild
    have hbelow := ih hm (path ++ [i])
    rw [List.append_assoc, List.singleton_append] at hbelow
    exact hbelow.trans (hchild.trans (momentsAll_sublist_momentsFrom path n))

/-- What is below child `i` of the node at `path` happens while that child is walked. -/
theorem enter_leave_sublist_child {c : Node} {q : List Nat} (hq : (c.get? q).isSome)
    (path : List Nat) (i : Nat) :
    [Moment.enter (path ++ i :: q), .leave (path ++ i :: q)].Sublist
      (momentsFrom (path ++ [i]) c) := by
  obtain ⟨m, hm⟩ := Option.isSome_iff_exists.1 hq
  have hbelow := momentsFrom_sublist hm (path ++ [i])
  rw [List.append_assoc, List.singleton_append] at hbelow
  exact (enter_leave_sublist _ m).trans hbelow

/-- A path through child `i` of a node leads to a node below that child. -/
theorem exists_child {n : Node} {p q : List Nat} {i : Nat} (h : (n.get? (p ++ i :: q)).isSome) :
    ∃ a c, n.get? p = some a ∧ a.children[i]? = some c ∧ (c.get? q).isSome := by
  obtain ⟨m, hm⟩ := Option.isSome_iff_exists.1 h
  rw [get?_append, Option.bind_eq_some_iff] at hm
  obtain ⟨a, ha, hm⟩ := hm
  rw [get?_cons, Option.bind_eq_some_iff] at hm
  obtain ⟨c, hc, hm⟩ := hm
  exact ⟨a, c, ha, hc, Option.isSome_iff_exists.2 ⟨m, hm⟩⟩

/-- **What is below a node happens between its two moments.** -/
theorem moments_nested {n : Node} {p q : List Nat} (hpq : p <+: q) (hne : p ≠ q)
    (hq : (n.get? q).isSome) :
    [Moment.enter p, .enter q, .leave q, .leave p].Sublist n.moments := by
  obtain ⟨s, rfl⟩ := hpq
  cases s with
  | nil => exact absurd (List.append_nil p).symm hne
  | cons i s =>
    obtain ⟨a, c, ha, hc, hs⟩ := exists_child hq
    have hchild := momentsFrom_sublist_momentsAll hc p 0
    rw [Nat.zero_add] at hchild
    have hinside := (enter_leave_sublist_child hs p i).trans hchild
    have hbracket := (hinside.append_right [Moment.leave p]).cons_cons (Moment.enter p)
    rw [← momentsFrom_eq] at hbracket
    exact hbracket.trans (momentsFrom_sublist ha [])

/-- **What is below an earlier child happens before what is below a later one.** -/
theorem moments_apart {n : Node} {p q r : List Nat} {i j : Nat} (hij : i < j)
    (hq : (n.get? (p ++ i :: q)).isSome) (hr : (n.get? (p ++ j :: r)).isSome) :
    [Moment.enter (p ++ i :: q), .leave (p ++ i :: q), .enter (p ++ j :: r),
      .leave (p ++ j :: r)].Sublist n.moments := by
  obtain ⟨a, c, ha, hc, hq⟩ := exists_child hq
  obtain ⟨a', d, ha', hd, hr⟩ := exists_child hr
  obtain rfl : a = a' := by
    rw [ha] at ha'
    exact Option.some.inj ha'
  have hchildren := append_sublist_momentsAll hij hc hd p 0
  rw [Nat.zero_add, Nat.zero_add] at hchildren
  have hpair := (enter_leave_sublist_child hq p i).append (enter_leave_sublist_child hr p j)
  exact hpair.trans (hchildren.trans
    ((momentsAll_sublist_momentsFrom p a).trans (momentsFrom_sublist ha [])))

/-! ## The number of nodes -/

/-- The work list is counted through, in whatever order it is taken. -/
theorem sizeFrom_eq (work : List Node) (k : Nat) : sizeFrom work k = k + countAll work := by
  fun_induction sizeFrom work k with
  | case1 k => rfl
  | case2 k n rest ih =>
    rw [ih, countAll_pushAll, countAll, count_eq]
    omega

theorem size_eq_count (n : Node) : n.size = n.count := by
  rw [size, sizeFrom_eq, countAll, countAll]
  omega

/-! ## The walk -/

/-- A visitor that writes down what it is called with. -/
def recorder : Visitor (List Step) where
  enter seen n := seen ++ [.enter n]
  leave seen n := seen ++ [.leave n]

theorem walk_recorder (n : Node) : n.walk recorder [] = n.steps := by
  have happly : Step.apply recorder = fun seen x => seen ++ [x] := by
    funext seen x
    cases x <;> rfl
  rw [walk_eq_foldl_steps, happly, List.foldl_append_eq_append, List.nil_append, ← List.flatMap_def,
    List.flatMap_singleton']

/-- **A walk is the recursion on the tree, with every node between brackets**: whatever the visitor keeps,
its calls are those of the recursion. They enter and leave each node once, a node around everything
below it and an earlier child before a later one, and there are as many entries as nodes, by either
count. -/
theorem walk_brackets_every_node (n : Node) :
    (∀ (σ : Type) (v : Visitor σ) (s : σ), n.walk v s = n.steps.foldl (Step.apply v) s) ∧
    n.walk recorder [] = n.steps ∧
    n.steps = .enter n :: (n.children.flatMap steps ++ [.leave n]) ∧
    n.moments.map (Moment.step? n) = n.steps.map some ∧
    n.moments.Nodup ∧
    (∀ x, x ∈ n.moments ↔ (n.get? x.path).isSome) ∧
    (∀ p q, p <+: q → p ≠ q → (n.get? q).isSome →
      [Moment.enter p, .enter q, .leave q, .leave p].Sublist n.moments) ∧
    (∀ p q r i j, i < j → (n.get? (p ++ i :: q)).isSome → (n.get? (p ++ j :: r)).isSome →
      [Moment.enter (p ++ i :: q), .leave (p ++ i :: q), .enter (p ++ j :: r),
        .leave (p ++ j :: r)].Sublist n.moments) ∧
    (n.steps.filterMap Step.entered?).length = n.size ∧ n.size = n.count := by
  have hsize := n.size_eq_count
  refine ⟨fun σ v s => walk_eq_foldl_steps n v s, walk_recorder n, steps_eq n, map_step?_moments n,
    nodup_moments n, fun x => mem_moments_iff, fun p q => moments_nested,
    fun p q r i j => moments_apart, ?_, hsize⟩
  rw [filterMap_entered_steps, length_nodes, hsize]

end Node

end PlsqlAudit
