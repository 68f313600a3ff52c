import PlsqlAudit.Proofs.Tree.Walk

/-!
# Paths in a tree

A node of a tree is known by its path, the child indexes from the root down to it. The pre-order of
the tree names every node by its path, once.

* `Node.mem_preorder_iff` — the pre-order holds the nodes that paths lead to, each with its path.
* `Node.nodup_paths_preorder` — no path occurs twice in it.
-/

namespace PlsqlAudit

namespace Node

@[simp] theorem get?_nil (n : Node) : n.get? [] = some n := by
  cases n
  rfl

theorem get?_cons (n : Node) (i : Nat) (path : List Nat) :
    n.get? (i :: path) = n.children[i]?.bind (·.get? path) := by
  rw [get?]
  cases n.children[i]? <;> rfl

theorem get?_append (n : Node) (p q : List Nat) : n.get? (p ++ q) = (n.get? p).bind (·.get? q) := by
  induction p generalizing n with
  | nil => simp
  | cons i p ih =>
    rw [List.cons_append, get?_cons, get?_cons, Option.bind_assoc]
    congr 1
    funext c
    exact ih c

theorem get?_concat {root n : Node} {path : List Nat} (h : root.get? path = some n) (i : Nat) :
    root.get? (path ++ [i]) = n.children[i]? := by
  rw [get?_append, h, Option.bind_some, get?_cons]
  cases n.children[i]? <;> simp

mutual

theorem mem_preorderFrom (path p : List Nat) (m : Node) :
    (n : Node) → ((p, m) ∈ preorderFrom path n ↔ ∃ q, p = path ++ q ∧ n.get? q = some m)
  | ⟨kind, token, children, range⟩ => by
    rw [preorderFrom, List.mem_cons, mem_preorderAll path p m 0 children]
    constructor
    · rintro (h | ⟨j, c, q, hc, rfl, hq⟩)
      · obtain ⟨rfl, rfl⟩ := Prod.mk.inj h
        exact ⟨[], by simp, by simp⟩
      · refine ⟨j :: q, by simp, ?_⟩
        rw [get?_cons, hc]
        exact hq
    · rintro ⟨q, rfl, hq⟩
      cases q with
      | nil =>
        rw [get?_nil, Option.some.injEq] at hq
        exact .inl (by simp [hq])
      | cons j q =>
        rw [get?_cons, Option.bind_eq_some_iff] at hq
        obtain ⟨c, hc, hq⟩ := hq
        exact .inr ⟨j, c, q, hc, by simp, hq⟩

theorem mem_preorderAll (path p : List Nat) (m : Node) (i : Nat) :
    (ns : List Node) → ((p, m) ∈ preorderAll path i ns ↔
      ∃ j c q, ns[j]? = some c ∧ p = path ++ (i + j) :: q ∧ c.get? q = some m)
  | [] => by simp [preorderAll]
  | n :: ns => by
    rw [preorderAll, List.mem_append, mem_preorderFrom (path ++ [i]) p m n,
      mem_preorderAll path p m (i + 1) ns]
    constructor
    · rintro (⟨q, rfl, hq⟩ | ⟨j, c, q, hc, rfl, hq⟩)
      · exact ⟨0, n, q, rfl, by simp, hq⟩
      · exact ⟨j + 1, c, q, hc, by simp [Nat.add_assoc, Nat.add_comm 1 j], hq⟩
    · rintro ⟨j, c, q, hc, rfl, hq⟩
      cases j with
      | zero =>
        obtain rfl : n = c := by simpa using hc
        exact .inl ⟨q, by simp, hq⟩
      | succ j => exact .inr ⟨j, c, q, hc, by simp [Nat.add_assoc, Nat.add_comm 1 j], hq⟩

end

/-- **The pre-order holds exactly the nodes that paths lead to**, each with its path. -/
theorem mem_preorder_iff {n m : Node} {p : List Nat} : (p, m) ∈ n.preorder ↔ n.get? p = some m := by
  simp [preorder, mem_preorderFrom]

mutual

theorem nodup_preorderFrom (path : List Nat) :
    (n : Node) → ((preorderFrom path n).map (·.1)).Nodup
  | ⟨kind, token, children, range⟩ => by
    rw [preorderFrom, List.map_cons, List.nodup_cons]
    refine ⟨fun h => ?_, nodup_preorderAll path 0 children⟩
    obtain ⟨⟨p, m⟩, hmem, hpath⟩ := List.mem_map.1 h
    -- A path through a child is longer than the path of its parent.
    obtain ⟨j, c, q, -, rfl, -⟩ := (mem_preorderAll path p m 0 children).1 hmem
    simpa using congrArg List.length hpath

theorem nodup_preorderAll (path : List Nat) (i : Nat) :
    (ns : List Node) → ((preorderAll path i ns).map (·.1)).Nodup
  | [] => by simp [preorderAll]
  | n :: ns => by
    rw [preorderAll, List.map_append, List.nodup_append]
    refine ⟨nodup_preorderFrom (path ++ [i]) n, nodup_preorderAll path (i + 1) ns, ?_⟩
    intro a ha b hb hab
    obtain ⟨⟨p, m⟩, hp, rfl⟩ := List.mem_map.1 ha
    obtain ⟨⟨p', m'⟩, hp', rfl⟩ := List.mem_map.1 hb
    obtain ⟨q, rfl, -⟩ := (mem_preorderFrom (path ++ [i]) p m n).1 hp
    obtain ⟨j, c, q', -, rfl, -⟩ := (mem_preorderAll path p' m' (i + 1) ns).1 hp'
    -- The two paths part at the index of the child.
    have hindex : i = i + 1 + j := by simpa using congrArg (fun p => p[path.length]?) hab
    omega

end

/-- **No path occurs twice in the pre-order.** -/
theorem nodup_paths_preorder (n : Node) : (n.preorder.map (·.1)).Nodup := nodup_preorderFrom [] n

end Node

end PlsqlAudit
