import PlsqlAudit.Proofs.Tree.Path
import PlsqlAudit.Proofs.Tree.Search

/-!
# The first match and the topmost matches

Both searches are tied to the recursion on the tree, and what they find is told by paths alone.

* `Node.Matches` — the node has a token that is the target up to the case of ASCII letters.
* `Node.IsTopmost` — a path leads to a match, and through no other on the way.
* `Node.map_path_findAll` — the loop over a work list finds what the recursion finds.
* `Node.first_match_agrees_with_recursion` — the first match is the one of the recursion, and the
  first of the pre-order.
* `Node.topmost_matches_are_listed` — all that is found are the topmost matches, in pre-order.
-/

namespace PlsqlAudit

namespace Node

/-- The node has a token, and in small letters it is the target. -/
def Matches (n : Node) (target : String) : Prop :=
  ∃ text, n.token = some text ∧ text.toLower = target.toLower

theorem spells_iff {n : Node} {target : String} : n.spells target = true ↔ n.Matches target := by
  unfold spells Matches
  cases n.token with
  | none => simp
  | some text => simp [Text.sameSpelling_iff]

instance (n : Node) (target : String) : Decidable (n.Matches target) :=
  decidable_of_iff _ spells_iff

/-- The path leads to the match `m`, and no node before it on the way matches. -/
structure IsTopmost (n : Node) (target : String) (path : List Nat) (m : Node) : Prop where
  get : n.get? path = some m
  hit : m.Matches target
  clear : ∀ q a, q <+: path → q ≠ path → n.get? q = some a → ¬ a.Matches target

theorem isTopmost_nil {n m : Node} {target : String} :
    n.IsTopmost target [] m ↔ m = n ∧ n.Matches target := by
  constructor
  · intro h
    obtain rfl : n = m := by simpa using h.get
    exact ⟨rfl, h.hit⟩
  · rintro ⟨rfl, hit⟩
    exact ⟨get?_nil m, hit, fun q a hq hne _ => absurd (List.prefix_nil.1 hq) hne⟩

/-- A match below a node is topmost when the node itself does not match and the match is topmost in
the tree of the child. -/
theorem isTopmost_cons {n m : Node} {target : String} {i : Nat} {path : List Nat} :
    n.IsTopmost target (i :: path) m ↔
      ¬ n.Matches target ∧ ∃ c, n.children[i]? = some c ∧ c.IsTopmost target path m := by
  constructor
  · intro h
    have hget := h.get
    rw [get?_cons, Option.bind_eq_some_iff] at hget
    obtain ⟨c, hc, hget⟩ := hget
    refine ⟨h.clear [] n (List.nil_prefix) (by simp) (get?_nil n), c, hc, hget, h.hit, ?_⟩
    intro q a hq hne ha
    refine h.clear (i :: q) a ((List.prefix_cons_inj i).2 hq) (by simpa using hne) ?_
    rw [get?_cons, hc]
    exact ha
  · rintro ⟨hself, c, hc, h⟩
    refine ⟨by rw [get?_cons, hc]; exact h.get, h.hit, ?_⟩
    intro q a hq hne ha
    cases q with
    | nil =>
      obtain rfl : n = a := by simpa using ha
      exact hself
    | cons j q =>
      obtain ⟨rfl, hprefix⟩ := List.cons_prefix_cons.1 hq
      rw [get?_cons, hc] at ha
      exact h.clear q a hprefix (by simpa using hne) ha

/-! ## The recursion -/

mutual

/-- The recursion gives the paths of the topmost matches. -/
theorem mem_findAllRecFrom (target : String) (path p : List Nat) :
    (n : Node) → (p ∈ findAllRecFrom target path n ↔
      ∃ q m, p = path ++ q ∧ n.IsTopmost target q m)
  | ⟨kind, token, children, range⟩ => by
    rw [findAllRecFrom]
    split
    · rename_i hspells
      have hmatches := spells_iff.1 hspells
      constructor
      · intro h
        exact ⟨[], _, by simpa using h, isTopmost_nil.2 ⟨rfl, hmatches⟩⟩
      · rintro ⟨q, m, rfl, h⟩
        cases q with
        | nil => simp
        | cons i q => exact absurd hmatches (isTopmost_cons.1 h).1
    · rename_i hspells
      have hmatches := fun h => hspells (spells_iff.2 h)
      rw [mem_findAllRecAll target path p 0 children]
      constructor
      · rintro ⟨j, c, q, m, hc, rfl, h⟩
        exact ⟨j :: q, m, by simp, isTopmost_cons.2 ⟨hmatches, c, hc, h⟩⟩
      · rintro ⟨q, m, rfl, h⟩
        cases q with
        | nil => exact absurd (isTopmost_nil.1 h).2 hmatches
        | cons j q =>
          obtain ⟨-, c, hc, h⟩ := isTopmost_cons.1 h
          exact ⟨j, c, q, m, hc, by simp, h⟩

theorem mem_findAllRecAll (target : String) (path p : List Nat) (i : Nat) :
    (ns : List Node) → (p ∈ findAllRecAll target path i ns ↔
      ∃ j c q m, ns[j]? = some c ∧ p = path ++ (i + j) :: q ∧ c.IsTopmost target q m)
  | [] => by simp [findAllRecAll]
  | n :: ns => by
    rw [findAllRecAll, List.mem_append, mem_findAllRecFrom target (path ++ [i]) p n,
      mem_findAllRecAll target path p (i + 1) ns]
    constructor
    · rintro (⟨q, m, rfl, h⟩ | ⟨j, c, q, m, hc, rfl, h⟩)
      · exact ⟨0, n, q, m, rfl, by simp, h⟩
      · exact ⟨j + 1, c, q, m, hc, by simp [Nat.add_assoc, Nat.add_comm 1 j], h⟩
    · rintro ⟨j, c, q, m, hc, rfl, h⟩
      cases j with
      | zero =>
        obtain rfl : n = c := by simpa using hc
        exact .inl ⟨q, m, by simp, h⟩
      | succ j => exact .inr ⟨j, c, q, m, hc, by simp [Nat.add_assoc, Nat.add_comm 1 j], h⟩

end

mutual

/-- The first path that the recursion for all matches gives is that of the recursion for one. -/
theorem head?_findAllRecFrom (target : String) (path : List Nat) :
    (n : Node) → (findAllRecFrom target path n).head? = findRecFrom? target path n
  | ⟨kind, token, children, range⟩ => by
    rw [findAllRecFrom, findRecFrom?]
    split
    · rfl
    · exact head?_findAllRecAll target path 0 children

theorem head?_findAllRecAll (target : String) (path : List Nat) (i : Nat) :
    (ns : List Node) → (findAllRecAll target path i ns).head? = findRecAll? target path i ns
  | [] => rfl
  | n :: ns => by
    rw [findAllRecAll, findRecAll?, List.head?_append,
      head?_findAllRecFrom target (path ++ [i]) n, head?_findAllRecAll target path (i + 1) ns]

end

theorem head?_findAllRec (n : Node) (target : String) :
    (n.findAllRec target).head? = n.findRec? target := by
  unfold findAllRec findRec?
  split
  · rfl
  · exact head?_findAllRecFrom target [] n

theorem mem_findAllRec {n : Node} {target : String} {p : List Nat} :
    p ∈ n.findAllRec target ↔ target ≠ "" ∧ ∃ m, n.IsTopmost target p m := by
  unfold findAllRec
  by_cases h : target = ""
  · simp [h]
  · simp [h, mem_findAllRecFrom]

/-! ## The loop -/

/-- What is found at and below an occurrence is the occurrence itself if it matches, else what is
found below its children. -/
theorem findAllRecFrom_eq (target : String) (o : Occurrence) :
    findAllRecFrom target o.path o.node =
      if o.node.spells target then [o.path]
      else o.children.flatMap fun c => findAllRecFrom target c.path c.node := by
  have hall : findAllRecAll target o.path 0 o.node.children =
      o.children.flatMap fun c => findAllRecFrom target c.path c.node :=
    o.flatMap_children (fun _ => rfl) fun _ _ _ => rfl
  rw [← hall]
  generalize o.node = n
  cases n
  rfl

/-- The loop finds, behind what it has found, what the recursion finds below each occurrence on the
list. -/
theorem map_path_findAllOn (target : String) (work : List Occurrence) (found : Array Occurrence) :
    (findAllOn target work found).toList.map Occurrence.path =
      found.toList.map Occurrence.path ++
        work.flatMap fun o => findAllRecFrom target o.path o.node := by
  fun_induction findAllOn target work found with
  | case1 found => simp
  | case2 found o rest h ih =>
    rw [ih, Array.toList_push, List.map_append, List.append_assoc, List.flatMap_cons,
      findAllRecFrom_eq, if_pos h]
    rfl
  | case3 found o rest h ih =>
    rw [ih, List.flatMap_append, List.flatMap_cons, findAllRecFrom_eq target o, if_neg h]

/-- **The loop over a work list finds what the recursion finds**, path by path. -/
theorem map_path_findAll (n : Node) (target : String) :
    (n.findAll target).map Occurrence.path = n.findAllRec target := by
  unfold findAll findAllRec
  split
  · rfl
  · have h := map_path_findAllOn target [.root n] #[]
    rw [List.flatMap_singleton] at h
    exact h

/-- The node of an occurrence that is found stands at its path. -/
theorem get?_of_mem_findAll {n : Node} {target : String} {o : Occurrence}
    (h : o ∈ n.findAll target) : n.get? o.path = some o.node := by
  have hmem : (o.path, o.node) ∈ (n.findAll target).map fun o => (o.path, o.node) :=
    List.mem_map_of_mem h
  exact mem_preorder_iff.1 ((n.findAll_sublist_preorder target).subset hmem)

/-- An entry of what is found is a topmost match. -/
theorem mem_findAll_iff {n m : Node} {target : String} {p : List Nat} :
    (p, m) ∈ (n.findAll target).map (fun o => (o.path, o.node)) ↔
      target ≠ "" ∧ n.IsTopmost target p m := by
  have hpath : ∀ q, q ∈ (n.findAll target).map Occurrence.path ↔
      target ≠ "" ∧ ∃ m, n.IsTopmost target q m := by
    intro q
    rw [map_path_findAll, mem_findAllRec]
  constructor
  · intro h
    obtain ⟨o, ho, hom⟩ := List.mem_map.1 h
    obtain ⟨rfl, rfl⟩ := Prod.mk.inj hom
    obtain ⟨hne, m, hm⟩ := (hpath o.path).1 (List.mem_map_of_mem ho)
    obtain rfl : m = o.node := by
      have hget := hm.get
      rw [get?_of_mem_findAll ho] at hget
      exact (Option.some.inj hget).symm
    exact ⟨hne, hm⟩
  · rintro ⟨hne, hm⟩
    obtain ⟨o, ho, rfl⟩ := List.mem_map.1 ((hpath p).2 ⟨hne, m, hm⟩)
    obtain rfl : o.node = m := by
      have hget := get?_of_mem_findAll ho
      rw [hm.get] at hget
      exact (Option.some.inj hget).symm
    exact List.mem_map_of_mem ho

/-! ## What the searches find -/

/-- The first match is the first in pre-order, with its path. -/
theorem find?_eq_find?_preorder (n : Node) (target : String) :
    (n.find? target).map (fun o => (o.path, o.node)) =
      if target = "" then none else n.preorder.find? (fun e => e.2.Matches target) := by
  have hspells : (fun e : List Nat × Node => decide (e.2.Matches target)) =
      fun e => e.2.spells target := by
    funext e
    rw [Bool.eq_iff_iff, decide_eq_true_iff, spells_iff]
  unfold find?
  by_cases h : target = ""
  · simp [h]
  · rw [if_neg (by simpa using h), if_neg h, findOn_eq_find?, List.flatMap_singleton,
      Occurrence.below_root, hspells]

/-- **A search finds what the recursion on the tree finds first**: the node itself if it matches, else
the first that one of its children gives. This is the first match in pre-order, and nothing is found
only if nothing matches or nothing was looked for. -/
theorem first_match_agrees_with_recursion (n : Node) (target : String) :
    (n.find? target).map Occurrence.path = n.findRec? target ∧
    (n.find? target).map (fun o => (o.path, o.node)) =
      (if target = "" then none else n.preorder.find? fun e => e.2.Matches target) ∧
    (∀ o, n.find? target = some o → n.get? o.path = some o.node) ∧
    (n.find? target = none ↔ target = "" ∨ ∀ p m, n.get? p = some m → ¬ m.Matches target) := by
  refine ⟨?_, find?_eq_find?_preorder n target, ?_, ?_⟩
  · rw [← head?_findAllRec, ← map_path_findAll, List.head?_map, find?_eq_head?_findAll]
  · intro o ho
    rw [find?_eq_head?_findAll] at ho
    exact get?_of_mem_findAll (List.mem_of_mem_head? ho)
  · rw [← Option.map_eq_none_iff (f := fun o : Occurrence => (o.path, o.node)),
      find?_eq_find?_preorder]
    by_cases h : target = ""
    · simp [h]
    · rw [if_neg h, List.find?_eq_none]
      simp [h, mem_preorder_iff]

/-- **All that is found are the topmost matches, in pre-order and each once.** The first of them is
the first match, so there are none only if there is no match. -/
theorem topmost_matches_are_listed (n : Node) (target : String) :
    let found := (n.findAll target).map fun o => (o.path, o.node)
    found.Sublist n.preorder ∧
    (found.map (·.1)).Nodup ∧
    (∀ p m, (p, m) ∈ found ↔ target ≠ "" ∧ n.IsTopmost target p m) ∧
    (n.findAll target).head? = n.find? target ∧
    (n.findAll target = [] ↔ n.find? target = none) := by
  have hsub := n.findAll_sublist_preorder target
  have hhead := n.find?_eq_head?_findAll target
  refine ⟨hsub, ?_, fun p m => mem_findAll_iff, hhead.symm, ?_⟩
  · exact n.nodup_paths_preorder.sublist (hsub.map _)
  · rw [hhead, List.head?_eq_none_iff]

end Node

end PlsqlAudit
