import PlsqlAudit.Proofs.Tree.Walk
import PlsqlAudit.Tree.Occurrence

/-!
# A search looks at the nodes in pre-order

The search for a spelling keeps the occurrences still to be looked at on a list. What it finds is
told here by the pre-order of the tree alone.

* `Occurrence.below` — the nodes at and below an occurrence, with their paths.
* `Node.findOn_eq_find?` — the search from a list of occurrences finds the first match among the
  nodes below them.
* `Node.firstChild?_node` — the first child of a kind is the first among the children.
* `Text.sameSpelling_iff` — spellings agree when the texts agree in small letters.
-/

namespace PlsqlAudit

namespace Occurrence

variable (o : Occurrence)

@[simp] theorem map_node_children : o.children.map (·.node) = o.node.children := by
  simp [children, List.mapIdx_eq_zipIdx_map, Function.comp_def]

/-- The nodes at and below the occurrence with their paths, a node before its children. -/
def below : List (List Nat × Node) := Node.preorderFrom o.path o.node

@[simp] theorem below_root (n : Node) : (root n).below = n.preorder := rfl

theorem map_snd_below : o.below.map (·.2) = o.node.nodes := Node.map_snd_preorderFrom _ _

/-- What goes through the children one by one, and counts them as it goes, goes through the
occurrences of the children. -/
theorem flatMap_children {β : Type} {each : List Nat → Node → List β} {all : Nat → List Node → List β}
    (hnil : ∀ i, all i [] = [])
    (hcons : ∀ i n ns, all i (n :: ns) = each (o.path ++ [i]) n ++ all (i + 1) ns) :
    all 0 o.node.children = o.children.flatMap fun c => each c.path c.node := by
  -- The children are numbered from a start that the induction moves on.
  have numbered : ∀ (ns : List Node) (i : Nat), all i ns =
      (ns.mapIdx fun j n => (⟨(i + j) :: o.trail, n⟩ : Occurrence)).flatMap
        fun c => each c.path c.node := by
    intro ns
    induction ns with
    | nil => intro i; exact hnil i
    | cons n ns ih =>
      intro i
      have hpath : o.path ++ [i] = (⟨i :: o.trail, n⟩ : Occurrence).path := by
        simp [path]
      rw [hcons, ih, List.mapIdx_cons, List.flatMap_cons, hpath]
      simp only [Nat.add_zero, Nat.add_comm, Nat.add_left_comm]
  rw [numbered]
  simp only [Nat.zero_add]
  rfl

/-- Below an occurrence come the occurrence itself and what is below its children, in order. -/
theorem below_eq : o.below = (o.path, o.node) :: o.children.flatMap below := by
  have hall : Node.preorderAll o.path 0 o.node.children = o.children.flatMap below :=
    o.flatMap_children (fun _ => rfl) fun _ _ _ => rfl
  rw [below, Node.preorderFrom_eq, hall]

end Occurrence

namespace Node

/-- **A search finds the first match in pre-order**: from a list of occurrences, the first among the
nodes below them, with its path. -/
theorem findOn_eq_find? (target : String) (work : List Occurrence) :
    (findOn target work).map (fun o => (o.path, o.node)) =
      (work.flatMap Occurrence.below).find? (·.2.spells target) := by
  fun_induction findOn target work with
  | case1 => rfl
  | case2 o rest h =>
    rw [List.flatMap_cons, Occurrence.below_eq, List.cons_append, List.find?_cons, h]
    rfl
  | case3 o rest h ih =>
    rw [Bool.not_eq_true] at h
    rw [ih, List.flatMap_append, List.flatMap_cons, Occurrence.below_eq o, List.cons_append,
      List.find?_cons, h]

/-! ## All topmost matches -/

theorem head?_findAllOn (target : String) (work : List Occurrence) (found : Array Occurrence) :
    (findAllOn target work found).toList.head? =
      found.toList.head?.or (findOn target work) := by
  fun_induction findAllOn target work found with
  | case1 found => rw [findOn, Option.or_none]
  | case2 found o rest h ih =>
    rw [ih, findOn, if_pos h, Array.toList_push, List.head?_append, Option.or_assoc]
    rfl
  | case3 found o rest h ih =>
    conv_rhs => rw [findOn, if_neg h]
    exact ih

/-- The matches are nodes below the occurrences on the list, in their order. -/
theorem findAllOn_sublist (target : String) (work : List Occurrence) (found : Array Occurrence) :
    ((findAllOn target work found).toList.map fun o => (o.path, o.node)).Sublist
      (found.toList.map (fun o => (o.path, o.node)) ++ work.flatMap Occurrence.below) := by
  fun_induction findAllOn target work found with
  | case1 found => simp
  | case2 found o rest h ih =>
    refine ih.trans ?_
    rw [Array.toList_push, List.map_append, List.append_assoc, List.flatMap_cons,
      Occurrence.below_eq]
    refine List.Sublist.append_left (List.Sublist.cons_cons _ ?_) _
    exact List.sublist_append_right _ _
  | case3 found o rest h ih =>
    refine ih.trans (List.Sublist.append_left ?_ _)
    rw [List.flatMap_append, List.flatMap_cons, Occurrence.below_eq o]
    exact List.sublist_cons_self _ _

theorem find?_eq_head?_findAll (n : Node) (target : String) :
    n.find? target = (n.findAll target).head? := by
  unfold find? findAll
  split
  · rfl
  · exact (head?_findAllOn target [.root n] #[]).symm

theorem findAll_sublist_preorder (n : Node) (target : String) :
    ((n.findAll target).map fun o => (o.path, o.node)).Sublist n.preorder := by
  unfold findAll
  split
  · exact List.nil_sublist _
  · simpa using findAllOn_sublist target [.root n] #[]

theorem findAll_sublist (n : Node) (target : String) :
    ((n.findAll target).map (·.node)).Sublist n.nodes := by
  have h := (n.findAll_sublist_preorder target).map Prod.snd
  rwa [List.map_map] at h

theorem firstChild?_node (n : Node) (k : Kind) :
    (n.firstChild? k).map (·.node) = n.children.find? (·.isKind k) := by
  have h : n.children = (Occurrence.root n).children.map (·.node) :=
    (Occurrence.root n).map_node_children.symm
  rw [h, List.find?_map]
  rfl

end Node

/-- The node that a search below an occurrence finds is the first match among its nodes. -/
theorem Occurrence.find?_node (o : Occurrence) {target : String} (h : target.isEmpty = false) :
    (o.find? target).map (·.node) = o.node.nodes.find? (·.spells target) := by
  have hfind := Node.findOn_eq_find? target [o]
  rw [List.flatMap_singleton] at hfind
  calc (o.find? target).map (·.node)
      = ((Node.findOn target [o]).map fun o => (o.path, o.node)).map (·.2) := by
        rw [Option.map_map, Occurrence.find?, h]
        rfl
    _ = (o.below.map (·.2)).find? (·.spells target) := by
        rw [hfind, List.find?_map]
        rfl
    _ = o.node.nodes.find? (·.spells target) := by rw [map_snd_below]

/-! ## Spellings -/

namespace Text

theorem foldChar_eq_toLower (c : Char) : foldChar c = c.toLower := by
  unfold foldChar Char.toLower
  by_cases h : c.val ≥ 'A'.val ∧ c.val ≤ 'Z'.val
  · have hcapital : 'A' ≤ c ∧ c ≤ 'Z' := h
    have hle : c.val.toNat ≤ 90 := UInt32.le_iff_toNat_le.1 h.2
    have hvalid : (c.toNat + 32).isValidChar := .inl (show c.val.toNat + 32 < 0xd800 by omega)
    have hadd : (c.val + ('a'.val - 'A'.val)).toNat = c.val.toNat + 32 := by
      rw [UInt32.toNat_add]
      show (c.val.toNat + 32) % 2 ^ 32 = c.val.toNat + 32
      omega
    rw [if_pos hcapital, dif_pos h, Char.ofNat, dif_pos hvalid]
    exact Char.toNat_inj.1 hadd.symm
  · have hother : ¬ ('A' ≤ c ∧ c ≤ 'Z') := h
    rw [if_neg hother, dif_neg h]

theorem fold_eq_toLower (s : String) : fold s = s.toLower.toList := by
  unfold fold String.toLower
  rw [String.toList_map]
  exact List.map_congr_left fun c _ => foldChar_eq_toLower c

/-- Only ASCII characters become ASCII characters. -/
theorem toNat_lt_of_toLower {c : Char} (h : c.toLower.toNat < 128) : c.toNat < 128 := by
  unfold Char.toLower at h
  split at h
  · rename_i hcapital
    have hle : c.val.toNat ≤ 90 := UInt32.le_iff_toNat_le.1 hcapital.2
    exact Nat.lt_of_le_of_lt hle (by decide)
  · exact h

/-- Two texts have the same spelling when they are the same in small letters. -/
theorem sameSpelling_iff (s t : String) : sameSpelling s t = true ↔ s.toLower = t.toLower := by
  unfold sameSpelling
  rw [beq_iff_eq, fold_eq_toLower, fold_eq_toLower, String.toList_inj]

end Text

end PlsqlAudit
