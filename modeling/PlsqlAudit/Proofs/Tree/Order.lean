import PlsqlAudit.Proofs.Tree.Search

/-!
# Trees in document order

The nodes of a tree are in document order if every node reaches from its first to its last child and
the children follow one another. This module tells what the order of the ranges is then.

* `Range.Covers`, `Range.Within` — one range reaches around another; a range lies between two offsets.
* `Node.Covering` — every node covers its children; then it reaches around everything below it.
* `Node.InOrder` — the tree is in document order, told node by node.
* `Node.InOrder.apart` — of two nodes, the one that comes later in pre-order is below the other or
  begins behind its end.
* `Node.InOrder.starts_le` — in pre-order no node begins before an earlier one, so the first occurrence
  of a spelling is the one that begins first.
-/

namespace PlsqlAudit

/-! ## Ranges -/

namespace Position

theorem earlier_offset (p q : Position) : (p.earlier q).offset = min p.offset q.offset := by
  unfold earlier
  split
  · rename_i h
    have hlt : q.offset < p.offset := h
    omega
  · rename_i h
    have hle : ¬ q.offset < p.offset := h
    omega

theorem later_offset (p q : Position) : (p.later q).offset = max p.offset q.offset := by
  unfold later
  split
  · rename_i h
    have hlt : q.offset < p.offset := h
    omega
  · rename_i h
    have hle : ¬ q.offset < p.offset := h
    omega

end Position

namespace Range

variable {r s t : Range} {lo hi : Nat}

/-- No byte of `s` lies outside of `r`. -/
def Covers (r s : Range) : Prop :=
  r.start.offset ≤ s.start.offset ∧ s.stop.offset ≤ r.stop.offset

/-- The range is not inverted and lies between two offsets. -/
def Within (lo hi : Nat) (r : Range) : Prop :=
  lo ≤ r.start.offset ∧ r.start.offset ≤ r.stop.offset ∧ r.stop.offset ≤ hi

theorem Covers.refl (r : Range) : r.Covers r := ⟨Nat.le_refl _, Nat.le_refl _⟩

theorem Covers.trans (h : r.Covers s) (h' : s.Covers t) : r.Covers t :=
  ⟨Nat.le_trans h.1 h'.1, Nat.le_trans h'.2 h.2⟩

theorem cover_start_offset (r s : Range) :
    (r.cover s).start.offset = min r.start.offset s.start.offset := Position.earlier_offset _ _

theorem cover_stop_offset (r s : Range) :
    (r.cover s).stop.offset = max r.stop.offset s.stop.offset := Position.later_offset _ _

theorem cover_covers_left (r s : Range) : (r.cover s).Covers r := by
  unfold Covers
  rw [cover_start_offset, cover_stop_offset]
  omega

theorem cover_covers_right (r s : Range) : (r.cover s).Covers s := by
  unfold Covers
  rw [cover_start_offset, cover_stop_offset]
  omega

theorem Within.cover (hr : r.Within lo hi) (hs : s.Within lo hi) : (r.cover s).Within lo hi := by
  unfold Within at hr hs ⊢
  rw [cover_start_offset, cover_stop_offset]
  omega

theorem Within.mono {lo' hi' : Nat} (h : r.Within lo hi) (hlo : lo' ≤ lo) (hhi : hi ≤ hi') :
    r.Within lo' hi' := by
  unfold Within at h ⊢
  omega

end Range

namespace Node

variable {n : Node}

/-! ## The range of a node with children -/

theorem pushChildren_children (n : Node) (cs : List Node) :
    (n.pushChildren cs).children = n.children ++ cs := by
  unfold pushChildren
  induction cs generalizing n with
  | nil => simp
  | cons c cs ih =>
    rw [List.foldl_cons, ih]
    simp [pushChild]

theorem pushChildren_token (n : Node) (cs : List Node) : (n.pushChildren cs).token = n.token := by
  unfold pushChildren
  induction cs generalizing n with
  | nil => rfl
  | cons c cs ih =>
    rw [List.foldl_cons, ih]
    rfl

/-- Once a node has a token or a child, each further child widens its range. -/
theorem pushChildren_range (cs : List Node) (h : n.token ≠ none ∨ n.children ≠ []) :
    (n.pushChildren cs).range = cs.foldl (fun r c => r.cover c.range) n.range := by
  unfold pushChildren
  induction cs generalizing n with
  | nil => rfl
  | cons c cs ih =>
    have hnext : (n.pushChild c).children ≠ [] := by simp [pushChild]
    have hrange : (n.pushChild c).range = n.range.cover c.range := by
      rcases h with h | h <;> simp [pushChild, h]
    rw [List.foldl_cons, ih (.inr hnext), hrange, List.foldl_cons]

/-- The first child of a composite node takes the place of the range it was made with. -/
theorem composite_range (kind : Kind) (r : Range) (c : Node) (cs : List Node) :
    ((composite kind r).pushChildren (c :: cs)).range =
      cs.foldl (fun r c => r.cover c.range) c.range := by
  have hfirst : (composite kind r).pushChildren (c :: cs) =
      ((composite kind r).pushChild c).pushChildren cs := rfl
  have hchildren : ((composite kind r).pushChild c).children ≠ [] := by simp [pushChild]
  rw [hfirst, pushChildren_range cs (.inr hchildren)]
  rfl

theorem foldl_cover_covers (cs : List Node) (r : Range) :
    (cs.foldl (fun r c => r.cover c.range) r).Covers r ∧
      ∀ c ∈ cs, (cs.foldl (fun r c => r.cover c.range) r).Covers c.range := by
  induction cs generalizing r with
  | nil => exact ⟨.refl r, fun c hc => absurd hc List.not_mem_nil⟩
  | cons d cs ih =>
    obtain ⟨hfirst, hrest⟩ := ih (r.cover d.range)
    refine ⟨hfirst.trans (r.cover_covers_left d.range), fun c hc => ?_⟩
    rcases List.mem_cons.1 hc with rfl | hc
    · exact hfirst.trans (r.cover_covers_right c.range)
    · exact hrest c hc

theorem foldl_cover_within {lo hi : Nat} (cs : List Node) {r : Range} (hr : r.Within lo hi)
    (hcs : ∀ c ∈ cs, c.range.Within lo hi) :
    (cs.foldl (fun r c => r.cover c.range) r).Within lo hi := by
  induction cs generalizing r with
  | nil => exact hr
  | cons d cs ih =>
    exact ih (hr.cover (hcs d List.mem_cons_self)) fun c hc => hcs c (List.mem_cons_of_mem _ hc)

/-! ## Document order -/

/-- The range of the node is not inverted and covers those of the children, which follow one
another. -/
structure LaidOut (n : Node) : Prop where
  start_le_stop : n.range.start.offset ≤ n.range.stop.offset
  covers : ∀ c ∈ n.children, n.range.Covers c.range
  apart : n.children.Pairwise fun a b => a.range.stop.offset ≤ b.range.start.offset

/-- The tree is in document order. -/
def InOrder (n : Node) : Prop := ∀ m ∈ n.nodes, m.LaidOut

theorem mem_nodes_self (n : Node) : n ∈ n.nodes := by
  rw [nodes_eq]
  exact List.mem_cons_self

theorem mem_nodes_of_mem_children {c m : Node} (hc : c ∈ n.children) (hm : m ∈ c.nodes) :
    m ∈ n.nodes := by
  rw [nodes_eq]
  exact List.mem_cons_of_mem _ (List.mem_flatMap.2 ⟨c, hc, hm⟩)

/-- What is below a node of the tree is in the tree. -/
theorem mem_nodes_trans {m d : Node} (hm : m ∈ n.nodes) (hd : d ∈ m.nodes) : d ∈ n.nodes := by
  induction n using inductOnChildren with
  | step n ih =>
    rw [nodes_eq] at hm
    rcases List.mem_cons.1 hm with rfl | hm
    · exact hd
    · obtain ⟨c, hc, hmc⟩ := List.mem_flatMap.1 hm
      exact mem_nodes_of_mem_children hc (ih c hc hmc)

/-- Every node of the tree covers its children. -/
def Covering (n : Node) : Prop := ∀ m ∈ n.nodes, ∀ c ∈ m.children, m.range.Covers c.range

theorem Covering.of_mem {m : Node} (h : n.Covering) (hm : m ∈ n.nodes) : m.Covering :=
  fun d hd => h d (mem_nodes_trans hm hd)

/-- **Where every node covers its children, it reaches around everything below it.** -/
theorem Covering.covers (h : n.Covering) : ∀ d ∈ n.nodes, n.range.Covers d.range := by
  induction n using inductOnChildren with
  | step n ih =>
    intro d hd
    rw [nodes_eq] at hd
    rcases List.mem_cons.1 hd with rfl | hd
    · exact .refl _
    · obtain ⟨c, hc, hdc⟩ := List.mem_flatMap.1 hd
      have hchild : c.Covering := h.of_mem (mem_nodes_of_mem_children hc c.mem_nodes_self)
      exact (h n n.mem_nodes_self c hc).trans (ih c hc hchild d hdc)

namespace InOrder

theorem of_children (hn : n.LaidOut) (hcs : ∀ c ∈ n.children, c.InOrder) : n.InOrder := by
  intro m hm
  rw [nodes_eq] at hm
  rcases List.mem_cons.1 hm with rfl | hm
  · exact hn
  · obtain ⟨c, hc, hmc⟩ := List.mem_flatMap.1 hm
    exact hcs c hc m hmc

theorem laidOut (h : n.InOrder) : n.LaidOut := h n n.mem_nodes_self

theorem of_mem {m : Node} (h : n.InOrder) (hm : m ∈ n.nodes) : m.InOrder :=
  fun d hd => h d (mem_nodes_trans hm hd)

theorem of_mem_children {c : Node} (h : n.InOrder) (hc : c ∈ n.children) : c.InOrder :=
  fun _ hm => h _ (mem_nodes_of_mem_children hc hm)

/-- **A node reaches around everything below it.** -/
theorem covers (h : n.InOrder) : ∀ d ∈ n.nodes, n.range.Covers d.range :=
  Covering.covers fun m hm => (h m hm).covers

/-- **Of two nodes, the later one in pre-order is below the other or begins behind its end.** -/
theorem apart (h : n.InOrder) :
    n.nodes.Pairwise fun a b =>
      b ∈ a.children.flatMap nodes ∨ a.range.stop.offset ≤ b.range.start.offset := by
  induction n using inductOnChildren with
  | step n ih =>
    rw [nodes_eq]
    refine List.pairwise_cons.2 ⟨fun d hd => .inl hd, ?_⟩
    rw [List.pairwise_flatMap]
    refine ⟨fun c hc => ih c hc (h.of_mem_children hc), ?_⟩
    -- Below two siblings, everything stays on its own side of the gap between them.
    refine h.laidOut.apart.imp_of_mem fun {c c'} hc hc' hgap d hd d' hd' => .inr ?_
    have hleft := (h.of_mem_children hc).covers d hd
    have hright := (h.of_mem_children hc').covers d' hd'
    exact Nat.le_trans hleft.2 (Nat.le_trans hgap hright.1)

/-- **In pre-order no node begins before an earlier one.** -/
theorem starts_le (h : n.InOrder) :
    n.nodes.Pairwise fun a b => a.range.start.offset ≤ b.range.start.offset := by
  refine h.apart.imp_of_mem fun {a b} ha _ hab => ?_
  have horder := h.of_mem ha
  rcases hab with hbelow | hbehind
  · have hb : b ∈ a.nodes := by
      rw [nodes_eq]
      exact List.mem_cons_of_mem _ hbelow
    exact (horder.covers b hb).1
  · exact Nat.le_trans horder.laidOut.start_le_stop hbehind

/-- The first occurrence of a spelling begins before all others, or where they do. -/
theorem find?_start_le (h : n.InOrder) {target : String} {o : Occurrence}
    (ho : n.find? target = some o) :
    ∀ o' ∈ n.findAll target, o.node.range.start.offset ≤ o'.node.range.start.offset := by
  have hsorted := h.starts_le.sublist (n.findAll_sublist target)
  rw [find?_eq_head?_findAll] at ho
  obtain ⟨rest, hall⟩ := List.head?_eq_some_iff.1 ho
  rw [hall, List.map_cons] at hsorted
  intro o' ho'
  rw [hall] at ho'
  rcases List.mem_cons.1 ho' with rfl | ho'
  · exact Nat.le_refl _
  · exact (List.pairwise_cons.1 hsorted).1 _ (List.mem_map_of_mem ho')

end InOrder

end Node

end PlsqlAudit
