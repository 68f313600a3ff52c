import PlsqlAudit.Proofs.Source.Text
import PlsqlAudit.Proofs.Tree.Order
import PlsqlAudit.Tree.Layout

/-!
# Trees written in source order

* `Sketch` — the shape of a tree to be written: its tokens, its composite nodes, and where lines break
  between siblings.
* `Sketch.write` — writes a sketch from left to right, a composite node right after its children.
* `Between` — some trees follow one another between two offsets. Trees in a row, a break of the line and
  a node over trees keep this (`Between.append`, `Between.mono`, `Between.node`).
* `Sketch.between_write` — what is written from a sketch stands between the ends of the text before and
  after.
* `sketches_are_written_in_order` — every tree that is written in source order is in document order.
-/

namespace PlsqlAudit

mutual

/-- The shape of a tree to be written. -/
inductive Sketch where
  | token (kind : Kind) (text : String)
  | node (kind : Kind) (parts : Parts)

/-- The children of a node to be written, with line breaks anywhere between them. -/
inductive Parts where
  | nil
  | newline (rest : Parts)
  | cons (first : Sketch) (rest : Parts)

end

mutual

/-- Writes the tree from left to right, and gives it with the layout after it. -/
def Sketch.write (l : Layout) : Sketch → Node × Layout
  | .token kind text => l.token kind text
  | .node kind parts =>
    let (children, l') := parts.write l
    (l'.node kind children, l')

/-- Writes the children one after the other. -/
def Parts.write (l : Layout) : Parts → List Node × Layout
  | .nil => ([], l)
  | .newline rest => rest.write l.newline
  | .cons first rest =>
    let (n, l') := first.write l
    let (ns, l'') := rest.write l'
    (n :: ns, l'')

end

namespace Layout

theorem node_children (l : Layout) (kind : Kind) (ns : List Node) :
    (l.node kind ns).children = ns :=
  Node.pushChildren_children _ ns

theorem node_token (l : Layout) (kind : Kind) (ns : List Node) : (l.node kind ns).token = none :=
  Node.pushChildren_token _ ns

end Layout

/-! ## Trees between two offsets -/

/-- The trees are in document order and follow one another between two offsets. -/
structure Between (lo hi : Nat) (ns : List Node) : Prop where
  le : lo ≤ hi
  inOrder : ∀ n ∈ ns, n.InOrder
  within : ∀ n ∈ ns, n.range.Within lo hi
  apart : ns.Pairwise fun a b => a.range.stop.offset ≤ b.range.start.offset

namespace Between

variable {lo mid hi : Nat} {ns ms : List Node}

theorem nil (h : lo ≤ hi) : Between lo hi [] where
  le := h
  inOrder := fun _ hn => absurd hn List.not_mem_nil
  within := fun _ hn => absurd hn List.not_mem_nil
  apart := .nil

theorem singleton {n : Node} (hn : n.InOrder) (hrange : n.range.Within lo hi) :
    Between lo hi [n] where
  le := by
    unfold Range.Within at hrange
    omega
  inOrder := by
    intro m hm
    rw [List.mem_singleton.1 hm]
    exact hn
  within := by
    intro m hm
    rw [List.mem_singleton.1 hm]
    exact hrange
  apart := List.pairwise_singleton _ _

theorem mono {lo' : Nat} (h : Between lo hi ns) (hlo : lo' ≤ lo) : Between lo' hi ns where
  le := Nat.le_trans hlo h.le
  inOrder := h.inOrder
  within := fun n hn => (h.within n hn).mono hlo (Nat.le_refl hi)
  apart := h.apart

theorem append (h : Between lo mid ns) (h' : Between mid hi ms) : Between lo hi (ns ++ ms) where
  le := Nat.le_trans h.le h'.le
  inOrder := by
    intro n hn
    rcases List.mem_append.1 hn with hn | hn
    · exact h.inOrder n hn
    · exact h'.inOrder n hn
  within := by
    intro n hn
    rcases List.mem_append.1 hn with hn | hn
    · exact (h.within n hn).mono (Nat.le_refl lo) h'.le
    · exact (h'.within n hn).mono h.le (Nat.le_refl hi)
  apart := by
    refine List.pairwise_append.2 ⟨h.apart, h'.apart, fun a ha b hb => ?_⟩
    have hleft := (h.within a ha).2.2
    have hright := (h'.within b hb).1
    omega

/-- The range of a node over the trees covers them and lies between the same offsets. Without any child
it is where the text ends. -/
theorem node_range {l : Layout} (h : Between lo l.cursor.offset ns) (kind : Kind) :
    (l.node kind ns).range.Within lo l.cursor.offset ∧
      ∀ c ∈ ns, (l.node kind ns).range.Covers c.range := by
  cases ns with
  | nil =>
    have hrange : (l.node kind []).range = .single l.cursor := rfl
    rw [hrange]
    exact ⟨⟨h.le, Nat.le_refl _, Nat.le_refl _⟩, fun c hc => absurd hc List.not_mem_nil⟩
  | cons c cs =>
    have hrange : (l.node kind (c :: cs)).range = _ := Node.composite_range kind _ c cs
    obtain ⟨hfirst, hrest⟩ := Node.foldl_cover_covers cs c.range
    rw [hrange]
    constructor
    · exact Node.foldl_cover_within cs (h.within c List.mem_cons_self)
        fun d hd => h.within d (List.mem_cons_of_mem _ hd)
    · intro d hd
      rcases List.mem_cons.1 hd with rfl | hd
      · exact hfirst
      · exact hrest d hd

theorem node {l : Layout} (h : Between lo l.cursor.offset ns) (kind : Kind) :
    Between lo l.cursor.offset [l.node kind ns] := by
  obtain ⟨hwithin, hcovers⟩ := h.node_range kind
  have hlaidOut : (l.node kind ns).LaidOut := by
    constructor
    case start_le_stop => exact hwithin.2.1
    case covers =>
      rw [l.node_children]
      exact hcovers
    case apart =>
      rw [l.node_children]
      exact h.apart
  refine singleton (.of_children hlaidOut ?_) hwithin
  rw [l.node_children]
  exact h.inOrder

end Between

/-! ## What is written from a sketch -/

namespace Layout

theorem put_offset (l : Layout) (s : String) :
    (l.put s).cursor.offset = l.cursor.offset + s.utf8ByteSize :=
  l.cursor.advanceText_offset s

theorem offset_le_gap (l : Layout) : l.cursor.offset ≤ l.gap.cursor.offset := by
  unfold gap
  split
  · exact Nat.le_refl _
  · rw [put_offset]
    omega

/-- A token stands behind all that was written before it. -/
theorem between_token (l : Layout) (kind : Kind) (text : String) :
    Between l.cursor.offset (l.token kind text).2.cursor.offset [(l.token kind text).1] := by
  have hgap := l.offset_le_gap
  have hput := l.gap.put_offset text
  have hleaf : (l.token kind text).1 = .leaf kind text ⟨l.gap.cursor, (l.gap.put text).cursor⟩ := rfl
  have hafter : (l.token kind text).2 = l.gap.put text := rfl
  have hstop : l.gap.cursor.offset ≤ (l.gap.put text).cursor.offset := by omega
  rw [hleaf, hafter]
  refine Between.singleton (.of_children ⟨hstop, ?_, .nil⟩ ?_) ⟨hgap, hstop, Nat.le_refl _⟩
  · exact fun c hc => absurd hc List.not_mem_nil
  · exact fun c hc => absurd hc List.not_mem_nil

end Layout

mutual

/-- What is written from a sketch stands between the ends of the text before and after. -/
theorem Sketch.between_write (l : Layout) : ∀ s : Sketch,
    Between l.cursor.offset (s.write l).2.cursor.offset [(s.write l).1]
  | .token kind text => l.between_token kind text
  | .node kind parts => (Parts.between_write l parts).node kind

theorem Parts.between_write (l : Layout) : ∀ ps : Parts,
    Between l.cursor.offset (ps.write l).2.cursor.offset (ps.write l).1
  | .nil => .nil (Nat.le_refl _)
  | .newline rest => by
    have hbreak : l.cursor.offset ≤ l.newline.cursor.offset := by
      have hput := l.put_offset "\n"
      unfold Layout.newline
      omega
    exact (Parts.between_write l.newline rest).mono hbreak
  | .cons first rest =>
    (Sketch.between_write l first).append (Parts.between_write (first.write l).2 rest)

end

theorem Sketch.inOrder_write (s : Sketch) (l : Layout) : (s.write l).1.InOrder :=
  (s.between_write l).inOrder _ List.mem_cons_self

/-- **Trees that are written in source order are in document order.** Whatever the shape of the tree, what
its tokens are and where lines break, no range is inverted, every node reaches around all nodes below
it, and siblings follow one another. A walk enters no node that begins before one entered earlier. So
of all topmost occurrences of a spelling, the first occurrence, which is one of them, begins first. -/
theorem sketches_are_written_in_order (s : Sketch) (l : Layout) :
    let root := (s.write l).1
    (∀ n ∈ root.nodes,
      n.range.start.offset ≤ n.range.stop.offset ∧
      (∀ d ∈ n.nodes, n.range.start.offset ≤ d.range.start.offset ∧
        d.range.stop.offset ≤ n.range.stop.offset) ∧
      n.children.Pairwise fun a b => a.range.stop.offset ≤ b.range.start.offset) ∧
    (root.walk { enter := fun seen n => seen ++ [n] } []).Pairwise
      (fun a b => a.range.start.offset ≤ b.range.start.offset) ∧
    ∀ target, root.find? target = (root.findAll target).head? ∧
      ∀ o, root.find? target = some o → ∀ o' ∈ root.findAll target,
        o.node.range.start.offset ≤ o'.node.range.start.offset := by
  intro root
  have horder : root.InOrder := s.inOrder_write l
  refine ⟨?_, ?_, ?_⟩
  · intro n hn
    have hn' := horder n hn
    exact ⟨hn'.start_le_stop, (horder.of_mem hn).covers, hn'.apart⟩
  · rw [root.walk_collect]
    exact horder.starts_le
  · intro target
    exact ⟨root.find?_eq_head?_findAll target, fun o ho => horder.find?_start_le ho⟩

end PlsqlAudit
