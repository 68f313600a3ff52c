import PlsqlAudit.Proofs.Tree.Order
import PlsqlAudit.Tree.Layout

/-!
# The range of a node and the ranges of its children

Positions are compared by offset, but a range is made of whole positions, so it matters which of
several children at one offset a node takes its start and end from.

* `Prevails` — the item of a list that is left if of two items the earlier one stays as long as it is
  preferred. `IsFirstLeast` and `IsLastGreatest` are its two uses.
* `Range.Spans` — a range starts with the first of the earliest ranges of a list and ends with the last
  of the latest. There is only one such range (`Range.Spans.unique`), and for two lists in a row it is the
  cover of those for each (`Range.Spans.append`).
* `Node.Grown` — the trees that are put together from tokens and composite nodes; every node of such a
  tree reaches around everything below it.
* `Node.ranges_follow_children` — what adding children makes of the range of a node.
-/

namespace PlsqlAudit

/-! ## The item that is left of a list -/

section Prevails

variable {α : Type} {beats : α → α → Prop} {a b : α} {as bs : List α}

/-- The item is preferred to all later ones, and no earlier one is preferred to it. -/
def Prevails (beats : α → α → Prop) (a : α) (as : List α) : Prop :=
  ∃ before after, as = before ++ a :: after ∧ (∀ b ∈ before, ¬ beats b a) ∧ ∀ b ∈ after, beats a b

/-- The first of the items with the least key. -/
def IsFirstLeast (key : α → Nat) : α → List α → Prop := Prevails fun a b => key a ≤ key b

/-- The last of the items with the greatest key. -/
def IsLastGreatest (key : α → Nat) : α → List α → Prop := Prevails fun a b => key b < key a

/-- Being preferred passes on, and so does not being preferred. -/
structure IsPreference (beats : α → α → Prop) : Prop where
  trans : ∀ {a b c}, beats a b → beats b c → beats a c
  neg_trans : ∀ {a b c}, ¬ beats a b → ¬ beats b c → ¬ beats a c

theorem isPreference_le (key : α → Nat) : IsPreference fun a b => key a ≤ key b where
  trans := by omega
  neg_trans := by omega

theorem isPreference_lt (key : α → Nat) : IsPreference fun a b => key b < key a where
  trans := by omega
  neg_trans := by omega

theorem Prevails.singleton (a : α) : Prevails beats a [a] :=
  ⟨[], [], rfl, fun _ h => absurd h List.not_mem_nil, fun _ h => absurd h List.not_mem_nil⟩

/-- No list has two items that prevail. -/
theorem Prevails.unique (ha : Prevails beats a as) (hb : Prevails beats b as) : a = b := by
  obtain ⟨xs, ys, rfl, hxs, hys⟩ := ha
  obtain ⟨xs', ys', heq, hxs', hys'⟩ := hb
  -- If one stands before the other, it is preferred to it and it is not.
  rcases List.append_eq_append_iff.1 heq with ⟨zs, rfl, hzs⟩ | ⟨zs, rfl, hzs⟩
  · cases zs with
    | nil => exact (List.cons.inj hzs).1
    | cons z zs =>
      obtain ⟨rfl, rfl⟩ := List.cons.inj hzs
      exact absurd (hys b (by simp)) (hxs' a (by simp))
  · cases zs with
    | nil => exact (List.cons.inj hzs).1.symm
    | cons z zs =>
      obtain ⟨rfl, rfl⟩ := List.cons.inj hzs
      exact absurd (hys' a (by simp)) (hxs b (by simp))

theorem Prevails.append_of_beats (hbeats : IsPreference beats) (ha : Prevails beats a as)
    (hb : Prevails beats b bs) (h : beats a b) : Prevails beats a (as ++ bs) := by
  obtain ⟨xs, ys, rfl, hxs, hys⟩ := ha
  obtain ⟨xs', ys', rfl, hxs', hys'⟩ := hb
  refine ⟨xs, ys ++ (xs' ++ b :: ys'), by simp, hxs, ?_⟩
  intro c hc
  simp only [List.mem_append, List.mem_cons] at hc
  rcases hc with hc | hc | rfl | hc
  · exact hys c hc
  · exact Classical.byContradiction fun hnot => hbeats.neg_trans hnot (hxs' c hc) h
  · exact h
  · exact hbeats.trans h (hys' c hc)

theorem Prevails.append_of_not_beats (hbeats : IsPreference beats) (ha : Prevails beats a as)
    (hb : Prevails beats b bs) (h : ¬ beats a b) : Prevails beats b (as ++ bs) := by
  obtain ⟨xs, ys, rfl, hxs, hys⟩ := ha
  obtain ⟨xs', ys', rfl, hxs', hys'⟩ := hb
  refine ⟨xs ++ a :: ys ++ xs', ys', by simp, ?_, hys'⟩
  intro c hc
  simp only [List.mem_append, List.mem_cons] at hc
  rcases hc with (hc | rfl | hc) | hc
  · exact hbeats.neg_trans (hxs c hc) h
  · exact h
  · exact fun hcb => h (hbeats.trans (hys c hc) hcb)
  · exact hxs' c hc

end Prevails

/-! ## The range of a list of ranges -/

namespace Range

variable {r s : Range} {rs ss : List Range}

/-- The range starts where the first of the earliest ranges does, and ends where the last of the
latest ranges does. -/
structure Spans (r : Range) (rs : List Range) : Prop where
  start_eq : ∃ s, IsFirstLeast (·.start.offset) s rs ∧ r.start = s.start
  stop_eq : ∃ s, IsLastGreatest (·.stop.offset) s rs ∧ r.stop = s.stop

namespace Spans

theorem singleton (r : Range) : r.Spans [r] := ⟨⟨r, .singleton r, rfl⟩, ⟨r, .singleton r, rfl⟩⟩

/-- No two ranges span the same list. -/
theorem unique (hr : r.Spans rs) (hs : s.Spans rs) : r = s := by
  obtain ⟨⟨a, ha, hstart⟩, ⟨b, hb, hstop⟩⟩ := hr
  obtain ⟨⟨a', ha', hstart'⟩, ⟨b', hb', hstop'⟩⟩ := hs
  obtain rfl := ha.unique ha'
  obtain rfl := hb.unique hb'
  cases r
  cases s
  simp_all

/-- **The cover of two ranges spans what each of them spans, in a row.** -/
theorem append (hr : r.Spans rs) (hs : s.Spans ss) : (r.cover s).Spans (rs ++ ss) where
  start_eq := by
    obtain ⟨a, ha, hstart⟩ := hr.start_eq
    obtain ⟨b, hb, hstart'⟩ := hs.start_eq
    show ∃ c : Range, IsFirstLeast _ c _ ∧ r.start.earlier s.start = c.start
    rw [hstart, hstart']
    unfold Position.earlier
    split
    · rename_i hlt
      exact ⟨b, ha.append_of_not_beats (isPreference_le _) hb (Nat.not_le.2 hlt), rfl⟩
    · rename_i hle
      exact ⟨a, ha.append_of_beats (isPreference_le _) hb (Nat.not_lt.1 hle), rfl⟩
  stop_eq := by
    obtain ⟨a, ha, hstop⟩ := hr.stop_eq
    obtain ⟨b, hb, hstop'⟩ := hs.stop_eq
    show ∃ c : Range, IsLastGreatest _ c _ ∧ r.stop.later s.stop = c.stop
    rw [hstop, hstop']
    unfold Position.later
    split
    · rename_i hlt
      exact ⟨a, ha.append_of_beats (isPreference_lt _) hb hlt, rfl⟩
    · rename_i hnot
      exact ⟨b, ha.append_of_not_beats (isPreference_lt _) hb hnot, rfl⟩

end Spans

end Range

namespace Node

variable {n : Node}

/-! ## Adding children one after the other -/

theorem foldl_cover_spans (cs : List Node) {r : Range} {rs : List Range} (h : r.Spans rs) :
    (cs.foldl (fun r c => r.cover c.range) r).Spans (rs ++ cs.map (·.range)) := by
  induction cs generalizing r rs with
  | nil => simpa using h
  | cons c cs ih =>
    have hnext := ih (h.append (.singleton c.range))
    simpa using hnext

/-- The range of a composite node spans those of its children, whatever it was made with. -/
theorem composite_spans (kind : Kind) (r : Range) {cs : List Node} (h : cs ≠ []) :
    ((composite kind r).pushChildren cs).range.Spans (cs.map (·.range)) := by
  cases cs with
  | nil => exact absurd rfl h
  | cons c cs =>
    rw [composite_range]
    exact foldl_cover_spans cs (.singleton c.range)

/-- The range of a token counts as that of a first child. -/
theorem token_spans (cs : List Node) (h : n.token ≠ none) :
    (n.pushChildren cs).range.Spans (n.range :: cs.map (·.range)) := by
  rw [pushChildren_range cs (.inl h)]
  exact foldl_cover_spans cs (.singleton n.range)

/-! ## Trees put together by adding children -/

/-- The trees that are put together from tokens and composite nodes, child by child or all children at
once. -/
inductive Grown : Node → Prop where
  | leaf (kind : Kind) (text : String) (range : Range) : Grown (leaf kind text range)
  | composite (kind : Kind) (range : Range) : Grown (composite kind range)
  | node (l : Layout) (kind : Kind) {children : List Node} (h : ∀ c ∈ children, Grown c) :
      Grown (l.node kind children)
  | pushChild {n c : Node} (hn : Grown n) (hc : Grown c) : Grown (n.pushChild c)

theorem Covering.of_no_children (h : n.children = []) : n.Covering := by
  intro m hm c hc
  rw [nodes_eq, h, List.flatMap_nil] at hm
  obtain rfl := List.mem_singleton.1 hm
  rw [h] at hc
  exact absurd hc List.not_mem_nil

/-- The range after a child was added covers it and all that were there. -/
theorem pushChild_covers {c : Node} (h : ∀ d ∈ n.children, n.range.Covers d.range) :
    ∀ d ∈ (n.pushChild c).children, (n.pushChild c).range.Covers d.range := by
  intro d hd
  have hmem : d ∈ n.children ++ [c] := hd
  unfold pushChild
  split
  · rename_i hfirst
    obtain ⟨hnone, -⟩ := Bool.and_eq_true_iff.1 hfirst
    rw [List.isEmpty_iff.1 hnone, List.nil_append, List.mem_singleton] at hmem
    rw [hmem]
    exact .refl _
  · rcases List.mem_append.1 hmem with hd | hd
    · exact (n.range.cover_covers_left c.range).trans (h d hd)
    · rw [List.mem_singleton.1 hd]
      exact n.range.cover_covers_right c.range

theorem Covering.pushChild {c : Node} (hn : n.Covering) (hc : c.Covering) :
    (n.pushChild c).Covering := by
  intro m hm
  rw [nodes_eq] at hm
  rcases List.mem_cons.1 hm with rfl | hm
  · exact pushChild_covers (hn n n.mem_nodes_self)
  · obtain ⟨d, hd, hmd⟩ := List.mem_flatMap.1 hm
    rcases List.mem_append.1 hd with hd | hd
    · exact hn m (mem_nodes_of_mem_children hd hmd)
    · obtain rfl := List.mem_singleton.1 hd
      exact hc m hmd

theorem Covering.pushChildren (hn : n.Covering) {cs : List Node} (hcs : ∀ c ∈ cs, c.Covering) :
    (n.pushChildren cs).Covering := by
  unfold Node.pushChildren
  induction cs generalizing n with
  | nil => exact hn
  | cons c cs ih =>
    exact ih (hn.pushChild (hcs c List.mem_cons_self)) fun d hd => hcs d (List.mem_cons_of_mem _ hd)

theorem Grown.covering (h : n.Grown) : n.Covering := by
  induction h with
  | leaf kind text range => exact .of_no_children rfl
  | composite kind range => exact .of_no_children rfl
  | node l kind _ ih => exact Covering.pushChildren (.of_no_children rfl) ih
  | pushChild _ _ ihn ihc => exact ihn.pushChild ihc

/-- **Ranges follow from the children, in whatever order these stand.** A composite node starts with the
first of its earliest children and ends with the last of the latest, whatever range it was made with;
the range of a token counts as that of a first child. So every node of a tree that was put together by
adding children reaches around everything below it, and children may be added in two batches whose
ranges are covered in the end. -/
theorem ranges_follow_children :
    (∀ (kind : Kind) (r : Range) (cs : List Node), cs ≠ [] →
      ((composite kind r).pushChildren cs).range.Spans (cs.map (·.range)) ∧
      ∀ kind' r', ((composite kind' r').pushChildren cs).range =
        ((composite kind r).pushChildren cs).range) ∧
    (∀ (n : Node) (cs : List Node), n.token ≠ none →
      (n.pushChildren cs).range.Spans (n.range :: cs.map (·.range))) ∧
    (∀ root : Node, root.Grown → ∀ n ∈ root.nodes, ∀ d ∈ n.nodes,
      n.range.start.offset ≤ d.range.start.offset ∧ d.range.stop.offset ≤ n.range.stop.offset) ∧
    ∀ (kind : Kind) (r : Range) (xs ys : List Node), xs ≠ [] → ys ≠ [] →
      ((composite kind r).pushChildren (xs ++ ys)).range =
        ((composite kind r).pushChildren xs).range.cover ((composite kind r).pushChildren ys).range := by
  refine ⟨?_, fun n cs => token_spans cs, ?_, ?_⟩
  · intro kind r cs hcs
    have hspans := composite_spans kind r hcs
    exact ⟨hspans, fun kind' r' => (composite_spans kind' r' hcs).unique hspans⟩
  · intro root hroot n hn
    exact (hroot.covering.of_mem hn).covers
  · intro kind r xs ys hxs hys
    have hall := composite_spans kind r (List.append_ne_nil_of_left_ne_nil hxs ys)
    rw [List.map_append] at hall
    exact hall.unique ((composite_spans kind r hxs).append (composite_spans kind r hys))

-- Of two children at one offset, the first gives the start and the second the end.
example : ((composite .datatype default).pushChildren
    [leaf .identifier "a" ⟨⟨1, 1, 4⟩, ⟨1, 2, 9⟩⟩, leaf .identifier "b" ⟨⟨2, 1, 4⟩, ⟨2, 2, 9⟩⟩]).range =
      ⟨⟨1, 1, 4⟩, ⟨2, 2, 9⟩⟩ := by decide

end Node

end PlsqlAudit
