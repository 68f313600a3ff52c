import PlsqlAudit.Proofs.Tree.Layout
import PlsqlAudit.Proofs.Tree.Sketch

/-!
# Trees put together from the tokens of one layout

* `Layout.Made` — a tree whose tokens and nodes were given by the commands of one layout, in whatever
  order and nesting, and however much else was written.
* `Layout.Made.place` — every token of such a tree stands in the text where its range says.
* `Sketch.made_write` — a tree that is written in source order is such a tree.
-/

namespace PlsqlAudit

namespace Layout

/-- The node is put together by the commands: it is a token that one of them wrote, or a node over
nodes that were put together before it. -/
inductive Made : List Command → Node → Prop where
  | token {done later : List Command} {c : Command} {s : String} {n : Node}
      (hc : c.token? = some s) (hn : given done c = some n) : Made (done ++ c :: later) n
  | node {done later : List Command} (kind : Kind) {children : List Node}
      (h : ∀ m ∈ children, Made done m) :
      Made (done ++ .node kind children :: later) ((after done).node kind children)

namespace Made

/-- More commands do not take away what was put together. -/
theorem append {cs : List Command} {n : Node} (h : Made cs n) (more : List Command) :
    Made (cs ++ more) n := by
  cases h with
  | token hc hn =>
    rw [List.append_assoc, List.cons_append]
    exact .token hc hn
  | node kind h =>
    rw [List.append_assoc, List.cons_append]
    exact .node kind h

/-- **Every token of the tree stands in the text where its range says**, whatever was written
after it. -/
theorem place {cs : List Command} {n : Node} (h : Made cs n) :
    ∀ m ∈ n.nodes, ∀ s, m.token = some s → ∃ before rest, (after cs).text = before ++ s ++ rest ∧
      m.range = ⟨Position.start.advanceText before, Position.start.advanceText (before ++ s)⟩ := by
  induction h with
  | @token done later c s n hc hn =>
    obtain ⟨kind, hgiven, htext⟩ := given_of_token hc done
    obtain ⟨rest, hrest⟩ := text_after_append (done ++ [c]) later
    obtain rfl := Option.some.inj (hn.symm.trans hgiven)
    intro m hm t ht
    rw [Node.nodes_leaf] at hm
    obtain rfl := List.mem_singleton.1 hm
    obtain rfl := Option.some.inj ht
    refine ⟨(after done).text ++ separator (after done).text, rest, ?_, ?_⟩
    · rw [← htext, ← hrest, List.append_assoc, List.singleton_append]
    · rw [← htext]
      rfl
  | @node done later kind children _ ih =>
    obtain ⟨more, hmore⟩ := text_after_append done (.node kind children :: later)
    intro m hm s hs
    rw [Node.nodes_eq, node_children] at hm
    rcases List.mem_cons.1 hm with rfl | hm
    · rw [node_token] at hs
      cases hs
    · obtain ⟨c, hc, hmc⟩ := List.mem_flatMap.1 hm
      obtain ⟨before, rest, htext, hrange⟩ := ih c hc m hmc s hs
      refine ⟨before, rest ++ more, ?_, hrange⟩
      rw [hmore, htext, String.append_assoc]

end Made

end Layout

mutual

/-- What is written from a sketch is put together by commands that go on with the layout. -/
theorem Sketch.made_write (done : List Layout.Command) : ∀ s : Sketch,
    ∃ more, Layout.after (done ++ more) = (s.write (Layout.after done)).2 ∧
      Layout.Made (done ++ more) (s.write (Layout.after done)).1
  | .token kind text => ⟨[.token kind text], Layout.after_concat _ _, .token rfl rfl⟩
  | .node kind parts => by
    obtain ⟨more, hafter, hmade⟩ := Parts.made_write done parts
    refine ⟨more ++ [.node kind (parts.write (Layout.after done)).1], ?_, ?_⟩
    · rw [← List.append_assoc, Layout.after_concat]
      exact hafter
    · have hnode := @Layout.Made.node (done ++ more) [] kind _ hmade
      rw [hafter, List.append_assoc] at hnode
      exact hnode

theorem Parts.made_write (done : List Layout.Command) : ∀ ps : Parts,
    ∃ more, Layout.after (done ++ more) = (ps.write (Layout.after done)).2 ∧
      ∀ n ∈ (ps.write (Layout.after done)).1, Layout.Made (done ++ more) n
  | .nil => ⟨[], by rw [List.append_nil]; rfl, fun n hn => absurd hn List.not_mem_nil⟩
  | .newline rest => by
    have hbreak : Layout.after (done ++ [.newline]) = (Layout.after done).newline :=
      Layout.after_concat _ _
    obtain ⟨more, hafter, hmade⟩ := Parts.made_write (done ++ [.newline]) rest
    rw [hbreak, List.append_assoc] at hafter
    rw [hbreak, List.append_assoc] at hmade
    exact ⟨_, hafter, hmade⟩
  | .cons first rest => by
    obtain ⟨more, hafter, hmade⟩ := Sketch.made_write done first
    obtain ⟨more', hafter', hmade'⟩ := Parts.made_write (done ++ more) rest
    rw [hafter, List.append_assoc] at hafter'
    rw [hafter, List.append_assoc] at hmade'
    refine ⟨more ++ more', hafter', fun n hn => ?_⟩
    rcases List.mem_cons.1 hn with rfl | hn
    · rw [← List.append_assoc]
      exact hmade.append more'
    · exact hmade' n hn

end

end PlsqlAudit
