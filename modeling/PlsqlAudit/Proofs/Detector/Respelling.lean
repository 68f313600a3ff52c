import Mathlib.Data.List.Forall2
import PlsqlAudit.Detector.NationalInput
import PlsqlAudit.Proofs.Tree.Path
import PlsqlAudit.Proofs.Tree.Topmost

/-!
# Spelling and surroundings do not matter

Two trees are searched side by side. They have the same shape, and their tokens differ in the case of
ASCII letters at most; kinds and ranges may be any.

* `Node.Respelled` — such a pair of trees, told path by path.
* `Corresponds` — two occurrences stand at the same path, with trees below them that are respelled.
* `Corresponds.findOn`, `Corresponds.findAllOn` — both loops keep their work lists in step, so what they
  find corresponds.
* `spelling_and_surroundings_do_not_matter` — the searches, and the rule about national input, which
  looks at nothing but the kinds of the children and the first datatype.
-/

namespace PlsqlAudit

/-! ## Options and lists in step -/

theorem rel_bind {α β γ δ : Type} {R : α → β → Prop} {S : γ → δ → Prop} {x : Option α} {y : Option β}
    {f : α → Option γ} {g : β → Option δ} (h : Option.Rel R x y)
    (hfg : ∀ a b, R a b → Option.Rel S (f a) (g b)) : Option.Rel S (x.bind f) (y.bind g) := by
  cases h with
  | none => exact .none
  | some hab => exact hfg _ _ hab

theorem rel_getElem?_of_forall₂ {α β : Type} {R : α → β → Prop} {xs : List α} {ys : List β}
    (h : List.Forall₂ R xs ys) (i : Nat) : Option.Rel R xs[i]? ys[i]? := by
  induction h generalizing i with
  | nil => exact .none
  | cons hxy _ ih =>
    cases i with
    | zero => exact .some hxy
    | succ i => exact ih i

theorem forall₂_of_rel_getElem? {α β : Type} {R : α → β → Prop} {xs : List α} {ys : List β}
    (h : ∀ i : Nat, Option.Rel R xs[i]? ys[i]?) : List.Forall₂ R xs ys := by
  induction xs generalizing ys with
  | nil =>
    cases ys with
    | nil => exact .nil
    | cons y ys => cases h 0
  | cons x xs ih =>
    cases ys with
    | nil => cases h 0
    | cons y ys => exact .cons (Option.rel_some_some.1 (h 0)) (ih fun i => h (i + 1))

/-! ## Respelled trees -/

namespace Node

/-- Both nodes have no token, or their tokens are the same in small letters. -/
def SameToken (a b : Node) : Prop :=
  Option.Rel (fun s t : String => s.toLower = t.toLower) a.token b.token

/-- The trees have nodes at the same paths, and the tokens there are the same in small letters. -/
def Respelled (a b : Node) : Prop := ∀ path, Option.Rel SameToken (a.get? path) (b.get? path)

/-- What is respelled at every path below two places is respelled there. -/
theorem rel_respelled {x y : Option Node}
    (h : ∀ path, Option.Rel SameToken (x.bind (·.get? path)) (y.bind (·.get? path))) :
    Option.Rel Respelled x y := by
  have hroot := h []
  cases x with
  | none =>
    cases y with
    | none => exact .none
    | some d =>
      rw [Option.bind_none, Option.bind_some, get?_nil] at hroot
      cases hroot
  | some c =>
    cases y with
    | none =>
      rw [Option.bind_none, Option.bind_some, get?_nil] at hroot
      cases hroot
    | some d => exact .some h

/-- Trees are respelled when their roots have the same token and their children are respelled. -/
theorem respelled_iff {a b : Node} :
    a.Respelled b ↔ a.SameToken b ∧ List.Forall₂ Respelled a.children b.children := by
  constructor
  · intro h
    have hroot := h []
    rw [get?_nil, get?_nil, Option.rel_some_some] at hroot
    refine ⟨hroot, forall₂_of_rel_getElem? fun i => rel_respelled fun path => ?_⟩
    rw [← get?_cons, ← get?_cons]
    exact h (i :: path)
  · rintro ⟨hroot, hchildren⟩ path
    cases path with
    | nil =>
      rw [get?_nil, get?_nil]
      exact .some hroot
    | cons i path =>
      rw [get?_cons, get?_cons]
      exact rel_bind (rel_getElem?_of_forall₂ hchildren i) fun c d hcd => hcd path

theorem spells_eq_of_sameToken {a b : Node} (h : a.SameToken b) {target target' : String}
    (ht : target.toLower = target'.toLower) : a.spells target = b.spells target' := by
  rw [Bool.eq_iff_iff, spells_iff, spells_iff, Matches, Matches]
  unfold SameToken at h
  generalize a.token = s, b.token = t at h
  cases h with
  | none => simp
  | some hst => simp [hst, ht]

end Node

theorem Text.isEmpty_eq_of_toLower {s t : String} (h : s.toLower = t.toLower) :
    s.isEmpty = t.isEmpty := by
  have hempty : ∀ u : String, u = "" ↔ u.toLower.toList = [] := by
    intro u
    rw [← fold_eq_toLower, fold, List.map_eq_nil_iff, String.toList_eq_nil_iff]
  rw [Bool.eq_iff_iff, String.isEmpty_iff, String.isEmpty_iff, hempty, hempty, h]

/-! ## Occurrences in step -/

/-- The occurrences stand at the same path of the two trees, and what is below them is respelled. -/
structure Corresponds (a b : Node) (o o' : Occurrence) : Prop where
  path : o.path = o'.path
  left : a.get? o.path = some o.node
  right : b.get? o'.path = some o'.node
  nodes : o.node.Respelled o'.node

namespace Corresponds

variable {a b : Node} {o o' : Occurrence} {target target' : String}

theorem root (h : a.Respelled b) : Corresponds a b (.root a) (.root b) :=
  ⟨rfl, a.get?_nil, b.get?_nil, h⟩

/-- The children of occurrences in step are in step. -/
theorem children (h : Corresponds a b o o') :
    List.Forall₂ (Corresponds a b) o.children o'.children := by
  refine forall₂_of_rel_getElem? fun i => ?_
  have hnodes := rel_getElem?_of_forall₂ (Node.respelled_iff.1 h.nodes).2 i
  have hleft := Node.get?_concat h.left i
  have hright := Node.get?_concat h.right i
  rw [Occurrence.children, Occurrence.children, List.getElem?_mapIdx, List.getElem?_mapIdx]
  generalize o.node.children[i]? = c at hnodes hleft
  generalize o'.node.children[i]? = c' at hnodes hright
  have hpath : ∀ (o : Occurrence) (n : Node), (⟨i :: o.trail, n⟩ : Occurrence).path = o.path ++ [i] := by
    intro o n
    simp [Occurrence.path]
  cases hnodes with
  | none => exact .none
  | some hcc =>
    refine .some ⟨?_, ?_, ?_, hcc⟩
    · rw [hpath, hpath, h.path]
    · rw [hpath, hleft]
    · rw [hpath, hright]

theorem spells (h : Corresponds a b o o') (ht : target.toLower = target'.toLower) :
    o.node.spells target = o'.node.spells target' :=
  Node.spells_eq_of_sameToken (Node.respelled_iff.1 h.nodes).1 ht

/-- **The search for the first match goes through both trees in step.** -/
theorem findOn (ht : target.toLower = target'.toLower) {work work' : List Occurrence}
    (h : List.Forall₂ (Corresponds a b) work work') :
    Option.Rel (Corresponds a b) (Node.findOn target work) (Node.findOn target' work') := by
  fun_induction Node.findOn target work generalizing work' with
  | case1 =>
    cases h
    rw [Node.findOn]
    exact .none
  | case2 o rest hspells =>
    cases h with
    | cons ho hrest =>
      rw [ho.spells ht] at hspells
      rw [Node.findOn, if_pos hspells]
      exact .some ho
  | case3 o rest hspells ih =>
    cases h with
    | cons ho hrest =>
      rw [ho.spells ht] at hspells
      conv => rhs; rw [Node.findOn, if_neg hspells]
      exact ih (List.rel_append ho.children hrest)

/-- **So does the search for all topmost matches.** -/
theorem findAllOn (ht : target.toLower = target'.toLower) {work work' : List Occurrence}
    {found found' : Array Occurrence} (h : List.Forall₂ (Corresponds a b) work work')
    (hfound : List.Forall₂ (Corresponds a b) found.toList found'.toList) :
    List.Forall₂ (Corresponds a b) (Node.findAllOn target work found).toList
      (Node.findAllOn target' work' found').toList := by
  fun_induction Node.findAllOn target work found generalizing work' found' with
  | case1 found =>
    cases h
    rw [Node.findAllOn]
    exact hfound
  | case2 found o rest hspells ih =>
    cases h with
    | @cons _ o' _ rest' ho hrest =>
      rw [ho.spells ht] at hspells
      have hpush : List.Forall₂ (Corresponds a b) (found.push o).toList (found'.push o').toList := by
        rw [Array.toList_push, Array.toList_push]
        exact List.rel_append hfound (.cons ho .nil)
      conv => rhs; rw [Node.findAllOn, if_pos hspells]
      exact ih hrest hpush
  | case3 found o rest hspells ih =>
    cases h with
    | cons ho hrest =>
      rw [ho.spells ht] at hspells
      conv => rhs; rw [Node.findAllOn, if_neg hspells]
      exact ih (List.rel_append ho.children hrest) hfound

theorem find? (h : Corresponds a b o o') (ht : target.toLower = target'.toLower) :
    Option.Rel (Corresponds a b) (o.find? target) (o'.find? target') := by
  unfold Occurrence.find?
  rw [Text.isEmpty_eq_of_toLower ht]
  split
  · exact .none
  · exact findOn ht (.cons h .nil)

end Corresponds

theorem Node.Respelled.findAll {a b : Node} (h : a.Respelled b) {target target' : String}
    (ht : target.toLower = target'.toLower) :
    List.Forall₂ (Corresponds a b) (a.findAll target) (b.findAll target') := by
  unfold Node.findAll
  rw [Text.isEmpty_eq_of_toLower ht]
  split
  · exact .nil
  · exact Corresponds.findAllOn ht (.cons (.root h) .nil) .nil

/-! ## The rule -/

namespace Node

/-- Where the first child of a kind stands is told by the kinds of the children. -/
theorem map_path_firstChild? (n : Node) (k : Kind) :
    (n.firstChild? k).map Occurrence.path =
      ((n.children.map (·.kind)).findIdx? (· = k)).map fun i => [i] := by
  -- The children are numbered from a start that the induction moves on.
  have numbered : ∀ (ns : List Node) (i : Nat),
      ((ns.mapIdx fun j n => (⟨[i + j], n⟩ : Occurrence)).find? (·.node.isKind k)).map
        Occurrence.path = ((ns.map (·.kind)).findIdx? (· = k)).map fun j => [i + j] := by
    intro ns
    induction ns with
    | nil => intro i; rfl
    | cons n ns ih =>
      intro i
      have hrest := ih (i + 1)
      simp only [Nat.add_assoc, Nat.add_comm 1] at hrest
      by_cases hk : n.kind = k
      · simp [List.mapIdx_cons, List.findIdx?_cons, isKind, hk, Occurrence.path]
      · simp [List.mapIdx_cons, List.findIdx?_cons, isKind, hk] at hrest ⊢
        rw [hrest]
        rfl
  have h := numbered n.children 0
  simp only [Nat.zero_add] at h
  exact h

theorem get?_of_firstChild? {n : Node} {k : Kind} {o : Occurrence} (h : n.firstChild? k = some o) :
    n.get? o.path = some o.node := by
  obtain ⟨i, hi, rfl⟩ := List.mem_mapIdx.1 (List.mem_of_find?_eq_some h)
  have hchild := get?_concat n.get?_nil i
  rw [List.nil_append] at hchild
  exact hchild.trans (List.getElem?_eq_getElem hi)

theorem firstChild?_corresponds {a b : Node} {k : Kind}
    (hkinds : a.children.map (·.kind) = b.children.map (·.kind))
    (hfirst : Option.Rel Respelled (a.children.find? (·.isKind k)) (b.children.find? (·.isKind k))) :
    Option.Rel (Corresponds a b) (a.firstChild? k) (b.firstChild? k) := by
  have hpaths : (a.firstChild? k).map Occurrence.path = (b.firstChild? k).map Occurrence.path := by
    rw [map_path_firstChild?, map_path_firstChild?, hkinds]
  rw [← firstChild?_node, ← firstChild?_node] at hfirst
  cases ha : a.firstChild? k with
  | none =>
    cases hb : b.firstChild? k with
    | none => exact .none
    | some o' => simp [ha, hb] at hpaths
  | some o =>
    cases hb : b.firstChild? k with
    | none => simp [ha, hb] at hpaths
    | some o' =>
      rw [ha, hb, Option.map_some, Option.map_some] at hpaths hfirst
      exact .some ⟨Option.some.inj hpaths, get?_of_firstChild? ha, get?_of_firstChild? hb,
        Option.rel_some_some.1 hfirst⟩

end Node

theorem ParameterMode.classify_eq_of_kinds {a b : Node}
    (hkinds : a.children.map (·.kind) = b.children.map (·.kind)) : classify a = classify b := by
  have hany : ∀ n : Node, n.hasChild (.keyword .outWord) =
      (n.children.map (·.kind)).any (· = .keyword .outWord) := by
    intro n
    rw [List.any_map]
    rfl
  rw [classify, classify, hany, hany, hkinds]

/-- The rule looks at the kinds of the children and at the first datatype. -/
theorem NationalInput.violation?_corresponds {a b : Node}
    (hkinds : a.children.map (·.kind) = b.children.map (·.kind))
    (htype : Option.Rel Node.Respelled (a.children.find? (·.isKind .datatype))
      (b.children.find? (·.isKind .datatype))) :
    Option.Rel (Corresponds a b) (violation? a) (violation? b) := by
  unfold violation?
  rw [ParameterMode.classify_eq_of_kinds hkinds]
  split
  · exact .none
  · exact rel_bind (Node.firstChild?_corresponds hkinds htype) fun o o' ho => ho.find? rfl

/-- **Spelling and surroundings do not matter.** In respelled trees, the searches for two spellings of a
word find nodes at the same paths. The rule points at the same path in any two parameters whose
children have the same kinds and whose first datatypes are respelled. -/
theorem spelling_and_surroundings_do_not_matter :
    (∀ (a b : Node) (target target' : String), a.Respelled b → target.toLower = target'.toLower →
      Option.Rel (Corresponds a b) (a.find? target) (b.find? target') ∧
      List.Forall₂ (Corresponds a b) (a.findAll target) (b.findAll target')) ∧
    ∀ p q : Node, p.children.map (·.kind) = q.children.map (·.kind) →
      Option.Rel Node.Respelled (p.children.find? (·.isKind .datatype))
        (q.children.find? (·.isKind .datatype)) →
      Option.Rel (Corresponds p q) (NationalInput.violation? p) (NationalInput.violation? q) := by
  refine ⟨fun a b target target' h ht => ⟨?_, h.findAll ht⟩, ?_⟩
  · exact (Corresponds.root h).find? ht
  · exact fun p q => NationalInput.violation?_corresponds

/-- A datatype that mentions the national type. -/
def plainType : Node :=
  ⟨.datatype, none, [⟨.keyword .nvarchar2, some "NVARCHAR2", [], default⟩], default⟩

/-- The same datatype, with other letters and as a type of another kind. -/
def oddType : Node :=
  ⟨.datatype, none, [⟨.customDatatype, some "nVarChar2", [], ⟨⟨3, 1, 40⟩, ⟨3, 10, 49⟩⟩⟩], default⟩

/-- A parameter with a name, a datatype and a default value. -/
def plainInput : Node :=
  ⟨.parameterDeclaration, none,
    [⟨.identifier, some "p", [], default⟩, plainType, ⟨.defaultValue, none, [], default⟩], default⟩

/-- Another such parameter, with the national type also in front of and behind its datatype. -/
def oddInput : Node :=
  ⟨.parameterDeclaration, some "nvarchar2",
    [⟨.identifier, some "NVARCHAR2", [], default⟩, oddType,
      ⟨.defaultValue, none, [⟨.literal, some "nvarchar2", [], default⟩], default⟩], default⟩

theorem plainType_respelled : plainType.Respelled oddType := by
  have hword : "NVARCHAR2".toLower = "nVarChar2".toLower := (Text.sameSpelling_iff _ _).1 (by decide)
  refine Node.respelled_iff.2 ⟨Option.Rel.none, .cons ?_ .nil⟩
  exact Node.respelled_iff.2 ⟨Option.Rel.some hword, .nil⟩

/-- Both parameters are at fault because of the token in their datatype. -/
theorem odd_input_keeps_its_place :
    (NationalInput.violation? plainInput).map Occurrence.path = some [1, 0] ∧
    Option.Rel (Corresponds plainInput oddInput) (NationalInput.violation? plainInput)
      (NationalInput.violation? oddInput) ∧
    Option.Rel (Corresponds plainType oddType) (plainType.find? "NVarchar2")
      (oddType.find? "nvarchar2") := by
  have hword : "NVarchar2".toLower = "nvarchar2".toLower := (Text.sameSpelling_iff _ _).1 (by decide)
  refine ⟨by decide +kernel, ?_, ?_⟩
  · exact spelling_and_surroundings_do_not_matter.2 plainInput oddInput rfl
      (Option.Rel.some plainType_respelled)
  · exact (spelling_and_surroundings_do_not_matter.1 plainType oddType _ _ plainType_respelled
      hword).1

end PlsqlAudit
