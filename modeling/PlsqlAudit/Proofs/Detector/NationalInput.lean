import PlsqlAudit.Proofs.Registry.Calls
import PlsqlAudit.Proofs.Registry.Settings
import PlsqlAudit.Proofs.Tree.Search

/-!
# Which parameters the standard registry reports

* `NationalInput.Flags` — a parameter is at fault because of a node, told by positions in the tree
  and without a search.
* `NationalInput.anchor?` — the node because of which a parameter is at fault, computed;
  `anchor?_eq_some_iff` says that it is the one that `Flags` describes.
* `Dispatch.foldl_offer_of_quiet` — a walk on which nothing fails makes all its calls.
* `standard_reports_flagged_inputs` — the standard registry goes through any tree without an error
  and reports just the parameters at fault, in pre-order.
-/

namespace PlsqlAudit

namespace NationalInput

/-! ## Parameters at fault -/

/-- Whether the node is the word `NVARCHAR2`, in whatever case. -/
def isNational (n : Node) : Bool := n.token.any (·.toLower = "nvarchar2")

/-- Node `p` is an input parameter, and `n` is the first `NVARCHAR2` in its first datatype. -/
structure Flags (p n : Node) : Prop where
  parameter : p.kind = .parameterDeclaration
  input : ∀ c ∈ p.children, c.kind ≠ .keyword .outWord
  datatype : ∃ before type later, p.children = before ++ type :: later ∧
    type.kind = .datatype ∧ (∀ c ∈ before, c.kind ≠ .datatype) ∧
    ∃ earlier rest, type.nodes = earlier ++ n :: rest ∧ isNational n ∧
      ∀ m ∈ earlier, ¬ isNational m

/-- The node because of which `p` is at fault, if it is an input parameter at fault. -/
def anchor? (p : Node) : Option Node :=
  if p.kind = .parameterDeclaration ∧ ∀ c ∈ p.children, c.kind ≠ .keyword .outWord then
    (p.children.find? (·.kind = .datatype)).bind (·.nodes.find? isNational)
  else none

/-- What is to be said about an input parameter of the file at `path` that is at fault because of
`n`. -/
def findingAt (path : String) (n : Node) : Finding where
  detectorId := metadata.key
  severity := metadata.severity
  message := message
  primaryLocation := ⟨path, n.range⟩
  tags := metadata.tags
  remediation := metadata.remediation
  fixSuggestion := some suggestion

/-- The computed node is the one that is described. -/
theorem anchor?_eq_some_iff (p n : Node) : anchor? p = some n ↔ Flags p n := by
  unfold anchor?
  constructor
  · intro h
    split at h
    next hp =>
      obtain ⟨type, htype, hn⟩ := Option.bind_eq_some_iff.1 h
      obtain ⟨hkind, before, later, hchildren, hbefore⟩ := List.find?_eq_some_iff_append.1 htype
      obtain ⟨hnat, earlier, rest, hnodes, hearlier⟩ := List.find?_eq_some_iff_append.1 hn
      refine ⟨hp.1, hp.2, before, type, later, hchildren, by simpa using hkind, ?_,
        earlier, rest, hnodes, hnat, ?_⟩
      · intro c hc
        simpa using hbefore c hc
      · intro m hm
        simpa using hearlier m hm
    next => cases h
  · rintro ⟨hparam, hinput, before, type, later, hchildren, hkind, hbefore,
      earlier, rest, hnodes, hnat, hearlier⟩
    rw [if_pos ⟨hparam, hinput⟩]
    refine Option.bind_eq_some_iff.2 ⟨type, ?_, ?_⟩
    · refine List.find?_eq_some_iff_append.2 ⟨by simpa using hkind, before, later, hchildren, ?_⟩
      intro c hc
      simpa using hbefore c hc
    · refine List.find?_eq_some_iff_append.2 ⟨hnat, earlier, rest, hnodes, ?_⟩
      intro m hm
      simpa using hearlier m hm

/-! ## What the detector answers -/

theorem spells_typeName (n : Node) : n.spells typeName = isNational n := by
  have hsmall : typeName.toLower = "nvarchar2" := by
    rw [← String.toList_inj, ← Text.fold_eq_toLower]
    decide
  unfold Node.spells isNational
  congr 1
  funext t
  rw [Bool.eq_iff_iff, Text.sameSpelling_iff, hsmall, decide_eq_true_iff]

theorem classify_eq_input_iff (p : Node) :
    ParameterMode.classify p = .input ↔ ∀ c ∈ p.children, c.kind ≠ .keyword .outWord := by
  unfold ParameterMode.classify Node.hasChild Node.isKind
  by_cases h : p.children.any (fun c => decide (c.kind = .keyword .outWord)) = true
  · rw [if_pos h]
    obtain ⟨c, hc, hout⟩ := List.any_eq_true.1 h
    simp only [reduceCtorEq, false_iff]
    exact fun hall => hall c hc (by simpa using hout)
  · rw [if_neg h]
    simp only [true_iff]
    intro c hc hout
    exact h (List.any_eq_true.2 ⟨c, hc, by simpa using hout⟩)

/-- The search of the detector ends at the described node. -/
theorem violation?_node {p : Node} (h : p.kind = .parameterDeclaration) :
    (violation? p).map (·.node) = anchor? p := by
  unfold violation? anchor?
  cases hmode : ParameterMode.classify p with
  | outputOrInOut =>
    have hout : ¬ ∀ c ∈ p.children, c.kind ≠ .keyword .outWord := by
      rw [← classify_eq_input_iff, hmode]
      exact ParameterMode.noConfusion
    rw [if_neg fun hp => hout hp.2]
    rfl
  | input =>
    rw [if_pos ⟨h, (classify_eq_input_iff p).1 hmode⟩]
    have hchild : p.children.find? (fun c => decide (c.kind = .datatype)) =
        (p.firstChild? .datatype).map (·.node) := (p.firstChild?_node .datatype).symm
    rw [hchild, Option.bind_map, Option.map_bind]
    congr 1
    funext o
    have hfind : (o.find? typeName).map (·.node) = o.node.nodes.find? (·.spells typeName) :=
      o.find?_node rfl
    simp only [spells_typeName] at hfind
    exact hfind

/-- The detector never fails. -/
theorem visit_failure (m : Metadata) (n : Node) (c : Context) : (visit m n c).failure = none := by
  unfold visit
  split
  · split <;> rfl
  · rfl

/-- The detector says about a node what is to be said, whatever was found before, and leaves all else
as it is. -/
theorem visit_context (n : Node) (c : Context) :
    (visit metadata n c).context = c.report ((anchor? n).map (findingAt c.path)).toList := by
  unfold visit Node.isKind
  by_cases h : n.kind = .parameterDeclaration
  · rw [if_pos (by simpa using h), ← violation?_node h]
    cases violation? n with
    | none => exact c.report_nil.symm
    | some o => rfl
  · have hnone : anchor? n = none := if_neg fun hp => h hp.1
    rw [if_neg (by simpa using h), hnone]
    exact c.report_nil.symm

end NationalInput

/-! ## Walks on which nothing fails -/

/-- When no call can fail, all calls of a plan are made. -/
theorem Dispatch.foldl_offer_of_quiet (failFast : Bool) (plan : List Call)
    (hquiet : ∀ x ∈ plan, ∀ c, (x.1.visitNode x.2 c).failure = none) {s : Dispatch}
    (hfailures : s.failures = []) (hfailed : s.failed = []) :
    (plan.foldl (offer failFast) s).failures = [] ∧
      (plan.foldl (offer failFast) s).context = s.context.after plan := by
  induction plan generalizing s with
  | nil => exact ⟨hfailures, rfl⟩
  | cons x plan ih =>
    have hx := hquiet x List.mem_cons_self s.context
    have hoffer : offer failFast s x = s.call x.2 x.1 := by
      unfold offer
      simp [hfailures, hfailed]
    rw [List.foldl_cons, hoffer]
    obtain ⟨h1, h2⟩ := ih (fun y hy => hquiet y (List.mem_cons_of_mem _ hy))
      (s := s.call x.2 x.1) (by simp [hx, hfailures]) (by simp [hx, hfailed])
    refine ⟨h1, h2.trans ?_⟩
    rw [call_context]
    rfl

/-- Calls that add findings which depend on nothing but the path leave them one after the other. -/
theorem Context.after_findings (found : String → Call → List Finding) (plan : List Call)
    (hfound : ∀ x ∈ plan, ∀ c, (x.1.visitNode x.2 c).context = c.report (found c.path x))
    (c : Context) : (c.after plan).findings = c.findings ++ plan.flatMap (found c.path) := by
  induction plan generalizing c with
  | nil => exact (List.append_nil _).symm
  | cons x plan ih =>
    have hstep : c.after (x :: plan) = (x.1.visitNode x.2 c).context.after plan := rfl
    rw [hstep, hfound x List.mem_cons_self, ih fun y hy => hfound y (List.mem_cons_of_mem _ hy),
      Context.report_findings, Context.report_path, List.append_assoc, List.flatMap_cons]

namespace NationalInput

/-- What comes of the schedule of the detector alone. -/
theorem flatMap_schedule_detector (path : String) (root : Node) :
    (schedule [detector] root).flatMap (fun x => ((anchor? x.2).map (findingAt path)).toList) =
      root.nodes.filterMap fun p => (anchor? p).map (findingAt path) := by
  unfold schedule
  rw [List.flatMap_assoc, List.filterMap_eq_flatMap_toList]
  refine List.flatMap_congr fun n _ => ?_
  by_cases h : n.kind = .parameterDeclaration
  · have hcount : detector.subscriptions.count n.kind = 1 := by
      rw [h]
      rfl
    simp [hcount]
  · have hcount : detector.subscriptions.count n.kind = 0 :=
      List.count_eq_zero.2 fun hmem => h (List.mem_singleton.1 hmem)
    have hnone : anchor? n = none := if_neg fun hp => h hp.1
    simp [hcount, hnone]

/-- The walk of the detector alone fails nowhere and finds what is to be found. -/
theorem walked_detector (file : SourceFile) :
    (Registry.walked false [detector] file).failures = [] ∧
      (Registry.walked false [detector] file).context.findings =
        file.root.nodes.filterMap fun p => (anchor? p).map (findingAt file.path) := by
  have hplan : ∀ x ∈ schedule [detector] file.root, ∀ c,
      x.1.visitNode x.2 c = visit metadata x.2 c := by
    intro x hx c
    rw [List.mem_singleton.1 (mem_schedule hx).1]
    rfl
  have hopened : Registry.opened false [detector] file =
      { context := file.context, active := [detector] } := rfl
  unfold Registry.walked
  rw [hopened, dispatch_eq_foldl_offer]
  obtain ⟨h1, h2⟩ := Dispatch.foldl_offer_of_quiet false (schedule [detector] file.root)
    (fun x hx c => by rw [hplan x hx, visit_failure]) (s := { context := file.context }) rfl rfl
  have hafter := Context.after_findings
    (fun path x => ((anchor? x.2).map (findingAt path)).toList) (schedule [detector] file.root)
    (fun x hx c => by rw [hplan x hx, visit_context]) file.context
  refine ⟨h1, ?_⟩
  calc _ = (file.context.after (schedule [detector] file.root)).findings := congrArg _ h2
    _ = file.context.findings ++ (schedule [detector] file.root).flatMap _ := hafter
    _ = _ := flatMap_schedule_detector file.path file.root

end NationalInput

/-- **The standard registry reports just the input parameters at fault.** -/
theorem standard_reports_flagged_inputs (file : SourceFile) :
    ∃ report, (Registry.standard.run file).value = .ok report ∧ report.errors = [] ∧
      report.stats.nodesVisited = file.root.count ∧
      report.findings = (file.root.nodes.filterMap fun p =>
        (NationalInput.anchor? p).map (NationalInput.findingAt file.path)) ∧
      ∀ p n, NationalInput.anchor? p = some n ↔ NationalInput.Flags p n := by
  obtain ⟨hfailures, hfindings⟩ := NationalInput.walked_detector file
  obtain ⟨-, hcontext, herrors⟩ := Registry.closed_lenient [NationalInput.detector] file
  rw [hfailures] at hcontext herrors
  have hselected : Registry.standard.selected file = [NationalInput.detector] := rfl
  refine ⟨Registry.standard.summarize [NationalInput.detector] file.root.count
    (Registry.closed false [NationalInput.detector] file), ?_, ?_, ?_, ?_,
    NationalInput.anchor?_eq_some_iff⟩
  · unfold Registry.run
    rw [hselected]
    exact Registry.runAll_lenient _ _ _ rfl
  · rw [Registry.summarize_errors, herrors]
    rfl
  · exact Registry.summarize_nodesVisited ..
  · rw [Registry.summarize_findings, hcontext, ← hfindings]
    exact Settings.select_of_plain rfl rfl _

end PlsqlAudit
