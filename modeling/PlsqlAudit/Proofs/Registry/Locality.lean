import PlsqlAudit.Proofs.Registry.Calls
import PlsqlAudit.Proofs.Registry.Invariant
import PlsqlAudit.Proofs.Registry.Run

/-!
# Detectors that look at their own findings only

* `Context.Alike` — contexts that a detector cannot tell apart by the file and its own findings.
* `VisitsLocally` — visits that only add findings under one id, where what is added and whether the
  visit fails is the same in contexts alike. `VisitsLocally.alike_self` says that such visits keep
  contexts alike, and `VisitsLocally.alike_other` that other detectors do not notice them.
* `Detector.IsLocal` — a detector all of whose visits are local.
* `Detector.FailsAlike` — two failures of one visit in contexts alike. That the visit fails in both is
  part of locality; that it words the failures alike is not (`Detector.FailsLocally`).
* `NationalInput.detectorWith_isLocal` — the rule that ships with the library is local.
-/

namespace PlsqlAudit

/-! ## One detector's view of a context -/

namespace Context

/-- The findings of one detector. -/
def own (c : Context) (id : String) : List Finding := c.findings.filter (·.detectorId = id)

/-- Two contexts that a detector of the given id cannot tell apart by its own findings. -/
structure Alike (id : String) (c c' : Context) : Prop where
  path : c.path = c'.path
  isTest : c.isTest = c'.isTest
  own : c.own id = c'.own id

variable {c c' : Context} {id : String} {fs : List Finding}

theorem Alike.refl (id : String) (c : Context) : Alike id c c := ⟨rfl, rfl, rfl⟩

theorem Alike.trans {c'' : Context} (h : Alike id c c') (h' : Alike id c' c'') : Alike id c c'' :=
  ⟨h.path.trans h'.path, h.isTest.trans h'.isTest, h.own.trans h'.own⟩

theorem own_report_self (h : ∀ f ∈ fs, f.detectorId = id) :
    (c.report fs).own id = c.own id ++ fs := by
  unfold own
  rw [report_findings, List.filter_append]
  congr 1
  rw [List.filter_eq_self]
  intro f hf
  simpa using h f hf

theorem own_report_other (h : ∀ f ∈ fs, f.detectorId ≠ id) : (c.report fs).own id = c.own id := by
  unfold own
  rw [report_findings, List.filter_append]
  have hnone : fs.filter (·.detectorId = id) = [] := by
    rw [List.filter_eq_nil_iff]
    intro f hf
    simpa using h f hf
  rw [hnone, List.append_nil]

theorem own_eq_nil (h : ∀ f ∈ c.findings, f.detectorId ≠ id) : c.own id = [] := by
  unfold own
  rw [List.filter_eq_nil_iff]
  intro f hf
  simpa using h f hf

/-- Dropping the findings of one detector leaves those of another. -/
theorem own_discard_other {id' : String} (h : id ≠ id') : (c.discard id').own id = c.own id := by
  unfold own discard
  rw [List.filter_filter]
  refine List.filter_congr fun f _ => ?_
  by_cases hf : f.detectorId = id
  · simp [hf, h]
  · simp [hf]

/-- One detector does not notice that the findings of another are dropped. -/
theorem alike_discard {id' : String} (h : id ≠ id') : Alike id (c.discard id') c :=
  ⟨rfl, rfl, own_discard_other h⟩

end Context

/-! ## Local visits -/

/-- Visits of the detector of the given id, in whatever context, that only add findings under this id.
What they add and whether they fail depends on the file and on the detector's own findings so far. -/
structure VisitsLocally (id : String) (visit : Context → Visit) : Prop where
  own : ∀ c, ∃ fs, (visit c).context = c.report fs ∧ ∀ f ∈ fs, f.detectorId = id
  adds : ∀ c c' fs, Context.Alike id c c' →
    (visit c).context = c.report fs → (visit c').context = c'.report fs
  fails : ∀ c c', Context.Alike id c c' → (visit c).failure.isSome = (visit c').failure.isSome

namespace VisitsLocally

variable {id : String} {visit : Context → Visit}

theorem appends (h : VisitsLocally id visit) (c : Context) : (visit c).Appends c := by
  obtain ⟨fs, hfs, -⟩ := h.own c
  exact ⟨fs, hfs⟩

/-- Contexts that are alike to the detector stay alike. -/
theorem alike_self (h : VisitsLocally id visit) {c c' : Context} (ha : Context.Alike id c c') :
    Context.Alike id (visit c).context (visit c').context := by
  obtain ⟨fs, hfs, hown⟩ := h.own c
  rw [hfs, h.adds c c' fs ha hfs]
  refine ⟨ha.path, ha.isTest, ?_⟩
  rw [Context.own_report_self hown, Context.own_report_self hown, ha.own]

/-- Other detectors do not notice the visit. -/
theorem alike_other (h : VisitsLocally id visit) {id' : String} (hne : id' ≠ id) (c : Context) :
    Context.Alike id' (visit c).context c := by
  obtain ⟨fs, hfs, hown⟩ := h.own c
  rw [hfs]
  refine ⟨rfl, rfl, Context.own_report_other fun f hf hid => hne ?_⟩
  rw [← hid, hown f hf]

theorem mem_findings (h : VisitsLocally id visit) {c : Context} {f : Finding}
    (hf : f ∈ (visit c).context.findings) : f ∈ c.findings ∨ f.detectorId = id := by
  obtain ⟨fs, hfs, hown⟩ := h.own c
  rw [hfs] at hf
  exact (List.mem_append.1 hf).imp (fun h => h) (hown f)

/-- A visit fails in a context if it does in one that is alike. -/
theorem fails_of_alike (h : VisitsLocally id visit) {c c' : Context} {e : Failure}
    (ha : Context.Alike id c c') (he : (visit c').failure = some e) :
    ∃ e', (visit c).failure = some e' := by
  rw [← Option.isSome_iff_exists, h.fails c c' ha, he]
  rfl

theorem not_fails_of_alike (h : VisitsLocally id visit) {c c' : Context}
    (ha : Context.Alike id c c') (he : (visit c').failure = none) : (visit c).failure = none := by
  rw [← Option.not_isSome_iff_eq_none, h.fails c c' ha, he]
  exact Bool.false_ne_true

/-- Visits are local if what they add can be told from the file and the detector's own findings. -/
theorem of_added (added : Context → List Finding)
    (hcontext : ∀ c, (visit c).context = c.report (added c))
    (hown : ∀ c, ∀ f ∈ added c, f.detectorId = id)
    (hadded : ∀ c c', Context.Alike id c c' → added c = added c')
    (hfails : ∀ c c', Context.Alike id c c' → (visit c).failure.isSome = (visit c').failure.isSome) :
    VisitsLocally id visit where
  own := fun c => ⟨added c, hcontext c, hown c⟩
  adds := by
    intro c c' fs ha hfs
    have hfindings : c.findings ++ added c = c.findings ++ fs :=
      congrArg Context.findings ((hcontext c).symm.trans hfs)
    rw [hcontext c', ← hadded c c' ha, List.append_cancel_left hfindings]
  fails := hfails

/-- Visits that leave the context as it is and do not fail are local. -/
theorem of_idle (h : ∀ c, (visit c).context = c ∧ (visit c).failure = none) :
    VisitsLocally id visit := by
  refine of_added (fun _ => []) (fun c => ?_) (fun _ _ h => absurd h List.not_mem_nil)
    (fun _ _ _ => rfl) (fun c c' _ => ?_)
  · rw [(h c).1, Context.report_nil]
  · rw [(h c).2, (h c').2]

end VisitsLocally

namespace Detector

/-- A detector all of whose visits are local. -/
structure IsLocal (d : Detector) : Prop where
  node : ∀ n, VisitsLocally d.id (d.visitNode n)
  file : ∀ file, VisitsLocally d.id (d.visitFile file)

theorem IsLocal.appendsOnly {d : Detector} (h : d.IsLocal) : d.AppendsOnly :=
  ⟨fun n c => (h.node n).appends c, fun file c => (h.file file).appends c⟩

/-! ## Failures of local visits -/

/-- The detector fails with `e` and with `e'` in one and the same visit, to the file or to a node of
it, made in two contexts that it cannot tell apart. -/
inductive FailsAlike (d : Detector) (file : SourceFile) (e e' : Failure) : Prop
  | onFile (c c' : Context) (alike : Context.Alike d.id c c')
      (fails : (d.visitFile file c).failure = some e)
      (fails' : (d.visitFile file c').failure = some e')
  | onNode (n : Node) (mem : n ∈ file.root.nodes) (c c' : Context)
      (alike : Context.Alike d.id c c') (fails : (d.visitNode n c).failure = some e)
      (fails' : (d.visitNode n c').failure = some e')

/-- A detector that also words its failures by what it is shown, the file and its own findings. -/
structure FailsLocally (d : Detector) : Prop where
  node : ∀ n c c', Context.Alike d.id c c' → (d.visitNode n c).failure = (d.visitNode n c').failure
  file : ∀ file c c', Context.Alike d.id c c' →
    (d.visitFile file c).failure = (d.visitFile file c').failure

/-- Such a detector fails in the same words. -/
theorem FailsAlike.eq {d : Detector} {file : SourceFile} {e e' : Failure}
    (h : d.FailsAlike file e e') (hd : d.FailsLocally) : e = e' := by
  cases h with
  | onFile c c' alike fails fails' =>
    rw [hd.file file c c' alike, fails'] at fails
    exact (Option.some.inj fails).symm
  | onNode n mem c c' alike fails fails' =>
    rw [hd.node n c c' alike, fails'] at fails
    exact (Option.some.inj fails).symm

end Detector

/-! ## Two local detectors -/

theorem Context.any_detectorId (c : Context) (id : String) :
    c.findings.any (·.detectorId = id) = !(c.own id).isEmpty := by
  unfold Context.own
  rw [Bool.eq_iff_iff]
  simp [List.filter_eq_nil_iff]

/-- The detector that gives up because of its own report looks at nothing else. -/
theorem quitter_isLocal (key : String) (k : Kind) : (quitter key k).IsLocal where
  node := by
    intro n
    have hvisit : ∀ c, (quitter key k).visitNode n c =
        if (c.own key).isEmpty then { context := c.report [(bareRule key).finding c "seen" n.range] }
        else { context := c, failure := some { message := "seen before" } } := by
      intro c
      simp only [quitter, Context.any_detectorId]
      cases (c.own key).isEmpty <;> rfl
    refine .of_added
      (fun c => if (c.own key).isEmpty then [(bareRule key).finding c "seen" n.range] else [])
      ?_ ?_ ?_ ?_
    · intro c
      rw [hvisit]
      cases (c.own key).isEmpty with
      | false => exact c.report_nil.symm
      | true => rfl
    · intro c f hf
      cases hown : (c.own key).isEmpty with
      | false => simp [hown] at hf
      | true =>
        obtain rfl : f = (bareRule key).finding c "seen" n.range := by simpa [hown] using hf
        rfl
    · intro c c' h
      have hown : c.own key = c'.own key := h.own
      simp only [hown, Metadata.finding, Context.locate, h.path]
    · intro c c' h
      have hown : c.own key = c'.own key := h.own
      rw [hvisit, hvisit, hown]
      cases (c'.own key).isEmpty <;> rfl
  file := fun _ => .of_idle fun _ => ⟨rfl, rfl⟩

/-- The rule that ships with the library looks at the path of the file and at nothing else around. -/
theorem NationalInput.detectorWith_isLocal (m : Metadata) : (detectorWith m).IsLocal where
  node := by
    intro n
    show VisitsLocally m.key (visit m n)
    cases hkind : n.isKind .parameterDeclaration with
    | false => exact .of_idle fun c => by simp [visit, hkind]
    | true =>
      cases hfound : violation? n with
      | none => exact .of_idle fun c => by simp [visit, hkind, hfound]
      | some o =>
        refine .of_added (fun c =>
          [{ m.finding c message o.node.range with fixSuggestion := some suggestion }]) ?_ ?_ ?_ ?_
        · intro c
          simp [visit, hkind, hfound]
        · intro c f hf
          obtain rfl := List.mem_singleton.1 hf
          rfl
        · intro c c' h
          simp only [Metadata.finding, Context.locate, h.path]
        · intro c c' _
          simp [visit, hkind, hfound]
  file := fun _ => .of_idle fun _ => ⟨rfl, rfl⟩

/-- A history that leaves the detector which gives up enabled beside the rule of the library. -/
def quitterBesideRule : List Registry.Operation :=
  [.register (quitter "a" .datatype), .enable "a", .register NationalInput.detector]

theorem quitterBesideRule_isLocal {r : Registry}
    (h : r.detectors = (Registry.after quitterBesideRule).detectors) {id : String} {d : Detector}
    (hd : r.get? id = some d) : d.IsLocal := by
  have hdetectors : r.detectors = [("a", quitter "a" .datatype),
      (NationalInput.detector.id, NationalInput.detector)] := h
  have hmem : (id, d) ∈ r.detectors := Registry.mem_of_get? hd
  rw [hdetectors] at hmem
  rcases List.mem_cons.1 hmem with h | hmem
  · obtain rfl : d = _ := congrArg Prod.snd h
    exact quitter_isLocal _ _
  · obtain rfl : d = _ := congrArg Prod.snd (List.mem_singleton.1 hmem)
    exact NationalInput.detectorWith_isLocal _

/-- A procedure with `n` input parameters of national character type. -/
def nationalInputs (n : Nat) : SourceFile where
  path := "p.prc"
  root := ⟨.procedureDeclaration, none, List.replicate n ⟨.parameterDeclaration, none,
    [⟨.datatype, none, [.leaf .identifier "NVARCHAR2" default], default⟩], default⟩, default⟩

end PlsqlAudit
