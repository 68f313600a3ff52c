import PlsqlAudit.Proofs.Registry.Locality
import PlsqlAudit.Registry.Batch

/-!
# Fail-fast ends a run where its first error is

A lenient run and a run with fail-fast are kept side by side. As long as nothing fails they are in
the same state. From the first failure on, the run with fail-fast is stopped by it, and the lenient
run carries it as its first error, whatever else it meets. Errors of the walk name the path that the
context has at its end, so for the two to name the same place the detectors may only add findings.

* `Dispatch.foldl_offer_strict` — the two walks.
* `Progress.Agree` — the two runs outside the walk; one detector or one failure more keeps it.
* `Batch.Agree` — the two merges of reports.
* `failFast_agrees_with_lenient` — what follows for the analysis of one file and of many.
-/

namespace PlsqlAudit

/-! ## Two walks -/

namespace Dispatch

theorem failures_prefix_offer (failFast : Bool) (s : Dispatch) (x : Call) :
    s.failures <+: (offer failFast s x).failures := by
  unfold offer
  split
  · exact List.prefix_rfl
  · rw [call_failures]
    exact List.prefix_append _ _

theorem failures_prefix_foldl_offer (failFast : Bool) (xs : List Call) (s : Dispatch) :
    s.failures <+: (xs.foldl (offer failFast) s).failures := by
  induction xs generalizing s with
  | nil => exact List.prefix_rfl
  | cons x xs ih => exact (failures_prefix_offer failFast s x).trans (ih _)

/-- As long as nothing has failed, fail-fast makes no difference to an offer, and at most one
failure comes of it. -/
theorem offer_of_no_failures {s : Dispatch} (h : s.failures = []) (x : Call) :
    offer true s x = offer false s x ∧ (offer false s x).failures.length ≤ 1 := by
  unfold offer
  constructor
  · simp [h]
  · split
    · simp [h]
    · rw [call_failures, h, List.nil_append]
      exact Option.length_toList_le

/-- The walk with fail-fast fails as the lenient walk fails first, and does the same as long as that
does not fail. -/
theorem foldl_offer_strict (xs : List Call) {s : Dispatch} (h : s.failures = []) :
    (xs.foldl (offer true) s).failures = (xs.foldl (offer false) s).failures.take 1 ∧
      ((xs.foldl (offer false) s).failures = [] →
        xs.foldl (offer true) s = xs.foldl (offer false) s) := by
  induction xs generalizing s with
  | nil => simp [h]
  | cons x xs ih =>
    obtain ⟨hsame, hlen⟩ := offer_of_no_failures h x
    rw [List.foldl_cons, List.foldl_cons, hsame]
    cases hf : (offer false s x).failures with
    | nil => exact ih hf
    | cons f fs =>
      obtain rfl : fs = [] := by
        rw [hf] at hlen
        simpa using hlen
      -- From here on the walk with fail-fast stands still, and the lenient one keeps `f` in front.
      have hne : (offer false s x).failures ≠ [] := by simp [hf]
      obtain ⟨rest, hrest⟩ := failures_prefix_foldl_offer false xs (offer false s x)
      rw [foldl_offer_of_failures hne, ← hrest, hf]
      exact ⟨rfl, fun h => by simp at h⟩

end Dispatch

/-! ## Two runs -/

/-- A lenient run `p` of the detectors `ds` on the file and the same run `q` with fail-fast: nothing has
failed and they are the same, or `q` was stopped by what `p` has as its first error. As long as the
detectors only add findings, both are about the file at its path. -/
inductive Progress.Agree (ds : List Detector) (file : SourceFile) (p q : Progress) : Prop
  | same (running : p.stopped = none) (clean : p.errors = []) (eq : q = p)
      (at_file : (∀ d ∈ ds, d.AppendsOnly) → p.context.path = file.path)
  | stopped (running : p.stopped = none) (d : Detector) (mem : d ∈ ds) (e : Failure)
      (path : String) (first : p.errors.head? = some (failureText path d.id e))
      (ended : q.stopped = some (e.inContext (failurePlace path d.id)))
      (at_file : (∀ d ∈ ds, d.AppendsOnly) → path = file.path)

theorem head?_eq_of_prefixed {α : Type} {xs ys : List α} {a : α} (h : xs <+: ys)
    (ha : xs.head? = some a) : ys.head? = some a := by
  obtain ⟨zs, rfl⟩ := h
  rw [List.head?_append, ha]
  rfl

namespace Progress.Agree

variable {ds : List Detector} {file : SourceFile} {p q : Progress}

/-- The first failure takes the two runs apart. -/
theorem of_fail (p : Progress) (running : p.stopped = none) (clean : p.errors = [])
    (at_file : (∀ d ∈ ds, d.AppendsOnly) → p.context.path = file.path) {d : Detector} (mem : d ∈ ds)
    (e : Failure) : Agree ds file (p.fail false d.id e) (p.fail true d.id e) := by
  refine .stopped running d mem e p.context.path ?_ (fail_strict_stopped p d.id e) at_file
  rw [fail_lenient, clean]
  rfl

/-- Showing the file to one more detector keeps the two runs in agreement. -/
theorem openFile (h : Agree ds file p q) {d : Detector} (hd : d ∈ ds) :
    Agree ds file (p.openFile false file d) (q.openFile true file d) := by
  cases h with
  | same running clean eq at_file =>
    subst eq
    have hpath : (∀ d ∈ ds, d.AppendsOnly) →
        (d.visitFile file q.context).context.path = file.path :=
      fun hds => ((hds d hd).file file q.context).path.trans (at_file hds)
    cases hv : (d.visitFile file q.context).failure with
    | none =>
      rw [openFile_of_ok running hv, openFile_of_ok running hv]
      exact .same running clean rfl hpath
    | some e =>
      rw [openFile_of_failure running hv, openFile_of_failure running hv]
      refine of_fail _ ?_ ?_ ?_ hd e
      · exact running
      · exact clean
      · exact hpath
  | stopped running d' mem e path first ended at_file =>
    obtain ⟨h1, h2⟩ := openFile_lenient file d running
    rw [openFile_of_stopped ended]
    exact .stopped h1 d' mem e path (head?_eq_of_prefixed h2 first) ended at_file

theorem foldl_openFile (h : Agree ds file p q) (ds' : List Detector) (hds : ∀ d ∈ ds', d ∈ ds) :
    Agree ds file (ds'.foldl (Progress.openFile false file) p)
      (ds'.foldl (Progress.openFile true file) q) := by
  induction ds' generalizing p q with
  | nil => exact h
  | cons d ds' ih =>
    exact ih (h.openFile (hds d List.mem_cons_self)) fun x hx => hds x (List.mem_cons_of_mem _ hx)

end Progress.Agree

namespace Registry

/-- The registry with fail-fast on or off, and all else as it is. -/
def withFailFast (r : Registry) (failFast : Bool) : Registry :=
  r.withSettings { r.settings with failFast }

theorem withFailFast_failFast (r : Registry) (failFast : Bool) :
    (r.withFailFast failFast).settings.failFast = failFast := rfl

variable (ds : List Detector) (file : SourceFile)

theorem opened_agree :
    Progress.Agree ds file (opened false ds file) (opened true ds file) := by
  have hstart : Progress.Agree ds file { context := file.context } { context := file.context } :=
    .same rfl rfl rfl fun _ => rfl
  exact hstart.foldl_openFile ds fun _ h => h

/-- The two walks of runs that have not failed so far. -/
theorem walked_strict (h : opened true ds file = opened false ds file) :
    (walked true ds file).failures = (walked false ds file).failures.take 1 ∧
      ((walked false ds file).failures = [] → walked true ds file = walked false ds file) := by
  unfold walked
  rw [h, dispatch_eq_foldl_offer, dispatch_eq_foldl_offer]
  obtain ⟨h1, h2⟩ := Dispatch.foldl_offer_strict
    (schedule (opened false ds file).active file.root)
    (s := { context := (opened false ds file).context }) rfl
  refine ⟨h1, fun hnil => ?_⟩
  rw [h2 hnil]

/-- What a lenient run on the file gave and what the same run with fail-fast gave: the same report
without errors, or a failure that the lenient report has as its first error. The lenient run may name
another path in it if detectors have changed the path since; if they only add findings, both name the
path of the file. -/
inductive OutcomesAgree (ds : List Detector) (file : SourceFile) (lenient : Report)
    (strict : Except Failure Report) : Prop
  | same (clean : lenient.errors = []) (eq : strict = .ok lenient)
  | stopped (d : Detector) (mem : d ∈ ds) (e : Failure) (path path' : String)
      (first : lenient.errors.head? = some (failureText path d.id e))
      (ended : strict = .error (e.inContext (failurePlace path' d.id)))
      (at_file : (∀ d ∈ ds, d.AppendsOnly) → path = file.path ∧ path' = file.path)

/-- **A run with fail-fast is the lenient run, or is stopped by what that has as its first error.** -/
theorem runAll_agree (r : Registry) :
    OutcomesAgree ds file (r.summarize ds file.root.count (closed false ds file))
      ((r.withFailFast true).runAll ds file).value := by
  obtain ⟨-, -, herrors⟩ := closed_lenient ds file
  rw [runAll_value, withFailFast_failFast]
  cases opened_agree ds file with
  | same running clean eq at_file =>
    obtain ⟨hfailures, hsame⟩ := walked_strict ds file eq
    rw [clean, List.nil_append] at herrors
    have hopened : (opened true ds file).stopped = none := by rw [eq, running]
    rw [hopened]
    cases hf : (walked false ds file).failures with
    | nil =>
      have hclosed : closed true ds file = closed false ds file := by
        unfold closed
        rw [hsame hf, eq, hf]
        rfl
      refine .same ?_ ?_
      · rw [summarize_errors, herrors, hf]
        rfl
      · rw [hclosed, (closed_lenient ds file).1]
        rfl
    | cons f fs =>
      have hmem : f ∈ (walked false ds file).failures := by rw [hf]; exact List.mem_cons_self
      obtain ⟨d, hd, hid⟩ := mem_failures_dispatch hmem
      have hclosed : (closed true ds file).stopped =
          some (f.2.inContext (failurePlace (walked true ds file).context.path d.id)) := by
        unfold closed
        rw [hfailures, hf, eq]
        show (Progress.replay true _ f).stopped = _
        unfold Progress.replay
        rw [running, ← hid]
        rfl
      refine .stopped d (mem_active_opened ds file false d hd) f.2
        (walked false ds file).context.path (walked true ds file).context.path ?_ ?_
        fun hds => ⟨walked_path ds file false hds, walked_path ds file true hds⟩
      · rw [summarize_errors, herrors, hf, ← hid]
        rfl
      · rw [hclosed]
  | stopped running d mem e path first ended at_file =>
    refine .stopped d mem e path path ?_ ?_ fun hds => ⟨at_file hds, at_file hds⟩
    · rw [summarize_errors, herrors]
      exact head?_eq_of_prefixed (List.prefix_append _ _) first
    · rw [ended]

/-- A lenient run of the selected detectors, and what comes of it with fail-fast. -/
theorem run_agree (r : Registry) :
    ∃ report, ((r.withFailFast false).run file).value = .ok report ∧
      OutcomesAgree (r.selected file) file report ((r.withFailFast true).run file).value :=
  ⟨_, runAll_lenient (r.withFailFast false) (r.selected file) file rfl,
    runAll_agree (r.selected file) file r⟩

end Registry

/-! ## Two merges -/

namespace Batch

variable {failFast : Bool} {b : Batch}

theorem take_of_stopped {e : Failure} (h : b.stopped = some e) (outcome : Except Failure Report) :
    b.take failFast outcome = b := by
  unfold take
  rw [h]
  rfl

theorem take_ok (h : b.stopped = none) (report : Report) :
    b.take failFast (.ok report) = { b with report := b.report.merge report } := by
  unfold take
  rw [h]
  rfl

theorem take_error_strict (h : b.stopped = none) (e : Failure) :
    b.take true (.error e) = { b with stopped := some e } := by
  unfold take
  rw [h]
  rfl

theorem take_error_lenient (h : b.stopped = none) (e : Failure) :
    b.take false (.error e) =
      { b with
        report := b.report.addError s!"Analysis failed: {e.message}"
        log := b.log ++ [⟨.warn, s!"File analysis failed: {e.message}"⟩] } := by
  unfold take
  rw [h]
  rfl

end Batch

/-- What one input gave without and with fail-fast: the same report without errors, or errors on the
one side and a failure on the other. -/
def Concur (lenient strict : Except Failure Report) : Prop :=
  (∃ report, report.errors = [] ∧ lenient = .ok report ∧ strict = .ok report) ∨
    (∀ report, lenient = .ok report → report.errors ≠ []) ∧ ∃ e, strict = .error e

/-- A merge `b` of reports without fail-fast and the same merge `t` with it: nothing has failed and
they have the same report, or `t` was stopped and `b` has errors. -/
def Batch.Agree (b t : Batch) : Prop :=
  b.stopped = none ∧
    (b.report.errors = [] ∧ t.stopped = none ∧ t.report = b.report ∨
      b.report.errors ≠ [] ∧ ∃ e, t.stopped = some e)

namespace Batch.Agree

variable {b t : Batch}

/-- Without fail-fast a merge goes on, and errors only ever come on top. -/
theorem take_lenient (hb : b.stopped = none) (lenient : Except Failure Report) :
    (b.take false lenient).stopped = none ∧
      b.report.errors <+: (b.take false lenient).report.errors := by
  cases lenient with
  | ok report =>
    rw [take_ok hb]
    exact ⟨hb, List.prefix_append _ _⟩
  | error e =>
    rw [take_error_lenient hb]
    exact ⟨hb, List.prefix_append _ _⟩

/-- Taking what one more input gave keeps the two merges in agreement. -/
theorem take (h : Agree b t) {lenient strict : Except Failure Report}
    (hc : Concur lenient strict) : Agree (b.take false lenient) (t.take true strict) := by
  obtain ⟨hb, h⟩ := h
  obtain ⟨hrunning, hprefix⟩ := take_lenient hb lenient
  refine ⟨hrunning, ?_⟩
  rcases h with ⟨hclean, ht, heq⟩ | ⟨herrors, e, ht⟩
  · rcases hc with ⟨report, hnone, rfl, rfl⟩ | ⟨hsome, e, rfl⟩
    · left
      rw [take_ok hb, take_ok ht, heq]
      refine ⟨?_, ht, rfl⟩
      show b.report.errors ++ report.errors = []
      rw [hclean, hnone, List.append_nil]
    · right
      rw [take_error_strict ht]
      refine ⟨?_, e, rfl⟩
      cases lenient with
      | ok report =>
        rw [take_ok hb]
        exact List.append_ne_nil_of_right_ne_nil _ (hsome report rfl)
      | error e' =>
        rw [take_error_lenient hb]
        exact List.append_ne_nil_of_right_ne_nil _ (List.cons_ne_nil _ _)
  · right
    rw [take_of_stopped ht]
    exact ⟨fun hnil => herrors (List.prefix_nil.1 (hnil ▸ hprefix)), e, ht⟩

theorem foldl_take (h : Agree b t) {ι : Type} (lenient strict : ι → Except Failure Report)
    (hc : ∀ i, Concur (lenient i) (strict i)) (inputs : List ι) :
    Agree ((inputs.map lenient).foldl (Batch.take false) b)
      ((inputs.map strict).foldl (Batch.take true) t) := by
  induction inputs generalizing b t with
  | nil => exact h
  | cons i inputs ih => exact ih (h.take (hc i))

end Batch.Agree

namespace Registry

theorem runInput_concur (r : Registry) {ι : Type} (load : ι → Except Failure SourceFile) (i : ι) :
    Concur ((r.withFailFast false).runInput load i).value
      ((r.withFailFast true).runInput load i).value := by
  unfold runInput
  cases load i with
  | error e => exact .inr ⟨fun report h => (by cases h), e, rfl⟩
  | ok file =>
    obtain ⟨report, hlenient, h⟩ := run_agree file r
    cases h with
    | same clean eq => exact .inl ⟨report, clean, hlenient, eq⟩
    | stopped d mem e path path' first ended at_file =>
      refine .inr ⟨fun report' hreport => ?_, _, ended⟩
      obtain rfl : report = report' := Except.ok.inj (hlenient.symm.trans hreport)
      exact List.ne_nil_of_mem (List.mem_of_mem_head? first)

/-- The lenient analysis of many files, and what comes of it with fail-fast. -/
theorem analyze_agree (r : Registry) {ι : Type} (load : ι → Except Failure SourceFile)
    (inputs : List ι) :
    ∃ report, ((r.withFailFast false).analyze load inputs).value = .ok report ∧
      (report.errors = [] ∧ ((r.withFailFast true).analyze load inputs).value = .ok report ∨
        report.errors ≠ [] ∧
          ∃ e, ((r.withFailFast true).analyze load inputs).value = .error e) := by
  have hstart : Batch.Agree {} {} := ⟨rfl, .inl ⟨rfl, rfl, rfl⟩⟩
  obtain ⟨hb, h⟩ := hstart.foldl_take _ _ (r.runInput_concur load) inputs
  have hvalue : ∀ failFast, ((r.withFailFast failFast).analyze load inputs).value =
      ((inputs.map fun i => ((r.withFailFast failFast).runInput load i).value).foldl
        (Batch.take failFast) {}).result := by
    intro failFast
    unfold analyze
    simp only [List.map_map, withFailFast_failFast]
    rfl
  rw [hvalue, hvalue]
  unfold Batch.result
  rw [hb]
  refine ⟨_, rfl, ?_⟩
  rcases h with ⟨hclean, ht, heq⟩ | ⟨herrors, e, ht⟩
  · left
    rw [ht, heq]
    exact ⟨hclean, rfl⟩
  · right
    rw [ht]
    exact ⟨herrors, e, rfl⟩

end Registry

/-- **Fail-fast and going on after errors agree.** With fail-fast the analysis of a file gives a report
if and only if the lenient report has no errors, and it is the same one. Otherwise it fails; if the
enabled detectors change the context only by adding findings, however much of it they look at, it fails
in the context of a detector and the file, with the cause that the first error of the lenient report
names. The analysis of many files likewise succeeds if and only if the lenient one meets no error. -/
theorem failFast_agrees_with_lenient (r : Registry) :
    (∀ file, ∃ report, ((r.withFailFast false).run file).value = .ok report ∧
      ((∃ report', ((r.withFailFast true).run file).value = .ok report') ↔ report.errors = []) ∧
      (report.errors = [] → ((r.withFailFast true).run file).value = .ok report) ∧
      ((∀ id ∈ r.enabled, ∀ d, r.get? id = some d → d.AppendsOnly) →
        ∀ e, ((r.withFailFast true).run file).value = .error e →
          ∃ d ∈ r.selected file, e.message = s!"Detector {d.id} failed on {file.path}" ∧
            ∃ m, e.causes.head? = some m ∧ report.errors[0]? = some (e.message ++ ": " ++ m))) ∧
    ∀ (ι : Type) (load : ι → Except Failure SourceFile) (inputs : List ι),
      ∃ report, ((r.withFailFast false).analyze load inputs).value = .ok report ∧
        ((∃ report', ((r.withFailFast true).analyze load inputs).value = .ok report') ↔
          report.errors = []) ∧
        (report.errors = [] → ((r.withFailFast true).analyze load inputs).value = .ok report) := by
  constructor
  · intro file
    obtain ⟨report, hlenient, h⟩ := r.run_agree file
    refine ⟨report, hlenient, ?_⟩
    cases h with
    | same clean eq =>
      rw [eq]
      exact ⟨⟨fun _ => clean, fun _ => ⟨report, rfl⟩⟩, fun _ => rfl, fun _ e he => by cases he⟩
    | stopped d mem e path path' first ended at_file =>
      have herrors : report.errors ≠ [] := List.ne_nil_of_mem (List.mem_of_mem_head? first)
      rw [ended]
      refine ⟨⟨fun ⟨report', h⟩ => (by cases h), fun h => absurd h herrors⟩,
        fun h => absurd h herrors, ?_⟩
      intro hadds e' he'
      have hselected : ∀ x ∈ r.selected file, x.AppendsOnly := by
        intro x hx
        obtain ⟨id, hid, hget⟩ := List.mem_filterMap.1 (List.mem_filter.1 hx).1
        exact hadds id hid x hget
      obtain ⟨rfl, rfl⟩ := at_file hselected
      obtain rfl := Except.error.inj he'
      refine ⟨d, mem, rfl, e.message, rfl, ?_⟩
      rw [← List.head?_eq_getElem?, first, failureText_eq]
      rfl
  · intro ι load inputs
    obtain ⟨report, hlenient, h⟩ := r.analyze_agree load inputs
    refine ⟨report, hlenient, ?_⟩
    rcases h with ⟨hclean, hstrict⟩ | ⟨herrors, e, hstrict⟩
    · rw [hstrict]
      exact ⟨⟨fun _ => hclean, fun _ => ⟨report, rfl⟩⟩, fun _ => rfl⟩
    · rw [hstrict]
      exact ⟨⟨fun ⟨report', h⟩ => (by cases h), fun h => absurd h herrors⟩,
        fun h => absurd h herrors⟩

/-- A detector that gives up on the second datatype ends the strict run on a file that has two, with the
words of the one error that the lenient run has. A file with one datatype gives the same report either
way, and both files together again end with fail-fast. -/
theorem quitter_ends_strict_runs :
    let r := Registry.after quitterBesideRule
    let load (n : Nat) : Except Failure SourceFile := .ok (nationalInputs n)
    (∀ id ∈ r.enabled, ∀ d, r.get? id = some d → d.AppendsOnly) ∧
    (∃ report, ((r.withFailFast false).run (nationalInputs 1)).value = .ok report ∧
      ((r.withFailFast true).run (nationalInputs 1)).value = .ok report ∧
      report.findings.map (·.detectorId) = ["in-nvarchar2-usage", "a"]) ∧
    (∃ report e, ((r.withFailFast false).run (nationalInputs 2)).value = .ok report ∧
      ((r.withFailFast true).run (nationalInputs 2)).value = .error e ∧
      e.message = "Detector a failed on p.prc" ∧
      report.errors[0]? = some (e.message ++ ": " ++ "seen before")) ∧
    ∃ report, ((r.withFailFast false).analyze load [1, 2]).value = .ok report ∧
      report.errors = ["Detector a failed on p.prc: seen before"] ∧
      ¬ ∃ report', ((r.withFailFast true).analyze load [1, 2]).value = .ok report' := by
  intro r load
  have hadds : ∀ id ∈ r.enabled, ∀ d, r.get? id = some d → d.AppendsOnly :=
    fun _ _ _ hd => (quitterBesideRule_isLocal rfl hd).appendsOnly
  obtain ⟨hrun, hanalyze⟩ := failFast_agrees_with_lenient r
  refine ⟨hadds, ?_, ?_, ?_⟩
  · obtain ⟨report, hlenient, -, hsame, -⟩ := hrun (nationalInputs 1)
    have hvalue : ((r.withFailFast false).run (nationalInputs 1)).value.map (fun report =>
        (report.errors, report.findings.map (·.detectorId))) =
        .ok ([], ["in-nvarchar2-usage", "a"]) := by decide +kernel
    rw [hlenient] at hvalue
    obtain ⟨hclean, hfindings⟩ := Prod.mk.inj (Except.ok.inj hvalue)
    exact ⟨report, hlenient, hsame hclean, hfindings⟩
  · obtain ⟨report, hlenient, -, -, hfails⟩ := hrun (nationalInputs 2)
    have hstrict : ((r.withFailFast true).run (nationalInputs 2)).value =
        .error ⟨"Detector a failed on p.prc", ["seen before"]⟩ := by decide +kernel
    obtain ⟨d, -, -, m, hm, herror⟩ := hfails hadds _ hstrict
    obtain rfl : "seen before" = m := Option.some.inj hm
    exact ⟨report, _, hlenient, hstrict, rfl, herror⟩
  · obtain ⟨report, hlenient, hiff, -⟩ := hanalyze Nat load [1, 2]
    have hvalue : ((r.withFailFast false).analyze load [1, 2]).value.map (·.errors) =
        .ok ["Detector a failed on p.prc: seen before"] := by decide +kernel
    rw [hlenient] at hvalue
    have herrors : report.errors = ["Detector a failed on p.prc: seen before"] :=
      Except.ok.inj hvalue
    refine ⟨report, hlenient, herrors, fun hstrict => ?_⟩
    rw [hiff.1 hstrict] at herrors
    cases herrors

end PlsqlAudit
