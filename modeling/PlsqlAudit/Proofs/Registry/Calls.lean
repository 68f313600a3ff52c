import Mathlib.Data.List.Induction
import Mathlib.Data.List.Nodup
import PlsqlAudit.Proofs.Registry.Schedule

/-!
# Which calls a walk makes

Every call leaves a context behind in which the next one is made, and may have changed anything in it.
So whether a call of the schedule fails, and whether later ones are made, depends on all calls before.

* `Context.after`, `failuresOf` — what a list of calls leaves behind when its calls are made one after
  the other, and which of them fail.
* `Pruned` — what is left of a schedule when calls that follow a failing one are left out.
* `Tracks` — what a walk knows after a part of the schedule; one offer keeps it.
* `dispatch_prunes_schedule` — a walk makes the calls of the schedule, less exactly those that follow
  a failure: of the same detector, or with fail-fast of any.
-/

namespace PlsqlAudit

/-! ## Making calls one after the other -/

/-- The context after the given calls, made one after the other. -/
def Context.after (c : Context) (calls : List Call) : Context :=
  calls.foldl (fun c x => (x.1.visitNode x.2 c).context) c

/-- How call `x` fails, if it does, when it is made behind the calls `before`. -/
def failureOf (c : Context) (before : List Call) (x : Call) : Option Failure :=
  (x.1.visitNode x.2 (c.after before)).failure

/-- The failing ones among the given calls, made one after the other: whose they are and how they
fail. -/
def failuresOf (c : Context) : List Call → List (String × Failure)
  | [] => []
  | x :: xs =>
    let v := x.1.visitNode x.2 c
    (v.failure.map (x.1.id, ·)).toList ++ failuresOf v.context xs

/-- Call `y` is among the given ones and fails where it stands. -/
def FailedIn (c : Context) (calls : List Call) (y : Call) : Prop :=
  ∃ before later, calls = before ++ y :: later ∧ (failureOf c before y).isSome

theorem Context.after_concat (c : Context) (xs : List Call) (x : Call) :
    c.after (xs ++ [x]) = (x.1.visitNode x.2 (c.after xs)).context := by
  simp [Context.after]

theorem failuresOf_concat (c : Context) (xs : List Call) (x : Call) :
    failuresOf c (xs ++ [x]) =
      failuresOf c xs ++ ((failureOf c xs x).map (x.1.id, ·)).toList := by
  induction xs generalizing c with
  | nil => simp [failuresOf, failureOf, Context.after]
  | cons y ys ih =>
    rw [List.cons_append, failuresOf, failuresOf, ih, List.append_assoc]
    rfl

theorem not_failedIn_nil (c : Context) (y : Call) : ¬ FailedIn c [] y := by
  rintro ⟨before, later, h, -⟩
  simp at h

/-- The last call is the only one that can fail anew. -/
theorem failedIn_concat {c : Context} {xs : List Call} {x y : Call} :
    FailedIn c (xs ++ [x]) y ↔ FailedIn c xs y ∨ y = x ∧ (failureOf c xs x).isSome := by
  constructor
  · rintro ⟨before, later, h, hy⟩
    rcases later.eq_nil_or_concat with rfl | ⟨later, z, rfl⟩
    · obtain ⟨rfl, hx⟩ := List.append_inj' h rfl
      obtain rfl : x = y := by simpa using hx
      exact .inr ⟨rfl, hy⟩
    · rw [List.concat_eq_append, ← List.cons_append, ← List.append_assoc] at h
      obtain ⟨rfl, -⟩ := List.append_inj' h rfl
      exact .inl ⟨before, later, rfl, hy⟩
  · rintro (⟨before, later, rfl, hy⟩ | ⟨rfl, hx⟩)
    · exact ⟨before, later ++ [x], by simp, hy⟩
    · exact ⟨xs, [], rfl, hx⟩

/-- The failures are those of the failing calls. -/
theorem exists_failure_iff {c : Context} {xs : List Call} {id : String} :
    id ∈ (failuresOf c xs).map (·.1) ↔ ∃ y, FailedIn c xs y ∧ y.1.id = id := by
  induction xs using List.reverseRecOn with
  | nil =>
    constructor
    · intro h
      cases h
    · rintro ⟨y, hy, -⟩
      exact absurd hy (not_failedIn_nil c y)
  | append_singleton xs x ih =>
    rw [failuresOf_concat, List.map_append, List.mem_append, ih]
    constructor
    · rintro (⟨y, hy, hid⟩ | h)
      · exact ⟨y, failedIn_concat.2 (.inl hy), hid⟩
      · cases hf : failureOf c xs x with
        | none => simp [hf] at h
        | some e =>
          have hid : id = x.1.id := by simpa [hf] using h
          exact ⟨x, failedIn_concat.2 (.inr ⟨rfl, by simp [hf]⟩), hid.symm⟩
    · rintro ⟨y, hy, hid⟩
      rcases failedIn_concat.1 hy with hy | ⟨rfl, hx⟩
      · exact .inl ⟨y, hy, hid⟩
      · obtain ⟨e, he⟩ := Option.isSome_iff_exists.1 hx
        exact .inr (by simp [he, hid])

/-! ## Pruned schedules -/

/-- `Pruned c stops planned made`: of the planned calls just those are made that no failing call
before them stops, where only calls that were made count. -/
inductive Pruned (c : Context) (stops : Call → Call → Prop) : List Call → List Call → Prop
  | nil : Pruned c stops [] []
  | keep {planned made : List Call} {x : Call} (h : Pruned c stops planned made)
      (free : ∀ y, FailedIn c made y → ¬ stops y x) :
      Pruned c stops (planned ++ [x]) (made ++ [x])
  | drop {planned made : List Call} {x y : Call} (h : Pruned c stops planned made)
      (failed : FailedIn c made y) (stopped : stops y x) :
      Pruned c stops (planned ++ [x]) made

namespace Pruned

variable {c : Context} {stops : Call → Call → Prop} {planned made : List Call}

theorem subset (h : Pruned c stops planned made) : ∀ x ∈ made, x ∈ planned := by
  induction h with
  | nil => intro x hx; exact hx
  | keep _ _ ih =>
    intro x hx
    rcases List.mem_append.1 hx with hx | hx
    · exact List.mem_append_left _ (ih x hx)
    · exact List.mem_append_right _ hx
  | drop _ _ _ ih => intro x hx; exact List.mem_append_left _ (ih x hx)

/-- The last planned call was either made or stopped. -/
theorem of_concat {x : Call} (h : Pruned c stops (planned ++ [x]) made) :
    ∃ before, Pruned c stops planned before ∧
      ((made = before ++ [x] ∧ ∀ y, FailedIn c before y → ¬ stops y x) ∨
        (made = before ∧ ∃ y, FailedIn c before y ∧ stops y x)) := by
  generalize hp : planned ++ [x] = p at h
  cases h with
  | nil => simp at hp
  | keep h free =>
    obtain ⟨rfl, hx⟩ := List.append_inj' hp rfl
    obtain rfl : x = _ := by simpa using hx
    exact ⟨_, h, .inl ⟨rfl, free⟩⟩
  | drop h failed stopped =>
    obtain ⟨rfl, hx⟩ := List.append_inj' hp rfl
    obtain rfl : x = _ := by simpa using hx
    exact ⟨_, h, .inr ⟨rfl, _, failed, stopped⟩⟩

/-- A schedule can be pruned in one way only. -/
theorem unique {made' : List Call} (h : Pruned c stops planned made)
    (h' : Pruned c stops planned made') : made = made' := by
  induction planned using List.reverseRecOn generalizing made made' with
  | nil =>
    have hnil : ∀ m, Pruned c stops [] m → m = [] := fun m hm =>
      List.eq_nil_iff_forall_not_mem.2 fun x hx => by cases hm.subset x hx
    rw [hnil made h, hnil made' h']
  | append_singleton planned x ih =>
    obtain ⟨before, hb, hx⟩ := h.of_concat
    obtain ⟨before', hb', hx'⟩ := h'.of_concat
    obtain rfl := ih hb hb'
    rcases hx with ⟨rfl, free⟩ | ⟨rfl, y, failed, stopped⟩
    · rcases hx' with ⟨rfl, -⟩ | ⟨rfl, y, failed, stopped⟩
      · rfl
      · exact absurd stopped (free y failed)
    · rcases hx' with ⟨rfl, free⟩ | ⟨rfl, -⟩
      · exact absurd stopped (free y failed)
      · rfl

/-- What stops a call matters for the planned calls only. -/
theorem congr {stops' : Call → Call → Prop} (h : Pruned c stops planned made)
    (heq : ∀ x ∈ planned, ∀ y ∈ planned, (stops y x ↔ stops' y x)) :
    Pruned c stops' planned made := by
  induction h with
  | nil => exact .nil
  | @keep planned made x h free ih =>
    refine .keep (ih fun a ha b hb => heq a (List.mem_append_left _ ha) b (List.mem_append_left _ hb))
      fun y hy hstop => free y hy ?_
    obtain ⟨before, later, rfl, -⟩ := id hy
    exact (heq x (by simp) y (List.mem_append_left _ (h.subset y (by simp)))).2 hstop
  | @drop planned made x y h failed stopped ih =>
    refine .drop (ih fun a ha b hb => heq a (List.mem_append_left _ ha) b (List.mem_append_left _ hb))
      failed ?_
    obtain ⟨before, later, rfl, -⟩ := id failed
    exact (heq x (by simp) y (List.mem_append_left _ (h.subset y (by simp)))).1 stopped

end Pruned

/-! ## The walk -/

/-- The set of failed detectors is that of the failures, and no detector has failed twice. -/
structure Dispatch.Consistent (s : Dispatch) : Prop where
  failed : ∀ id, id ∈ s.failed ↔ id ∈ s.failures.map (·.1)
  once : (s.failures.map (·.1)).Nodup

theorem Dispatch.Consistent.start (c : Context) : Consistent { context := c } :=
  ⟨fun _ => Iff.rfl, List.nodup_nil⟩

theorem Dispatch.Consistent.offer {failFast : Bool} {s : Dispatch} (h : s.Consistent) (x : Call) :
    (offer failFast s x).Consistent := by
  unfold Dispatch.offer
  split
  · exact h
  · rename_i hin
    have hnew : x.1.id ∉ s.failures.map (·.1) := by
      rw [← h.failed]
      intro hmem
      exact hin (by simp [hmem])
    constructor
    · intro id
      rw [call_failed, call_failures, List.mem_append, h.failed, List.map_append, List.mem_append,
        or_comm]
      cases (x.1.visitNode x.2 s.context).failure <;> simp
    · rw [call_failures, List.map_append]
      cases (x.1.visitNode x.2 s.context).failure with
      | none => simpa using h.once
      | some e =>
        refine List.nodup_append.2 ⟨h.once, by simp, ?_⟩
        rintro a ha b hb rfl
        obtain rfl : a = x.1.id := by simpa using hb
        exact hnew ha

/-- What stops call `x`: a failing call `y` of the same detector, or with fail-fast of any. -/
def Stops (failFast : Bool) (y x : Call) : Prop := failFast = true ∨ y.1.id = x.1.id

/-- What a walk that began in context `c` knows after a part of the schedule. -/
structure Tracks (failFast : Bool) (c : Context) (planned : List Call) (s : Dispatch) : Prop where
  consistent : s.Consistent
  context : s.context = c.after s.made
  failures : s.failures = failuresOf c s.made
  pruned : Pruned c (Stops failFast) planned s.made

namespace Tracks

variable {failFast : Bool} {c : Context} {planned : List Call} {s : Dispatch}

theorem start (failFast : Bool) (c : Context) : Tracks failFast c [] { context := c } where
  consistent := .start c
  context := rfl
  failures := rfl
  pruned := .nil

/-- The walk leaves a call out exactly if a failing call stops it. -/
theorem left_out_iff (h : Tracks failFast c planned s) (x : Call) :
    ((failFast && !s.failures.isEmpty) || s.failed.contains x.1.id) = true ↔
      ∃ y, FailedIn c s.made y ∧ Stops failFast y x := by
  have hany : (!s.failures.isEmpty) = true ↔ ∃ y, FailedIn c s.made y := by
    rw [h.failures]
    constructor
    · intro hne
      obtain ⟨f, hf⟩ := List.exists_mem_of_ne_nil (failuresOf c s.made) (by simpa using hne)
      obtain ⟨y, hy, -⟩ := exists_failure_iff.1 (List.mem_map_of_mem hf)
      exact ⟨y, hy⟩
    · rintro ⟨y, hy⟩
      have hmem := exists_failure_iff.2 ⟨y, hy, rfl⟩
      have hne : failuresOf c s.made ≠ [] := by
        intro hnil
        rw [hnil] at hmem
        cases hmem
      simpa using hne
  have hid : s.failed.contains x.1.id = true ↔ ∃ y, FailedIn c s.made y ∧ y.1.id = x.1.id := by
    rw [List.contains_iff_mem, h.consistent.failed, h.failures, exists_failure_iff]
  rw [Bool.or_eq_true, Bool.and_eq_true, hid, hany]
  unfold Stops
  constructor
  · rintro (⟨hf, y, hy⟩ | ⟨y, hy, hyx⟩)
    · exact ⟨y, hy, .inl hf⟩
    · exact ⟨y, hy, .inr hyx⟩
  · rintro ⟨y, hy, hf | hyx⟩
    · exact .inl ⟨hf, y, hy⟩
    · exact .inr ⟨y, hy, hyx⟩

/-- One offer keeps track of one more call of the schedule. -/
theorem offer (h : Tracks failFast c planned s) (x : Call) :
    Tracks failFast c (planned ++ [x]) (Dispatch.offer failFast s x) := by
  have hleft := h.left_out_iff x
  have hconsistent : (Dispatch.offer failFast s x).Consistent := h.consistent.offer x
  unfold Dispatch.offer at *
  split
  · rename_i hout
    obtain ⟨y, hy, hyx⟩ := hleft.1 hout
    exact ⟨h.consistent, h.context, h.failures, .drop h.pruned hy hyx⟩
  · rename_i hin
    rw [if_neg hin] at hconsistent
    have hvisit : (x.1.visitNode x.2 s.context).failure = failureOf c s.made x := by
      rw [h.context]
      rfl
    refine ⟨hconsistent, ?_, ?_, ?_⟩
    · rw [Dispatch.call_context, Dispatch.call_made, Context.after_concat, ← h.context]
    · rw [Dispatch.call_failures, Dispatch.call_made, failuresOf_concat, hvisit, h.failures]
    · rw [Dispatch.call_made]
      exact .keep h.pruned fun y hy hyx => hin (hleft.2 ⟨y, hy, hyx⟩)

theorem foldl_offer (h : Tracks failFast c planned s) (xs : List Call) :
    Tracks failFast c (planned ++ xs) (xs.foldl (Dispatch.offer failFast) s) := by
  induction xs generalizing planned s with
  | nil => simpa using h
  | cons x xs ih => simpa using ih (h.offer x)

/-- A whole walk tracks the whole schedule. -/
theorem dispatch (failFast : Bool) (ds : List Detector) (c : Context) (root : Node) :
    Tracks failFast c (schedule ds root) (dispatch failFast ds c root) := by
  have h := (start failFast c).foldl_offer (schedule ds root)
  rw [dispatch_eq_foldl_offer]
  exact ⟨⟨h.consistent.failed, h.consistent.once⟩, h.context, h.failures, h.pruned⟩

end Tracks

/-- All failures of a walk are failures of the detectors it was given. -/
theorem mem_failures_dispatch {failFast : Bool} {ds : List Detector} {c : Context} {root : Node}
    {f : String × Failure} (h : f ∈ (dispatch failFast ds c root).failures) :
    ∃ d ∈ ds, f.1 = d.id := by
  have htracks := Tracks.dispatch failFast ds c root
  rw [htracks.failures] at h
  obtain ⟨y, ⟨before, later, hmade, -⟩, hid⟩ := exists_failure_iff.1 (List.mem_map_of_mem h)
  have hy : y ∈ schedule ds root := htracks.pruned.subset y (by simp [hmade])
  exact ⟨y.1, (mem_schedule hy).1, hid.symm⟩

/-- **One walk with a table of routes is the plain nested loop.** The calls made are those of the
schedule, from which exactly the calls behind a failing call of the same detector are removed or, with
fail-fast, the calls behind any failing call. The failures are those of the failing calls made, in
order, at most one for each detector, and all nodes count as visited. -/
theorem dispatch_prunes_schedule (ds : List Detector) (hd : (ds.map Detector.id).Nodup)
    (c : Context) (root : Node) :
    (∀ made, Pruned c (fun y x => y.1 = x.1) (schedule ds root) made ↔
      made = (dispatch false ds c root).made) ∧
    (∀ made, Pruned c (fun _ _ => True) (schedule ds root) made ↔
      made = (dispatch true ds c root).made) ∧
    ∀ failFast,
      (dispatch failFast ds c root).failures = failuresOf c (dispatch failFast ds c root).made ∧
      ((dispatch failFast ds c root).failures.map (·.1)).Nodup ∧
      (dispatch failFast ds c root).context = c.after (dispatch failFast ds c root).made ∧
      (dispatch failFast ds c root).visited = root.count := by
  have hsame : ∀ x ∈ schedule ds root, ∀ y ∈ schedule ds root,
      (Stops false y x ↔ y.1 = x.1) := by
    intro x hx y hy
    constructor
    · rintro (h | h)
      · cases h
      · exact List.inj_on_of_nodup_map hd (mem_schedule hy).1 (mem_schedule hx).1 h
    · intro h
      exact .inr (by rw [h])
  have hcontinue := (Tracks.dispatch false ds c root).pruned.congr hsame
  have hstop : Pruned c (fun _ _ => True) (schedule ds root) (dispatch true ds c root).made :=
    (Tracks.dispatch true ds c root).pruned.congr
      fun _ _ _ _ => ⟨fun _ => trivial, fun _ => .inl rfl⟩
  refine ⟨fun made => ⟨fun h => h.unique hcontinue, fun h => h ▸ hcontinue⟩,
    fun made => ⟨fun h => h.unique hstop, fun h => h ▸ hstop⟩, fun failFast => ?_⟩
  have h := Tracks.dispatch failFast ds c root
  refine ⟨h.failures, h.consistent.once, h.context, ?_⟩
  rw [dispatch_eq_foldl_offer]

/-- A rule of which nothing but its key matters. -/
def bareRule (key : String) : Metadata := { key, name := key, description := "", severity := .info }

/-- A detector that reports nodes of kind `k`, and gives up where a report of its own is still there. -/
def quitter (key : String) (k : Kind) : Detector where
  metadata := bareRule key
  subscriptions := [k]
  visitNode := fun n c =>
    if c.findings.any (·.detectorId = key) then
      { context := c, failure := some { message := "seen before" } }
    else { context := c.report [(bareRule key).finding c "seen" n.range] }

/-- A detector that drops the findings of another one and goes on under another path, twice for each
node of kind `k`. -/
def eraser (key victim : String) (k : Kind) : Detector where
  metadata := bareRule key
  subscriptions := [k, k]
  visitNode := fun _ c => { context := { c.discard victim with path := c.path ++ "~" } }

/-- A detector that gives up because of its own report does so one node later when another one drops
the first report. From then on it is left out, though its second report is dropped as well. -/
theorem dropped_report_delays_failure :
    let a := quitter "a" .datatype
    let b := eraser "b" "a" .identifier
    let root : Node := ⟨.datatype, none, [.leaf .identifier "x" default,
      .leaf .datatype "NUMBER" default, .leaf .datatype "DATE" default,
      .leaf .identifier "y" default, .leaf .datatype "CLOB" default], default⟩
    let c : Context := { path := "p.prc", isTest := false }
    let names (calls : List Call) := calls.map fun x => (x.1.id, x.2.token.getD "")
    ([a, b].map Detector.id).Nodup ∧
      names (schedule [a, b] root) = [("a", ""), ("b", "x"), ("b", "x"), ("a", "NUMBER"),
        ("a", "DATE"), ("b", "y"), ("b", "y"), ("a", "CLOB")] ∧
      Pruned c (fun y x => y.1 = x.1) (schedule [a, b] root) (dispatch false [a, b] c root).made ∧
      names (dispatch false [a, b] c root).made = [("a", ""), ("b", "x"), ("b", "x"),
        ("a", "NUMBER"), ("a", "DATE"), ("b", "y"), ("b", "y")] ∧
      Pruned c (fun _ _ => True) (schedule [a, b] root) (dispatch true [a, b] c root).made ∧
      names (dispatch true [a, b] c root).made =
        [("a", ""), ("b", "x"), ("b", "x"), ("a", "NUMBER"), ("a", "DATE")] ∧
      failuresOf c (dispatch false [a, b] c root).made = [("a", { message := "seen before" })] := by
  intro a b root c names
  have hids : ([a, b].map Detector.id).Nodup := by decide
  obtain ⟨hcontinue, hstop, hrest⟩ := dispatch_prunes_schedule [a, b] hids c root
  refine ⟨hids, by decide +kernel, (hcontinue _).2 rfl, by decide +kernel, (hstop _).2 rfl,
    by decide +kernel, ?_⟩
  rw [← (hrest false).1]
  decide +kernel

end PlsqlAudit
