import PlsqlAudit.Proofs.Tree.Walk
import PlsqlAudit.Registry.Dispatch

/-!
# A walk offers the nodes to the detectors one by one

* `schedule` — the calls that a walk would make if no detector ever failed: node by node in
  pre-order, detector by detector, one call for each time the detector names the kind of the node.
* `Dispatch.offer` — one entry of the schedule: the call is made unless it is to be left out.
* `dispatch_eq_foldl_offer` — a walk is one pass over the schedule. The table of routes, the list of
  pending steps and the early exits are gone on that side, so all further statements about walks are
  inductions over the schedule.
-/

namespace PlsqlAudit

/-! ## Routes -/

namespace Routes

theorem subscribers_add (t : Routes) (k k' : Kind) (d : Detector) :
    subscribers (add k d t) k' = subscribers t k' ++ (if k' = k then [d] else []) := by
  unfold subscribers
  induction t with
  | nil =>
    by_cases h : k' = k
    · simp [add, h]
    · have hb : (k' == k) = false := by simpa using h
      simp [add, List.lookup_cons, hb, h]
  | cons e es ih =>
    obtain ⟨j, ds⟩ := e
    rw [add]
    by_cases hj : j = k
    · subst hj
      by_cases h : k' = j
      · simp [h]
      · have hb : (k' == j) = false := by simpa using h
        simp [List.lookup_cons, hb, h]
    · rw [if_neg hj]
      by_cases h : k' = j
      · subst h
        simp [hj]
      · have hb : (k' == j) = false := by simpa using h
        simpa [List.lookup_cons, hb] using ih

/-- A detector stands behind those before it, as often as it names the kind. -/
theorem subscribers_subscribe (t : Routes) (d : Detector) (k : Kind) :
    subscribers (t.subscribe d) k =
      subscribers t k ++ List.replicate (d.subscriptions.count k) d := by
  unfold subscribe
  induction d.subscriptions generalizing t with
  | nil => simp
  | cons j js ih =>
    rw [List.foldl_cons, ih, subscribers_add, List.count_cons]
    by_cases h : k = j
    · subst h
      simp [List.replicate_succ]
    · have hb : (j == k) = false := by simpa using fun e => h e.symm
      simp [h, hb]

/-- **The table holds, for each kind, the detectors in order, each as often as it names the kind.** -/
theorem subscribers_build (ds : List Detector) (k : Kind) :
    subscribers (build ds) k = ds.flatMap fun d => List.replicate (d.subscriptions.count k) d := by
  suffices h : ∀ t : Routes, subscribers (ds.foldl subscribe t) k =
      subscribers t k ++ ds.flatMap fun d => List.replicate (d.subscriptions.count k) d by
    simpa [build, subscribers] using h []
  induction ds with
  | nil => intro t; simp
  | cons d ds ih =>
    intro t
    rw [List.foldl_cons, ih, subscribers_subscribe, List.flatMap_cons, List.append_assoc]

end Routes

/-! ## The schedule -/

/-- The calls that a walk makes as long as no detector fails: for each node in pre-order, for each
detector, one call for each time the detector names the kind of the node. -/
def schedule (ds : List Detector) (root : Node) : List Call :=
  root.nodes.flatMap fun n =>
    ds.flatMap fun d => List.replicate (d.subscriptions.count n.kind) (d, n)

theorem mem_schedule {ds : List Detector} {root : Node} {x : Call} (h : x ∈ schedule ds root) :
    x.1 ∈ ds ∧ x.2 ∈ root.nodes := by
  unfold schedule at h
  obtain ⟨n, hn, h⟩ := List.mem_flatMap.1 h
  obtain ⟨d, hd, h⟩ := List.mem_flatMap.1 h
  rw [List.eq_of_mem_replicate h]
  exact ⟨hd, hn⟩

namespace Dispatch

/-! ## One call -/

variable (n : Node) (s : Dispatch) (d : Detector)

/-- All that a call does, with a failure as a list of at most one entry. -/
theorem call_eq :
    s.call n d =
      { context := (d.visitNode n s.context).context
        failed := ((d.visitNode n s.context).failure.map fun _ => d.id).toList ++ s.failed
        failures := s.failures ++ ((d.visitNode n s.context).failure.map (d.id, ·)).toList
        visited := s.visited
        calls := (d, n) :: s.calls
        log := s.log ++ (d.visitNode n s.context).log } := by
  unfold call
  cases h : (d.visitNode n s.context).failure with
  | none => simp [h]
  | some e => simp [h]

@[simp] theorem call_context : (s.call n d).context = (d.visitNode n s.context).context := by
  rw [call_eq]

@[simp] theorem call_made : (s.call n d).made = s.made ++ [(d, n)] := by
  simp [call_eq, made]

@[simp] theorem call_failures :
    (s.call n d).failures =
      s.failures ++ ((d.visitNode n s.context).failure.map (d.id, ·)).toList := by
  rw [call_eq]

@[simp] theorem call_failed :
    (s.call n d).failed =
      ((d.visitNode n s.context).failure.map fun _ => d.id).toList ++ s.failed := by
  rw [call_eq]

/-- The count of visited nodes plays no part in a call. -/
theorem call_withVisited (k : Nat) :
    call n { s with visited := k } d = { s.call n d with visited := k } := by
  rw [call_eq, call_eq]

end Dispatch

namespace Dispatch

variable {failFast : Bool} {s : Dispatch}

/-- Makes a call of the schedule, unless its detector has failed or, with fail-fast, any has. -/
def offer (failFast : Bool) (s : Dispatch) (x : Call) : Dispatch :=
  if (failFast && !s.failures.isEmpty) || s.failed.contains x.1.id then s else s.call x.2 x.1

theorem offer_withVisited (x : Call) (k : Nat) :
    offer failFast { s with visited := k } x = { offer failFast s x with visited := k } := by
  unfold offer
  simp only [call_withVisited]
  split <;> rfl

theorem foldl_offer_withVisited (xs : List Call) (k : Nat) :
    xs.foldl (offer failFast) { s with visited := k } =
      { xs.foldl (offer failFast) s with visited := k } := by
  induction xs generalizing s with
  | nil => rfl
  | cons x xs ih => rw [List.foldl_cons, offer_withVisited, ih, List.foldl_cons]

/-- With fail-fast nothing is called after a failure. -/
theorem foldl_offer_of_failures (h : s.failures ≠ []) (xs : List Call) :
    xs.foldl (offer true) s = s := by
  induction xs with
  | nil => rfl
  | cons x xs ih =>
    have hoffer : offer true s x = s := by
      unfold offer
      simp [h]
    rw [List.foldl_cons, hoffer, ih]

/-- Showing a node to detectors offers it to each of them; the early exit only skips offers that
would not be taken. -/
theorem showTo_eq_foldl_offer (n : Node) (ds : List Detector)
    (h : failFast = true → s.failures = []) :
    showTo failFast n s ds = (ds.map (·, n)).foldl (offer failFast) s := by
  induction ds generalizing s with
  | nil => rfl
  | cons d ds ih =>
    have hrunning : (failFast && !s.failures.isEmpty) = false := by
      cases failFast with
      | false => rfl
      | true => simp [h rfl]
    rw [showTo, List.map_cons, List.foldl_cons]
    by_cases hfailed : s.failed.contains d.id
    · have hoffer : offer failFast s (d, n) = s := by
        unfold offer
        simp only [hrunning, hfailed, Bool.false_or, if_true]
      rw [if_pos hfailed, hoffer, ih h]
    · have hoffer : offer failFast s (d, n) = s.call n d := by
        unfold offer
        simp only [hrunning, Bool.not_eq_true _ ▸ hfailed, Bool.false_or, Bool.false_eq_true,
          if_false]
      rw [if_neg hfailed, hoffer]
      cases hv : (d.visitNode n s.context).failure with
      | none =>
        have hfailed' : (s.call n d).failed.contains d.id = false := by
          rw [call_failed, hv]
          simpa using hfailed
        simp only [hfailed', Bool.and_false, Bool.false_eq_true, if_false]
        refine ih fun hf => ?_
        rw [call_failures, hv, h hf]
        rfl
      | some e =>
        have hfailed' : (s.call n d).failed.contains d.id = true := by
          rw [call_failed, hv]
          simp
        cases failFast with
        | false =>
          simp only [Bool.false_and, Bool.false_eq_true, if_false]
          exact ih fun hf => absurd hf Bool.false_ne_true
        | true =>
          simp only [hfailed', Bool.and_true, if_true]
          rw [foldl_offer_of_failures]
          rw [call_failures, hv]
          simp

/-- Entering a node counts it and offers it to its subscribers. -/
theorem enter_eq_foldl_offer (routes : Routes) (n : Node) :
    enter failFast routes s n =
      { ((routes.subscribers n.kind).map (·, n)).foldl (offer failFast) s with
        visited := s.visited + 1 } := by
  unfold enter
  by_cases h : (failFast && !s.failures.isEmpty) = true
  · obtain ⟨rfl, hne⟩ := (Bool.and_eq_true _ _).mp h
    have hs : s.failures ≠ [] := by simpa using hne
    simp only [h, if_true]
    rw [foldl_offer_of_failures hs]
  · simp only [h, Bool.false_eq_true, if_false]
    rw [showTo_eq_foldl_offer, foldl_offer_withVisited]
    rintro rfl
    simpa using h

theorem foldl_enter_eq_foldl_offer (routes : Routes) (ns : List Node) :
    ns.foldl (enter failFast routes) s =
      { (ns.flatMap fun n => (routes.subscribers n.kind).map (·, n)).foldl (offer failFast) s with
        visited := s.visited + ns.length } := by
  induction ns generalizing s with
  | nil => rfl
  | cons n ns ih =>
    rw [List.foldl_cons, ih, enter_eq_foldl_offer, foldl_offer_withVisited, List.flatMap_cons,
      List.foldl_append, List.length_cons]
    simp only [Nat.add_assoc, Nat.add_comm 1]

end Dispatch

/-- **A walk is one pass over the schedule**, and counts every node of the tree. -/
theorem dispatch_eq_foldl_offer (failFast : Bool) (ds : List Detector) (c : Context) (root : Node) :
    dispatch failFast ds c root =
      { (schedule ds root).foldl (Dispatch.offer failFast) { context := c } with
        visited := root.count } := by
  unfold dispatch
  rw [Node.walk_eq_foldl_nodes _ _ _ fun _ _ => rfl, Dispatch.foldl_enter_eq_foldl_offer,
    Node.length_nodes]
  have hplan : (root.nodes.flatMap fun n => ((Routes.build ds).subscribers n.kind).map (·, n)) =
      schedule ds root := by
    unfold schedule
    refine List.flatMap_congr fun n _ => ?_
    rw [Routes.subscribers_build, List.map_flatMap]
    simp only [List.map_replicate]
  rw [hplan, Nat.zero_add]

end PlsqlAudit
