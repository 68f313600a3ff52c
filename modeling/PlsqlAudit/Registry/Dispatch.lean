import PlsqlAudit.Detector
import PlsqlAudit.Tree.Walk

/-!
# Showing the nodes of a tree to detectors

In one walk of a tree, every node is shown to the detectors that subscribe to its kind.

* `Routes` — the detectors by the kinds they subscribe to, built detector by detector. One that names
  a kind several times is shown the nodes of that kind as often.
* `Dispatch.call` — shows a node to a detector, and takes note of a failure.
* `Dispatch.enter` — shows a node to its subscribers. A detector that has failed is not called again,
  and with fail-fast none is called once any has failed.
* `dispatch` — the whole walk. Every node counts as visited, whether it was shown to anyone or not.
-/

namespace PlsqlAudit

/-- The detectors to show a node to, by the kind of the node. -/
abbrev Routes := List (Kind × List Detector)

namespace Routes

/-- Puts `d` behind the detectors that are shown nodes of kind `k`. -/
def add (k : Kind) (d : Detector) : Routes → Routes
  | [] => [(k, [d])]
  | e :: es => if e.1 = k then (k, e.2 ++ [d]) :: es else e :: add k d es

/-- Adds a detector for every kind it subscribes to, as often as it names the kind. -/
def subscribe (t : Routes) (d : Detector) : Routes :=
  d.subscriptions.foldl (fun t k => add k d t) t

/-- The routes to the given detectors, earlier ones first. -/
def build (ds : List Detector) : Routes := ds.foldl subscribe []

/-- The detectors that are shown a node of kind `k`. -/
def subscribers (t : Routes) (k : Kind) : List Detector := (t.lookup k).getD []

end Routes

/-- A call of a detector: which one, and the node that it is shown. -/
abbrev Call := Detector × Node

/-- The state of a walk. -/
structure Dispatch where
  context : Context
  /-- The ids of the detectors that have failed. -/
  failed : List String := []
  /-- Which detectors have failed, and why, in the order of the failures. -/
  failures : List (String × Failure) := []
  visited : Nat := 0
  /-- The calls, the latest first. -/
  calls : List Call := []
  log : List LogLine := []

namespace Dispatch

/-- Shows node `n` to detector `d`. -/
def call (n : Node) (s : Dispatch) (d : Detector) : Dispatch :=
  let v := d.visitNode n s.context
  let s' :=
    { s with
      context := v.context
      calls := (d, n) :: s.calls
      log := s.log ++ v.log }
  match v.failure with
  | none => s'
  | some e => { s' with failed := d.id :: s'.failed, failures := s'.failures ++ [(d.id, e)] }

/-- Shows node `n` to those of the detectors that have not failed, one after the other. With
fail-fast the first failure ends this. -/
def showTo (failFast : Bool) (n : Node) (s : Dispatch) : List Detector → Dispatch
  | [] => s
  | d :: ds =>
    if s.failed.contains d.id then showTo failFast n s ds
    else
      let s' := s.call n d
      if failFast && s'.failed.contains d.id then s' else showTo failFast n s' ds

/-- Enters a node: it counts as visited and is shown to its subscribers. -/
def enter (failFast : Bool) (routes : Routes) (s : Dispatch) (n : Node) : Dispatch :=
  let s' := { s with visited := s.visited + 1 }
  if failFast && !s'.failures.isEmpty then s'
  else showTo failFast n s' (routes.subscribers n.kind)

/-- The calls in the order in which they were made. -/
def made (s : Dispatch) : List Call := s.calls.reverse

end Dispatch

/-- Walks the tree under `root` and shows its nodes to the detectors. -/
def dispatch (failFast : Bool) (ds : List Detector) (c : Context) (root : Node) : Dispatch :=
  root.walk { enter := Dispatch.enter failFast (Routes.build ds) } { context := c }

end PlsqlAudit
