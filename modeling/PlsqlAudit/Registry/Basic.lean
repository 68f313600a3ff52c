import PlsqlAudit.Detector.NationalInput
import PlsqlAudit.Registry.Settings

/-!
# Registries of detectors

A registry holds detectors by id, the ids that are enabled, in the order in which they were, and
settings.

* `Registry.register` — stores a detector, in the place of one of the same id; it starts enabled if
  its rule is active by default.
* `Registry.enable`, `Registry.disable` — switch one detector.
* `Registry.enableTag`, `Registry.disableTag` — switch all detectors that carry a tag. Newly enabled
  ids come last, in increasing order.
* `Registry.standard` — the registry of the detectors that ship with the library.
-/

namespace PlsqlAudit

/-- Why a registry refuses something. -/
inductive RegistryError where
  /-- No detector of this id is registered. -/
  | detectorNotFound (id : String)
  /-- A configuration mentions a rule that is not registered. -/
  | unknownRule (key : String)
  deriving DecidableEq, Repr

/-- The wording of the error. -/
def RegistryError.message : RegistryError → String
  | detectorNotFound id => s!"Detector not found: {id}"
  | unknownRule key => s!"unknown rule '{key}' in configuration"

/-- A collection of detectors. -/
structure Registry where
  detectors : List (String × Detector) := []
  enabled : List String := []
  settings : Settings := {}

namespace Registry

/-- The registry without detectors. -/
def empty : Registry := {}

/-- Puts `d` in the place of the detector stored under `id`, or last if there is none. -/
def store (id : String) (d : Detector) : List (String × Detector) → List (String × Detector)
  | [] => [(id, d)]
  | e :: es => if e.1 = id then (id, d) :: es else e :: store id d es

/-- The detector of an id. -/
def get? (r : Registry) (id : String) : Option Detector := r.detectors.lookup id

/-- Whether a detector of this id is registered. -/
def contains (r : Registry) (id : String) : Bool := (r.get? id).isSome

/-- Adds an id to the enabled ones, unless it is among them. -/
def activate (r : Registry) (id : String) : Registry :=
  if id ∈ r.enabled then r else { r with enabled := r.enabled ++ [id] }

/-- Registers a detector under its id; it starts enabled if its rule is active by default. -/
def register (r : Registry) (d : Detector) : Registry :=
  let r' := if d.activeByDefault then r.activate d.id else r
  { r' with detectors := store d.id d r'.detectors }

/-- Enables a registered detector. -/
def enable (r : Registry) (id : String) : Except RegistryError Registry :=
  if r.contains id then .ok (r.activate id) else .error (.detectorNotFound id)

/-- Disables a detector, registered or not. -/
def disable (r : Registry) (id : String) : Registry :=
  { r with enabled := r.enabled.filter (· ≠ id) }

/-- The ids of the registered detectors that carry `t` and are not enabled, in increasing order. -/
def dormant (r : Registry) (t : Tag) : List String :=
  let carriers := r.detectors.filter fun e => t ∈ e.2.tags ∧ e.1 ∉ r.enabled
  (carriers.map (·.1)).mergeSort (fun a b => decide (a ≤ b))

/-- Enables every registered detector that carries `t`. -/
def enableTag (r : Registry) (t : Tag) : Registry := { r with enabled := r.enabled ++ r.dormant t }

/-- Disables every detector that carries `t`. -/
def disableTag (r : Registry) (t : Tag) : Registry :=
  { r with enabled := r.enabled.filter fun id => (r.get? id).any fun d => t ∉ d.tags }

/-- The ids of all registered detectors, in increasing order. -/
def ids (r : Registry) : List String :=
  (r.detectors.map (·.1)).mergeSort (fun a b => decide (a ≤ b))

/-- Replaces the settings. -/
def withSettings (r : Registry) (s : Settings) : Registry := { r with settings := s }

/-- Adds the detectors that ship with the library. -/
def withStandard (r : Registry) : Registry := r.register NationalInput.detector

/-- The registry of the detectors that ship with the library. -/
def standard : Registry := empty.withStandard

end Registry

end PlsqlAudit
