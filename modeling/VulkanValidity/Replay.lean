/-
  VulkanValidity.Replay

  Replaying a log means carrying out its accesses on the tracked states of the resources that are
  alive. A replay changes nothing by itself: it gives a report with the findings and with the states
  that the resources will have, which is applied once the submission is admitted.

  Layouts are checked against the states before the first access, and written after the last one.
  Accesses are carried out in the order of the recording, each on the segments that it covers.
-/

import VulkanValidity.Registry

namespace VulkanValidity

/-! ## Findings -/

/-- Something that a replay found about a resource. -/
structure Finding where
  kind : FindingKind
  resource : Resource
  message : String
deriving DecidableEq, Repr

/-- What the replay of a log finds, and the states that it leads to. -/
structure ReplayReport where
  findings : List Finding := []
  /-- The states of the resources of the log after it. -/
  states : List (Resource × RangeMap SubresourceState) := []
deriving DecidableEq, Repr

namespace ReplayReport

/-- The findings of a kind about images or about buffers. -/
def findingsOf (report : ReplayReport) (kind : FindingKind) (images : Bool) : List Finding :=
  report.findings.filter fun finding => finding.kind == kind && finding.resource.isImage == images

/-- Whether the replay found nothing. -/
def isClean (report : ReplayReport) : Bool := report.findings.isEmpty

/-- Writes the states of the report into the registry. -/
def apply (report : ReplayReport) (registry : Registry) : Registry :=
  report.states.foldl (fun registry (resource, states) => registry.setStates resource states) registry

end ReplayReport

/-! ## Layouts -/

/-- A part of an image that is in another layout than a command buffer expects. -/
structure LayoutMismatch where
  range : Interval
  expected : ImageLayout
  actual : ImageLayout
deriving DecidableEq, Repr

/-- The message of the finding that a mismatch leads to. -/
def LayoutMismatch.message (m : LayoutMismatch) : String :=
  s!"the command buffer expects subresources {m.range} of the image to be in layout " ++
    s!"`{m.expected}` when it starts executing, but they are in layout `{m.actual}`"

/-- The first part of a segment with an expectation that is in another layout. -/
def segmentMismatch? (states : RangeMap SubresourceState) (known : Segment LocalLayout) :
    Option LayoutMismatch :=
  known.value.expected.bind fun expected =>
    (states.within known.range).findSome? fun segment =>
      if segment.value.layout = expected then none
      else some ⟨segment.range, expected, segment.value.layout⟩

/-- The first part of an image that is in another layout than expected. -/
def layoutMismatch? (states : RangeMap SubresourceState) (known : RangeMap LocalLayout) :
    Option LayoutMismatch :=
  known.segments.findSome? (segmentMismatch? states)

/-- The states after every known subresource got the layout that the commands left it in. -/
def writeLayouts (states : RangeMap SubresourceState) (known : RangeMap LocalLayout) :
    RangeMap SubresourceState :=
  known.segments.foldl (fun states segment =>
    states.update segment.range fun state =>
      state.map fun state => { state with layout := segment.value.current }) states

/-! ## Accesses -/

/-- The first problem with an access among the subresources that it covers. -/
def accessProblem? (states : RangeMap SubresourceState) (sharing : Sharing) (family : Nat)
    (access : Access) : Option OwnershipProblem :=
  (access.ranges.flatMap states.within).findSome? fun segment =>
    segment.value.owner.accessProblem? sharing family access.effect.kind

/-- The states after an access. -/
def accessStates (states : RangeMap SubresourceState) (sharing : Sharing) (family : Nat)
    (access : Access) : RangeMap SubresourceState :=
  states.updateAll access.ranges fun state =>
    state.map fun state => state.access sharing family access.effect

/-! ## Replaying -/

/-- The states of the resources while a log is replayed, and the findings so far. -/
structure ReplayState where
  states : List (Resource × RangeMap SubresourceState)
  findings : List Finding
deriving DecidableEq, Repr

namespace ReplayState

/-- The states of the live resources of a log. -/
def start (registry : Registry) (log : CommandLog) : ReplayState where
  states := log.resources.filterMap fun resource =>
    (registry.states? resource).map fun states => (resource, states)
  findings := []

/-- The states of a resource of the log, if it is alive. -/
def states? (s : ReplayState) (resource : Resource) : Option (RangeMap SubresourceState) :=
  s.states.lookup resource

/-- Replaces the states of a resource. -/
def set (s : ReplayState) (resource : Resource) (states : RangeMap SubresourceState) : ReplayState :=
  { s with states := s.states.map fun entry =>
      if entry.1 = resource then (resource, states) else entry }

/-- Adds a finding, unless there is one of the same kind about the same resource. -/
def find (s : ReplayState) (finding : Finding) : ReplayState :=
  if s.findings.any fun other => other.kind == finding.kind && other.resource == finding.resource then s
  else { s with findings := s.findings ++ [finding] }

/-- Compares the layouts of an image with what the log expects of them. -/
def checkLayouts (s : ReplayState) (entry : Handle .image × RangeMap LocalLayout) : ReplayState :=
  match (s.states? (.image entry.1)).bind fun states => layoutMismatch? states entry.2 with
  -- A log has one entry for each image, so that there is no such finding yet.
  | some mismatch => { s with
      findings := s.findings ++ [⟨.invalidLayout, .image entry.1, mismatch.message⟩] }
  | none => s

/-- Carries out an access of a command buffer of `family`. -/
def access (registry : Registry) (family : Nat) (s : ReplayState) (access : Access) : ReplayState :=
  match s.states? access.resource, registry.sharing? access.resource with
  | some states, some sharing =>
    -- The states go on as if the access had no problem.
    let advanced := s.set access.resource (accessStates states sharing family access)
    match accessProblem? states sharing family access with
    | some problem => advanced.find ⟨problem.kind, access.resource, problem.message⟩
    | none => advanced
  | _, _ => s

/-- Writes the layouts that the log leaves an image in. -/
def leaveLayouts (s : ReplayState) (entry : Handle .image × RangeMap LocalLayout) : ReplayState :=
  match s.states? (.image entry.1) with
  | some states => s.set (.image entry.1) (writeLayouts states entry.2)
  | none => s

end ReplayState

/-- Replays a log on the tracked states of the live resources. -/
def CommandLog.replay (log : CommandLog) (registry : Registry) : ReplayReport :=
  -- All layouts are compared before the first access, and all of them are left after the last one.
  let checked := log.layouts.foldl ReplayState.checkLayouts (.start registry log)
  let accessed := log.accesses.foldl (ReplayState.access registry log.family) checked
  let left := log.layouts.foldl ReplayState.leaveLayouts accessed
  ⟨left.findings, left.states⟩

end VulkanValidity
