/-
  VulkanValidity.Proofs.Refinement

  A replay is as good as executing the log on every subresource alone.  Ownership goes forward access
  by access while layouts are written once at the end, from a map that was made while recording; still
  each subresource of each resource comes out as the left fold over the accesses that cover it, and the
  report is clean exactly if no step of such a fold went wrong.
-/

import VulkanValidity.Proofs.Findings
import VulkanValidity.Proofs.Invariant

namespace VulkanValidity

/-- The log comes from a recording that some reachable session has in progress. -/
def CommandLog.Recorded (log : CommandLog) : Prop :=
  ∃ (s : Session) (key : Nat) (recorder : Recorder), s.Reachable
    ∧ s.recorder? key = some recorder ∧ recorder.recording.finish = log

theorem CommandLog.Recorded.wellFormed {log : CommandLog} (h : log.Recorded) : log.WellFormed := by
  obtain ⟨s, key, recorder, hs, hr, rfl⟩ := h
  exact finish_wellFormed (hs.wellFormed.recordings key recorder hr)

namespace CommandLog

/-- Whether the log executes on a subresource without a problem: no access meets one, and the layout
is the expected one, if one is expected. -/
def RunsCleanly (log : CommandLog) (sharing : Sharing) (resource : Resource) (i : Nat)
    (state : SubresourceState) : Prop :=
  state.problems sharing log.family (log.accessesAt resource i) = []
    ∧ ∀ l expected, log.localLayout? resource i = some l → l.expected = some expected →
      state.layout = expected

variable {log : CommandLog} (h : log.WellFormed) {registry : Registry}
  (hregistry : registry.WellFormed)
include h hregistry

theorem replay_isClean_iff :
    (log.replay registry).isClean = true ↔ ∀ resource sharing i state,
      registry.sharing? resource = some sharing → registry.stateAt? resource i = some state →
        log.RunsCleanly sharing resource i state := by
  have hproblem := problem_found_iff h hregistry.canonical
  have hmismatch := mismatch_found_iff h hregistry.canonical
  rw [ReplayReport.isClean, List.isEmpty_iff]
  constructor
  · intro hclean resource sharing i state hsharing hstate
    obtain ⟨t, ht, rfl⟩ := Registry.exists_tracked?_of_sharing? hsharing
    rw [Registry.stateAt?_of_tracked? ht] at hstate
    -- A problem or a mismatch would be found.
    refine ⟨Classical.byContradiction fun hne => ?_, fun l expected hl hexpected =>
      Classical.byContradiction fun hne => ?_⟩
    · obtain ⟨finding, hmem, -⟩ := (hproblem resource).mpr ⟨t, ht, i, state, hstate, hne⟩
      rw [hclean] at hmem
      cases hmem
    · obtain ⟨finding, hmem, -⟩ :=
        (hmismatch resource).mpr ⟨t, ht, i, state, l, expected, hstate, hl, hexpected, hne⟩
      rw [hclean] at hmem
      cases hmem
  · intro hruns
    refine List.eq_nil_iff_forall_not_mem.mpr fun finding hmem => ?_
    by_cases hkind : finding.kind = .invalidLayout
    · obtain ⟨t, ht, i, state, l, expected, hstate, hl, hexpected, hne⟩ :=
        (hmismatch finding.resource).mp ⟨finding, hmem, rfl, hkind⟩
      exact hne ((hruns finding.resource t.sharing i state (Registry.sharing?_of_tracked? ht)
        ((Registry.stateAt?_of_tracked? ht i).trans hstate)).2 l expected hl hexpected)
    · obtain ⟨t, ht, i, state, hstate, hne⟩ :=
        (hproblem finding.resource).mp ⟨finding, hmem, rfl, hkind⟩
      exact hne (hruns finding.resource t.sharing i state (Registry.sharing?_of_tracked? ht)
        ((Registry.stateAt?_of_tracked? ht i).trans hstate)).1

end CommandLog

/-! ## Submissions -/

namespace Device

variable {d : Device} (queue : Queue) {handle : Handle .commandBuffer}

section Submission

variable {e : Execution} (h : d.execution? queue handle = some e)
  (hregistry : d.registry.WellFormed)
include h hregistry

theorem execution_wellFormed : e.log.WellFormed := by
  obtain ⟨-, -, hlog, -⟩ := execution?_eq_some h
  exact hregistry.logs handle e.log hlog

/-- A submission that is admitted executes its log. -/
theorem submitOne_executes : e.log.Executes d.registry (d.submitOne queue handle).state.registry := by
  obtain ⟨-, -, -, hstate⟩ := execution?_eq_some h
  rw [hstate]
  exact d.execute_executes queue handle (execution_wellFormed queue h hregistry)

end Submission

/-- Submissions neither create nor destroy resources. -/
theorem tracked?_submitAll_eq_none {d : Device} (hregistry : d.registry.WellFormed)
    (entries : List (Queue × Handle .commandBuffer)) (resource : Resource) :
    (d.submitAll entries).registry.tracked? resource = none
      ↔ d.registry.tracked? resource = none := by
  induction entries generalizing d with
  | nil => exact Iff.rfl
  | cons entry entries ih =>
    refine (ih (submitOne_wellFormed hregistry entry.1 entry.2)).trans ?_
    rcases d.submitOne_cases entry.1 entry.2 with ⟨-, hs⟩ | ⟨log, he, -, -⟩
    · rw [hs]
    · exact (submitOne_executes entry.1 he hregistry).tracked?_eq_none resource

end Device

/-! ## Replays and executions -/

/-- Replaying a recorded log on a reachable registry refines its execution on every subresource alone:
in the states that it leaves, in what it leaves alone, and in whether it finds anything.  The steps of such
an execution are spelled out by `SubresourceState.Advances`. -/
theorem replay_refines_execution {s : Session} (hs : s.Reachable) {log : CommandLog}
    (hlog : log.Recorded) :
    -- The report holds the states of the live resources that the log names, and no others.
    (∀ resource, (log.replay s.device.registry).states.lookup resource
      = if resource ∈ log.resources then
          ((log.replay s.device.registry).apply s.device.registry).states? resource
        else none)
    -- Each subresource is as after the accesses that cover it, and in the layout that the log leaves.
    ∧ (∀ resource sharing i, s.device.registry.sharing? resource = some sharing →
        ((log.replay s.device.registry).apply s.device.registry).stateAt? resource i
          = (s.device.registry.stateAt? resource i).map fun state =>
            { (log.accessesAt resource i).foldl
                (fun state access => state.access sharing log.family access.effect) state with
              layout := (log.localLayout? resource i).elim state.layout LocalLayout.current })
    -- A step of this is what the kind of the access says of the owner, and the write of the stages.
    ∧ (∀ sharing effect (before next : SubresourceState),
        next = before.access sharing log.family effect
          ↔ SubresourceState.Advances sharing log.family effect before next)
    -- What the log does not name keeps its state.
    ∧ (∀ resource i, ¬ log.Names resource i →
        ((log.replay s.device.registry).apply s.device.registry).stateAt? resource i
          = s.device.registry.stateAt? resource i)
    ∧ ((log.replay s.device.registry).isClean = true ↔ ∀ resource sharing i state,
        s.device.registry.sharing? resource = some sharing →
        s.device.registry.stateAt? resource i = some state →
          log.RunsCleanly sharing resource i state)
    ∧ (log.replay s.device.registry).findings.Pairwise fun f g =>
        ¬ (f.kind = g.kind ∧ f.resource = g.resource) := by
  have h := hlog.wellFormed
  have hregistry := hs.wellFormed.registry
  have hexecutes := CommandLog.replay_executes h s.device.registry
  refine ⟨fun resource => ?_, fun resource sharing i hsharing => ?_,
    fun sharing effect before next => (SubresourceState.advances_iff sharing log.family).symm,
    fun resource i => ?_, ?_, ?_⟩
  · rw [CommandLog.lookup_replay_states h, Registry.states?_eq, CommandLog.tracked?_replay h,
      Option.map_map]
    rfl
  · exact hexecutes.stateAt?_eq hregistry h hsharing i
  · exact hexecutes.stateAt?_of_not_names hregistry h
  · exact CommandLog.replay_isClean_iff h hregistry
  · exact CommandLog.replay_distinct h

/-- A run that moves two levels of an image to another layout, and clears what it moved. -/
def clearingRun : List Call :=
  [.createImage { format := .r8g8b8a8Unorm, extent := ⟨4, 4, 1⟩, mipLevels := 3 },
    .beginCommandBuffer ⟨0, 0⟩ none .multipleSubmit,
    .record 0 (.barrier { imageBarriers := [{
      image := .ofSerial .image 1, newLayout := .transferDstOptimal, dstStages := .allTransfer,
      range := ⟨.color, ⟨0, 2⟩, ⟨0, 1⟩⟩ }] }),
    .record 0 (.clear {
      image := .ofSerial .image 1, regions := [⟨.color, ⟨0, 2⟩, ⟨0, 1⟩⟩] })]

/-- The log of the run refines its execution on the first level of the image. -/
theorem clearingRun_refines : ∃ log : CommandLog, log.Recorded
    ∧ ((log.replay ((Session.start {} {}).run clearingRun).device.registry).apply
          ((Session.start {} {}).run clearingRun).device.registry).stateAt?
        (.image (.ofSerial .image 1)) 0
      = (((Session.start {} {}).run clearingRun).device.registry.stateAt?
          (.image (.ofSerial .image 1)) 0).map
        (log.stateAfter .exclusive (.image (.ofSerial .image 1)) 0) := by
  have hs : ((Session.start {} {}).run clearingRun).Reachable :=
    (Session.Reachable.start {} {}).run clearingRun
  obtain ⟨recorder, hr⟩ := Option.isSome_iff_exists.mp
    (show (((Session.start {} {}).run clearingRun).recorder? 0).isSome = true by decide)
  have hlog : recorder.recording.finish.Recorded := ⟨_, 0, recorder, hs, hr, rfl⟩
  have hsharing : ((Session.start {} {}).run clearingRun).device.registry.sharing?
      (.image (.ofSerial .image 1)) = some .exclusive := by decide
  exact ⟨_, hlog, (replay_refines_execution hs hlog).2.1 _ .exclusive 0 hsharing⟩

end VulkanValidity
