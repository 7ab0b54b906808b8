/-
  VulkanValidity.Proofs.LayoutChecks

  What the layout rules of the standard engine rule out.  A command without a layout mismatch agrees with
  what the recording knows (`Recorder.record_explains`), and a submission without one meets the
  expectations of its log (`Device.submitOne_meets`).

  The rule about old layouts looks at the recording before the whole command.  It says something about
  the second of two barriers only if these share no subresource.
-/

import VulkanValidity.Proofs.LayoutKnowledge
import VulkanValidity.Proofs.Refinement
import VulkanValidity.Proofs.Reports

namespace VulkanValidity

/-! ## Rules about layouts -/

namespace Standard

theorem reports_oldLayout :
    engine.Reports .commandRecording .layoutMismatch BarrierRules.oldLayout :=
  reports_rule barrierRules 7

theorem reports_clearLayoutMismatch :
    engine.Reports .commandRecording .layoutMismatch CommandRules.clearLayoutMismatch :=
  reports_rule commandRules 4

theorem reports_copyLayoutMismatch :
    engine.Reports .commandRecording .layoutMismatch CommandRules.copyLayoutMismatch :=
  reports_rule commandRules 9

theorem reports_layout : engine.Reports .submission .layoutMismatch SubmissionRules.layout :=
  reports_rule replayRules 0

end Standard

/-! ## Checks of recordings -/

/-- There is no mismatch exactly if the subresources that are known are all in the given layout. -/
theorem Recording.layoutMismatch?_eq_none_iff {recording : Recording} (h : recording.WellFormed)
    {image : Handle .image} {info : ImageInfo} {range : SubresourceRange} {layout : ImageLayout} :
    recording.layoutMismatch? image info range layout = none
      ↔ ∀ i l, (info.indexRanges range).any (·.contains i) = true →
        recording.localLayout? image i = some l → l.current = layout := by
  rw [layoutMismatch?]
  simp only [localLayout?]
  cases hknown : recording.layoutsOf? image with
  | none => simp
  | some known =>
    have hcanonical := h.layouts.canonical_of_lookup hknown
    rw [Option.bind_some, List.findSome?_eq_none_iff]
    constructor
    · intro hnone i l hi hget
      obtain ⟨interval, hinterval, hcontains⟩ := List.any_eq_true.mp hi
      -- The subresource lies in a segment, which the check has looked at.
      obtain ⟨segment, hsegment, hvalue⟩ :=
        (RangeMap.exists_mem_within_iff hcanonical).mpr ⟨i, hcontains, hget⟩
      have hsome := hnone segment (List.mem_flatMap.mpr ⟨interval, hinterval, hsegment⟩)
      rw [hvalue] at hsome
      split at hsome
      · assumption
      · cases hsome
    · intro hall segment hsegment
      obtain ⟨interval, hinterval, hsegment⟩ := List.mem_flatMap.mp hsegment
      -- A segment that the check looks at holds a subresource.
      obtain ⟨i, hcontains, hget⟩ :=
        (RangeMap.exists_mem_within_iff hcanonical).mp ⟨segment, hsegment, rfl⟩
      exact if_pos (hall i segment.value (List.any_eq_true.mpr ⟨interval, hinterval, hcontains⟩) hget)

/-- The steps of regions agree if the check of the regions finds nothing. -/
theorem CommandRules.agrees_of_regionLayouts {recording : Recording} (h : recording.WellFormed)
    {ctx : Context} (hrecording : ctx.recording = some recording) {field : String}
    {layout : ImageLayout} {image : Handle .image} {regions : List SubresourceRange}
    (hnone : regionLayouts ctx field layout image regions = []) {step : LayoutStep}
    (hstep : step ∈ regionSteps ctx.registry image layout regions) :
    step.Agrees recording.localLayout? := by
  rw [regionSteps] at hstep
  rw [regionLayouts, hrecording] at hnone
  cases hget : ctx.registry.get? image with
  | none =>
    rw [hget] at hstep
    cases hstep
  | some found =>
    rw [hget] at hstep hnone
    obtain ⟨region, hregion, rfl⟩ := List.mem_map.mp hstep
    have hmismatch : recording.layoutMismatch? image found.info region layout = none := by
      have hviolations := List.flatMap_eq_nil_iff.mp hnone region hregion
      split at hviolations
      · cases hviolations
      · assumption
    -- The check has looked at every known segment under the region.
    right
    intro other i l declared hc hl hdeclared
    obtain ⟨rfl, hi⟩ := LayoutStep.covers_iff.mp hc
    obtain rfl := Option.some.inj hdeclared
    exact (Recording.layoutMismatch?_eq_none_iff h).mp hmismatch i l hi hl

/-- The steps of image barriers come from barriers of live images. -/
theorem exists_of_mem_imageBarrierSteps {registry : Registry} {family : Nat}
    {barriers : List ImageBarrier} {step : LayoutStep}
    (h : step ∈ imageBarrierSteps registry family barriers) :
    ∃ barrier ∈ barriers, ∃ image, registry.get? barrier.image = some image
      ∧ step = .ofBarrier image.info barrier := by
  induction barriers with
  | nil => cases h
  | cons barrier barriers ih =>
    rw [imageBarrierSteps] at h
    cases hget : registry.get barrier.image with
    | error e =>
      rw [hget] at h
      cases h
    | ok image =>
      rw [hget] at h
      rcases List.mem_append.mp h with hfirst | hrest
      · split at hfirst
        · refine ⟨barrier, List.mem_cons_self, image, Registry.get_eq_ok.mp hget, ?_⟩
          exact List.mem_singleton.mp hfirst
        · cases hfirst
      · obtain ⟨other, hmem, himage⟩ := ih hrest
        exact ⟨other, List.mem_cons_of_mem barrier hmem, himage⟩

/-- The steps of barriers agree if the rule about old layouts finds nothing. -/
theorem BarrierRules.agrees_of_oldLayout {recording : Recording} (h : recording.WellFormed)
    {ctx : Context} (hrecording : ctx.recording = some recording) {dependency : Dependency}
    (hoperation : ctx.operation = .record (.barrier dependency)) (hnone : oldLayout ctx = [])
    {family : Nat} {step : LayoutStep}
    (hstep : step ∈ imageBarrierSteps ctx.registry family dependency.imageBarriers) :
    step.Agrees recording.localLayout? := by
  obtain ⟨barrier, hbarrier, image, hget, rfl⟩ := exists_of_mem_imageBarrierSteps hstep
  obtain ⟨index, hindex⟩ := List.mem_iff_getElem?.mp hbarrier
  simp only [oldLayout, onImages, onBarrier, hoperation] at hnone
  have hviolations := List.flatMap_eq_nil_iff.mp hnone (barrier, index)
    (List.mk_mem_zipIdx_iff_getElem?.mpr hindex)
  simp only [hrecording, hget] at hviolations
  right
  intro other i l declared hc hl hdeclared
  obtain ⟨rfl, hi⟩ := LayoutStep.covers_iff.mp hc
  rw [show (LayoutStep.ofBarrier image.info barrier).declared = barrier.oldLayout.declares from rfl,
    ImageLayout.declares] at hdeclared
  split at hdeclared
  · cases hdeclared
  · next hold =>
    obtain rfl := Option.some.inj hdeclared
    rw [if_neg hold] at hviolations
    split at hviolations
    · cases hviolations
    · next hmismatch => exact (Recording.layoutMismatch?_eq_none_iff h).mp hmismatch i l hi hl

/-! ## Barriers that are apart -/

/-- Two image barriers share a subresource. -/
def ImageBarrier.Shares (registry : Registry) (barrier other : ImageBarrier) : Prop :=
  barrier.image = other.image ∧ ∃ image, registry.get? barrier.image = some image
    ∧ ∃ i, (image.info.indexRanges barrier.range).any (·.contains i) = true
      ∧ (image.info.indexRanges other.range).any (·.contains i) = true

/-- No two image barriers of the command share a subresource. -/
def Dependency.Apart (registry : Registry) (dependency : Dependency) : Prop :=
  dependency.imageBarriers.Pairwise fun barrier other => ¬ barrier.Shares registry other

/-- Steps of barriers that share no subresource have none in common. -/
theorem LayoutStep.agreesAfter_of_not_shares {registry : Registry} {barrier other : ImageBarrier}
    (h : ¬ barrier.Shares registry other) {image image' : Image}
    (hget : registry.get? barrier.image = some image)
    (hget' : registry.get? other.image = some image') :
    AgreesAfter (ofBarrier image.info barrier) (ofBarrier image'.info other) := by
  refine agreesAfter_of_disjoint fun handle i hc => ?_
  cases hb : (ofBarrier image.info barrier).covers handle i with
  | false => rfl
  | true =>
    obtain ⟨hhandle, hi⟩ := covers_iff.mp hb
    obtain ⟨hhandle', hi'⟩ := covers_iff.mp hc
    have heq : barrier.image = other.image := hhandle.symm.trans hhandle'
    -- Both barriers are about the same live image.
    have himage : image = image' := by
      rw [heq, hget'] at hget
      exact (Option.some.inj hget).symm
    subst himage
    exact absurd ⟨heq, image, hget, i, hi, hi'⟩ h

theorem imageBarrierSteps_agreesAfter {registry : Registry} (family : Nat)
    {barriers : List ImageBarrier}
    (h : barriers.Pairwise fun barrier other => ¬ barrier.Shares registry other) :
    (imageBarrierSteps registry family barriers).Pairwise LayoutStep.AgreesAfter := by
  induction barriers with
  | nil => exact List.Pairwise.nil
  | cons barrier barriers ih =>
    obtain ⟨hfirst, hrest⟩ := List.pairwise_cons.mp h
    rw [imageBarrierSteps]
    cases hget : registry.get barrier.image with
    | error e => exact List.Pairwise.nil
    | ok image =>
      simp only
      split
      · refine List.pairwise_cons.mpr ⟨fun step hstep => ?_, ih hrest⟩
        -- A later step comes from a later barrier.
        obtain ⟨other, hother, image', hget', rfl⟩ := exists_of_mem_imageBarrierSteps hstep
        exact LayoutStep.agreesAfter_of_not_shares (hfirst other hother)
          (Registry.get_eq_ok.mp hget) hget'
      · exact ih hrest

/-! ## Commands -/

namespace Recorder

open LayoutStep

/-- The steps of a command agree with one another. -/
theorem layoutSteps_agreesAfter {registry : Registry} {command : Command}
    (hapart : ∀ dependency, command = .barrier dependency → dependency.Apart registry)
    (before after : Recording) :
    (command.layoutSteps registry before after).Pairwise AgreesAfter := by
  -- The regions of one command declare the same layout and set none, so that they may overlap.
  have hregions (handle : Handle .image) (layout : ImageLayout) (regions : List SubresourceRange) :
      (regionSteps registry handle layout regions).Pairwise AgreesAfter := by
    rw [regionSteps]
    split
    · exact List.Pairwise.nil
    · refine List.pairwise_map.mpr (List.pairwise_of_forall fun _ _ => ?_)
      exact agreesAfter_of_declares_same rfl rfl
  cases command with
  | barrier dependency => exact imageBarrierSteps_agreesAfter before.family (hapart dependency rfl)
  | clear info => exact hregions _ _ _
  | copy info => exact hregions _ _ _
  | fill buffer data => exact List.Pairwise.nil
  | beginRenderPass info =>
    rw [Command.layoutSteps]
    cases after.renderPass with
    | none => exact List.Pairwise.nil
    | some inst =>
      refine List.pairwise_map.mpr (List.pairwise_of_forall fun _ _ => ?_)
      exact fun known _ => agrees_of_attachment rfl _
  | endRenderPass =>
    rw [Command.layoutSteps]
    cases before.renderPass with
    | none => exact List.Pairwise.nil
    | some inst =>
      refine List.pairwise_map.mpr (List.pairwise_of_forall fun _ _ => ?_)
      exact fun known _ => agrees_of_declared_none rfl _

/-- Without a layout mismatch the steps of a command agree with what the recording knows. -/
theorem layoutSteps_agree {recorder : Recorder} (h : recorder.recording.WellFormed) {d : Device}
    (hengine : d.engine = Standard.engine) {command : Command}
    (hnone : ∀ diagnostic ∈ (recorder.record d command).diagnostics,
      diagnostic.kind ≠ .layoutMismatch) (after : Recording) {step : LayoutStep}
    (hstep : step ∈ command.layoutSteps d.registry recorder.recording after) :
    step.Agrees recorder.recording.localLayout? := by
  rw [record_diagnostics, Device.diagnoseRecording, hengine] at hnone
  cases command with
  | barrier dependency =>
    have hcheck := Standard.reports_oldLayout.check_eq_nil rfl hnone
    exact BarrierRules.agrees_of_oldLayout h rfl rfl hcheck hstep
  | clear info =>
    have hcheck := Standard.reports_clearLayoutMismatch.check_eq_nil rfl hnone
    exact CommandRules.agrees_of_regionLayouts h rfl hcheck hstep
  | copy info =>
    have hcheck := Standard.reports_copyLayoutMismatch.check_eq_nil rfl hnone
    exact CommandRules.agrees_of_regionLayouts h rfl hcheck hstep
  | fill buffer data => cases hstep
  -- No rule looks at the layouts of attachments, and their steps need none.
  | beginRenderPass info =>
    rw [Command.layoutSteps] at hstep
    cases hinst : after.renderPass with
    | none =>
      rw [hinst] at hstep
      cases hstep
    | some inst =>
      rw [hinst] at hstep
      obtain ⟨attachment, -, rfl⟩ := List.mem_map.mp hstep
      exact agrees_of_attachment rfl _
  | endRenderPass =>
    rw [Command.layoutSteps] at hstep
    cases hinst : recorder.recording.renderPass with
    | none =>
      rw [hinst] at hstep
      cases hstep
    | some inst =>
      rw [hinst] at hstep
      obtain ⟨attachment, -, rfl⟩ := List.mem_map.mp hstep
      exact agrees_of_declared_none rfl _

/-- Recording a command without a layout mismatch keeps the knowledge right. -/
theorem record_explains {recorder : Recorder} (h : recorder.recording.WellFormed) {d : Device}
    (hengine : d.engine = Standard.engine) {command : Command}
    (hnone : ∀ diagnostic ∈ (recorder.record d command).diagnostics,
      diagnostic.kind ≠ .layoutMismatch)
    (hapart : ∀ dependency, command = .barrier dependency → dependency.Apart d.registry)
    {steps : List LayoutStep}
    (hexplains : LayoutKnowledge.Explains recorder.recording.localLayout? steps) :
    LayoutKnowledge.Explains (recorder.record d command).state.recording.localLayout?
      (steps ++ recorder.layoutSteps d command) := by
  rw [record_learns h]
  unfold layoutSteps
  split
  · exact hexplains.append (fun step hstep => layoutSteps_agree h hengine hnone _ hstep)
      (layoutSteps_agreesAfter hapart _ _)
  · exact hexplains.append (fun step hstep => by cases hstep) List.Pairwise.nil

end Recorder

/-! ## Submissions -/

/-- The layouts that the subresources of live images are in. -/
def Registry.layoutAt? (r : Registry) : LayoutMap := fun image i =>
  (r.stateAt? (.image image) i).map SubresourceState.layout

/-- What a log knows of the layouts of images. -/
def CommandLog.knowledge (log : CommandLog) : LayoutKnowledge := fun image i =>
  log.localLayout? (.image image) i

namespace Device

variable {d : Device} (queue : Queue) {handle : Handle .commandBuffer} {e : Execution}
  (h : d.execution? queue handle = some e) (hregistry : d.registry.WellFormed)
include h hregistry

/-- After a submission the layouts are the ones that the log leaves. -/
theorem layoutAt?_submitOne (image : Handle .image) (i : Nat) :
    (d.submitOne queue handle).state.registry.layoutAt? image i
      = (d.registry.layoutAt? image i).map (e.log.knowledge.layoutFrom image i) := by
  have hlog := execution_wellFormed queue h hregistry
  have hexecutes := submitOne_executes queue h hregistry
  rw [Registry.layoutAt?, Registry.layoutAt?, hexecutes.stateAt?_eq_getD hregistry hlog, Option.map_map,
    Option.map_map]
  rfl

/-- A submission without a layout mismatch meets the expectations of its log. -/
theorem submitOne_meets (hengine : d.engine = Standard.engine)
    (hnone : ∀ diagnostic ∈ (d.submitOne queue handle).diagnostics,
      diagnostic.kind ≠ .layoutMismatch) :
    e.log.knowledge.Meets d.registry.layoutAt? := by
  have hlog := execution_wellFormed queue h hregistry
  -- The rule about layouts sees the report of the execution, and finds nothing in it.
  have hfindings : e.report.findingsOf .invalidLayout true = [] := by
    obtain ⟨-, hstart, hlog?, -⟩ := execution?_eq_some h
    obtain ⟨cb, hcb, hcblog⟩ := Option.bind_eq_some_iff.mp hlog?
    rw [submitOne_diagnostics hcb, hengine] at hnone
    have hcheck := Standard.reports_layout.check_eq_nil rfl hnone
    simp only [SubmissionRules.layout, SubmissionRules.findings, SubmissionRules.onSubmit,
      SubmissionContext.of, hcblog, Option.map_some, Option.getD_some] at hcheck
    rw [Execution.report, hstart]
    exact List.map_eq_nil_iff.mp hcheck
  intro image i l layout expected hl hexpected hlayout
  obtain ⟨state, hstate, rfl⟩ := Option.map_eq_some_iff.mp hlayout
  refine Classical.byContradiction fun hne => ?_
  -- A subresource in another layout would have been found.
  obtain ⟨states, hstates, hget⟩ := Option.bind_eq_some_iff.mp hstate
  obtain ⟨t, ht, rfl⟩ := Registry.exists_tracked?_of_states? hstates
  obtain ⟨finding, hmem, hresource, hkind⟩ :=
    (CommandLog.mismatch_found_iff hlog hregistry.canonical (.image image)).mpr
      ⟨t, ht, i, state, l, expected, hget, hl, hexpected, hne⟩
  have hfound : finding ∈ e.report.findingsOf .invalidLayout true := by
    obtain ⟨-, hstart, -, -⟩ := execution?_eq_some h
    rw [ReplayReport.findingsOf, Execution.report, hstart]
    refine List.mem_filter.mpr ⟨hmem, ?_⟩
    rw [hresource, hkind]
    rfl
  rw [hfindings] at hfound
  cases hfound

end Device

end VulkanValidity
