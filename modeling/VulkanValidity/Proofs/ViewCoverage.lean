/-
  VulkanValidity.Proofs.ViewCoverage

  What views select of their images.  The rules about views make sure of mip levels and layers: a view has
  at least one of each, and its image has them all (`ImageView.InBounds`).  No rule is about aspects.  So
  a view covers a subresource exactly if it names one of the aspects of its image
  (`ImageView.InBounds.covers_iff`), and only then does a render pass record a layout for it.
-/

import VulkanValidity.Proofs.RenderPassLayouts
import VulkanValidity.Proofs.SubresourceNumbers

namespace VulkanValidity

/-! ## Views that the rules accept -/

/-- The view has mip levels and layers, and its image has them.  The layers of a view of a 3D image can be
depth slices, and are not tracked. -/
structure ImageView.InBounds (view : ImageView) : Prop where
  someLevel : view.range.mipLevels.start < view.range.mipLevels.stop
  levels : view.range.mipLevels.stop ≤ view.imageInfo.mipLevels
  someLayer : view.range.arrayLayers.start < view.range.arrayLayers.stop
  layers : view.imageInfo.imageType ≠ .dim3d →
    view.range.arrayLayers.stop ≤ view.imageInfo.arrayLayers

namespace Standard

theorem reports_viewLevelCount :
    engine.Reports .resourceCreation .invalidParams ImageViewRules.mipLevelCount :=
  reports_rule imageViewRules 1

theorem reports_viewLayerCount :
    engine.Reports .resourceCreation .invalidParams ImageViewRules.arrayLayerCount :=
  reports_rule imageViewRules 3

variable {d : Device} (hengine : d.engine = engine) {info : ImageViewInfo}
  (haccepted : verdict (d.diagnose (.createImageView info)) = .ok ()) {image : Image}
  (hget : d.registry.get? info.image = some image)
include hengine haccepted hget

theorem imageView_check_eq_nil {check : Context → ImageViewInfo → ImageInfo → List Violation}
    (hreports : engine.Reports .resourceCreation .invalidParams (ImageViewRules.onCreate check)) :
    check (d.context (.createImageView info)) info image.info = [] := by
  rw [Device.diagnose, hengine] at haccepted
  have hcheck := check_eq_nil hreports rfl haccepted
  simpa only [ImageViewRules.onCreate, Device.context, hget] using hcheck

theorem imageView_inBounds_of_accepted : (ImageView.ofInfo info image.info).InBounds := by
  have hlevels := violationIf_eq_nil.mp
    (imageView_check_eq_nil hengine haccepted hget reports_viewLevelCount)
  have hlayers := violationIf_eq_nil.mp
    (imageView_check_eq_nil hengine haccepted hget reports_viewLayerCount)
  simp only [Bool.or_eq_false_iff, Interval.isEmpty, decide_eq_false_iff_not, Nat.not_le, Nat.not_lt]
    at hlevels hlayers
  refine ⟨hlevels.1, hlevels.2, hlayers.1, fun (htype : image.info.imageType ≠ .dim3d) => ?_⟩
  -- The layers of other than 3D images are array layers.
  have hslices : ImageViewRules.showsSlices info image.info = false := by
    rw [ImageViewRules.showsSlices, beq_eq_false_iff_ne.mpr htype, Bool.false_and]
  have hlimit : ImageViewRules.layerLimit info image.info = image.info.arrayLayers := by
    rw [ImageViewRules.layerLimit, hslices]
    rfl
  exact hlimit ▸ hlayers.2

end Standard

/-- The views of a session on the standard engine are within the bounds of their images. -/
theorem Session.Reachable.viewsInBounds {s : Session} (h : s.Reachable)
    (hengine : s.device.engine = Standard.engine) (handle : Handle .imageView) (view : ImageView)
    (hget : s.device.registry.get? handle = some view) : view.InBounds := by
  refine h.keeps (P := fun s => s.device.engine = Standard.engine →
      ∀ (handle : Handle .imageView) (view : ImageView), s.device.registry.get? handle = some view →
        view.InBounds)
    (fun environment engine _ handle view hget => by cases hget)
    (fun s call _ _ ih hafter handle view hget => ?_)
    (fun s queue submitted _ ih hafter handle view hget => ?_) hengine handle view hget
  · have hbefore := (s.step_transition call).engine.symm.trans hafter
    rcases s.imageView_step call hget with hold | ⟨-, info, image, haccepted, himage, rfl⟩
    · exact ih hbefore handle view hold
    · exact Standard.imageView_inBounds_of_accepted hbefore haccepted himage
  · -- An execution makes no view.
    have hbefore := (s.device.submitOne_engine queue submitted).symm.trans hafter
    have hsame : (s.device.submitOne queue submitted).state.registry.get? handle
        = s.device.registry.get? handle :=
      congrArg (Store.get? · handle) (Device.objects_submitOne (by decide) (by decide) (by decide)
        s.device queue submitted)
    exact ih hbefore handle view (hsame.symm.trans hget)

/-- A view within the bounds of its image covers a subresource if it names one of the image's aspects. -/
theorem ImageView.InBounds.covers_iff {view : ImageView} (h : view.InBounds) :
    (∃ i, view.imageInfo.Covers view.range i)
      ↔ view.range.aspects.intersects view.imageInfo.aspects = true := by
  rw [ImageInfo.intersects_aspects]
  constructor
  · rintro ⟨-, position, aspect, -, -, haspect, hselected, -⟩
    exact ⟨aspect, List.mem_of_getElem? haspect, hselected⟩
  · rintro ⟨aspect, hmem, hselected⟩
    obtain ⟨position, haspect⟩ := List.mem_iff_getElem?.mp hmem
    -- The first level of the view, and its first layer unless the image has only one.
    have hlevel := h.someLevel
    have hlevels := h.levels
    refine ⟨_, position, aspect, view.range.mipLevels.start,
      if view.imageInfo.imageType = .dim3d then 0 else view.range.arrayLayers.start, haspect, hselected,
      ⟨by omega, Interval.contains_iff.mpr ⟨Nat.le_refl _, hlevel⟩⟩, ?_, rfl⟩
    rw [ImageInfo.trackedLayers]
    split
    · next htype => exact ⟨Nat.one_pos, Or.inl htype⟩
    · next htype =>
      have hlayer := h.someLayer
      have hlayers := h.layers htype
      exact ⟨by omega, Or.inr (Interval.contains_iff.mpr ⟨Nat.le_refl _, hlayer⟩)⟩

/-! ## What render passes record -/

namespace Recording

open LayoutStep

variable {recording : Recording} (h : recording.WellFormed) {inst : RenderPassInstance}
include h

/-- The begin of a render pass makes known what its attachments cover, and nothing else. -/
theorem isSome_beginRenderPass {image : Handle .image} {i : Nat} :
    ((recording.beginRenderPass inst).localLayout? image i).isSome = true
      ↔ (recording.localLayout? image i).isSome = true
        ∨ ∃ attachment ∈ inst.attachments, attachment.1.Covers image i := by
  rw [localLayout?_beginRenderPass h, isSome_learnAll]
  · refine or_congr_right ?_
    constructor
    · rintro ⟨step, hstep, hcovers⟩
      obtain ⟨⟨attachment, k⟩, hmem, rfl⟩ := List.mem_map.mp hstep
      exact ⟨attachment, List.fst_mem_of_mem_zipIdx hmem, covers_ofBegin.mp hcovers⟩
    · rintro ⟨attachment, hmem, hcovers⟩
      obtain ⟨k, hk⟩ := List.mem_iff_getElem?.mp hmem
      have hplace : (attachment, k) ∈ inst.attachments.zipIdx := List.mem_zipIdx_iff_getElem?.mpr hk
      exact ⟨_, List.mem_map_of_mem hplace, covers_ofBegin.mpr hcovers⟩
  · intro step hstep
    obtain ⟨attachment, -, rfl⟩ := List.mem_map.mp hstep
    rfl

/-- What is known at the end of a render pass stays known. -/
theorem isSome_endRenderPass {image : Handle .image} {i : Nat}
    (hknown : (recording.localLayout? image i).isSome = true) :
    (recording.endRenderPass.localLayout? image i).isSome = true := by
  obtain ⟨l, hl⟩ := Option.isSome_iff_exists.mp hknown
  rw [localLayout?_endRenderPass h, learnAll_of_some hl]
  rfl

end Recording

/-- What views select in a session on the standard engine.  A live view has tracked subresources exactly if it
names one of the aspects of its image, whatever its levels and layers are.  A render pass that begins makes
known the layouts of the subresources that its attachments cover, and of no others, and they are known when
it has ended.  So there is one for an attachment exactly if its view names an aspect of its image. -/
theorem views_select_by_aspect {s : Session} (h : s.Reachable)
    (hengine : s.device.engine = Standard.engine) :
    (∀ (handle : Handle .imageView) (view : ImageView), s.device.registry.get? handle = some view →
      (view.imageInfo.indexRanges view.range ≠ []
        ↔ view.range.aspects.intersects view.imageInfo.aspects = true))
    ∧ ∀ (key : ℕ) (before : Recorder) (info : RenderPassBegin), s.recorder? key = some before →
      (s.step (.record key (.beginRenderPass info))).result = .ok .done →
      ∃ begun inst, (s.step (.record key (.beginRenderPass info))).state.recorder? key = some begun
        ∧ begun.recording.renderPass = some inst
        ∧ (s.FewObjects → inst.attachments.length = inst.renderPassInfo.attachments.length)
        ∧ (∀ attachment ∈ inst.attachments,
          (∃ i, attachment.1.Covers attachment.1.view.image i)
            ↔ attachment.1.view.range.aspects.intersects attachment.1.view.imageInfo.aspects = true)
        ∧ (∀ image i, (begun.recording.localLayout? image i).isSome = true
          ↔ (before.recording.localLayout? image i).isSome = true
            ∨ ∃ attachment ∈ inst.attachments, attachment.1.Covers image i)
        ∧ ∀ between, .record key .endRenderPass ∉ between → ∀ ending,
          ((s.step (.record key (.beginRenderPass info))).state.run between).recorder? key = some ending →
          ∃ ended, (((s.step (.record key (.beginRenderPass info))).state.run between).step
              (.record key .endRenderPass)).state.recorder? key = some ended
            ∧ ∀ attachment ∈ inst.attachments, ∀ image i, attachment.1.Covers image i →
              (ended.recording.localLayout? image i).isSome = true := by
  refine ⟨fun handle view hget => ?_, fun key before info hr hok => ?_⟩
  · rw [ImageInfo.indexRanges_ne_nil]
    exact (h.viewsInBounds hengine handle view hget).covers_iff
  obtain ⟨inst, framebuffer, hbegins, hbegun⟩ := Session.exists_begins hr hok
  have hinst : (before.record s.device (.beginRenderPass info)).state.recording.renderPass = some inst := by
    rw [hbegins.recording]
    rfl
  have hbegin (image : Handle .image) (i : ℕ) :
      ((before.record s.device (.beginRenderPass info)).state.recording.localLayout? image i).isSome = true
        ↔ (before.recording.localLayout? image i).isSome = true
          ∨ ∃ attachment ∈ inst.attachments, attachment.1.Covers image i := by
    rw [hbegins.recording]
    exact Recording.isSome_beginRenderPass (h.wellFormed.recordings key before hr)
  refine ⟨_, inst, hbegun, hinst, fun hfew => ?_, fun attachment hmem => ?_, hbegin,
    fun between hend ending hending => ?_⟩
  · have hlength := hbegins.length_views hengine (h.attachmentsFit hengine hfew)
    rw [RenderPassInstance.attachments, List.length_zip, hlength, Nat.min_self]
  · -- The views of the attachments are alive when the render pass begins.
    obtain ⟨k, hk⟩ := List.mem_iff_getElem?.mp (List.of_mem_zip hmem).1
    obtain ⟨handle, -, -, hview⟩ :=
      exists_getElem?_of_forall₂ (Recorder.beginViews_forall₂ hbegins.views) hk
    rw [← (h.viewsInBounds hengine handle attachment.1.view hview).covers_iff]
    exact exists_congr fun i => and_iff_right rfl
  · have hreachable := h.call (.record key (.beginRenderPass info))
    have hengine' := (s.step_transition (.record key (.beginRenderPass info))).engine.trans hengine
    have hpass := Session.InsidePass.start hreachable hbegun hinst
    have hinside := (hpass.run hreachable hengine' hend).recorder ending hending
    obtain ⟨-, hended⟩ := Session.step_endRenderPass ((Session.run_engine _ between).trans hengine') hending
      hinside.renderPass
    refine ⟨_, hended, fun attachment hmem image i hcovers => ?_⟩
    obtain ⟨l, hl⟩ :=
      Option.isSome_iff_exists.mp ((hbegin image i).mpr (Or.inr ⟨attachment, hmem, hcovers⟩))
    obtain ⟨l', hl', -⟩ := hinside.expected image i l hl
    exact Recording.isSome_endRenderPass ((hreachable.run between).wellFormed.recordings key ending hending)
      (Option.isSome_iff_exists.mpr ⟨l', hl'⟩)

/-- The view of a color image names its color aspect, and a render pass with it records a layout. -/
theorem secondPass_records_layout :
    compatiblePasses.Reachable
    ∧ (∃ view : ImageView, compatiblePasses.device.registry.get? (.ofSerial .imageView 5) = some view
      ∧ view.imageInfo.indexRanges view.range ≠ [])
    ∧ ∃ (begun ended : Recorder) (inst : RenderPassInstance) (bound : BoundView) (i : ℕ),
      begun.recording.renderPass = some inst ∧ inst.views[0]? = some bound
      ∧ (begun.recording.localLayout? bound.view.image i).isSome = true
      ∧ ((compatiblePasses.run [.record 0 (.beginRenderPass secondPass), .record 0 .endRenderPass]).recorder? 0
        = some ended)
      ∧ (ended.recording.localLayout? bound.view.image i).isSome = true := by
  have hreachable : compatiblePasses.Reachable := (Session.Reachable.start {} Standard.engine).run _
  obtain ⟨hviews, hpasses⟩ :=
    views_select_by_aspect hreachable (Session.run_engine (.start {} Standard.engine) _)
  refine ⟨hreachable, ?_, ?_⟩
  · have haspects : (compatiblePasses.device.registry.get? (.ofSerial .imageView 5)).map
        (fun view : ImageView => view.range.aspects.intersects view.imageInfo.aspects) = some true := by
      decide +kernel
    obtain ⟨view, hget, haspects⟩ := Option.map_eq_some_iff.mp haspects
    exact ⟨view, hget, (hviews _ view hget).mpr haspects⟩
  · obtain ⟨before, hbefore⟩ : ∃ before, compatiblePasses.recorder? 0 = some before :=
      Option.isSome_iff_exists.mp (by decide +kernel)
    have hok : (compatiblePasses.step (.record 0 (.beginRenderPass secondPass))).result = .ok .done :=
      Outcome.value?_eq_some.mp (by decide +kernel)
    obtain ⟨begun, inst, hbegun, hinst, -, hcovers, hbegin, hend⟩ := hpasses 0 before _ hbefore hok
    -- There is one attachment, and its view names an aspect of its image.
    have hfirst : ((compatiblePasses.step (.record 0 (.beginRenderPass secondPass))).state.recorder? 0).bind
        (fun recorder => recorder.recording.renderPass.bind fun inst => inst.attachments[0]?.map
          fun attachment => attachment.1.view.range.aspects.intersects attachment.1.view.imageInfo.aspects)
        = some true := by
      decide +kernel
    rw [hbegun, Option.bind_some, hinst, Option.bind_some] at hfirst
    obtain ⟨⟨bound, description⟩, hattachment, haspects⟩ := Option.map_eq_some_iff.mp hfirst
    have hmem := List.mem_of_getElem? hattachment
    obtain ⟨i, hi⟩ := (hcovers _ hmem).mpr haspects
    obtain ⟨ended, hended, hknown⟩ := hend [] (by simp) begun hbegun
    exact ⟨begun, ended, inst, bound, i, hinst, (List.getElem?_zip_eq_some.mp hattachment).1,
      (hbegin _ i).mpr (Or.inr ⟨_, hmem, hi⟩), hended, hknown _ hmem _ i hi⟩

/-- A framebuffer with a view of the depth aspect of a color image, and a command buffer to record. -/
def depthOfColor : Session :=
  (Session.start {} Standard.engine).run
    [.createImage { format := .r8g8b8a8Unorm, extent := ⟨4, 4, 1⟩, usage := .colorAttachment },
      .allocateMemory { size := 65536 },
      .bindImage (.ofSerial .image 1) (.ofSerial .deviceMemory 2) 0,
      .createImageView { image := .ofSerial .image 1, range := ⟨.depth, ⟨0, 1⟩, ⟨0, 1⟩⟩ },
      .createRenderPass {
        attachments := [{ format := .r8g8b8a8Unorm, finalLayout := .general }]
        subpasses := [{ color := [⟨0, .general⟩] }] },
      .createFramebuffer {
        renderPass := .ofSerial .renderPass 4, attachments := .views [.ofSerial .imageView 3]
        width := 4, height := 4 },
      .beginCommandBuffer ⟨0, 0⟩ none .multipleSubmit]

/-- The view is accepted and covers nothing, and so does a render pass that begins and ends with it: the
layout of the only subresource of the image is not known at any time. -/
theorem depthOfColor_selects_nothing :
    let beginPass : Call := .record 0 (.beginRenderPass {
      renderPass := .ofSerial .renderPass 4, framebuffer := .ofSerial .framebuffer 5 })
    let known (s : Session) : Option (Option LocalLayout) :=
      (s.recorder? 0).map fun recorder => recorder.recording.localLayout? (.ofSerial .image 1) 0
    depthOfColor.Reachable ∧ depthOfColor.device.engine = Standard.engine
    ∧ (depthOfColor.device.registry.get? (.ofSerial .image 1)).map
      (fun image : Image => image.info.trackedSize) = some 1
    ∧ (depthOfColor.device.registry.get? (.ofSerial .imageView 3)).map
      (fun view : ImageView => view.imageInfo.indexRanges view.range) = some []
    ∧ (depthOfColor.step beginPass).result = .ok .done
    ∧ known (depthOfColor.step beginPass).state = some none
    ∧ ((depthOfColor.step beginPass).state.step (.record 0 .endRenderPass)).result = .ok .done
    ∧ known ((depthOfColor.step beginPass).state.step (.record 0 .endRenderPass)).state = some none := by
  intro beginPass known
  refine ⟨(Session.Reachable.start {} Standard.engine).run _,
    Session.run_engine (.start {} Standard.engine) _, by decide +kernel, by decide +kernel, ?_, by decide +kernel,
    ?_, by decide +kernel⟩
  · exact Outcome.value?_eq_some.mp (by decide +kernel)
  · exact Outcome.value?_eq_some.mp (by decide +kernel)

end VulkanValidity
