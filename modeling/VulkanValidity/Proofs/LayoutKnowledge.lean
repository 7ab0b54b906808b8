/-
  VulkanValidity.Proofs.LayoutKnowledge

  The steps that commands have to do with layouts, and what a recording knows after them.  Recordings
  keep their knowledge in range maps, and every command updates these in a way of its own.  Seen from
  outside all of these updates are the same thing: the recording learns the steps of the command, one
  after the other (`Recorder.record_learns`).
-/

import VulkanValidity.Proofs.LayoutReference
import VulkanValidity.Proofs.Recording

namespace VulkanValidity

/-! ## The steps of commands -/

/-- What an old or initial layout declares; undefined stands for any layout. -/
def ImageLayout.declares (layout : ImageLayout) : Option ImageLayout :=
  if layout = .undefined then none else some layout

namespace LayoutStep

/-- The step of a barrier that performs its transition. -/
def ofBarrier (info : ImageInfo) (barrier : ImageBarrier) : LayoutStep where
  image := barrier.image
  ranges := info.indexRanges barrier.range
  declared := barrier.oldLayout.declares
  sets := some barrier.newLayout

/-- The step of a clear or a copy on a region, which sets nothing. -/
def ofRegion (image : Handle .image) (info : ImageInfo) (layout : ImageLayout)
    (region : SubresourceRange) : LayoutStep where
  image := image
  ranges := info.indexRanges region
  declared := some layout
  sets := none

/-- The step of an attachment when the render pass begins: it is moved to the layout of its first
use. -/
def ofBegin (renderPass : RenderPassInfo)
    (attachment : (BoundView × AttachmentDescription) × Nat) : LayoutStep where
  image := attachment.1.1.view.image
  ranges := attachment.1.1.view.imageInfo.indexRanges attachment.1.1.view.range
  declared := attachment.1.2.initialLayout.declares
  sets := some ((renderPass.firstLayout? attachment.2).getD attachment.1.2.finalLayout)
  attachment := true

/-- The step of an attachment when the render pass ends: it is moved to its final layout. -/
def ofEnd (attachment : BoundView × AttachmentDescription) : LayoutStep where
  image := attachment.1.view.image
  ranges := attachment.1.view.imageInfo.indexRanges attachment.1.view.range
  declared := none
  sets := some attachment.2.finalLayout

end LayoutStep

/-- The steps of image barriers, up to the first image that is not alive. A release between families of
the device leaves the transition to the acquisition, so that it has none. -/
def imageBarrierSteps (registry : Registry) (family : Nat) : List ImageBarrier → List LayoutStep
  | [] => []
  | barrier :: rest =>
    match registry.get barrier.image with
    | .error _ => []
    | .ok image =>
      (if (barrierRole barrier.transfer family).transitions then
        [LayoutStep.ofBarrier image.info barrier] else [])
        ++ imageBarrierSteps registry family rest

/-- The steps of a clear or a copy. -/
def regionSteps (registry : Registry) (handle : Handle .image) (layout : ImageLayout)
    (regions : List SubresourceRange) : List LayoutStep :=
  match registry.get? handle with
  | none => []
  | some image => (image.info.regionsOrWhole regions).map (.ofRegion handle image.info layout)

/-- The steps of a command that was recorded, from the recordings before and after it. -/
def Command.layoutSteps (registry : Registry) (before after : Recording) :
    Command → List LayoutStep
  | .barrier dependency => imageBarrierSteps registry before.family dependency.imageBarriers
  | .beginRenderPass _ =>
    after.renderPass.elim [] fun inst => inst.attachments.zipIdx.map (.ofBegin inst.renderPassInfo)
  | .endRenderPass => before.renderPass.elim [] fun inst => inst.attachments.map .ofEnd
  | .clear info => regionSteps registry info.image info.layout info.regions
  | .copy info => regionSteps registry info.image info.layout info.regions
  | .fill _ _ => []

/-- Whether a command is recorded: a barrier with no other fault than a layout mismatch is. -/
def Recorder.records (recorder : Recorder) (d : Device) (command : Command) : Bool :=
  match command with
  | .barrier _ => !hasStructuralError (recorder.record d command).diagnostics
  | _ => (recorder.record d command).result.isOk

/-- The steps that a recorder adds with a command. -/
def Recorder.layoutSteps (recorder : Recorder) (d : Device) (command : Command) :
    List LayoutStep :=
  if recorder.records d command then
    command.layoutSteps d.registry recorder.recording (recorder.record d command).state.recording
  else []

/-! ## Learning -/

namespace Recording

open LayoutStep

/-- An update of the known layouts that does on each subresource what the step teaches. -/
theorem localLayout?_updateLayouts_eq_learn {recording : Recording}
    (h : LayoutsWellFormed recording.layouts) {info : ImageInfo} {range : SubresourceRange}
    {f : Option LocalLayout → Option LocalLayout} (step : LayoutStep)
    (hranges : step.ranges = info.indexRanges range)
    (hf : ∀ known, (f known).or known = step.learned known) :
    (recording.updateLayouts step.image info range f).localLayout?
      = step.learn recording.localLayout? := by
  funext image i
  rw [localLayout?_updateLayouts h, ← hranges]
  cases hc : step.covers image i with
  | true =>
    have hcovers := covers_iff.mp hc
    rw [if_pos hcovers, learn_of_covers hc, hf, hcovers.1]
  | false =>
    have hcovers : ¬ (image = step.image ∧ step.ranges.any (·.contains i) = true) := by
      rw [← covers_iff, hc]
      exact Bool.false_ne_true
    rw [if_neg hcovers, learn_of_not_covers hc]

theorem transition_or (old new : ImageLayout) {step : LayoutStep}
    (hdeclared : step.declared = old.declares) (hsets : step.sets = some new)
    (known : Option LocalLayout) :
    (LocalLayout.transition old new known).or known = step.learned known := by
  cases known with
  | none =>
    rw [learned, hdeclared, hsets]
    rfl
  | some l =>
    rw [learned, hsets]
    rfl

theorem use_or (layout : ImageLayout) {step : LayoutStep} (hdeclared : step.declared = some layout)
    (hsets : step.sets = none) (known : Option LocalLayout) :
    (LocalLayout.use layout known).or known = step.learned known := by
  cases known with
  | none =>
    rw [learned, hdeclared, hsets]
    rfl
  | some l =>
    rw [learned, hsets]
    rfl

/-- Only the known layouts count for what is known. -/
theorem localLayout?_congr {recording recording' : Recording}
    (h : recording.layouts = recording'.layouts) :
    recording.localLayout? = recording'.localLayout? := by
  funext image i
  rw [localLayout?, localLayout?, layoutsOf?, layoutsOf?, h]

/-- A fold learns the steps of its list, if each of its steps learns one. -/
theorem localLayout?_foldl {α : Type} {f : Recording → α → Recording} {g : α → LayoutStep}
    (hwell : ∀ recording a, recording.WellFormed → (f recording a).WellFormed)
    (hf : ∀ (recording : Recording) a, recording.WellFormed →
      (f recording a).localLayout? = (g a).learn recording.localLayout?)
    (l : List α) {recording : Recording} (h : recording.WellFormed) :
    (l.foldl f recording).localLayout? = learnAll recording.localLayout? (l.map g) := by
  induction l generalizing recording with
  | nil => rfl
  | cons a l ih =>
    rw [List.foldl_cons, ih (hwell recording a h), hf recording a h]
    rfl

section Commands

variable {recording : Recording} (h : recording.WellFormed)
include h

theorem localLayout?_imageBarrier (info : ImageInfo) (barrier : ImageBarrier) :
    (recording.imageBarrier info barrier).localLayout?
      = learnAll recording.localLayout?
        (if (barrierRole barrier.transfer recording.family).transitions then
          [ofBarrier info barrier] else []) := by
  unfold imageBarrier
  simp only
  rw [accessImage, localLayout?_congr (access_layouts _ _)]
  split
  · exact localLayout?_updateLayouts_eq_learn h.layouts (ofBarrier info barrier) rfl
      (transition_or barrier.oldLayout barrier.newLayout rfl rfl)
  · rfl

theorem localLayout?_writeRegion (image : Handle .image) (info : ImageInfo) (layout : ImageLayout)
    (region : SubresourceRange) :
    (recording.writeRegion image info layout region).localLayout?
      = (ofRegion image info layout region).learn recording.localLayout? := by
  rw [writeRegion, accessImage, localLayout?_congr (access_layouts _ _)]
  exact localLayout?_updateLayouts_eq_learn h.layouts (ofRegion image info layout region) rfl
    (use_or layout rfl rfl)

theorem localLayout?_beginAttachment (renderPass : RenderPassInfo)
    (attachment : (BoundView × AttachmentDescription) × Nat) :
    (recording.beginAttachment renderPass attachment).localLayout?
      = (ofBegin renderPass attachment).learn recording.localLayout? := by
  have hreferenced := h.reference attachment.1.1.handle.erase
  have hlearn := localLayout?_updateLayouts_eq_learn hreferenced.layouts
    (ofBegin renderPass attachment) rfl (transition_or attachment.1.2.initialLayout
      ((renderPass.firstLayout? attachment.2).getD attachment.1.2.finalLayout) rfl rfl)
  rw [localLayout?_congr (reference_layouts recording _)] at hlearn
  rw [beginAttachment, accessImage, localLayout?_congr (access_layouts _ _)]
  exact hlearn

theorem localLayout?_endAttachment (attachment : BoundView × AttachmentDescription) :
    (recording.endAttachment attachment).localLayout?
      = (ofEnd attachment).learn recording.localLayout? :=
  localLayout?_updateLayouts_eq_learn h.layouts (ofEnd attachment) rfl
    (transition_or .undefined attachment.2.finalLayout rfl rfl)

theorem localLayout?_writeRegions (image : Handle .image) (info : ImageInfo) (layout : ImageLayout)
    (regions : List SubresourceRange) :
    (recording.writeRegions image info layout regions).localLayout?
      = learnAll recording.localLayout?
        ((info.regionsOrWhole regions).map (ofRegion image info layout)) :=
  localLayout?_foldl (fun _ region hr => hr.writeRegion image info layout region)
    (fun _ region hr => localLayout?_writeRegion hr image info layout region) _ h

theorem localLayout?_beginRenderPass (inst : RenderPassInstance) :
    (recording.beginRenderPass inst).localLayout?
      = learnAll recording.localLayout?
        (inst.attachments.zipIdx.map (ofBegin inst.renderPassInfo)) := by
  have hreferenced := (h.reference inst.renderPass.erase).reference inst.framebuffer.erase
  have hbegun := localLayout?_foldl
    (fun _ attachment hr => hr.beginAttachment inst.renderPassInfo attachment)
    (fun _ attachment hr => localLayout?_beginAttachment hr inst.renderPassInfo attachment)
    inst.attachments.zipIdx hreferenced
  rw [localLayout?_congr (reference_layouts _ _), localLayout?_congr (reference_layouts _ _)]
    at hbegun
  exact hbegun

theorem localLayout?_endRenderPass :
    recording.endRenderPass.localLayout?
      = learnAll recording.localLayout?
        (recording.renderPass.elim [] fun inst => inst.attachments.map ofEnd) := by
  unfold endRenderPass
  cases recording.renderPass with
  | none => rfl
  | some inst =>
    have hclosed : ({ recording with renderPass := none } : Recording).WellFormed :=
      ⟨h.layouts, h.accesses⟩
    exact localLayout?_foldl (fun _ attachment hr => hr.endAttachment attachment)
      (fun _ attachment hr => localLayout?_endAttachment hr attachment) inst.attachments hclosed

end Commands

end Recording

/-! ## Recorders -/

namespace Recorder

open LayoutStep

@[simp] theorem imageBarrier_family (recording : Recording) (info : ImageInfo)
    (barrier : ImageBarrier) : (recording.imageBarrier info barrier).family = recording.family := by
  unfold Recording.imageBarrier
  simp only
  rw [Recording.accessImage, Recording.access_family]
  split <;> rfl

theorem imageBarriers_learns (registry : Registry) {recording : Recording}
    (h : recording.WellFormed) (barriers : List ImageBarrier) :
    (imageBarriers registry recording barriers).1.localLayout?
      = learnAll recording.localLayout? (imageBarrierSteps registry recording.family barriers) := by
  induction barriers generalizing recording with
  | nil => rfl
  | cons barrier barriers ih =>
    rw [imageBarriers, imageBarrierSteps]
    cases registry.get barrier.image with
    | error e => rfl
    | ok image =>
      have hrest := ih (h.imageBarrier image.info barrier)
      rw [imageBarrier_family, Recording.localLayout?_imageBarrier h] at hrest
      simp only
      rw [hrest]
      exact List.foldl_append.symm

theorem bufferBarriers_layouts (registry : Registry) (recording : Recording)
    (barriers : List BufferBarrier) :
    (bufferBarriers registry recording barriers).1.layouts = recording.layouts := by
  induction barriers generalizing recording with
  | nil => rfl
  | cons barrier barriers ih =>
    rw [bufferBarriers]
    cases registry.get barrier.buffer with
    | error e => rfl
    | ok buffer => exact (ih _).trans (Recording.access_layouts _ _)

theorem barriers_learns (registry : Registry) {recording : Recording} (h : recording.WellFormed)
    (dependency : Dependency) :
    (barriers registry recording dependency).1.localLayout?
      = learnAll recording.localLayout?
        (imageBarrierSteps registry recording.family dependency.imageBarriers) := by
  have himages := imageBarriers_learns registry h dependency.imageBarriers
  rw [barriers]
  split
  · next heq => rwa [heq] at himages
  · next heq =>
    rw [heq] at himages
    rw [Recording.localLayout?_congr (bufferBarriers_layouts registry _ _)]
    exact himages

theorem perform_learns {registry : Registry} {recording recording' : Recording}
    (h : recording.WellFormed) {command : Command}
    (hbarrier : ∀ dependency, command ≠ .barrier dependency)
    (hp : perform registry recording command = .ok recording') :
    recording'.localLayout?
      = learnAll recording.localLayout? (command.layoutSteps registry recording recording') := by
  cases command with
  | barrier dependency => exact absurd rfl (hbarrier dependency)
  | clear info =>
    obtain ⟨image, hget, hp⟩ := bind_eq_ok.mp hp
    obtain rfl := pure_eq_ok.mp hp
    rw [Command.layoutSteps, regionSteps, Registry.get_eq_ok.mp hget]
    exact Recording.localLayout?_writeRegions h _ _ _ _
  | copy info =>
    obtain ⟨buffer, -, hp⟩ := bind_eq_ok.mp hp
    obtain ⟨image, hget, hp⟩ := bind_eq_ok.mp hp
    obtain rfl := pure_eq_ok.mp hp
    -- Reading the buffer teaches nothing about layouts.
    have haccessed :
        (recording.accessBuffer info.buffer (Recording.transferEffect false)).WellFormed :=
      h.accessBuffer info.buffer fun _ _ heffect => by cases heffect
    have hknown : (recording.accessBuffer info.buffer
        (Recording.transferEffect false)).localLayout? = recording.localLayout? :=
      Recording.localLayout?_congr (Recording.access_layouts _ _)
    rw [Command.layoutSteps, regionSteps, Registry.get_eq_ok.mp hget,
      Recording.localLayout?_writeRegions haccessed, hknown]
  | fill buffer data =>
    obtain ⟨_, -, hp⟩ := bind_eq_ok.mp hp
    obtain rfl := pure_eq_ok.mp hp
    exact Recording.localLayout?_congr (Recording.access_layouts _ _)
  | beginRenderPass info =>
    obtain ⟨renderPass, -, hp⟩ := bind_eq_ok.mp hp
    obtain ⟨framebuffer, -, hp⟩ := bind_eq_ok.mp hp
    obtain ⟨views, -, hp⟩ := bind_eq_ok.mp hp
    obtain rfl := pure_eq_ok.mp hp
    exact Recording.localLayout?_beginRenderPass h _
  | endRenderPass =>
    obtain rfl := Except.ok.inj hp
    exact Recording.localLayout?_endRenderPass h

theorem record_diagnostics (recorder : Recorder) (d : Device) (command : Command) :
    (recorder.record d command).diagnostics
      = d.diagnoseRecording recorder.recording (.record command) := by
  cases command with
  | barrier dependency =>
    simp only [record, recordBarrier]
    split <;> rfl
  | _ => exact Outcome.guarded_diagnostics _ _ _

/-- Any command but a barrier is recorded as a whole or not at all. -/
theorem records_eq_isOk (recorder : Recorder) (d : Device) {command : Command}
    (h : ∀ dependency, command ≠ .barrier dependency) :
    recorder.records d command = (recorder.record d command).result.isOk := by
  cases command with
  | barrier dependency => exact absurd rfl (h dependency)
  | _ => rfl

/-- What a barrier command records, if it has no other fault than a layout mismatch. -/
theorem record_barrier (recorder : Recorder) (d : Device) (dependency : Dependency) :
    (recorder.record d (.barrier dependency)).state.recording
      = if recorder.records d (.barrier dependency) then
          (barriers d.registry recorder.recording dependency).1 else recorder.recording := by
  rw [records, record_diagnostics]
  simp only [record, recordBarrier]
  cases hasStructuralError (d.diagnoseRecording recorder.recording
    (.record (.barrier dependency))) <;> rfl

/-- After a command the recording knows what it knew before and what the steps of the command teach. -/
theorem record_learns {recorder : Recorder} (h : recorder.recording.WellFormed) (d : Device)
    (command : Command) :
    (recorder.record d command).state.recording.localLayout?
      = learnAll recorder.recording.localLayout? (recorder.layoutSteps d command) := by
  by_cases hbarrier : ∃ dependency, command = .barrier dependency
  · obtain ⟨dependency, rfl⟩ := hbarrier
    rw [layoutSteps, record_barrier]
    cases recorder.records d (.barrier dependency) with
    | false => rfl
    | true => exact barriers_learns d.registry h dependency
  · have hcommand := not_exists.mp hbarrier
    rw [layoutSteps, recorder.records_eq_isOk d hcommand]
    rcases recorder.record_cases d hcommand with ⟨hs, e, he⟩ | ⟨recording, hperform, hs, hr⟩
    · rw [hs, he]
      rfl
    · rw [hs, hr]
      exact perform_learns h hcommand hperform

end Recorder

end VulkanValidity
