/-
  VulkanValidity.Proofs.Accesses

  The accesses that commands record.  A recording gathers them one by one, between what the commands say
  of layouts and what they refer to.  Seen from outside, a command that is recorded appends a list of
  accesses (`Recorder.record_appends`), which depends on the live resources, on the family of the command
  buffer and on the render pass, but on nothing that was recorded before.
-/

import VulkanValidity.Proofs.Rejection

namespace VulkanValidity

/-! ## Appending accesses -/

/-- The recording `recording'` is `recording` with some accesses appended, whatever else has changed. -/
structure Recording.Appends (recording recording' : Recording) (added : List Access) : Prop where
  family : recording'.family = recording.family
  accesses : recording'.accesses = recording.accesses ++ added

namespace Recording.Appends

variable {recording recording' recording'' : Recording} {added more : List Access}

theorem refl (recording : Recording) : Appends recording recording [] :=
  ⟨rfl, (List.append_nil _).symm⟩

theorem trans (h : Appends recording recording' added) (h' : Appends recording' recording'' more) :
    Appends recording recording'' (added ++ more) where
  family := h'.family.trans h.family
  accesses := by rw [h'.accesses, h.accesses, List.append_assoc]

/-- An access of the recording was there before, or is one of those that are appended. -/
theorem mem (h : Appends recording recording' added) {access : Access}
    (haccess : access ∈ recording'.finish.accesses) :
    access ∈ recording.accesses ∨ access ∈ added := by
  have hmem : access ∈ recording'.accesses := haccess
  rwa [h.accesses, List.mem_append] at hmem

theorem reference (recording : Recording) (id : ObjectId) :
    Appends recording (recording.reference id) [] where
  family := recording.reference_family id
  accesses := by rw [reference_accesses, List.append_nil]

theorem updateLayouts (recording : Recording) (image : Handle .image) (info : ImageInfo)
    (range : SubresourceRange) (f : Option LocalLayout → Option LocalLayout) :
    Appends recording (recording.updateLayouts image info range f) [] :=
  ⟨rfl, (List.append_nil _).symm⟩

theorem access (recording : Recording) (access : Access) :
    Appends recording (recording.access access) [access] :=
  ⟨recording.access_family access, recording.access_accesses access⟩

/-- A fold appends what its steps append, in the family that they leave alone. -/
theorem foldl {α : Type} {f : Recording → α → Recording} {g : α → List Access} {family : Nat}
    (hf : ∀ (recording : Recording) a, recording.family = family →
      Appends recording (f recording a) (g a))
    (l : List α) {recording : Recording} (hfamily : recording.family = family) :
    Appends recording (l.foldl f recording) (l.flatMap g) := by
  induction l generalizing recording with
  | nil => exact refl recording
  | cons a l ih =>
    have hfirst := hf recording a hfamily
    exact hfirst.trans (ih (hfirst.family.trans hfamily))

end Recording.Appends

/-! ## The accesses of commands -/

namespace Access

/-- The access that an image barrier is recorded as, by a command buffer of the family. -/
def ofImageBarrier (family : Nat) (info : ImageInfo) (barrier : ImageBarrier) : Access :=
  ⟨.image barrier.image, info.indexRanges barrier.range,
    ⟨(barrierRole barrier.transfer family).kind, barrier.dstStages, false⟩⟩

/-- The access that a buffer barrier is recorded as, by a command buffer of the family. -/
def ofBufferBarrier (family : Nat) (barrier : BufferBarrier) : Access :=
  ⟨.buffer barrier.buffer, [bufferRange],
    ⟨(barrierRole barrier.transfer family).kind, barrier.dstStages, false⟩⟩

/-- The access of a clear or a copy to a region of an image. -/
def ofRegion (image : Handle .image) (info : ImageInfo) (region : SubresourceRange) : Access :=
  ⟨.image image, info.indexRanges region, Recording.transferEffect true⟩

/-- The access of a transfer command to a buffer. -/
def ofTransfer (write : Bool) (buffer : Handle .buffer) : Access :=
  ⟨.buffer buffer, [bufferRange], Recording.transferEffect write⟩

/-- The access of a render pass to an attachment. -/
def ofAttachment (attachment : BoundView × AttachmentDescription) : Access :=
  let view := attachment.1.view
  ⟨.image view.image, view.imageInfo.indexRanges view.range, ⟨.use, .colorAttachmentOutput, true⟩⟩

end Access

/-- The accesses of the barriers of a command. Barriers of images that are not alive have none. -/
def Dependency.accesses (registry : Registry) (family : Nat) (dependency : Dependency) : List Access :=
  dependency.imageBarriers.flatMap (fun barrier =>
      ((registry.get? barrier.image).map fun image =>
        Access.ofImageBarrier family image.info barrier).toList)
    ++ dependency.bufferBarriers.map (Access.ofBufferBarrier family)

/-- The accesses of a clear or a copy. -/
def regionAccesses (registry : Registry) (handle : Handle .image) (regions : List SubresourceRange) :
    List Access :=
  match registry.get? handle with
  | none => []
  | some image => (image.info.regionsOrWhole regions).map (.ofRegion handle image.info)

theorem kind_of_regionAccesses {registry : Registry} {handle : Handle .image}
    {regions : List SubresourceRange} {access : Access}
    (h : access ∈ regionAccesses registry handle regions) : access.effect.kind = .use := by
  unfold regionAccesses at h
  split at h
  · cases h
  · obtain ⟨region, -, rfl⟩ := List.mem_map.mp h
    rfl

/-- The accesses of a command that was recorded, from the recording after it. -/
def Command.accesses (registry : Registry) (after : Recording) : Command → List Access
  | .barrier dependency => dependency.accesses registry after.family
  | .beginRenderPass _ =>
    after.renderPass.elim [] fun inst => inst.attachments.map .ofAttachment
  | .endRenderPass => []
  | .clear info => regionAccesses registry info.image info.regions
  | .copy info => .ofTransfer false info.buffer :: regionAccesses registry info.image info.regions
  | .fill buffer _ => [.ofTransfer true buffer]

/-- The accesses that a recorder appends with a command. -/
def Recorder.accesses (recorder : Recorder) (d : Device) (command : Command) : List Access :=
  if recorder.records d command then
    command.accesses d.registry (recorder.record d command).state.recording
  else []

namespace Recording.Appends

variable (recording : Recording)

theorem imageBarrier (info : ImageInfo) (barrier : ImageBarrier) :
    Appends recording (recording.imageBarrier info barrier)
      [.ofImageBarrier recording.family info barrier] := by
  unfold Recording.imageBarrier
  simp only
  split
  · exact (updateLayouts recording barrier.image info barrier.range _).trans (access _ _)
  · exact access recording _

theorem bufferBarrier (barrier : BufferBarrier) :
    Appends recording (recording.bufferBarrier barrier)
      [.ofBufferBarrier recording.family barrier] :=
  access recording _

theorem writeRegions (image : Handle .image) (info : ImageInfo) (layout : ImageLayout)
    (regions : List SubresourceRange) :
    Appends recording (recording.writeRegions image info layout regions)
      ((info.regionsOrWhole regions).map (.ofRegion image info)) := by
  have hregion (recording : Recording) (region : SubresourceRange) :
      Appends recording (recording.writeRegion image info layout region)
        [.ofRegion image info region] :=
    (updateLayouts recording image info region _).trans (access _ _)
  rw [List.map_eq_flatMap]
  exact foldl (fun recording region _ => hregion recording region) _ rfl

theorem beginRenderPass (inst : RenderPassInstance) :
    Appends recording (recording.beginRenderPass inst) (inst.attachments.map .ofAttachment) := by
  have hreferenced : Appends recording
      ((recording.reference inst.renderPass.erase).reference inst.framebuffer.erase) [] :=
    (reference recording inst.renderPass.erase).trans (reference _ _)
  have hattachment (recording : Recording) (attachment : (BoundView × AttachmentDescription) × Nat) :
      Appends recording (recording.beginAttachment inst.renderPassInfo attachment)
        [.ofAttachment attachment.1] :=
    ((reference recording attachment.1.1.handle.erase).trans (updateLayouts _ _ _ _ _)).trans
      (access _ _)
  have hbegun := hreferenced.trans (foldl (fun recording attachment _ =>
    hattachment recording attachment) inst.attachments.zipIdx rfl)
  -- The numbers of the attachments make no difference to the accesses.
  have hnumbers : inst.attachments.zipIdx.flatMap (fun attachment => [Access.ofAttachment attachment.1])
      = inst.attachments.map .ofAttachment := by
    rw [← List.map_eq_flatMap, ← Function.comp_def Access.ofAttachment Prod.fst, ← List.map_map,
      List.zipIdx_map_fst]
  rw [hnumbers] at hbegun
  exact ⟨hbegun.family, hbegun.accesses⟩

theorem endRenderPass : Appends recording recording.endRenderPass [] := by
  unfold Recording.endRenderPass
  split
  · exact refl recording
  · next inst _ =>
    have hclosed : Appends recording { recording with renderPass := none } [] :=
      ⟨rfl, (List.append_nil _).symm⟩
    have hattachments : Appends { recording with renderPass := none }
        (inst.attachments.foldl endAttachment { recording with renderPass := none })
        (inst.attachments.flatMap fun _ => []) :=
      foldl (fun recording attachment _ => updateLayouts recording _ _ _ _) inst.attachments rfl
    rw [List.flatMap_eq_nil_iff.mpr fun _ _ => rfl] at hattachments
    exact hclosed.trans hattachments

theorem withBarriers (registry : Registry) (dependency : Dependency) :
    Appends recording (recording.withBarriers registry dependency)
      (dependency.accesses registry recording.family) := by
  have hbuffer (before : Recording) (barrier : BufferBarrier)
      (hfamily : before.family = recording.family) :
      Appends before (before.bufferBarrier barrier) [.ofBufferBarrier recording.family barrier] := by
    rw [← hfamily]
    exact bufferBarrier before barrier
  rw [Dependency.accesses, List.map_eq_flatMap, Recording.withBarriers]
  suffices himages : Appends recording _ _ from
    himages.trans (foldl hbuffer dependency.bufferBarriers himages.family)
  refine foldl (fun before barrier hfamily => ?_) dependency.imageBarriers rfl
  cases registry.get? barrier.image with
  | none => exact refl before
  | some image =>
    rw [← hfamily]
    exact imageBarrier before image.info barrier

end Recording.Appends

/-! ## Recorders -/

namespace Recorder

open Recording

theorem perform_appends {registry : Registry} {recording recording' : Recording} {command : Command}
    (hbarrier : ∀ dependency, command ≠ .barrier dependency)
    (hp : perform registry recording command = .ok recording') :
    Appends recording recording' (command.accesses registry recording') := by
  cases command with
  | barrier dependency => exact absurd rfl (hbarrier dependency)
  | clear info =>
    obtain ⟨image, himage, hp⟩ := bind_eq_ok.mp hp
    obtain rfl := pure_eq_ok.mp hp
    rw [Command.accesses, regionAccesses, Registry.get_eq_ok.mp himage]
    exact .writeRegions recording _ _ _ _
  | copy info =>
    obtain ⟨buffer, -, hp⟩ := bind_eq_ok.mp hp
    obtain ⟨image, himage, hp⟩ := bind_eq_ok.mp hp
    obtain rfl := pure_eq_ok.mp hp
    have hread : Appends recording (recording.accessBuffer info.buffer (transferEffect false))
        [.ofTransfer false info.buffer] :=
      .access recording _
    rw [Command.accesses, regionAccesses, Registry.get_eq_ok.mp himage]
    exact hread.trans (.writeRegions _ _ _ _ _)
  | fill buffer data =>
    obtain ⟨_, -, hp⟩ := bind_eq_ok.mp hp
    obtain rfl := pure_eq_ok.mp hp
    exact .access recording _
  | beginRenderPass info =>
    obtain ⟨renderPass, -, hp⟩ := bind_eq_ok.mp hp
    obtain ⟨framebuffer, -, hp⟩ := bind_eq_ok.mp hp
    obtain ⟨views, -, hp⟩ := bind_eq_ok.mp hp
    obtain rfl := pure_eq_ok.mp hp
    exact .beginRenderPass recording _
  | endRenderPass =>
    obtain rfl := Except.ok.inj hp
    exact .endRenderPass recording

/-- What recording a command on the standard engine appends, whether the command is rejected or not. -/
theorem record_appends {d : Device} (hengine : d.engine = Standard.engine) (recorder : Recorder)
    (command : Command) :
    Appends recorder.recording (recorder.record d command).state.recording
      (recorder.accesses d command) := by
  unfold accesses
  by_cases hbarrier : ∃ dependency, command = .barrier dependency
  · obtain ⟨dependency, rfl⟩ := hbarrier
    rw [records]
    cases hstructural : hasStructuralError (recorder.record d (.barrier dependency)).diagnostics with
    | true =>
      rw [record_barrier_of_structural hstructural]
      exact .refl recorder.recording
    | false =>
      rw [(record_barrier_of_not_structural hengine hstructural).2]
      have happends := Appends.withBarriers recorder.recording d.registry dependency
      have hfamily : (recorder.withRecording (recorder.recording.withBarriers d.registry
          dependency)).recording.family = recorder.recording.family := happends.family
      simp only [Bool.not_false, if_true, Command.accesses, hfamily]
      exact happends
  · have hcommand := not_exists.mp hbarrier
    rw [records_eq_isOk recorder d hcommand]
    rcases recorder.record_cases d hcommand with ⟨hs, e, he⟩ | ⟨recording, hperform, hs, hok⟩
    · rw [hs, he]
      exact .refl recorder.recording
    · rw [hs, hok]
      exact perform_appends hcommand hperform

end Recorder

end VulkanValidity
