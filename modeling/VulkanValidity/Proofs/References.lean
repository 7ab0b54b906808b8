/-
  VulkanValidity.Proofs.References

  What logs refer to.  A command refers to every resource that it touches, be it by an access or by what
  it says of layouts (`Recording.Refers`).  Only the end of a render pass says something of layouts
  without an access: its images are those of the beginning, which are referred to since then.  So if all
  that a log refers to is alive, then all that it touches is.
-/

import VulkanValidity.Proofs.Logs

namespace VulkanValidity

/-! ## Recordings -/

/-- Everything that a recording touches, or has still to touch, it refers to. -/
structure Recording.Refers (recording : Recording) : Prop where
  layouts : ∀ image ∈ recording.layouts.map Prod.fst, image.erase ∈ recording.references
  accesses : ∀ access ∈ recording.accesses, access.resource.id ∈ recording.references
  /-- The images of the render pass that has begun are touched once more when it ends. -/
  renderPass : ∀ inst, recording.renderPass = some inst →
    ∀ attachment ∈ inst.attachments, attachment.1.view.image.erase ∈ recording.references

namespace Recording

theorem subset_reference (recording : Recording) (id : ObjectId) :
    recording.references ⊆ (recording.reference id).references := by
  unfold reference
  split
  · exact List.Subset.refl _
  · exact List.subset_append_left _ _

theorem mem_reference (recording : Recording) (id : ObjectId) :
    id ∈ (recording.reference id).references := by
  unfold reference
  split
  · next h => exact List.contains_iff_mem.mp h
  · exact List.mem_append_right _ (List.mem_singleton_self id)

theorem reference_renderPass (recording : Recording) (id : ObjectId) :
    (recording.reference id).renderPass = recording.renderPass := by
  unfold reference
  split <;> rfl

theorem mem_layouts_updateLayouts {recording : Recording} {image : Handle .image} {info : ImageInfo}
    {range : SubresourceRange} {f : Option LocalLayout → Option LocalLayout} {other : Handle .image} :
    other ∈ (recording.updateLayouts image info range f).layouts.map Prod.fst
      ↔ other = image ∨ other ∈ recording.layouts.map Prod.fst :=
  mem_keys_upsert _ image recording.layouts other

namespace Refers

/-- An access makes up for a reference to its resource. -/
theorem of_access {recording : Recording} {access : Access}
    (hlayouts : ∀ image ∈ recording.layouts.map Prod.fst,
      .image image = access.resource ∨ image.erase ∈ recording.references)
    (haccesses : ∀ other ∈ recording.accesses, other.resource.id ∈ recording.references)
    (hrenderPass : ∀ inst, recording.renderPass = some inst →
      ∀ attachment ∈ inst.attachments, attachment.1.view.image.erase ∈ recording.references) :
    (recording.access access).Refers where
  layouts image himage := by
    rw [access_layouts] at himage
    rcases hlayouts image himage with heq | hold
    · have hid : image.erase = access.resource.id := congrArg Resource.id heq
      rw [hid]
      exact recording.mem_reference _
    · exact recording.subset_reference _ hold
  accesses other hother := by
    rw [access_accesses] at hother
    rcases List.mem_append.mp hother with hold | hnew
    · exact recording.subset_reference _ (haccesses other hold)
    · rw [List.mem_singleton.mp hnew]
      exact recording.mem_reference _
  renderPass inst hinst attachment hmem := by
    have hbefore := (recording.reference_renderPass _).symm.trans hinst
    exact recording.subset_reference _ (hrenderPass inst hbefore attachment hmem)

variable {recording : Recording} (h : recording.Refers)
include h

theorem reference (id : ObjectId) : (recording.reference id).Refers where
  layouts image himage := by
    rw [reference_layouts] at himage
    exact recording.subset_reference id (h.layouts image himage)
  accesses access haccess := by
    rw [reference_accesses] at haccess
    exact recording.subset_reference id (h.accesses access haccess)
  renderPass inst hinst attachment hmem := by
    rw [reference_renderPass] at hinst
    exact recording.subset_reference id (h.renderPass inst hinst attachment hmem)

theorem access (access : Access) : (recording.access access).Refers :=
  of_access (fun image himage => Or.inr (h.layouts image himage)) h.accesses h.renderPass

/-- The layouts of an image that is referred to may change. -/
theorem updateLayouts {image : Handle .image} (himage : image.erase ∈ recording.references)
    (info : ImageInfo) (range : SubresourceRange) (f : Option LocalLayout → Option LocalLayout) :
    (recording.updateLayouts image info range f).Refers := by
  refine ⟨fun other hother => ?_, h.accesses, h.renderPass⟩
  rcases mem_layouts_updateLayouts.mp hother with rfl | hold
  · exact himage
  · exact h.layouts other hold

/-- So may those of any image, if an access to it follows. -/
theorem updateLayouts_access (image : Handle .image) (info : ImageInfo) (range : SubresourceRange)
    (f : Option LocalLayout → Option LocalLayout) (effect : AccessEffect) :
    ((recording.updateLayouts image info range f).accessImage image info range effect).Refers :=
  of_access (fun _ hother => (mem_layouts_updateLayouts.mp hother).imp (congrArg Resource.image)
    (h.layouts _)) h.accesses h.renderPass

/-! ### Commands on known objects -/

theorem imageBarrier (info : ImageInfo) (barrier : ImageBarrier) :
    (recording.imageBarrier info barrier).Refers := by
  unfold Recording.imageBarrier
  simp only
  split
  · exact h.updateLayouts_access _ _ _ _ _
  · exact h.access _

theorem beginAttachment (renderPass : RenderPassInfo)
    (attachment : (BoundView × AttachmentDescription) × Nat) :
    (recording.beginAttachment renderPass attachment).Refers :=
  (h.reference attachment.1.1.handle.erase).updateLayouts_access _ _ _ _ _

omit h in
theorem subset_beginAttachment (recording : Recording) (renderPass : RenderPassInfo)
    (attachment : (BoundView × AttachmentDescription) × Nat) :
    recording.references ⊆ (recording.beginAttachment renderPass attachment).references := by
  obtain ⟨⟨bound, description⟩, index⟩ := attachment
  let moved := (recording.reference bound.handle.erase).transition bound.view.image
    bound.view.imageInfo bound.view.range description.initialLayout
    ((renderPass.firstLayout? index).getD description.finalLayout)
  have hmoved : recording.references ⊆ moved.references :=
    recording.subset_reference bound.handle.erase
  exact List.Subset.trans hmoved (moved.subset_reference _)

omit h in
/-- The images of all attachments that a render pass begins with are referred to. -/
theorem mem_beginAttachments (renderPass : RenderPassInfo)
    (attachments : List ((BoundView × AttachmentDescription) × Nat)) (recording : Recording) :
    recording.references ⊆ (attachments.foldl (fun recording attachment =>
        recording.beginAttachment renderPass attachment) recording).references
      ∧ ∀ attachment ∈ attachments, attachment.1.1.view.image.erase
        ∈ (attachments.foldl (fun recording attachment =>
          recording.beginAttachment renderPass attachment) recording).references := by
  induction attachments generalizing recording with
  | nil => exact ⟨List.Subset.refl _, fun attachment hmem => by cases hmem⟩
  | cons first rest ih =>
    obtain ⟨hsubset, hrest⟩ := ih (recording.beginAttachment renderPass first)
    have hfirst := subset_beginAttachment recording renderPass first
    refine ⟨List.Subset.trans hfirst hsubset, fun attachment hmem => ?_⟩
    rcases List.mem_cons.mp hmem with rfl | hmem
    · exact hsubset (mem_reference _ _)
    · exact hrest attachment hmem

theorem beginRenderPass (inst : RenderPassInstance) : (recording.beginRenderPass inst).Refers := by
  have hreferred := (h.reference inst.renderPass.erase).reference inst.framebuffer.erase
  have hbegun := List.foldlRecOn (motive := Refers) inst.attachments.zipIdx
    (fun recording attachment => recording.beginAttachment inst.renderPassInfo attachment) hreferred
    fun _ hbefore attachment _ => hbefore.beginAttachment inst.renderPassInfo attachment
  refine ⟨hbegun.layouts, hbegun.accesses, fun other hother attachment hmem => ?_⟩
  -- The render pass of the recording is the one that begins.
  obtain rfl := Option.some.inj hother
  obtain ⟨index, hindex⟩ := List.mem_iff_getElem?.mp hmem
  exact (mem_beginAttachments _ _ _).2 (attachment, index) (List.mem_zipIdx_iff_getElem?.mpr hindex)

theorem endRenderPass : recording.endRenderPass.Refers := by
  unfold Recording.endRenderPass
  split
  · exact h
  · next inst hinst =>
    have hclosed : ({ recording with renderPass := none } : Recording).Refers :=
      ⟨h.layouts, h.accesses, fun other hother => by cases hother⟩
    -- Its end refers to nothing new.
    refine (List.foldlRecOn (motive := fun after : Recording =>
      after.Refers ∧ after.references = recording.references) inst.attachments endAttachment
      ⟨hclosed, rfl⟩ fun before hbefore attachment hmem => ⟨?_, hbefore.2⟩).1
    refine hbefore.1.updateLayouts ?_ _ _ _
    rw [hbefore.2]
    exact h.renderPass inst hinst attachment hmem

end Refers

theorem refers_keptByCommands : KeptByCommands Refers where
  imageBarrier _ info barrier h := h.imageBarrier info barrier
  bufferBarrier _ _ h := h.access _
  transfer _ _ _ h := h.access _
  writeRegion _ image info _ region h := h.updateLayouts_access image info region _ _
  beginRenderPass _ inst h := h.beginRenderPass inst
  endRenderPass _ h := h.endRenderPass

end Recording

/-! ## Sessions -/

/-- Every resource that the log touches is among its references. -/
def CommandLog.Refers (log : CommandLog) : Prop :=
  ∀ resource ∈ log.resources, resource.id ∈ log.references

theorem Recording.Refers.finish {recording : Recording} (h : recording.Refers) :
    recording.finish.Refers := by
  intro resource hresource
  have hperm : recording.finish.layouts.Perm recording.layouts := List.mergeSort_perm _ _
  rw [CommandLog.resources, List.mem_eraseDups] at hresource
  rcases List.mem_append.mp hresource with hlayouts | haccesses
  · obtain ⟨entry, hentry, rfl⟩ := List.mem_map.mp hlayouts
    exact h.layouts entry.1 (List.mem_map_of_mem (hperm.mem_iff.mp hentry))
  · obtain ⟨access, haccess, rfl⟩ := List.mem_map.mp haccesses
    exact h.accesses access haccess

namespace Session

/-- The recordings and the logs of a session refer to all that they touch. -/
structure Refers (s : Session) : Prop where
  recordings : ∀ key recorder, s.recorder? key = some recorder → recorder.recording.Refers
  logs : s.AllLogs fun _ log => log.Refers

theorem refers_start (environment : Environment) (engine : Engine) :
    (start environment engine).Refers where
  recordings key recorder h := by cases h
  logs := allLogs_start environment engine

theorem Refers.step {s : Session} (h : s.Refers) (call : Call) : (s.step call).state.Refers := by
  have hnew (family : Nat) : ({ family := family } : Recording).Refers :=
    ⟨fun _ h => (List.not_mem_nil h).elim, fun _ h => (List.not_mem_nil h).elim, fun _ h => nomatch h⟩
  have hrecorded {key : Nat} {recorder : Recorder} (hr : s.recorder? key = some recorder)
      (command : Command) : (recorder.record s.device command).state.recording.Refers :=
    Recorder.record_keeps Recording.refers_keptByCommands (h.recordings key recorder hr) _ _
  have htransition := s.step_transition call
  refine ⟨fun key recorder hr => ?_, h.logs.transition htransition (fun _ hlog => hlog)
    (fun family => (hnew family).finish) fun key command recorder _ hr => (hrecorded hr command).finish⟩
  rcases htransition.recorders hr with
    hold | ⟨queue, again, usage, hd⟩ | ⟨k, command, before, -, hbefore, rfl⟩
  · exact h.recordings key recorder hold
  · obtain ⟨family, hrecording⟩ := hd.recording
    rw [hrecording]
    exact hnew family
  · exact hrecorded hbefore command

theorem Refers.submission {s : Session} (h : s.Refers) (queue : Queue)
    (handle : Handle .commandBuffer) :
    (s.withDevice (s.device.submitOne queue handle).state).Refers :=
  ⟨h.recordings, h.logs.submission queue handle fun _ hlog => hlog⟩

/-- The logs of a reachable session refer to all that they touch. -/
theorem Reachable.refers {s : Session} (h : s.Reachable) : s.Refers := by
  induction h with
  | start environment engine => exact refers_start environment engine
  | call _ call ih => exact ih.step call
  | submission _ queue handle ih => exact ih.submission queue handle

end Session

end VulkanValidity
