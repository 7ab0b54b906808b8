/-
  VulkanValidity.Proofs.Footprints

  Which objects a call can touch.  A call makes, changes and destroys objects of few types
  (`Call.footprint`), and all objects of the other types stay as they are (`Session.objects_step`).  What is
  said about the objects of a type in every session is thus a matter of the few calls that touch them.

  This is proved for any view of a registry that overlooks the objects of the types in question
  (`Registry.Overlooks`): the objects of another type are one such view, and the file descriptors are another.
-/

import VulkanValidity.Proofs.Session

namespace VulkanValidity

/-! ## Views of a registry -/

/-- A view of a registry that sees neither the objects of the given types nor what is noted beside the
objects.  Of the latter only file descriptors can be seen. -/
structure Registry.Overlooks {β : Type} (g : Registry → β) (types : List ObjectType) : Prop where
  objects : ∀ (r : Registry) {t : ObjectType} (s : Store t t.Object), t ∈ types → g (r.setStore t s) = g r
  notes : ∀ (r : Registry) (serial : Nat) (tombstones : List ObjectId) (feed : List Event)
    (uses : UseTable) (formats : List Nat), g { r with
      nextSerial := serial, tombstones := tombstones, feed := feed, uses := uses,
      externalFormats := formats } = g r

/-- The objects of a type are seen by a view that overlooks other types. -/
theorem Registry.overlooks_store {t : ObjectType} {types : List ObjectType} (h : t ∉ types) :
    Overlooks (fun r => r.store t) types where
  objects r {t'} s ht' := by
    have hne : t ≠ t' := by
      rintro rfl
      exact h ht'
    exact r.store_setStore_of_ne hne s
  notes r serial tombstones feed uses formats := by cases t <;> rfl

/-- Hardware buffers are no objects of the registry. -/
theorem Device.registry_allocateHardwareBuffer (d : Device) (info : HardwareBufferInfo) :
    (d.allocateHardwareBuffer info).state.registry = d.registry := by
  refine Outcome.guarded_keeps Device.registry fun value after hperform => ?_
  split at hperform
  · cases hperform
  · split at hperform
    · cases hperform
    · obtain rfl := congrArg Prod.snd (Except.ok.inj hperform)
      rfl

namespace Registry.Overlooks

variable {β : Type} {g : Registry → β} {types : List ObjectType} (h : Registry.Overlooks g types)
include h

/-! ### Changes of the registry -/

theorem record (r : Registry) (id : ObjectId) (change : ObjectChange) : g (r.record id change) = g r :=
  h.notes r r.nextSerial r.tombstones _ r.uses r.externalFormats

theorem reserve (r : Registry) (t : ObjectType) : g (r.reserve t).2 = g r :=
  h.notes r _ r.tombstones r.feed r.uses r.externalFormats

variable {t : ObjectType} (ht : t ∈ types)
include ht

theorem add (r : Registry) (handle : Handle t) (object : t.Object) : g (r.add handle object) = g r :=
  (h.record _ _ _).trans (h.objects r _ ht)

theorem insert (r : Registry) (object : t.Object) : g (r.insert t object).2 = g r :=
  (h.add ht _ _ _).trans (h.reserve r t)

theorem modify (r : Registry) (handle : Handle t) (f : t.Object → t.Object) : g (r.modify handle f) = g r :=
  h.objects r _ ht

theorem remove (r : Registry) (handle : Handle t) : g (r.remove handle) = g r := by
  rw [Registry.remove]
  split
  · let erased := r.setStore t ((r.store t).erase handle)
    have hburied := h.notes erased erased.nextSerial (handle.erase :: r.tombstones) erased.feed erased.uses
      erased.externalFormats
    exact ((h.record _ _ _).trans hburied).trans (h.objects r _ ht)
  · rfl

omit ht in
theorem setStates (himage : .image ∈ types) (hbuffer : .buffer ∈ types) (r : Registry) (resource : Resource)
    (states : RangeMap SubresourceState) : g (r.setStates resource states) = g r := by
  cases resource with
  | image handle => exact h.modify himage r handle _
  | buffer handle => exact h.modify hbuffer r handle _

/-! ### Operations -/

section Create

variable {α : Type} {d : Device} {diagnostics : List Diagnostic}

/-- An operation that makes an object which needs another one touches no object of another type. -/
theorem lookup_create {found : Except Error α} {object : α → t.Object} :
    g (Outcome.guarded d diagnostics (found >>= fun a => pure (d.insert t (object a)))).state.registry
      = g d.registry := by
  refine Outcome.guarded_keeps (fun d : Device => g d.registry) fun value after hperform => ?_
  obtain ⟨a, -, hperform⟩ := bind_eq_ok.mp hperform
  obtain rfl := congrArg Prod.snd (pure_eq_ok.mp hperform)
  exact h.insert ht d.registry (object a)

/-- Nor does one that makes an object which needs none. -/
theorem create {object : t.Object} :
    g (Outcome.guarded d diagnostics (.ok (d.insert t object))).state.registry = g d.registry := by
  show g (Outcome.guarded d diagnostics
    ((pure () : Except Error Unit) >>= fun _ => pure (d.insert t object))).state.registry = g d.registry
  exact h.lookup_create ht

end Create

theorem destroy (d : Device) (handle : Handle t) : g (d.destroy handle).state.registry = g d.registry := by
  rcases d.destroy_cases handle with ⟨hs, -⟩ | ⟨-, hs, -⟩
  · rw [hs]
  · rw [hs]
    exact h.remove ht d.registry handle

omit ht

/-! ### Swapchains -/

theorem insertImages (himage : .image ∈ types) (info : SwapchainInfo) (swapchain : Handle .swapchain)
    (r : Registry) : g (Device.insertImages info swapchain r).2 = g r := by
  unfold Device.insertImages
  exact List.foldlRecOn (motive := fun made : List (Handle .image) × Registry => g made.2 = g r) _ _ rfl
    fun made hmade index _ => (h.insert himage made.2 _).trans hmade

theorem createSwapchain (himage : .image ∈ types) (hswapchain : .swapchain ∈ types) (d : Device)
    (info : SwapchainInfo) : g (d.createSwapchain info).state.registry = g d.registry := by
  refine Outcome.guarded_keeps (fun d : Device => g d.registry) fun value after hperform => ?_
  obtain rfl := congrArg Prod.snd (Except.ok.inj hperform)
  have hreserve := h.reserve d.registry .swapchain
  exact (h.add hswapchain _ _ _).trans ((h.insertImages himage info _ _).trans hreserve)

theorem destroySwapchain (himage : .image ∈ types) (hswapchain : .swapchain ∈ types) (d : Device)
    (handle : Handle .swapchain) : g (d.destroySwapchain handle).state.registry = g d.registry := by
  rcases d.destroySwapchain_cases handle with ⟨hs, -⟩ | ⟨swapchain, -, hs, -⟩
  · rw [hs]
  · rw [hs]
    exact (foldl_keeps g (fun r (image : Handle .image) => h.remove himage r image) swapchain.images _).trans
      (h.remove hswapchain d.registry handle)

theorem acquireImage (hswapchain : .swapchain ∈ types) (d : Device) (handle : Handle .swapchain) :
    g (d.acquireImage handle).state.registry = g d.registry := by
  refine Outcome.guarded_keeps (fun d : Device => g d.registry) fun value after hperform => ?_
  obtain ⟨swapchain, -, hperform⟩ := bind_eq_ok.mp hperform
  split at hperform
  · obtain rfl := congrArg Prod.snd (pure_eq_ok.mp hperform)
    exact h.modify hswapchain d.registry handle _
  · cases hperform

theorem present (hswapchain : .swapchain ∈ types) (d : Device) (images : List PresentedImage) :
    g (d.present images).state.registry = g d.registry := by
  have hrelease (r : Registry) : g (Device.releaseImages r images).1 = g r := by
    induction images generalizing r with
    | nil => rfl
    | cons image images ih =>
      rw [Device.releaseImages]
      split
      · rfl
      · exact (ih _).trans (h.modify hswapchain r image.swapchain _)
  unfold Device.present
  simp only
  split
  · rfl
  · exact hrelease d.registry

/-! ### Memory -/

theorem hardwareBufferProperties (d : Device) (buffer : HardwareBuffer) :
    g (d.hardwareBufferProperties buffer).state.registry = g d.registry := by
  refine Outcome.guarded_keeps (fun d : Device => g d.registry) fun value after hperform => ?_
  obtain rfl := congrArg Prod.snd (Except.ok.inj hperform)
  exact h.notes d.registry d.registry.nextSerial d.registry.tombstones d.registry.feed d.registry.uses _

theorem bindImage (himage : .image ∈ types) (d : Device) (handle : Handle .image)
    (memory : Handle .deviceMemory) (offset : Nat) :
    g (d.bindImage handle memory offset).state.registry = g d.registry := by
  refine Outcome.guarded_keeps (fun d : Device => g d.registry) fun value after hperform => ?_
  obtain ⟨image, -, hperform⟩ := bind_eq_ok.mp hperform
  obtain ⟨allocation, -, hperform⟩ := bind_eq_ok.mp hperform
  split at hperform
  · cases hperform
  · obtain rfl := congrArg Prod.snd (pure_eq_ok.mp hperform)
    exact (h.record _ _ _).trans (h.modify himage d.registry handle _)

theorem bindBuffer (hbuffer : .buffer ∈ types) (d : Device) (handle : Handle .buffer)
    (memory : Handle .deviceMemory) (offset : Nat) :
    g (d.bindBuffer handle memory offset).state.registry = g d.registry := by
  refine Outcome.guarded_keeps (fun d : Device => g d.registry) fun value after hperform => ?_
  obtain ⟨buffer, -, hperform⟩ := bind_eq_ok.mp hperform
  split at hperform
  · cases hperform
  · obtain rfl := congrArg Prod.snd (pure_eq_ok.mp hperform)
    exact (h.record _ _ _).trans (h.modify hbuffer d.registry handle _)

/-! ### Command buffers -/

theorem beginCommandBuffer (hcommandBuffer : .commandBuffer ∈ types) (d : Device) (queue : Queue)
    (again : Option (Handle .commandBuffer)) (usage : CommandBufferUsage) :
    g (d.beginCommandBuffer queue again usage).state.registry = g d.registry := by
  rcases d.beginCommandBuffer_cases queue again usage with ⟨hs, -⟩ | ⟨recorder, -, hbegins⟩
  · rw [hs]
  · generalize (d.beginCommandBuffer queue again usage).state = after at hbegins
    cases hbegins with
    | fresh => exact h.insert hcommandBuffer d.registry _
    | again => exact h.modify hcommandBuffer d.registry _ _

theorem endCommandBuffer (hcommandBuffer : .commandBuffer ∈ types) (d : Device) (recorder : Recorder) :
    g (d.endCommandBuffer recorder).state.registry = g d.registry := by
  rcases d.endCommandBuffer_cases recorder with ⟨hs, -⟩ | ⟨hs, -⟩
  · rw [hs]
  · rw [hs]
    exact h.modify hcommandBuffer d.registry _ _

/-- The states of images and buffers change in an execution, and its command buffer. -/
theorem submitOne (himage : .image ∈ types) (hbuffer : .buffer ∈ types)
    (hcommandBuffer : .commandBuffer ∈ types) (d : Device) (queue : Queue) (handle : Handle .commandBuffer) :
    g (d.submitOne queue handle).state.registry = g d.registry := by
  rcases d.submitOne_cases queue handle with ⟨-, hs⟩ | ⟨log, -, -, hs⟩
  · rw [hs]
  · rw [hs]
    let applied := (log.replay d.registry).apply d.registry
    let submitted := applied.modify handle CommandBuffer.submit
    have hpinned := h.notes submitted submitted.nextSerial submitted.tombstones submitted.feed
      (submitted.uses.addAll (Device.pinnedObjects d.registry handle log)) submitted.externalFormats
    calc g (d.execute queue handle log (log.replay d.registry)).registry
        = g (submitted.pin (Device.pinnedObjects d.registry handle log)) := h.record _ _ _
      _ = g submitted := hpinned
      _ = g applied := h.modify hcommandBuffer applied handle CommandBuffer.submit
      _ = g d.registry := Device.apply_keeps g (h.setStates himage hbuffer) _ d.registry

theorem retireAll (hcommandBuffer : .commandBuffer ∈ types) (d : Device)
    (done rest : List PendingSubmission) : g (d.retireAll done rest).registry = g d.registry := by
  refine foldl_keeps g (f := Device.retire) (fun r submission => ?_) done d.registry
  have hunpinned := h.notes r r.nextSerial r.tombstones r.feed (r.uses.removeAll submission.pinned)
    r.externalFormats
  exact (h.record _ _ _).trans ((h.modify hcommandBuffer _ _ _).trans hunpinned)

end Registry.Overlooks

/-! ## Calls -/

/-- The types of the objects that a call can make, change or destroy. -/
def Call.footprint : Call → List ObjectType
  | .createImage _ | .bindImage _ _ _ => [.image]
  | .createImageView _ => [.imageView]
  | .createBuffer _ | .bindBuffer _ _ _ => [.buffer]
  | .createRenderPass _ => [.renderPass]
  | .createFramebuffer _ => [.framebuffer]
  | .createSwapchain _ | .destroy .swapchain _ => [.image, .swapchain]
  | .destroy type _ => [type]
  | .allocateMemory _ => [.deviceMemory]
  | .beginCommandBuffer _ _ _ | .endCommandBuffer _ | .queueWait _ | .waitIdle _ => [.commandBuffer]
  | .submit _ => [.image, .buffer, .commandBuffer]
  | .acquireImage _ | .present _ => [.swapchain]
  | .allocateHardwareBuffer _ | .hardwareBufferProperties _ | .exportMemory _ _ | .imageRequirements _ _
  | .bufferRequirements _ | .subresourceLayout _ _ | .record _ _ | .dropRecorder _ => []

/-- Whether a call makes file descriptors, or may use some up. -/
def Call.usesDescriptors : Call → Bool
  | .exportMemory _ _ | .allocateMemory _ => true
  | _ => false

namespace Session

/-- A call that has nothing to do with file descriptors changes nothing in a view that overlooks the types in
its footprint. -/
theorem overlooked_step {β : Type} {g : Registry → β} (s : Session) {call : Call}
    (h : Registry.Overlooks g call.footprint) (hcall : call.usesDescriptors = false) :
    g (s.step call).state.device.registry = g s.device.registry := by
  -- The first, the second and the third type of a footprint.
  have hone {t : ObjectType} {types : List ObjectType} : t ∈ t :: types := List.mem_cons_self
  have htwo {t t' : ObjectType} {types : List ObjectType} : t ∈ t' :: t :: types :=
    List.mem_cons_of_mem t' hone
  have hthree {t t' t'' : ObjectType} : t ∈ [t', t'', t] := List.mem_cons_of_mem t' htwo
  have hstate {d d' : Device} (hs : d = d') : g d.registry = g d'.registry :=
    congrArg (fun d : Device => g d.registry) hs
  cases call with
  | createImage info => exact h.create hone
  | createImageView info => exact h.lookup_create hone
  | createBuffer info => exact h.create hone
  | createRenderPass info => exact h.create hone
  | createFramebuffer info => exact h.lookup_create hone
  | createSwapchain info => exact h.createSwapchain hone htwo s.device info
  | destroy type handle =>
    cases type with
    | swapchain => exact h.destroySwapchain hone htwo s.device handle
    | _ => exact h.destroy hone s.device handle
  | allocateHardwareBuffer info => exact congrArg g (s.device.registry_allocateHardwareBuffer info)
  | hardwareBufferProperties buffer => exact h.hardwareBufferProperties s.device buffer
  | allocateMemory info => cases hcall
  | exportMemory memory handleType => cases hcall
  | bindImage image memory offset => exact h.bindImage hone s.device image memory offset
  | bindBuffer buffer memory offset => exact h.bindBuffer hone s.device buffer memory offset
  -- Queries leave the device as it is.
  | imageRequirements image extended => exact hstate (s.device.imageRequirements_state image extended)
  | bufferRequirements buffer => exact hstate (s.device.bufferRequirements_state buffer)
  | subresourceLayout image subresource => exact hstate (s.device.subresourceLayout_state image subresource)
  | beginCommandBuffer queue again usage =>
    have hbegin := h.beginCommandBuffer hone s.device queue again usage
    simp only [step, opening]
    split <;> exact hbegin
  | record key command =>
    simp only [step]
    split <;> rfl
  | endCommandBuffer key =>
    simp only [step]
    split
    · rfl
    · exact h.endCommandBuffer hone s.device _
  | dropRecorder key => rfl
  | submit batches =>
    rw [step_submit]
    exact Device.submitAll_keeps (P := fun d => g d.registry = g s.device.registry)
      (fun d queue handle hd => (h.submitOne hone htwo hthree d queue handle).trans hd) rfl _
  | queueWait queue =>
    obtain ⟨done, rest, -, hs, -⟩ := s.device.queueWait_cases queue
    exact (hstate hs).trans (h.retireAll hone s.device done rest)
  | waitIdle queues =>
    obtain ⟨done, -, hs⟩ := s.device.waitIdle_cases queues
    exact (hstate hs).trans (h.retireAll hone s.device done [])
  | acquireImage swapchain => exact h.acquireImage hone s.device swapchain
  | present images => exact h.present hone s.device images

end Session

/-! ## Objects -/

namespace Registry

variable {t t' : ObjectType} (h : t' ≠ t)
include h

theorem overlooks_store_of_ne : Overlooks (fun r => r.store t') [t] :=
  overlooks_store (by simpa using h)

variable (r : Registry)

theorem store_insert (object : t.Object) : (r.insert t object).2.store t' = r.store t' :=
  (overlooks_store_of_ne h).insert (List.mem_singleton_self t) r object

theorem store_modify (handle : Handle t) (f : t.Object → t.Object) :
    (r.modify handle f).store t' = r.store t' :=
  r.store_setStore_of_ne h _

theorem store_remove (handle : Handle t) : (r.remove handle).store t' = r.store t' :=
  (overlooks_store_of_ne h).remove (List.mem_singleton_self t) r handle

end Registry

namespace Device

/-- The objects of a type that are alive. -/
def objects (d : Device) (t : ObjectType) : Store t t.Object := d.registry.store t

variable {t : ObjectType}

theorem store_insertImages (himage : t ≠ .image) (info : SwapchainInfo) (swapchain : Handle .swapchain)
    (r : Registry) : (insertImages info swapchain r).2.store t = r.store t :=
  (Registry.overlooks_store_of_ne himage).insertImages (List.mem_singleton_self _) info swapchain r

theorem objects_submitOne (himage : t ≠ .image) (hbuffer : t ≠ .buffer) (h : t ≠ .commandBuffer)
    (d : Device) (queue : Queue) (handle : Handle .commandBuffer) :
    (d.submitOne queue handle).state.objects t = d.objects t := by
  have hview : Registry.Overlooks (fun r => r.store t) [.image, .buffer, .commandBuffer] :=
    Registry.overlooks_store (by simp [himage, hbuffer, h])
  exact hview.submitOne (by decide) (by decide) (by decide) d queue handle

theorem objects_allocateMemory (h : t ≠ .deviceMemory) (d : Device) (info : AllocationInfo) :
    (d.allocateMemory info).state.objects t = d.objects t := by
  have himport : (takeImport d.registry info.source).store t = d.registry.store t := by
    unfold takeImport
    split <;> cases t <;> rfl
  refine Outcome.guarded_keeps (Device.objects · t) fun value after hperform => ?_
  obtain ⟨size, -, hperform⟩ := bind_eq_ok.mp hperform
  obtain rfl := congrArg Prod.snd (pure_eq_ok.mp hperform)
  exact (Registry.store_insert h _ (DeviceMemory.ofInfo info size)).trans himport

theorem objects_exportMemory (d : Device) (handle : Handle .deviceMemory)
    (handleType : ExternalHandleTypes) :
    (d.exportMemory handle handleType).state.objects t = d.objects t := by
  refine Outcome.guarded_keeps (Device.objects · t) fun value after hperform => ?_
  obtain ⟨memory, -, hperform⟩ := bind_eq_ok.mp hperform
  obtain rfl := congrArg Prod.snd (pure_eq_ok.mp hperform)
  cases t <;> rfl

end Device

/-- A call leaves the objects as they are that are of none of the types in its footprint. -/
theorem Session.objects_step (s : Session) {call : Call} {t : ObjectType} (h : t ∉ call.footprint) :
    (s.step call).state.device.objects t = s.device.objects t := by
  cases call with
  | allocateMemory info => exact s.device.objects_allocateMemory (List.ne_of_not_mem_cons h) info
  | exportMemory memory handleType => exact s.device.objects_exportMemory memory handleType
  | _ => exact s.overlooked_step (Registry.overlooks_store h) rfl

end VulkanValidity
