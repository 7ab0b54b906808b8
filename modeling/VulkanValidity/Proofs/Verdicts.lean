/-
  VulkanValidity.Proofs.Verdicts

  Operations whose result is told by their diagnostics (`Outcome.Told`).  An operation can fail after the
  rules have accepted it: it looks up the objects that it works on, and some operations check more than
  that.  On the standard engine nearly all of these checks are covered by rules.  The objects that an
  operation names are alive if it is accepted, and resources are not bound twice, images are acquired
  only if one is left, and batches can be put in an order.
-/

import VulkanValidity.Proofs.Closure
import VulkanValidity.Proofs.Reports

namespace VulkanValidity

/-! ## Outcomes -/

/-- The diagnostics tell the result: an operation fails with the first error among them, and succeeds if
there is none. -/
structure Outcome.Told {σ α : Type} (outcome : Outcome σ α) : Prop where
  error : ∀ diagnostic, firstError? outcome.diagnostics = some diagnostic →
    outcome.result = .error (.ofDiagnostic diagnostic)
  ok : firstError? outcome.diagnostics = none → ∃ value, outcome.result = .ok value

theorem Outcome.told_of_verdict {σ : Type} {outcome : Outcome σ Unit}
    (h : outcome.result = verdict outcome.diagnostics) : outcome.Told where
  error diagnostic hfirst := h.trans (verdict_eq_error.mpr ⟨diagnostic, hfirst, rfl⟩)
  ok hnone := ⟨(), h.trans (verdict_eq_ok.mpr hnone)⟩

/-- A guarded operation fails with the first error. -/
theorem Outcome.guarded_eq_error {σ α : Type} {state : σ} {diagnostics : List Diagnostic}
    {perform : Except Error (α × σ)} {diagnostic : Diagnostic}
    (h : firstError? diagnostics = some diagnostic) :
    (Outcome.guarded state diagnostics perform).result = .error (.ofDiagnostic diagnostic) := by
  unfold Outcome.guarded
  rw [verdict_eq_error.mpr ⟨diagnostic, h, rfl⟩]

/-- A guarded operation is told by its diagnostics if it succeeds once it is accepted. -/
theorem Outcome.told_guarded {σ α : Type} {state : σ} {diagnostics : List Diagnostic}
    {perform : Except Error (α × σ)}
    (h : verdict diagnostics = .ok () → ∃ made, perform = .ok made) :
    (Outcome.guarded state diagnostics perform).Told := by
  constructor
  · intro diagnostic hfirst
    rw [guarded_diagnostics] at hfirst
    exact guarded_eq_error hfirst
  · intro hnone
    rw [guarded_diagnostics] at hnone
    have haccepted := verdict_eq_ok.mpr hnone
    obtain ⟨made, hmade⟩ := h haccepted
    refine ⟨made.1, ?_⟩
    unfold Outcome.guarded
    rw [haccepted, hmade]

/-- A guarded operation that cannot be performed fails, accepted or not. -/
theorem Outcome.exists_error_guarded {σ α : Type} (state : σ) (diagnostics : List Diagnostic)
    {perform : Except Error (α × σ)} (h : ∃ e, perform = .error e) :
    ∃ e, (Outcome.guarded state diagnostics perform).result = .error e := by
  obtain ⟨e, rfl⟩ := h
  rcases Outcome.guarded_cases state diagnostics (.error e) with ⟨-, herror⟩ | ⟨_, _, -, hok, -⟩
  · exact herror
  · cases hok

/-- What an operation that succeeds gives. -/
def Outcome.value? {σ α : Type} (outcome : Outcome σ α) : Option α := outcome.result.toOption

theorem Outcome.value?_eq_some {σ α : Type} {outcome : Outcome σ α} {value : α} :
    outcome.value? = some value ↔ outcome.result = .ok value := by
  rw [value?]
  cases outcome.result <;> simp [Except.toOption]

/-! ## Standard rules -/

namespace Standard

/-- An object that an accepted operation names can be looked up. -/
theorem get_of_accepted {ctx : Context} (h : verdict (engine.evaluate ctx) = .ok ()) {t : ObjectType}
    {handle : Handle t} (hmem : handle.erase ∈ ctx.operation.objects) :
    ∃ object, ctx.registry.get handle = .ok object := by
  obtain ⟨object, hget⟩ := Registry.exists_get?_of_contains (contains_of_accepted h hmem)
  exact ⟨object, Registry.get_eq_ok.mpr hget⟩

theorem reports_imageNotBound : engine.Reports .resourceCreation .invalidParams
    (BindingRules.onImage BindingRules.notBound) :=
  reports_rule bindingRules 0

theorem reports_bufferNotBound : engine.Reports .resourceCreation .invalidParams
    (BindingRules.onBuffer BindingRules.notBound) :=
  reports_rule bindingRules 1

theorem reports_acquireExhausted :
    engine.Reports .presentation .invalidParams SwapchainRules.acquireExhausted :=
  reports_rule swapchainRules 2

end Standard

namespace Device

variable {d : Device} (hengine : d.engine = Standard.engine)
include hengine

theorem told_guarded {α : Type} {operation : Operation} {perform : Except Error (α × Device)}
    (h : verdict (Standard.engine.evaluate (d.context operation)) = .ok () →
      ∃ made, perform = .ok made) : (d.guarded operation perform).Told := by
  refine Outcome.told_guarded fun haccepted => h ?_
  rwa [diagnose, hengine] at haccepted

/-- An operation that looks up an object which it names goes on with the object once it is accepted. -/
theorem told_lookup {α : Type} {operation : Operation} {t : ObjectType} {handle : Handle t}
    {next : t.Object → Except Error (α × Device)} (hmem : handle.erase ∈ operation.objects)
    (h : ∀ object, verdict (Standard.engine.evaluate (d.context operation)) = .ok () →
      d.registry.get? handle = some object → ∃ made, next object = .ok made) :
    (d.guarded operation (d.registry.get handle >>= next)).Told := by
  refine told_guarded hengine fun haccepted => ?_
  obtain ⟨object, hobject⟩ : ∃ object, d.registry.get handle = .ok object :=
    Standard.get_of_accepted haccepted hmem
  rw [hobject]
  exact h object haccepted (Registry.get_eq_ok.mp hobject)

/-! ### Creation and destruction -/

theorem createImage_told (info : ImageInfo) : (d.createImage info).Told :=
  told_guarded hengine fun _ => ⟨_, rfl⟩

theorem createBuffer_told (info : BufferInfo) : (d.createBuffer info).Told :=
  told_guarded hengine fun _ => ⟨_, rfl⟩

theorem createRenderPass_told (info : RenderPassInfo) : (d.createRenderPass info).Told :=
  told_guarded hengine fun _ => ⟨_, rfl⟩

theorem createSwapchain_told (info : SwapchainInfo) : (d.createSwapchain info).Told :=
  told_guarded hengine fun _ => ⟨_, rfl⟩

theorem createImageView_told (info : ImageViewInfo) : (d.createImageView info).Told :=
  told_lookup hengine (List.mem_singleton_self _) fun _ _ _ => ⟨_, rfl⟩

theorem createFramebuffer_told (info : FramebufferInfo) : (d.createFramebuffer info).Told :=
  told_lookup hengine List.mem_cons_self fun _ _ _ => ⟨_, rfl⟩

theorem destroy_told {t : ObjectType} (handle : Handle t) : (d.destroy handle).Told :=
  told_lookup hengine (List.mem_singleton_self _) fun _ _ _ => ⟨_, rfl⟩

theorem destroySwapchain_told (handle : Handle .swapchain) : (d.destroySwapchain handle).Told :=
  told_lookup hengine (List.mem_singleton_self _) fun _ _ _ => ⟨_, rfl⟩

/-! ### Memory -/

theorem hardwareBufferProperties_told (buffer : HardwareBuffer) :
    (d.hardwareBufferProperties buffer).Told :=
  told_guarded hengine fun _ => ⟨_, rfl⟩

theorem allocateMemory_told (info : AllocationInfo) : (d.allocateMemory info).Told := by
  refine told_guarded hengine fun haccepted => ?_
  obtain ⟨size, hsize⟩ : ∃ size, d.allocationSize info = .ok size := by
    unfold allocationSize
    split
    · next handle hdedicated =>
      -- The image that the allocation is dedicated to is named by the operation.
      obtain ⟨image, himage⟩ : ∃ image, d.registry.get handle = .ok image := by
        refine Standard.get_of_accepted haccepted (?_ : handle.erase ∈ info.dedicated.toList.map _)
        rw [hdedicated]
        exact List.mem_singleton_self _
      rw [himage]
      split <;> exact ⟨_, rfl⟩
    · exact ⟨_, rfl⟩
  rw [hsize]
  exact ⟨_, rfl⟩

theorem exportMemory_told (handle : Handle .deviceMemory) (handleType : ExternalHandleTypes) :
    (d.exportMemory handle handleType).Told :=
  told_lookup hengine (List.mem_singleton_self _) fun _ _ _ => ⟨_, rfl⟩

theorem bindImage_told (handle : Handle .image) (memory : Handle .deviceMemory) (offset : Nat) :
    (d.bindImage handle memory offset).Told := by
  refine told_lookup hengine List.mem_cons_self fun image haccepted himage => ?_
  obtain ⟨allocation, hallocation⟩ : ∃ allocation, d.registry.get memory = .ok allocation :=
    Standard.get_of_accepted haccepted (List.mem_cons_of_mem _ List.mem_cons_self)
  have hcheck := Standard.check_eq_nil Standard.reports_imageNotBound rfl haccepted
  have hfree : image.isBound = false := by
    simp only [BindingRules.onImage, BindingRules.imageTarget?, context, himage,
      Registry.get_eq_ok.mp hallocation, Option.elim_some] at hcheck
    exact violationIf_eq_nil.mp hcheck
  simp only [hallocation, bind, Except.bind, hfree]
  exact ⟨_, rfl⟩

theorem bindBuffer_told (handle : Handle .buffer) (memory : Handle .deviceMemory) (offset : Nat) :
    (d.bindBuffer handle memory offset).Told := by
  refine told_lookup hengine List.mem_cons_self fun buffer haccepted hbuffer => ?_
  -- The allocation is not looked up, but the rule looks at it.
  obtain ⟨allocation, hallocation⟩ : ∃ allocation, d.registry.get memory = .ok allocation :=
    Standard.get_of_accepted haccepted (List.mem_cons_of_mem _ List.mem_cons_self)
  have hcheck := Standard.check_eq_nil Standard.reports_bufferNotBound rfl haccepted
  have hfree : buffer.isBound = false := by
    simp only [BindingRules.onBuffer, BindingRules.bufferTarget?, context, hbuffer,
      Registry.get_eq_ok.mp hallocation, Option.elim_some] at hcheck
    exact violationIf_eq_nil.mp hcheck
  simp only [bind, Except.bind, hfree]
  exact ⟨_, rfl⟩

theorem imageRequirements_told (handle : Handle .image) (extended : Bool) :
    (d.imageRequirements handle extended).Told :=
  told_lookup hengine (List.mem_singleton_self _) fun _ _ _ => ⟨_, rfl⟩

/-- No rule looks at the subresource, which has to be one of the image. -/
theorem subresourceLayout_told (handle : Handle .image) (subresource : Subresource)
    (hsubresource : ∀ image, d.registry.get? handle = some image →
      image.info.hasSubresource subresource = true) :
    (d.subresourceLayout handle subresource).Told := by
  refine told_lookup hengine (List.mem_singleton_self _) fun image _ himage => ?_
  rw [if_pos (hsubresource image himage)]
  exact ⟨_, rfl⟩

/-! ### Presentation -/

theorem acquireImage_told (hclosed : d.registry.Closed) (handle : Handle .swapchain) :
    (d.acquireImage handle).Told := by
  refine told_lookup hengine (List.mem_singleton_self _) fun swapchain haccepted hget => ?_
  have hcheck := Standard.check_eq_nil Standard.reports_acquireExhausted rfl haccepted
  have hleft : swapchain.acquiredCount ≠ swapchain.images.length := by
    simp only [SwapchainRules.acquireExhausted, context, hget] at hcheck
    exact beq_eq_false_iff_ne.mp (violationIf_eq_nil.mp hcheck)
  cases hnext : swapchain.nextIndex? with
  | some index => exact ⟨_, rfl⟩
  | none =>
    -- If no image is left, all of them are acquired.
    refine absurd ?_ hleft
    have hacquired (acquired : Bool) (hmem : acquired ∈ swapchain.acquired) : true = acquired := by
      have hused : acquired = true := by
        simpa using List.findIdx?_eq_none_iff.mp hnext acquired hmem
      exact hused.symm
    rw [Swapchain.acquiredCount, List.count_eq_length.mpr hacquired]
    exact hclosed .swapchain handle swapchain hget

omit hengine in
/-- Images are given back to swapchains that are alive. -/
theorem releaseImages_ok (r : Registry) (images : List PresentedImage)
    (halive : ∀ image ∈ images, r.contains image.swapchain.erase = true) :
    (releaseImages r images).2 = .ok () := by
  induction images generalizing r with
  | nil => rfl
  | cons image images ih =>
    obtain ⟨swapchain, hget⟩ := Registry.exists_get?_of_contains (halive image List.mem_cons_self)
    rw [releaseImages, Registry.get_eq_ok.mpr hget]
    refine ih _ fun other hother => ?_
    exact (Registry.contains_modify (t := .swapchain) r _ _ _).trans
      (halive other (List.mem_cons_of_mem _ hother))

theorem present_told (images : List PresentedImage) : (d.present images).Told := by
  refine Outcome.told_of_verdict ?_
  rw [present]
  cases hverdict : verdict (d.diagnose (.present images)) with
  | error e => exact hverdict.symm
  | ok accepted =>
    refine Eq.trans ?_ hverdict.symm
    rw [diagnose, hengine] at hverdict
    exact releaseImages_ok d.registry images fun image hmem =>
      Standard.contains_of_accepted hverdict (List.mem_map_of_mem hmem)

/-! ### Beginning and ending -/

theorem beginCommandBuffer_told (queue : Queue) (again : Option (Handle .commandBuffer))
    (usage : CommandBufferUsage) : (d.beginCommandBuffer queue again usage).Told := by
  cases again with
  | none => exact told_guarded hengine fun _ => ⟨_, rfl⟩
  | some handle => exact told_lookup hengine (List.mem_singleton_self _) fun _ _ _ => ⟨_, rfl⟩

omit hengine in
theorem endCommandBuffer_told (d : Device) (recorder : Recorder) :
    (d.endCommandBuffer recorder).Told := by
  unfold endCommandBuffer
  exact Outcome.told_guarded fun _ => ⟨_, rfl⟩

end Device

end VulkanValidity
