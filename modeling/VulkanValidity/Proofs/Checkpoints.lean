/-
  VulkanValidity.Proofs.Checkpoints

  The checkpoints of the standard rules only save work.  A rule that is evaluated at one checkpoint has
  nothing to complain about at the others, so that the engine that evaluates every rule everywhere reports
  the same diagnostics in the same order (`evaluate_withoutCheckpoints`).

  What a rule looks at is decided by the combinator that it is made with, and each combinator looks for
  operations of one checkpoint (`Check.KeepsTo`).  The rules about the submission of a command buffer do
  not look at the operation but at what is attached to it, and find something only if a submission is;
  devices attach one to the operation that submits, and to no other (`Context.AttachedToSubmit`).
-/

import VulkanValidity.Device
import VulkanValidity.Rules.Standard

namespace VulkanValidity

/-! ## Contexts -/

/-- A submission is attached only to the operation that submits a command buffer. -/
def Context.AttachedToSubmit (ctx : Context) : Prop :=
  ∀ submission, ctx.submission = some submission →
    ∃ queue handle, ctx.operation = .submit queue handle

/-- The contexts that a device and the recorders on it show to the rules. -/
inductive Device.Shows (d : Device) : Context → Prop
  | operation (operation : Operation) : d.Shows (d.context operation)
  | recording (recording : Recording) (operation : Operation) :
    d.Shows { d.context operation with recording := some recording }
  | submission (queue : Queue) (handle : Handle .commandBuffer) (submission : SubmissionContext) :
    d.Shows { d.context (.submit queue handle) with submission := some submission }

theorem Device.Shows.attachedToSubmit {d : Device} {ctx : Context} (h : d.Shows ctx) :
    ctx.AttachedToSubmit := by
  intro attached hattached
  cases h with
  | operation operation => cases hattached
  | recording recording operation => cases hattached
  | submission queue handle submission => exact ⟨queue, handle, rfl⟩

/-! ## Checks at a checkpoint -/

/-- A check finds something only about the operations of a checkpoint. -/
def Check.KeepsTo (checkpoint : Checkpoint) (check : Check) : Prop :=
  ∀ ctx : Context, ctx.AttachedToSubmit → check ctx ≠ [] → ctx.operation.checkpoint = checkpoint

theorem Check.KeepsTo.append {checkpoint : Checkpoint} {check check' : Check}
    (h : check.KeepsTo checkpoint) (h' : check'.KeepsTo checkpoint) :
    Check.KeepsTo checkpoint fun ctx => check ctx ++ check' ctx := by
  intro ctx hctx hfound
  by_cases hnone : check ctx = []
  · have hfound' : check' ctx ≠ [] := by
      intro hnone'
      exact hfound (List.append_eq_nil_iff.mpr ⟨hnone, hnone'⟩)
    exact h' ctx hctx hfound'
  · exact h ctx hctx hnone

/-! ### Creating, allocating and binding -/

theorem ObjectRules.keepsTo_destroyInUse (t : ObjectType) :
    Check.KeepsTo .resourceCreation (destroyInUse t) := by
  intro ctx _ hfound
  unfold destroyInUse at hfound
  split at hfound <;> simp_all [Operation.checkpoint]

theorem ImageRules.keepsTo_onCreate (check : Context → ImageInfo → List Violation) :
    Check.KeepsTo .resourceCreation (onCreate check) := by
  intro ctx _ hfound
  unfold onCreate at hfound
  split at hfound <;> simp_all [Operation.checkpoint]

theorem ImageViewRules.keepsTo_onCreate
    (check : Context → ImageViewInfo → ImageInfo → List Violation) :
    Check.KeepsTo .resourceCreation (onCreate check) := by
  intro ctx _ hfound
  unfold onCreate at hfound
  split at hfound <;> simp_all [Operation.checkpoint]

theorem BufferRules.keepsTo_onCreate (check : Context → BufferInfo → List Violation) :
    Check.KeepsTo .resourceCreation (onCreate check) := by
  intro ctx _ hfound
  unfold onCreate at hfound
  split at hfound <;> simp_all [Operation.checkpoint]

theorem MemoryRules.keepsTo_onAllocate (check : Context → AllocationInfo → List Violation) :
    Check.KeepsTo .resourceCreation (onAllocate check) := by
  intro ctx _ hfound
  unfold onAllocate at hfound
  split at hfound <;> simp_all [Operation.checkpoint]

theorem MemoryRules.keepsTo_fdExportDeclared :
    Check.KeepsTo .resourceCreation fdExportDeclared := by
  intro ctx _ hfound
  unfold fdExportDeclared at hfound
  split at hfound <;> simp_all [Operation.checkpoint]

theorem MemoryRules.keepsTo_fdExportHandleType :
    Check.KeepsTo .resourceCreation fdExportHandleType := by
  intro ctx _ hfound
  unfold fdExportHandleType at hfound
  split at hfound <;> simp_all [Operation.checkpoint]

theorem MemoryRules.keepsTo_hardwareBufferValid :
    Check.KeepsTo .resourceCreation hardwareBufferValid := by
  intro ctx _ hfound
  unfold hardwareBufferValid at hfound
  split at hfound <;> simp_all [Operation.checkpoint]

theorem BindingRules.keepsTo_onImage (check : Target → List Violation) :
    Check.KeepsTo .resourceCreation (onImage check) := by
  intro ctx _ hfound
  unfold onImage imageTarget? at hfound
  split at hfound <;> simp_all [Operation.checkpoint]

theorem BindingRules.keepsTo_onBuffer (check : Target → List Violation) :
    Check.KeepsTo .resourceCreation (onBuffer check) := by
  intro ctx _ hfound
  unfold onBuffer bufferTarget? at hfound
  split at hfound <;> simp_all [Operation.checkpoint]

theorem BindingRules.keepsTo_requirementsBeforeBind (extended : Bool) :
    Check.KeepsTo .resourceCreation (requirementsBeforeBind extended) := by
  intro ctx _ hfound
  unfold requirementsBeforeBind at hfound
  split at hfound <;> simp_all [Operation.checkpoint]

theorem BindingRules.keepsTo_subresourceLayoutBeforeBind :
    Check.KeepsTo .resourceCreation subresourceLayoutBeforeBind := by
  intro ctx _ hfound
  unfold subresourceLayoutBeforeBind at hfound
  split at hfound <;> simp_all [Operation.checkpoint]

theorem BindingRules.keepsTo_subresourceLayoutTiling :
    Check.KeepsTo .resourceCreation subresourceLayoutTiling := by
  intro ctx _ hfound
  unfold subresourceLayoutTiling at hfound
  split at hfound <;> simp_all [Operation.checkpoint]

theorem RenderPassRules.keepsTo_onCreate (check : RenderPassInfo → List Violation) :
    Check.KeepsTo .resourceCreation (onCreate check) := by
  intro ctx _ hfound
  unfold onCreate at hfound
  split at hfound <;> simp_all [Operation.checkpoint]

theorem FramebufferRules.keepsTo_onCreate (check : Target → List Violation) :
    Check.KeepsTo .resourceCreation (onCreate check) := by
  intro ctx _ hfound
  unfold onCreate at hfound
  split at hfound <;> simp_all [Operation.checkpoint]

theorem FramebufferRules.keepsTo_onView (check : Target → ViewAttachment → Option String) :
    Check.KeepsTo .resourceCreation (onView check) :=
  -- The views are looked up in the context, but it is the creation of a framebuffer that shows them.
  fun ctx hctx hfound => keepsTo_onCreate _ ctx hctx hfound

theorem FramebufferRules.keepsTo_onDescribedView
    (check : AttachmentDescription → ViewAttachment → Option String) :
    Check.KeepsTo .resourceCreation (onDescribedView check) :=
  keepsTo_onView _

theorem FramebufferRules.keepsTo_viewUsage (isUsed : AttachmentUse → Bool) (usage : ImageUsage) :
    Check.KeepsTo .resourceCreation (viewUsage isUsed usage) :=
  keepsTo_onView _

theorem FramebufferRules.keepsTo_viewExtent (dimension : String) (viewSize : ImageView → Nat)
    (required : FramebufferInfo → Nat) :
    Check.KeepsTo .resourceCreation (viewExtent dimension viewSize required) :=
  keepsTo_onView _

theorem FramebufferRules.keepsTo_onImageless
    (check : Target → AttachmentImageInfo → Nat → Option String) :
    Check.KeepsTo .resourceCreation (onImageless check) :=
  keepsTo_onCreate _

theorem FramebufferRules.keepsTo_imagelessUsage (isUsed : AttachmentUse → Bool)
    (usage : ImageUsage) :
    Check.KeepsTo .resourceCreation (imagelessUsage isUsed usage) :=
  keepsTo_onImageless _

theorem FramebufferRules.keepsTo_imagelessExtent (dimension : String)
    (size : AttachmentImageInfo → Nat) (required : FramebufferInfo → Nat) :
    Check.KeepsTo .resourceCreation (imagelessExtent dimension size required) :=
  keepsTo_onImageless _

theorem SwapchainRules.keepsTo_onCreate (check : SwapchainInfo → List Violation) :
    Check.KeepsTo .resourceCreation (onCreate check) := by
  intro ctx _ hfound
  unfold onCreate at hfound
  split at hfound <;> simp_all [Operation.checkpoint]

theorem SwapchainRules.keepsTo_destroyImage :
    Check.KeepsTo .resourceCreation destroyImage := by
  intro ctx _ hfound
  unfold destroyImage at hfound
  split at hfound <;> simp_all [Operation.checkpoint]

/-! ### Recording -/

theorem RenderPassBeginRules.keepsTo_onBegin
    (check : Context → RenderPassBegin → Framebuffer → List Violation) :
    Check.KeepsTo .commandRecording (onBegin check) := by
  intro ctx _ hfound
  unfold onBegin at hfound
  split at hfound <;> simp_all [Operation.checkpoint]

theorem RenderPassBeginRules.keepsTo_insideRenderPass :
    Check.KeepsTo .commandRecording insideRenderPass := by
  intro ctx _ hfound
  unfold insideRenderPass at hfound
  split at hfound <;> simp_all [Operation.checkpoint]

theorem RenderPassBeginRules.keepsTo_endOutside :
    Check.KeepsTo .commandRecording endOutside := by
  intro ctx _ hfound
  unfold endOutside at hfound
  split at hfound <;> simp_all [Operation.checkpoint]

theorem BarrierRules.keepsTo_onBarrier (check : Context → Dependency → List Violation) :
    Check.KeepsTo .commandRecording (onBarrier check) := by
  intro ctx _ hfound
  unfold onBarrier at hfound
  split at hfound <;> simp_all [Operation.checkpoint]

theorem CommandRules.keepsTo_onClear (check : Context → ClearInfo → List Violation) :
    Check.KeepsTo .commandRecording (onClear check) := by
  intro ctx _ hfound
  unfold onClear at hfound
  split at hfound <;> simp_all [Operation.checkpoint]

theorem CommandRules.keepsTo_onCopy (check : Context → CopyInfo → List Violation) :
    Check.KeepsTo .commandRecording (onCopy check) := by
  intro ctx _ hfound
  unfold onCopy at hfound
  split at hfound <;> simp_all [Operation.checkpoint]

theorem CommandRules.keepsTo_onFillBuffer (check : Handle .buffer → Buffer → List Violation) :
    Check.KeepsTo .commandRecording (onFillBuffer check) := by
  intro ctx _ hfound
  unfold onFillBuffer at hfound
  split at hfound <;> simp_all [Operation.checkpoint]

theorem CommandRules.keepsTo_fillInside :
    Check.KeepsTo .commandRecording fillInside := by
  intro ctx _ hfound
  unfold fillInside at hfound
  split at hfound <;> simp_all [Operation.checkpoint]

theorem CommandRules.keepsTo_beginPending :
    Check.KeepsTo .commandRecording beginPending := by
  intro ctx _ hfound
  unfold beginPending at hfound
  split at hfound <;> simp_all [Operation.checkpoint]

theorem CommandRules.keepsTo_endInside :
    Check.KeepsTo .commandRecording endInside := by
  intro ctx _ hfound
  unfold endInside at hfound
  split at hfound <;> simp_all [Operation.checkpoint]

/-! ### Submitting and presenting -/

theorem SubmissionRules.keepsTo_orderingCycle :
    Check.KeepsTo .submission orderingCycle := by
  intro ctx _ hfound
  unfold orderingCycle at hfound
  split at hfound <;> simp_all [Operation.checkpoint]

/-- What is attached to a submission is found only at the operation that it is attached to. -/
theorem SubmissionRules.keepsTo_onSubmit (check : Context → SubmissionContext → List Violation) :
    Check.KeepsTo .submission (onSubmit check) := by
  intro ctx hctx hfound
  unfold onSubmit at hfound
  split at hfound
  next submission hsubmission =>
    obtain ⟨queue, handle, hoperation⟩ := hctx submission hsubmission
    rw [hoperation]
    rfl
  next => exact absurd rfl hfound

theorem SwapchainRules.keepsTo_acquireExhausted :
    Check.KeepsTo .presentation acquireExhausted := by
  intro ctx _ hfound
  unfold acquireExhausted at hfound
  split at hfound <;> simp_all [Operation.checkpoint]

theorem SwapchainRules.keepsTo_onPresent
    (check : Context → PresentedImage → Swapchain → List Violation) :
    Check.KeepsTo .presentation (onPresent check) := by
  intro ctx _ hfound
  unfold onPresent at hfound
  split at hfound <;> simp_all [Operation.checkpoint]

/-! ## Rules -/

/-- The checkpoint of a rule hides nothing: where the rule is not evaluated, it would find nothing. -/
def Rule.HidesNothing (rule : Rule) : Prop :=
  ∀ ctx : Context, ctx.AttachedToSubmit → rule.predicate.check ctx ≠ [] →
    rule.appliesTo ctx.operation.checkpoint = true

namespace Standard

theorem hidesNothing_everywhere (kind : ErrorKind) (name vuid : String) (predicate : Predicate) :
    (everywhere kind name vuid predicate).HidesNothing := by
  intro ctx _ _
  rfl

theorem hidesNothing_rule {checkpoint : Checkpoint} {kind : ErrorKind} {name vuid : String}
    {check : Check} {overflows : Context → Bool} (h : check.KeepsTo checkpoint) :
    (rule checkpoint kind name vuid ⟨check, overflows⟩).HidesNothing := by
  intro ctx hctx hfound
  exact beq_iff_eq.mpr (h ctx hctx hfound).symm

/-! ### The rules by subject -/

theorem hidesNothing_objectRules : ∀ rule ∈ objectRules, rule.HidesNothing := by
  simp only [objectRules, List.forall_mem_cons, List.not_mem_nil, false_implies, implies_true,
    and_true]
  and_intros
  all_goals apply_rules [hidesNothing_everywhere, hidesNothing_rule,
    ObjectRules.keepsTo_destroyInUse, SubmissionRules.keepsTo_orderingCycle]

theorem hidesNothing_imageRules : ∀ rule ∈ imageRules, rule.HidesNothing := by
  simp only [imageRules, List.forall_mem_cons, List.not_mem_nil, false_implies, implies_true,
    and_true]
  and_intros
  all_goals apply_rules [hidesNothing_rule, ImageRules.keepsTo_onCreate]

theorem hidesNothing_imageViewRules : ∀ rule ∈ imageViewRules, rule.HidesNothing := by
  simp only [imageViewRules, List.forall_mem_cons, List.not_mem_nil, false_implies, implies_true,
    and_true]
  and_intros
  all_goals apply_rules [hidesNothing_rule, ImageViewRules.keepsTo_onCreate]

theorem hidesNothing_bufferRules : ∀ rule ∈ bufferRules, rule.HidesNothing := by
  simp only [bufferRules, List.forall_mem_cons, List.not_mem_nil, false_implies, implies_true,
    and_true]
  and_intros
  all_goals apply_rules [hidesNothing_rule, BufferRules.keepsTo_onCreate]

theorem hidesNothing_memoryRules : ∀ rule ∈ memoryRules, rule.HidesNothing := by
  simp only [memoryRules, List.forall_mem_cons, List.not_mem_nil, false_implies, implies_true,
    and_true]
  and_intros
  all_goals apply_rules [hidesNothing_rule, MemoryRules.keepsTo_onAllocate,
    MemoryRules.keepsTo_fdExportDeclared, MemoryRules.keepsTo_fdExportHandleType,
    MemoryRules.keepsTo_hardwareBufferValid]

theorem hidesNothing_bindingRules : ∀ rule ∈ bindingRules, rule.HidesNothing := by
  simp only [bindingRules, List.forall_mem_cons, List.not_mem_nil, false_implies, implies_true,
    and_true]
  and_intros
  all_goals apply_rules [hidesNothing_rule, BindingRules.keepsTo_onImage,
    BindingRules.keepsTo_onBuffer, BindingRules.keepsTo_requirementsBeforeBind,
    BindingRules.keepsTo_subresourceLayoutBeforeBind,
    BindingRules.keepsTo_subresourceLayoutTiling]

theorem hidesNothing_renderPassRules : ∀ rule ∈ renderPassRules, rule.HidesNothing := by
  simp only [renderPassRules, List.forall_mem_cons, List.not_mem_nil, false_implies, implies_true,
    and_true]
  and_intros
  all_goals apply_rules [hidesNothing_rule, RenderPassRules.keepsTo_onCreate]

theorem hidesNothing_framebufferRules : ∀ rule ∈ framebufferRules, rule.HidesNothing := by
  simp only [framebufferRules, List.forall_mem_cons, List.not_mem_nil, false_implies, implies_true,
    and_true]
  and_intros
  all_goals apply_rules [hidesNothing_rule, FramebufferRules.keepsTo_onCreate,
    FramebufferRules.keepsTo_onView, FramebufferRules.keepsTo_onDescribedView,
    FramebufferRules.keepsTo_viewUsage, FramebufferRules.keepsTo_viewExtent,
    FramebufferRules.keepsTo_onImageless, FramebufferRules.keepsTo_imagelessUsage,
    FramebufferRules.keepsTo_imagelessExtent]

theorem hidesNothing_renderPassBeginRules : ∀ rule ∈ renderPassBeginRules, rule.HidesNothing := by
  simp only [renderPassBeginRules, List.forall_mem_cons, List.not_mem_nil, false_implies, implies_true,
    and_true]
  and_intros
  all_goals apply_rules [hidesNothing_rule, RenderPassBeginRules.keepsTo_onBegin,
    RenderPassBeginRules.keepsTo_insideRenderPass, RenderPassBeginRules.keepsTo_endOutside]

theorem hidesNothing_barrierRules : ∀ rule ∈ barrierRules, rule.HidesNothing := by
  simp only [barrierRules, List.forall_mem_cons, List.not_mem_nil, false_implies, implies_true,
    and_true]
  and_intros
  all_goals apply_rules [hidesNothing_rule, Check.KeepsTo.append, BarrierRules.keepsTo_onBarrier]

theorem hidesNothing_replayRules : ∀ rule ∈ replayRules, rule.HidesNothing := by
  simp only [replayRules, List.forall_mem_cons, List.not_mem_nil, false_implies, implies_true,
    and_true]
  and_intros
  all_goals apply_rules [hidesNothing_rule, Check.KeepsTo.append,
    SubmissionRules.keepsTo_onSubmit]

theorem hidesNothing_queueRules : ∀ rule ∈ queueRules, rule.HidesNothing := by
  simp only [queueRules, List.forall_mem_cons, List.not_mem_nil, false_implies, implies_true,
    and_true]
  and_intros
  all_goals apply_rules [hidesNothing_everywhere]

theorem hidesNothing_commandRules : ∀ rule ∈ commandRules, rule.HidesNothing := by
  simp only [commandRules, List.forall_mem_cons, List.not_mem_nil, false_implies, implies_true,
    and_true]
  and_intros
  all_goals apply_rules [hidesNothing_rule, CommandRules.keepsTo_onClear,
    CommandRules.keepsTo_onCopy, CommandRules.keepsTo_onFillBuffer,
    CommandRules.keepsTo_fillInside, CommandRules.keepsTo_beginPending,
    CommandRules.keepsTo_endInside]

theorem hidesNothing_submissionRules : ∀ rule ∈ submissionRules, rule.HidesNothing := by
  simp only [submissionRules, List.forall_mem_cons, List.not_mem_nil, false_implies, implies_true,
    and_true]
  and_intros
  all_goals apply_rules [hidesNothing_rule, SubmissionRules.keepsTo_onSubmit]

theorem hidesNothing_swapchainRules : ∀ rule ∈ swapchainRules, rule.HidesNothing := by
  simp only [swapchainRules, List.forall_mem_cons, List.not_mem_nil, false_implies, implies_true,
    and_true]
  and_intros
  all_goals apply_rules [hidesNothing_rule, SwapchainRules.keepsTo_onCreate,
    SwapchainRules.keepsTo_acquireExhausted, SwapchainRules.keepsTo_onPresent,
    SwapchainRules.keepsTo_destroyImage]

theorem hidesNothing_rules : ∀ rule ∈ rules, rule.HidesNothing := by
  simp only [rules, List.forall_mem_append, and_assoc]
  exact ⟨hidesNothing_objectRules, hidesNothing_imageRules, hidesNothing_imageViewRules,
    hidesNothing_bufferRules, hidesNothing_memoryRules, hidesNothing_bindingRules,
    hidesNothing_renderPassRules, hidesNothing_framebufferRules, hidesNothing_renderPassBeginRules,
    hidesNothing_barrierRules, hidesNothing_replayRules, hidesNothing_queueRules,
    hidesNothing_commandRules, hidesNothing_submissionRules, hidesNothing_swapchainRules⟩

end Standard

/-! ## Engines without checkpoints -/

/-- The same rule, evaluated at every checkpoint. -/
def Rule.withoutCheckpoint (rule : Rule) : Rule := { rule with checkpoint := none }

/-- The engine with the same rules in the same order, each of them evaluated at every checkpoint. -/
def Engine.withoutCheckpoints (engine : Engine) : Engine :=
  ⟨engine.rules.map Rule.withoutCheckpoint⟩

/-- An engine without checkpoints reports what each of its rules finds. -/
theorem Engine.evaluate_withoutCheckpoints_eq (engine : Engine) (ctx : Context) :
    engine.withoutCheckpoints.evaluate ctx = engine.rules.flatMap fun rule => rule.diagnostics ctx := by
  have hall : engine.withoutCheckpoints.applicable ctx = engine.rules.map Rule.withoutCheckpoint := by
    refine List.filter_eq_self.mpr fun rule hrule => ?_
    obtain ⟨original, -, rfl⟩ := List.mem_map.mp hrule
    rfl
  rw [evaluate, hall, List.flatMap_map]
  rfl

/-- Where a rule that hides nothing is not evaluated, it has no diagnostics. -/
theorem Rule.HidesNothing.diagnostics_eq_nil {rule : Rule} (h : rule.HidesNothing) {ctx : Context}
    (hctx : ctx.AttachedToSubmit) (hnot : rule.appliesTo ctx.operation.checkpoint = false) :
    rule.diagnostics ctx = [] := by
  have hnone : rule.predicate.check ctx = [] :=
    Decidable.byContradiction fun hfound =>
      Bool.false_ne_true (hnot.symm.trans (h ctx hctx hfound))
  rw [diagnostics, hnone, List.map_nil]

/-- What gives nothing can be left out. -/
theorem flatMap_filter_eq {α β : Type} {p : α → Bool} {f : α → List β} {l : List α}
    (h : ∀ a ∈ l, p a = false → f a = []) : (l.filter p).flatMap f = l.flatMap f := by
  induction l with
  | nil => rfl
  | cons a l ih =>
    obtain ⟨ha, hl⟩ := List.forall_mem_cons.mp h
    cases hp : p a with
    | true => simp only [List.filter_cons, hp, if_true, List.flatMap_cons, ih hl]
    | false =>
      simp only [List.filter_cons, hp, Bool.false_eq_true, if_false, List.flatMap_cons, ha hp,
        List.nil_append, ih hl]

/-- The standard engine reports what each of its rules finds. -/
theorem Standard.evaluate_eq_flatMap {ctx : Context} (hctx : ctx.AttachedToSubmit) :
    engine.evaluate ctx = rules.flatMap fun rule => rule.diagnostics ctx :=
  flatMap_filter_eq fun rule hrule hnot =>
    (hidesNothing_rules rule hrule).diagnostics_eq_nil hctx hnot

/-- The checkpoints of the standard rules hide no violation: whatever a device shows to its rules, the
standard engine reports the same without them. -/
theorem evaluate_withoutCheckpoints {ctx : Context} (hctx : ctx.AttachedToSubmit) :
    Standard.engine.evaluate ctx = Standard.engine.withoutCheckpoints.evaluate ctx := by
  rw [Engine.evaluate_withoutCheckpoints_eq]
  exact Standard.evaluate_eq_flatMap hctx

/-- A command buffer that is still recorded is submitted to a queue that does not exist. -/
def submitToMissingQueue : Context where
  registry := {}
  environment := {}
  operation := .submit ⟨7, 0⟩ (.ofSerial .commandBuffer 1)
  submission := some (.of {} ⟨7, 0⟩ (.ofSerial .commandBuffer 1) { family := 1 })

/-- Without checkpoints too, a submission is reported by the rules about queues, which are evaluated
everywhere, and by those about submissions. -/
theorem submitToMissingQueue_withoutCheckpoints :
    submitToMissingQueue.AttachedToSubmit
      ∧ (Standard.engine.withoutCheckpoints.evaluate submitToMissingQueue).map Diagnostic.vuid
        = ["VUID-VkDeviceQueueCreateInfo-queueFamilyIndex-00381",
          "VUID-vkQueueSubmit-pCommandBuffers-00070", "VUID-vkQueueSubmit-pCommandBuffers-00074"] := by
  have hattached : submitToMissingQueue.AttachedToSubmit :=
    Device.Shows.attachedToSubmit (d := { environment := {}, engine := Standard.engine })
      (.submission ⟨7, 0⟩ (.ofSerial .commandBuffer 1) _)
  refine ⟨hattached, ?_⟩
  rw [← evaluate_withoutCheckpoints hattached]
  decide +kernel

end VulkanValidity
