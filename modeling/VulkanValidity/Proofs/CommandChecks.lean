/-
  VulkanValidity.Proofs.CommandChecks

  What the rules about commands look at.  A rule sees the device and the recording that a command is added
  to.  Of the recording it sees whether there is a render pass, and which layouts are known; what is not
  known it does not complain about.  So a command that no rule complains about can be recorded on every
  device that is alike, and into every recording that knows less (`Standard.evaluate_relaxes`).

  As with the checkpoints, each combinator that rules are made with has one lemma, and the lists of rules
  are gone through with these.
-/

import VulkanValidity.Proofs.Alike
import VulkanValidity.Proofs.LayoutChecks

namespace VulkanValidity

/-! ## Contexts -/

/-- The recording `recording'` is in the same render pass as `recording`, and what it knows of layouts is
known to `recording`. -/
structure Recording.KnowsLess (recording' recording : Recording) : Prop where
  wellFormed : recording.WellFormed
  wellFormed' : recording'.WellFormed
  renderPass : recording'.renderPass = recording.renderPass
  known : ∀ image i l', recording'.localLayout? image i = some l' →
    ∃ l, recording.localLayout? image i = some l ∧ l.current = l'.current

/-- What rules see of a command that is added to a recording. -/
def Device.commandContext (d : Device) (recording : Recording) (command : Command) : Context :=
  { d.context (.record command) with recording := some recording }

/-- The contexts show the same command, first on a recording, and then on one that knows less. -/
inductive Context.Relaxes : Context → Context → Prop
  | command {d d' : Device} {recording recording' : Recording} (hd : d.Alike d')
      (hknows : recording'.KnowsLess recording) (command : Command) :
    Relaxes (d.commandContext recording command) (d'.commandContext recording' command)

/-- A check that finds nothing wrong with a command finds nothing wrong where less is known. -/
def Check.Relaxes (check : Check) : Prop :=
  ∀ ctx ctx' : Context, ctx.Relaxes ctx' → check ctx = [] → check ctx' = []

namespace Context.Relaxes

variable {ctx ctx' : Context} (h : ctx.Relaxes ctx')
include h

theorem registry : ctx.registry.Alike ctx'.registry := by
  cases h with
  | command hd => exact hd.registry

theorem environment : ctx'.environment = ctx.environment := by
  cases h with
  | command hd => exact hd.environment

theorem renderPass : ctx'.recording.bind Recording.renderPass = ctx.recording.bind Recording.renderPass := by
  cases h with
  | command _ hknows => exact hknows.renderPass

theorem isInside : BarrierRules.isInside ctx' = BarrierRules.isInside ctx := by
  cases h with
  | command _ hknows => exact congrArg Option.isSome hknows.renderPass

theorem outsideRenderPass (name : String) :
    CommandRules.outsideRenderPass ctx' name = CommandRules.outsideRenderPass ctx name := by
  rw [CommandRules.outsideRenderPass, CommandRules.outsideRenderPass, h.renderPass]

end Context.Relaxes

theorem Recording.KnowsLess.layoutMismatch? {recording recording' : Recording}
    (h : recording'.KnowsLess recording) {image : Handle .image} {info : ImageInfo}
    {range : SubresourceRange} {layout : ImageLayout}
    (hnone : recording.layoutMismatch? image info range layout = none) :
    recording'.layoutMismatch? image info range layout = none := by
  refine (layoutMismatch?_eq_none_iff h.wellFormed').mpr fun i l' hi hl' => ?_
  obtain ⟨l, hl, hcurrent⟩ := h.known image i l' hl'
  exact hcurrent.symm.trans ((layoutMismatch?_eq_none_iff h.wellFormed).mp hnone i l hi hl)

/-! ## Objects and queues -/

/-- Commands name no command buffers. -/
theorem Command.exists_of_mem_objects (command : Command) {id : ObjectId} (h : id ∈ command.objects) :
    ∃ (t : ObjectType) (handle : Handle t), t ≠ .commandBuffer ∧ handle.erase = id := by
  cases command with
  | barrier dependency =>
    rcases List.mem_append.mp h with h | h
    · obtain ⟨barrier, -, rfl⟩ := List.mem_map.mp h
      exact ⟨.image, barrier.image, by decide, rfl⟩
    · obtain ⟨barrier, -, rfl⟩ := List.mem_map.mp h
      exact ⟨.buffer, barrier.buffer, by decide, rfl⟩
  | beginRenderPass info =>
    rcases List.mem_cons.mp h with rfl | h
    · exact ⟨.renderPass, info.renderPass, by decide, rfl⟩
    · rcases List.mem_cons.mp h with rfl | h
      · exact ⟨.framebuffer, info.framebuffer, by decide, rfl⟩
      · obtain ⟨view, -, rfl⟩ := List.mem_map.mp h
        exact ⟨.imageView, view, by decide, rfl⟩
  | endRenderPass => cases h
  | clear info =>
    obtain rfl := List.mem_singleton.mp h
    exact ⟨.image, info.image, by decide, rfl⟩
  | copy info =>
    rcases List.mem_cons.mp h with rfl | h
    · exact ⟨.buffer, info.buffer, by decide, rfl⟩
    · obtain rfl := List.mem_singleton.mp h
      exact ⟨.image, info.image, by decide, rfl⟩
  | fill buffer data =>
    obtain rfl := List.mem_singleton.mp h
    exact ⟨.buffer, buffer, by decide, rfl⟩

theorem ObjectRules.relaxes_objectDestroyed : Check.Relaxes objectDestroyed := by
  rintro _ _ ⟨hd, -, command⟩ hnone
  refine objectDestroyed_eq_nil.mpr fun id hid => ?_
  have htombstones := hd.registry.tombstones
  rw [Device.commandContext, Device.context, Registry.isDestroyed, htombstones]
  exact objectDestroyed_eq_nil.mp hnone id hid

theorem ObjectRules.relaxes_objectUnknown : Check.Relaxes objectUnknown := by
  rintro _ _ ⟨hd, -, command⟩ hnone
  refine objectUnknown_eq_nil.mpr fun id hid => ?_
  -- Devices that are alike may differ in command buffers, but commands name none.
  obtain ⟨t, handle, ht, rfl⟩ := command.exists_of_mem_objects hid
  have hknown := hd.registry.isKnown_eq ht handle
  rw [Device.commandContext, Device.context, hknown]
  exact objectUnknown_eq_nil.mp hnone _ hid

theorem SubmissionRules.relaxes_queueFamilyExists : Check.Relaxes queueFamilyExists := by
  -- Commands name no queue.
  rintro _ _ ⟨-, -, command⟩ -
  rfl

theorem SubmissionRules.relaxes_queueExists : Check.Relaxes queueExists := by
  rintro _ _ ⟨-, -, command⟩ -
  rfl

/-! ## Barriers -/

namespace BarrierRules

theorem relaxes_onBarrier {check : Context → Dependency → List Violation}
    (h : ∀ {ctx ctx' : Context}, ctx.Relaxes ctx' → ∀ dependency,
      check ctx dependency = [] → check ctx' dependency = []) :
    Check.Relaxes (onBarrier check) := by
  rintro _ _ ⟨hd, hknows, command⟩ hnone
  cases command with
  | barrier dependency => exact h ⟨hd, hknows, _⟩ dependency hnone
  | _ => rfl

theorem relaxes_onImages {check : Context → ImageBarrier → Nat → List Violation}
    (h : ∀ {ctx ctx' : Context}, ctx.Relaxes ctx' → ∀ barrier index,
      check ctx barrier index = [] → check ctx' barrier index = []) :
    Check.Relaxes (onImages check) := by
  refine relaxes_onBarrier fun hctx dependency hnone => ?_
  refine List.flatMap_eq_nil_iff.mpr fun ⟨barrier, index⟩ hmem => h hctx barrier index ?_
  exact List.flatMap_eq_nil_iff.mp hnone (barrier, index) hmem

theorem relaxes_onBuffers {check : Context → BufferBarrier → Nat → List Violation}
    (h : ∀ {ctx ctx' : Context}, ctx.Relaxes ctx' → ∀ barrier index,
      check ctx barrier index = [] → check ctx' barrier index = []) :
    Check.Relaxes (onBuffers check) := by
  refine relaxes_onBarrier fun hctx dependency hnone => ?_
  refine List.flatMap_eq_nil_iff.mpr fun ⟨barrier, index⟩ hmem => h hctx barrier index ?_
  exact List.flatMap_eq_nil_iff.mp hnone (barrier, index) hmem

theorem relaxes_newLayout : Check.Relaxes newLayout :=
  relaxes_onImages fun _ _ _ hnone => hnone

theorem relaxes_oldLayout : Check.Relaxes oldLayout := by
  refine relaxes_onImages fun hctx barrier index hnone => ?_
  obtain ⟨hd, hknows, command⟩ := hctx
  obtain ⟨states, hget⟩ := hd.registry.images barrier.image
  simp only [Device.commandContext, Device.context] at hnone ⊢
  rw [hget]
  -- The rule speaks up only if the old layout contradicts what is known of a live image.
  split at hnone
  · next image hrecording himage =>
    obtain rfl := Option.some.inj hrecording
    simp only [himage, Option.map_some]
    split at hnone
    · next hundefined => rw [if_pos hundefined]
    · next hdefined =>
      rw [if_neg hdefined]
      split at hnone
      · cases hnone
      · next hmismatch => rw [hknows.layoutMismatch? hmismatch]
  · next hnot =>
    cases himage : Registry.get? _ barrier.image with
    | none => rfl
    | some image => exact absurd himage (hnot _ image rfl)

theorem relaxes_imageSharing : Check.Relaxes imageSharing := by
  refine relaxes_onImages fun hctx barrier index hnone => ?_
  -- The image has the same sharing, whatever states it is in.
  obtain ⟨states, hget⟩ := hctx.registry.images barrier.image
  rw [hget]
  cases htransfer : barrier.transfer with
  | none => rfl
  | some transfer =>
    cases himage : Registry.get? _ barrier.image with
    | none => rfl
    | some image =>
      rw [htransfer, himage] at hnone
      exact hnone

theorem relaxes_bufferSharing : Check.Relaxes bufferSharing := by
  refine relaxes_onBuffers fun hctx barrier index hnone => ?_
  obtain ⟨states, hget⟩ := hctx.registry.buffers barrier.buffer
  rw [hget]
  cases htransfer : barrier.transfer with
  | none => rfl
  | some transfer =>
    cases hbuffer : Registry.get? _ barrier.buffer with
    | none => rfl
    | some buffer =>
      rw [htransfer, hbuffer] at hnone
      exact hnone

theorem relaxes_imageFamilies : Check.Relaxes imageFamilies :=
  relaxes_onImages fun hctx barrier index hnone => by rwa [hctx.environment]

theorem relaxes_bufferFamilies : Check.Relaxes bufferFamilies :=
  relaxes_onBuffers fun hctx barrier index hnone => by rwa [hctx.environment]

theorem relaxes_layoutInside : Check.Relaxes layoutInside :=
  relaxes_onImages fun hctx barrier index hnone => by rwa [hctx.isInside]

theorem relaxes_ownershipInside : Check.Relaxes ownershipInside := by
  intro ctx ctx' hctx hnone
  obtain ⟨himages, hbuffers⟩ := List.append_eq_nil_iff.mp hnone
  refine List.append_eq_nil_iff.mpr ⟨?_, ?_⟩
  · refine relaxes_onImages (fun hctx barrier index hnone => ?_) ctx ctx' hctx himages
    rwa [transferOutside, hctx.isInside]
  · refine relaxes_onBuffers (fun hctx barrier index hnone => ?_) ctx ctx' hctx hbuffers
    rwa [transferOutside, hctx.isInside]

end BarrierRules

/-! ## Render passes -/

namespace RenderPassBeginRules

theorem relaxes_onBegin {check : Context → RenderPassBegin → Framebuffer → List Violation}
    (h : ∀ {ctx ctx' : Context}, ctx.Relaxes ctx' → ∀ info framebuffer,
      check ctx info framebuffer = [] → check ctx' info framebuffer = []) :
    Check.Relaxes (onBegin check) := by
  rintro _ _ ⟨hd, hknows, command⟩ hnone
  cases command with
  | beginRenderPass info =>
    have hget := hd.registry.others info.framebuffer (by decide) (by decide) (by decide)
    simp only [onBegin, Device.commandContext, Device.context] at hnone ⊢
    rw [hget]
    split at hnone
    · exact h ⟨hd, hknows, _⟩ info _ hnone
    · rfl
  | _ => rfl

theorem relaxes_onAttachment (check : ImagelessAttachment → Option String) :
    Check.Relaxes (onAttachment check) := by
  refine relaxes_onBegin fun {ctx ctx'} hctx info framebuffer hnone => ?_
  have hviews (handle : Handle .imageView) : ctx'.registry.get? handle = ctx.registry.get? handle :=
    hctx.registry.others handle (by decide) (by decide) (by decide)
  simp only [hviews]
  exact hnone

theorem relaxes_onEqual {α : Type} [DecidableEq α] (actual expected : ImagelessAttachment → α)
    (message : ImagelessAttachment → String) : Check.Relaxes (onEqual actual expected message) :=
  relaxes_onAttachment _

theorem relaxes_attachmentsNotImageless : Check.Relaxes attachmentsNotImageless :=
  relaxes_onBegin fun _ _ _ hnone => hnone

theorem relaxes_attachmentCount : Check.Relaxes attachmentCount :=
  relaxes_onBegin fun _ _ _ hnone => hnone

theorem relaxes_compatible : Check.Relaxes compatible := by
  refine relaxes_onBegin fun hctx info framebuffer hnone => ?_
  rwa [hctx.registry.others info.renderPass (by decide) (by decide) (by decide)]

theorem relaxes_insideRenderPass : Check.Relaxes insideRenderPass := by
  rintro _ _ ⟨-, hknows, command⟩ hnone
  cases command with
  | beginRenderPass info =>
    simp only [insideRenderPass, Device.commandContext, Device.context] at hnone ⊢
    rwa [hknows.renderPass]
  | _ => rfl

theorem relaxes_endOutside : Check.Relaxes endOutside := by
  rintro _ _ ⟨-, hknows, command⟩ hnone
  cases command with
  | endRenderPass =>
    simp only [endOutside, Device.commandContext, Device.context] at hnone ⊢
    rwa [hknows.renderPass]
  | _ => rfl

end RenderPassBeginRules

/-! ## Transfers -/

namespace CommandRules

theorem relaxes_onClear {check : Context → ClearInfo → List Violation}
    (h : ∀ {ctx ctx' : Context}, ctx.Relaxes ctx' → ∀ info, check ctx info = [] → check ctx' info = []) :
    Check.Relaxes (onClear check) := by
  rintro _ _ ⟨hd, hknows, command⟩ hnone
  cases command with
  | clear info => exact h ⟨hd, hknows, _⟩ info hnone
  | _ => rfl

theorem relaxes_onCopy {check : Context → CopyInfo → List Violation}
    (h : ∀ {ctx ctx' : Context}, ctx.Relaxes ctx' → ∀ info, check ctx info = [] → check ctx' info = []) :
    Check.Relaxes (onCopy check) := by
  rintro _ _ ⟨hd, hknows, command⟩ hnone
  cases command with
  | copy info => exact h ⟨hd, hknows, _⟩ info hnone
  | _ => rfl

theorem relaxes_onClearImage {check : ClearInfo → Image → List Violation}
    (h : ∀ info (image : Image) states, check info image = [] →
      check info { image with states := states } = []) :
    Check.Relaxes (onClearImage check) := by
  refine relaxes_onClear fun hctx info hnone => ?_
  obtain ⟨states, hget⟩ := hctx.registry.images info.image
  rw [hget]
  cases himage : Registry.get? _ info.image with
  | none => rfl
  | some image =>
    rw [himage] at hnone
    exact h info image states hnone

theorem relaxes_onFillBuffer {check : Handle .buffer → Buffer → List Violation}
    (h : ∀ handle (buffer : Buffer) states, check handle buffer = [] →
      check handle { buffer with states := states } = []) :
    Check.Relaxes (onFillBuffer check) := by
  rintro _ _ ⟨hd, -, command⟩ hnone
  cases command with
  | fill handle data =>
    obtain ⟨states, hget⟩ := hd.registry.buffers handle
    simp only [onFillBuffer, Device.commandContext, Device.context] at hnone ⊢
    rw [hget]
    cases hbuffer : Registry.get? _ handle with
    | none => rfl
    | some buffer =>
      rw [hbuffer] at hnone
      exact h handle buffer states hnone
  | _ => rfl

theorem regionLayouts_eq_nil {ctx ctx' : Context} (hctx : ctx.Relaxes ctx') {field : String}
    {layout : ImageLayout} {handle : Handle .image} {regions : List SubresourceRange}
    (hnone : regionLayouts ctx field layout handle regions = []) :
    regionLayouts ctx' field layout handle regions = [] := by
  obtain ⟨hd, hknows, command⟩ := hctx
  obtain ⟨states, hget⟩ := hd.registry.images handle
  simp only [regionLayouts, Device.commandContext, Device.context] at hnone ⊢
  rw [hget]
  cases himage : Registry.get? _ handle with
  | none => rfl
  | some image =>
    rw [himage] at hnone
    refine List.flatMap_eq_nil_iff.mpr fun range hrange => ?_
    have hregion := List.flatMap_eq_nil_iff.mp hnone range hrange
    split at hregion
    · cases hregion
    · next hmismatch => rw [hknows.layoutMismatch? hmismatch]

theorem relaxes_clearLayoutMismatch : Check.Relaxes clearLayoutMismatch :=
  relaxes_onClear fun hctx _ => regionLayouts_eq_nil hctx

theorem relaxes_copyLayoutMismatch : Check.Relaxes copyLayoutMismatch :=
  relaxes_onCopy fun hctx _ => regionLayouts_eq_nil hctx

theorem relaxes_clearInside : Check.Relaxes clearInside :=
  relaxes_onClear fun hctx _ hnone => (hctx.outsideRenderPass _).trans hnone

theorem relaxes_copyInside : Check.Relaxes copyInside :=
  relaxes_onCopy fun hctx _ hnone => (hctx.outsideRenderPass _).trans hnone

theorem relaxes_fillInside : Check.Relaxes fillInside := by
  rintro _ _ ⟨hd, hknows, command⟩ hnone
  cases command with
  | fill buffer data =>
    have hctx := Context.Relaxes.command hd hknows (.fill buffer data)
    exact (hctx.outsideRenderPass _).trans hnone
  | _ => rfl

theorem relaxes_copyImageUsage : Check.Relaxes copyImageUsage := by
  refine relaxes_onCopy fun hctx info hnone => ?_
  obtain ⟨states, hget⟩ := hctx.registry.images info.image
  rw [hget]
  cases himage : Registry.get? _ info.image with
  | none => rfl
  | some image =>
    rw [himage] at hnone
    exact hnone

theorem relaxes_copyBufferUsage : Check.Relaxes copyBufferUsage := by
  refine relaxes_onCopy fun hctx info hnone => ?_
  obtain ⟨states, hget⟩ := hctx.registry.buffers info.buffer
  rw [hget]
  cases hbuffer : Registry.get? _ info.buffer with
  | none => rfl
  | some buffer =>
    rw [hbuffer] at hnone
    exact hnone

theorem relaxes_beginPending : Check.Relaxes beginPending := by
  -- This rule and the next one are about the beginning and the end of recordings.
  rintro _ _ ⟨-, -, command⟩ -
  rfl

theorem relaxes_endInside : Check.Relaxes endInside := by
  rintro _ _ ⟨-, -, command⟩ -
  rfl

end CommandRules

/-! ## All rules about commands -/

namespace Standard

theorem relaxes_renderPassBeginRules :
    ∀ rule ∈ renderPassBeginRules, rule.predicate.check.Relaxes := by
  simp only [renderPassBeginRules, rule, List.forall_mem_cons, List.not_mem_nil, false_implies,
    implies_true, and_true]
  exact ⟨RenderPassBeginRules.relaxes_attachmentsNotImageless,
    RenderPassBeginRules.relaxes_attachmentCount, RenderPassBeginRules.relaxes_onEqual _ _ _,
    RenderPassBeginRules.relaxes_onEqual _ _ _, RenderPassBeginRules.relaxes_onEqual _ _ _,
    RenderPassBeginRules.relaxes_onEqual _ _ _, RenderPassBeginRules.relaxes_onEqual _ _ _,
    RenderPassBeginRules.relaxes_onEqual _ _ _, RenderPassBeginRules.relaxes_onAttachment _,
    RenderPassBeginRules.relaxes_onEqual _ _ _, RenderPassBeginRules.relaxes_onEqual _ _ _,
    RenderPassBeginRules.relaxes_onEqual _ _ _, RenderPassBeginRules.relaxes_onEqual _ _ _,
    RenderPassBeginRules.relaxes_onEqual _ _ _, RenderPassBeginRules.relaxes_compatible,
    RenderPassBeginRules.relaxes_insideRenderPass, RenderPassBeginRules.relaxes_endOutside⟩

theorem relaxes_barrierRules : ∀ rule ∈ barrierRules, rule.predicate.check.Relaxes := by
  simp only [barrierRules, rule, List.forall_mem_cons, List.not_mem_nil, false_implies, implies_true,
    and_true]
  exact ⟨BarrierRules.relaxes_newLayout, BarrierRules.relaxes_imageSharing,
    BarrierRules.relaxes_bufferSharing, BarrierRules.relaxes_imageFamilies,
    BarrierRules.relaxes_bufferFamilies, BarrierRules.relaxes_layoutInside,
    BarrierRules.relaxes_ownershipInside, BarrierRules.relaxes_oldLayout⟩

theorem relaxes_commandRules : ∀ rule ∈ commandRules, rule.predicate.check.Relaxes := by
  simp only [commandRules, rule, List.forall_mem_cons, List.not_mem_nil, false_implies, implies_true,
    and_true]
  exact ⟨CommandRules.relaxes_beginPending, CommandRules.relaxes_endInside,
    CommandRules.relaxes_onClearImage fun _ _ _ hnone => hnone,
    CommandRules.relaxes_onClearImage fun _ _ _ hnone => hnone,
    CommandRules.relaxes_clearLayoutMismatch, CommandRules.relaxes_onClear fun _ _ hnone => hnone,
    CommandRules.relaxes_clearInside, CommandRules.relaxes_copyImageUsage,
    CommandRules.relaxes_copyBufferUsage, CommandRules.relaxes_copyLayoutMismatch,
    CommandRules.relaxes_onCopy fun _ _ hnone => hnone, CommandRules.relaxes_copyInside,
    CommandRules.relaxes_onFillBuffer fun _ _ _ hnone => hnone,
    CommandRules.relaxes_onFillBuffer fun _ _ _ hnone => hnone, CommandRules.relaxes_fillInside⟩

/-- The rules that are evaluated when commands are recorded. -/
theorem recordingRules_eq : engine.rules.filter (fun rule => rule.appliesTo .commandRecording)
    = objectRules.take 2 ++ renderPassBeginRules ++ barrierRules ++ queueRules ++ commandRules := by
  rfl

theorem relaxes_recordingRules :
    ∀ rule ∈ engine.rules.filter (fun rule => rule.appliesTo .commandRecording),
      rule.predicate.check.Relaxes := by
  rw [recordingRules_eq]
  simp only [List.forall_mem_append, and_assoc]
  refine ⟨?_, relaxes_renderPassBeginRules, relaxes_barrierRules, ?_, relaxes_commandRules⟩
  · simp only [objectRules, everywhere, List.take_succ_cons, List.take_zero, List.forall_mem_cons,
      List.not_mem_nil, false_implies, implies_true, and_true]
    exact ⟨ObjectRules.relaxes_objectDestroyed, ObjectRules.relaxes_objectUnknown⟩
  · simp only [queueRules, everywhere, List.forall_mem_cons, List.not_mem_nil, false_implies, implies_true,
      and_true]
    exact ⟨SubmissionRules.relaxes_queueFamilyExists, SubmissionRules.relaxes_queueExists⟩

/-- A command that no rule complains about is not complained about where less is known. -/
theorem evaluate_relaxes {ctx ctx' : Context} (h : ctx.Relaxes ctx') (hnone : engine.evaluate ctx = []) :
    engine.evaluate ctx' = [] := by
  have hcheckpoint : ctx.operation.checkpoint = .commandRecording
      ∧ ctx'.operation.checkpoint = .commandRecording := by
    cases h with
    | command => exact ⟨rfl, rfl⟩
  rw [Engine.evaluate, Engine.applicable, hcheckpoint.1] at hnone
  rw [Engine.evaluate, Engine.applicable, hcheckpoint.2]
  rw [Rule.flatMap_diagnostics_eq_nil] at hnone ⊢
  exact fun rule hrule => relaxes_recordingRules rule hrule ctx ctx' h (hnone rule hrule)

end Standard

end VulkanValidity
