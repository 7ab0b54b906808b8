/-
  VulkanValidity.Proofs.Diagnosis

  When calls fail.  On the standard engine a call fails if an error is reported to its sink, and with the
  first such error.  Two kinds of calls fail without one (`Session.looksPast`): a query for a subresource
  that the image does not have, and the beginning of a render pass with a framebuffer that has lost one of
  its views.  No rule looks at either, and no other call fails by anything that no rule looks at.
-/

import VulkanValidity.Proofs.Verdicts

namespace VulkanValidity

/-! ## Recording -/

/-- Whether a framebuffer is alive and a view that it was created with is not. -/
def Registry.lostView (r : Registry) (handle : Handle .framebuffer) : Bool :=
  match r.get? handle with
  | some framebuffer =>
    match framebuffer.info.attachments with
    | .views handles => handles.any fun view => !r.contains view.erase
    | .imageless _ => false
  | none => false

namespace Recorder

/-! ### Barriers -/

theorem imageBarriers_ok (registry : Registry) (recording : Recording) (barriers : List ImageBarrier)
    (halive : ∀ barrier ∈ barriers, registry.contains barrier.image.erase = true) :
    (imageBarriers registry recording barriers).2 = .ok () := by
  induction barriers generalizing recording with
  | nil => rfl
  | cons barrier barriers ih =>
    obtain ⟨image, hget⟩ := Registry.exists_get?_of_contains (halive barrier List.mem_cons_self)
    rw [imageBarriers, Registry.get_eq_ok.mpr hget]
    exact ih _ fun other hother => halive other (List.mem_cons_of_mem barrier hother)

theorem bufferBarriers_ok (registry : Registry) (recording : Recording) (barriers : List BufferBarrier)
    (halive : ∀ barrier ∈ barriers, registry.contains barrier.buffer.erase = true) :
    (bufferBarriers registry recording barriers).2 = .ok () := by
  induction barriers generalizing recording with
  | nil => rfl
  | cons barrier barriers ih =>
    obtain ⟨buffer, hget⟩ := Registry.exists_get?_of_contains (halive barrier List.mem_cons_self)
    rw [bufferBarriers, Registry.get_eq_ok.mpr hget]
    exact ih _ fun other hother => halive other (List.mem_cons_of_mem barrier hother)

theorem barriers_ok (registry : Registry) (recording : Recording) (dependency : Dependency)
    (halive : ∀ id ∈ (Command.barrier dependency).objects, registry.contains id = true) :
    (barriers registry recording dependency).2 = .ok () := by
  have himages := imageBarriers_ok registry recording dependency.imageBarriers
    fun barrier hbarrier => halive _ (List.mem_append_left _ (List.mem_map_of_mem hbarrier))
  rw [barriers]
  split
  · next heq =>
    rw [heq] at himages
    cases himages
  · exact bufferBarriers_ok registry _ dependency.bufferBarriers
      fun barrier hbarrier => halive _ (List.mem_append_right _ (List.mem_map_of_mem hbarrier))

end Recorder

/-- The standard engine reports errors only, and so what it finds is about layouts if it finds no other
error. -/
theorem Standard.kind_of_not_structural {ctx : Context}
    (h : hasStructuralError (engine.evaluate ctx) = false) {diagnostic : Diagnostic}
    (hmem : diagnostic ∈ engine.evaluate ctx) : diagnostic.kind = .layoutMismatch := by
  have hharmless := List.any_eq_false.mp h diagnostic hmem
  simpa [severity_eq_error hmem] using hharmless

/-- The standard engine finds no fault with the objects of a command if it finds none but with layouts. -/
theorem Standard.contains_of_not_structural {ctx : Context}
    (h : hasStructuralError (engine.evaluate ctx) = false) {id : ObjectId}
    (hid : id ∈ ctx.operation.objects) : ctx.registry.contains id = true := by
  refine contains_of_checks ((reports_objectDestroyed _).check_eq_nil rfl fun diagnostic hmem => ?_)
    ((reports_objectUnknown _).check_eq_nil rfl fun diagnostic hmem => ?_) hid
  · rw [kind_of_not_structural h hmem]
    decide
  · rw [kind_of_not_structural h hmem]
    decide

namespace Recorder

/-! ### Other commands -/

/-- The views of a framebuffer that has lost none can be looked up. -/
theorem beginViews_ok {registry : Registry} {framebuffer : Framebuffer} {info : RenderPassBegin}
    (hget : registry.get? info.framebuffer = some framebuffer)
    (halive : ∀ handle ∈ info.views, registry.contains handle.erase = true)
    (hviews : registry.lostView info.framebuffer = false) :
    ∃ views, beginViews registry framebuffer info = .ok views := by
  refine exists_mapM_ok.mpr fun handle hhandle => ?_
  -- The views are those of the framebuffer, or those that the command names.
  have hcontains : registry.contains handle.erase = true := by
    simp only [Registry.lostView, hget] at hviews
    split at hhandle
    · next handles hattachments =>
      rw [hattachments] at hviews
      simpa using List.any_eq_false.mp hviews handle hhandle
    · exact halive handle hhandle
  obtain ⟨view, hview⟩ := Registry.exists_get?_of_contains hcontains
  rw [Registry.get_eq_ok.mpr hview]
  exact ⟨_, rfl⟩

/-- A command can be performed if the objects that it names are alive, and the framebuffer that it begins
with has lost no view. -/
theorem perform_ok {registry : Registry} (recording : Recording) {command : Command}
    (halive : ∀ id ∈ command.objects, registry.contains id = true)
    (hviews : ∀ info, command = .beginRenderPass info → registry.lostView info.framebuffer = false) :
    ∃ after, perform registry recording command = .ok after := by
  have hget {t : ObjectType} {h : Handle t} (hmem : h.erase ∈ command.objects) :
      ∃ object, registry.get? h = some object :=
    Registry.exists_get?_of_contains (halive _ hmem)
  cases command with
  | barrier dependency => exact ⟨_, rfl⟩
  | clear info =>
    obtain ⟨image, himage⟩ := hget (h := info.image) (List.mem_singleton_self _)
    rw [perform, Registry.get_eq_ok.mpr himage]
    exact ⟨_, rfl⟩
  | copy info =>
    obtain ⟨buffer, hbuffer⟩ := hget (h := info.buffer) List.mem_cons_self
    obtain ⟨image, himage⟩ := hget (h := info.image) (List.mem_cons_of_mem _ List.mem_cons_self)
    rw [perform, Registry.get_eq_ok.mpr hbuffer, Registry.get_eq_ok.mpr himage]
    exact ⟨_, rfl⟩
  | fill handle data =>
    obtain ⟨buffer, hbuffer⟩ := hget (h := handle) (List.mem_singleton_self _)
    rw [perform, Registry.get_eq_ok.mpr hbuffer]
    exact ⟨_, rfl⟩
  | beginRenderPass info =>
    obtain ⟨renderPass, hrenderPass⟩ := hget (h := info.renderPass) List.mem_cons_self
    obtain ⟨framebuffer, hframebuffer⟩ :=
      hget (h := info.framebuffer) (List.mem_cons_of_mem _ List.mem_cons_self)
    obtain ⟨views, hbegin⟩ := beginViews_ok hframebuffer
      (fun handle hhandle => halive _ (List.mem_cons_of_mem _ (List.mem_cons_of_mem _
        (List.mem_map_of_mem hhandle)))) (hviews info rfl)
    rw [perform, Registry.get_eq_ok.mpr hrenderPass, Registry.get_eq_ok.mpr hframebuffer]
    simp only [bind, Except.bind, hbegin]
    exact ⟨_, rfl⟩
  | endRenderPass => exact ⟨_, rfl⟩

/-- A render pass does not begin with a framebuffer that has lost a view. -/
theorem perform_lostView {registry : Registry} (recording : Recording) {info : RenderPassBegin}
    (hlost : registry.lostView info.framebuffer = true) :
    ∃ e, perform registry recording (.beginRenderPass info) = .error e := by
  cases hperform : perform registry recording (.beginRenderPass info) with
  | error e => exact ⟨e, rfl⟩
  | ok after =>
    exfalso
    obtain ⟨renderPass, -, hperform⟩ := bind_eq_ok.mp hperform
    obtain ⟨framebuffer, hframebuffer, hperform⟩ := bind_eq_ok.mp hperform
    obtain ⟨views, hbegin, -⟩ := bind_eq_ok.mp hperform
    simp only [Registry.lostView, Registry.get_eq_ok.mp hframebuffer] at hlost
    split at hlost
    · next handles hattachments =>
      obtain ⟨handle, hhandle, hdead⟩ := List.any_eq_true.mp hlost
      rw [beginViews, hattachments] at hbegin
      obtain ⟨bound, hbound⟩ := exists_mapM_ok.mp ⟨views, hbegin⟩ handle hhandle
      obtain ⟨view, hview, -⟩ := bind_eq_ok.mp hbound
      rw [Registry.contains_of_get? (Registry.get_eq_ok.mp hview)] at hdead
      cases hdead
    · cases hlost

/-! ### All commands -/

/-- Recording a command is told by its diagnostics, unless the command begins a render pass with a
framebuffer that has lost a view. -/
theorem record_told {d : Device} (hengine : d.engine = Standard.engine) (recorder : Recorder)
    (command : Command) (hviews : ∀ info, command = .beginRenderPass info →
      d.registry.lostView info.framebuffer = false) : (recorder.record d command).Told := by
  have hdiagnose : d.diagnoseRecording recorder.recording (.record command)
      = Standard.engine.evaluate
        { d.context (.record command) with recording := some recorder.recording } := by
    rw [Device.diagnoseRecording, hengine]
  -- A barrier is recorded although its layouts do not match, and is no guarded operation.
  by_cases hbarrier : ∃ dependency, command = .barrier dependency
  · obtain ⟨dependency, rfl⟩ := hbarrier
    refine Outcome.told_of_verdict ?_
    simp only [record, recordBarrier]
    split
    · rfl
    · next hharmless =>
      rw [hdiagnose, Bool.not_eq_true] at hharmless
      have hrecorded := barriers_ok d.registry recorder.recording dependency
        fun id hid => Standard.contains_of_not_structural hharmless hid
      rw [hrecorded]
      rfl
  · have hperform (haccepted : verdict (d.diagnoseRecording recorder.recording (.record command))
        = .ok ()) : ∃ after, perform d.registry recorder.recording command = .ok after := by
      rw [hdiagnose] at haccepted
      exact perform_ok recorder.recording
        (fun id hid => Standard.contains_of_accepted haccepted hid) hviews
    have hrecord : recorder.record d command
        = .guarded recorder (d.diagnoseRecording recorder.recording (.record command))
          (do
            let recording ← perform d.registry recorder.recording command
            pure ((), recorder.withRecording recording)) := by
      cases command with
      | barrier dependency => exact absurd ⟨dependency, rfl⟩ hbarrier
      | _ => rfl
    rw [hrecord]
    refine Outcome.told_guarded fun haccepted => ?_
    obtain ⟨after, hafter⟩ := hperform haccepted
    rw [hafter]
    exact ⟨_, rfl⟩

end Recorder

/-! ## Submitting -/

namespace Standard

theorem reports_orderingCycle :
    engine.Reports .submission .invalidParams SubmissionRules.orderingCycle :=
  reports_rule objectRules 9

theorem reports_queueFamilyExists (checkpoint : Checkpoint) :
    engine.Reports checkpoint .invalidParams SubmissionRules.queueFamilyExists :=
  reports_rule queueRules 0

theorem reports_queueExists (checkpoint : Checkpoint) :
    engine.Reports checkpoint .invalidParams SubmissionRules.queueExists :=
  reports_rule queueRules 1

theorem reports_notExecutable :
    engine.Reports .submission .invalidParams SubmissionRules.notExecutable :=
  reports_rule submissionRules 0

theorem reports_destroyedReference :
    engine.Reports .submission .useAfterFree SubmissionRules.destroyedReference :=
  reports_rule submissionRules 1

theorem reports_alreadyPending :
    engine.Reports .submission .invalidParams SubmissionRules.alreadyPending :=
  reports_rule submissionRules 2

theorem reports_queueFamily :
    engine.Reports .submission .invalidParams SubmissionRules.queueFamily :=
  reports_rule submissionRules 3

/-- The queue of an accepted operation exists. -/
theorem hasQueue_of_accepted {ctx : Context} (h : verdict (engine.evaluate ctx) = .ok ())
    {queue : Queue} (hqueue : SubmissionRules.operationQueue? ctx.operation = some queue) :
    ctx.environment.hasQueue queue = true := by
  have hfamily := check_eq_nil (reports_queueFamilyExists _) rfl h
  have hindex := check_eq_nil (reports_queueExists _) rfl h
  simp only [SubmissionRules.queueFamilyExists, hqueue] at hfamily
  have hlt : queue.family < ctx.environment.queueFamilies.length :=
    Nat.lt_of_not_le (of_decide_eq_false (violationIf_eq_nil.mp hfamily))
  simp only [SubmissionRules.queueExists, hqueue, List.getElem?_eq_getElem hlt] at hindex
  rw [Environment.hasQueue, List.getElem?_eq_getElem hlt]
  exact decide_eq_true (Nat.lt_of_not_le (of_decide_eq_false (violationIf_eq_nil.mp hindex)))

end Standard

namespace Device

/-- What rules see of the submission of a command buffer. -/
def submitContext (d : Device) (queue : Queue) (handle : Handle .commandBuffer) (cb : CommandBuffer) :
    Context :=
  { d.context (.submit queue handle) with submission := some (.of d.registry queue handle cb) }

/-- A command buffer about whose submission no rule complains is admitted. -/
theorem exists_admitted?_of_accepted {d : Device} {queue : Queue} {handle : Handle .commandBuffer}
    {cb : CommandBuffer} (hfits : d.registry.Fits .commandBuffer cb)
    (hknown : ∀ log, cb.log = some log → ∀ id ∈ log.references, d.registry.isKnown id = true)
    (haccepted : verdict (Standard.engine.evaluate (d.submitContext queue handle cb)) = .ok ()) :
    ∃ log, d.admitted? queue cb = some log := by
  -- Each condition of an admission has a rule that would report that it fails.
  have hexecutable : SubmissionRules.notExecutable (d.submitContext queue handle cb) = [] :=
    Standard.check_eq_nil Standard.reports_notExecutable rfl haccepted
  have hpending : SubmissionRules.alreadyPending (d.submitContext queue handle cb) = [] :=
    Standard.check_eq_nil Standard.reports_alreadyPending rfl haccepted
  have hfamily : SubmissionRules.queueFamily (d.submitContext queue handle cb) = [] :=
    Standard.check_eq_nil Standard.reports_queueFamily rfl haccepted
  have hreferences : SubmissionRules.destroyedReference (d.submitContext queue handle cb) = [] :=
    Standard.check_eq_nil Standard.reports_destroyedReference rfl haccepted
  have hqueue : d.environment.hasQueue queue = true :=
    Standard.hasQueue_of_accepted haccepted rfl
  have hstatus : cb.status = .executable ∨ cb.status = .pending := by
    have hcondition := violationIf_eq_nil.mp hexecutable
    simpa [SubmissionContext.of, Classical.or_iff_not_imp_left] using hcondition
  obtain ⟨log, hlog⟩ := Option.isSome_iff_exists.mp (hfits hstatus)
  have hsubmittable : cb.isSubmittable = true := by
    have hcondition := violationIf_eq_nil.mp hpending
    rcases hstatus with hs | hs
    · rw [CommandBuffer.isSubmittable, hs]
    · simpa [CommandBuffer.isSubmittable, SubmissionContext.of, hs] using hcondition
  have hsame : (cb.family == queue.family) = true := by
    have hcondition := violationIf_eq_nil.mp hfamily
    simpa [SubmissionContext.of] using hcondition
  have halive : log.references.all d.registry.contains = true := by
    refine List.all_eq_true.mpr fun id hid => ?_
    have hnotDestroyed : d.registry.isDestroyed id = false := by
      simp only [SubmissionRules.destroyedReference, SubmissionRules.onSubmit, submitContext,
        SubmissionContext.of, hlog, List.map_eq_nil_iff, List.filter_eq_nil_iff] at hreferences
      exact Bool.eq_false_iff.mpr (hreferences id hid)
    -- What is known and not destroyed is alive.
    have hisKnown := hknown log hlog id hid
    rwa [Registry.isKnown, hnotDestroyed, Bool.or_false] at hisKnown
  refine ⟨log, Option.filter_eq_some_iff.mpr ⟨hlog, ?_⟩⟩
  rw [hsubmittable, hqueue, hsame, halive]
  rfl

/-- Submitting a command buffer that is alive fails with the first error that is reported. -/
theorem submitOne_result {s : Session} (h : s.Closed) (hengine : s.device.engine = Standard.engine)
    {handle : Handle .commandBuffer} (halive : s.device.registry.contains handle.erase = true)
    (queue : Queue) :
    (s.device.submitOne queue handle).result
      = verdict (s.device.submitOne queue handle).diagnostics := by
  obtain ⟨cb, hget⟩ := Registry.exists_get?_of_contains halive
  have hdiagnostics : (s.device.submitOne queue handle).diagnostics
      = Standard.engine.evaluate (s.device.submitContext queue handle cb) := by
    rw [submitOne_diagnostics hget, hengine]
    rfl
  cases hadmitted : s.device.admitted? queue cb with
  | some log =>
    rw [hdiagnostics, submitOne, Registry.get_eq_ok.mpr hget]
    simp only [hadmitted, hengine]
    rfl
  | none =>
    -- A command buffer that is not admitted is one that the rules complain about.
    cases hverdict : verdict (Standard.engine.evaluate (s.device.submitContext queue handle cb)) with
    | error e =>
      rw [hdiagnostics, submitOne, Registry.get_eq_ok.mpr hget]
      simp only [hadmitted, hengine]
      show (do
        verdict (Standard.engine.evaluate (s.device.submitContext queue handle cb))
        throw (Error.ofKind .invalidParams) : Except Error Unit) = _
      rw [hverdict]
      rfl
    | ok accepted =>
      have hknown (log : CommandLog) (hlog : cb.log = some log) (id : ObjectId)
          (hid : id ∈ log.references) : s.device.registry.isKnown id = true :=
        h.logs.logs handle log ((Registry.log?_of_get? hget).trans hlog) id hid
      obtain ⟨log, hlog⟩ := exists_admitted?_of_accepted
        (h.registry .commandBuffer handle cb hget) hknown hverdict
      rw [hadmitted] at hlog
      cases hlog

/-- Submitting one command buffer after the other fails with the first error of all. -/
theorem foldl_submitNext_result {s : Session} {outcome : Outcome Device Unit}
    (h : (s.withDevice outcome.state).Closed) (hengine : outcome.state.engine = Standard.engine)
    {entries : List (Queue × Handle .commandBuffer)}
    (halive : ∀ entry ∈ entries, outcome.state.registry.contains entry.2.erase = true)
    (hresult : outcome.result = verdict outcome.diagnostics) :
    (entries.foldl submitNext outcome).result
      = verdict (entries.foldl submitNext outcome).diagnostics := by
  induction entries generalizing outcome with
  | nil => exact hresult
  | cons entry entries ih =>
    have hnext := submitOne_result h hengine (halive entry List.mem_cons_self) entry.1
    refine ih (h.submission entry.1 entry.2)
      ((outcome.state.submitOne_engine entry.1 entry.2).trans hengine) (fun other hother => ?_) ?_
    · exact (outcome.state.contains_submitOne entry.1 entry.2 _).trans
        (halive other (List.mem_cons_of_mem entry hother))
    · show (do outcome.result; (outcome.state.submitOne entry.1 entry.2).result)
        = verdict (outcome.diagnostics ++ (outcome.state.submitOne entry.1 entry.2).diagnostics)
      rw [verdict_append, hresult]
      exact congrArg (verdict outcome.diagnostics >>= fun _ => ·) hnext

/-- What is submitted is named by the batches. -/
theorem mem_of_mem_submissionSequence {batches : List SubmitBatch} {order : List Nat}
    {entry : Queue × Handle .commandBuffer} (h : entry ∈ submissionSequence batches order) :
    entry.2.erase ∈ (batches.flatMap SubmitBatch.commandBuffers).map Handle.erase := by
  obtain ⟨batch, hbatch, hentry⟩ := List.mem_flatMap.mp h
  obtain ⟨index, -, hindex⟩ := List.mem_filterMap.mp hbatch
  obtain ⟨handle, hhandle, rfl⟩ := List.mem_map.mp hentry
  exact List.mem_map_of_mem
    (List.mem_flatMap.mpr ⟨batch, List.mem_of_getElem? hindex, hhandle⟩)

theorem submit_told {s : Session} (h : s.Closed) (hengine : s.device.engine = Standard.engine)
    (batches : List SubmitBatch) : (s.device.submit batches).Told := by
  refine Outcome.told_of_verdict ?_
  rw [submit]
  cases hverdict : verdict (s.device.diagnose (.submitBatches batches)) with
  | error e => exact hverdict.symm
  | ok accepted =>
    have haccepted : verdict (Standard.engine.evaluate (s.device.context (.submitBatches batches)))
        = .ok () := by
      rwa [diagnose, hengine] at hverdict
    cases horder : submissionOrder? batches with
    | none =>
      -- A rule looks for cycles, unless another one complains.
      exfalso
      have hcycle : SubmissionRules.orderingCycle (s.device.context (.submitBatches batches)) = [] :=
        Standard.check_eq_nil Standard.reports_orderingCycle rfl haccepted
      simp only [SubmissionRules.orderingCycle, context] at hcycle
      split at hcycle
      · rw [horder] at hcycle
        cases hcycle
      · next hwaits => exact hwaits hcycle
    | some order =>
      have hclosed : (s.withDevice s.device).Closed := h
      refine foldl_submitNext_result hclosed hengine (fun entry hentry => ?_) hverdict.symm
      exact Standard.contains_of_accepted haccepted (mem_of_mem_submissionSequence hentry)

end Device

/-! ## Calls -/

/-- Whether a call takes a sink for diagnostics. -/
def Call.takesSink : Call → Bool
  | .allocateHardwareBuffer _ | .bufferRequirements _ | .dropRecorder _ | .queueWait _ | .waitIdle _ =>
    false
  | _ => true

namespace Session

/-- Whether a call depends on something that no rule looks at: a subresource that the image does not have,
or a view that a framebuffer has lost. -/
def looksPast (s : Session) : Call → Bool
  | .subresourceLayout image subresource =>
    (s.device.registry.get? image).any fun image => !image.info.hasSubresource subresource
  | .record key (.beginRenderPass info) =>
    (s.recorder? key).isSome && s.device.registry.lostView info.framebuffer
  | _ => false

variable {s : Session}

theorem onDevice_told {α : Type} {reply : α → Reply} {outcome : Outcome Device α} (h : outcome.Told) :
    (s.onDevice reply outcome).Told := by
  refine ⟨fun diagnostic hfirst => ?_, fun hnone => ?_⟩
  · rw [onDevice, h.error diagnostic hfirst]
    rfl
  · obtain ⟨value, hvalue⟩ := h.ok hnone
    exact ⟨reply value, by rw [onDevice, hvalue]; rfl⟩

theorem opening_told {outcome : Outcome Device Recorder} (h : outcome.Told) :
    (s.opening outcome).Told := by
  have hdiagnostics : (s.opening outcome).diagnostics = outcome.diagnostics := by
    unfold opening
    cases outcome.result <;> rfl
  refine ⟨fun diagnostic hfirst => ?_, fun hnone => ?_⟩
  · rw [hdiagnostics] at hfirst
    simp only [opening, h.error diagnostic hfirst]
  · rw [hdiagnostics] at hnone
    obtain ⟨recorder, hrecorder⟩ := h.ok hnone
    exact ⟨.recorder s.nextKey, by simp only [opening, hrecorder]; rfl⟩

/-- A call that does not look past the rules is told by its diagnostics. -/
theorem step_told (h : s.Closed) (hengine : s.device.engine = Standard.engine) {call : Call}
    (hsink : call.takesSink = true) (hpast : s.looksPast call = false) : (s.step call).Told := by
  -- A call for a recorder that is not open does nothing, and reports nothing.
  have hquietly : s.quietly.Told := ⟨fun _ hfirst => (by cases hfirst), fun _ => ⟨.done, rfl⟩⟩
  cases call with
  | createImage info => exact onDevice_told (Device.createImage_told hengine info)
  | createImageView info => exact onDevice_told (Device.createImageView_told hengine info)
  | createBuffer info => exact onDevice_told (Device.createBuffer_told hengine info)
  | createRenderPass info => exact onDevice_told (Device.createRenderPass_told hengine info)
  | createFramebuffer info => exact onDevice_told (Device.createFramebuffer_told hengine info)
  | createSwapchain info => exact onDevice_told (Device.createSwapchain_told hengine info)
  | destroy type handle =>
    cases type with
    | swapchain => exact onDevice_told (Device.destroySwapchain_told hengine handle)
    | _ => exact onDevice_told (Device.destroy_told hengine handle)
  | hardwareBufferProperties buffer =>
    exact onDevice_told (Device.hardwareBufferProperties_told hengine buffer)
  | allocateMemory info => exact onDevice_told (Device.allocateMemory_told hengine info)
  | exportMemory memory handleType =>
    exact onDevice_told (Device.exportMemory_told hengine memory handleType)
  | bindImage image memory offset =>
    exact onDevice_told (Device.bindImage_told hengine image memory offset)
  | bindBuffer buffer memory offset =>
    exact onDevice_told (Device.bindBuffer_told hengine buffer memory offset)
  | imageRequirements image extended =>
    exact onDevice_told (Device.imageRequirements_told hengine image extended)
  | subresourceLayout handle subresource =>
    refine onDevice_told (Device.subresourceLayout_told hengine handle subresource
      fun image himage => ?_)
    -- The subresource exists, or the call would look past the rules.
    simpa [looksPast, himage] using hpast
  | beginCommandBuffer queue again usage =>
    exact opening_told (Device.beginCommandBuffer_told hengine queue again usage)
  | record key command =>
    cases hr : s.recorder? key with
    | none =>
      simp only [step, hr]
      exact hquietly
    | some recorder =>
      have htold := recorder.record_told hengine command fun info hcommand => by
        subst hcommand
        simpa [looksPast, hr] using hpast
      simp only [step, hr]
      refine ⟨fun diagnostic hfirst => ?_, fun hnone => ?_⟩
      · rw [htold.error diagnostic hfirst]
        rfl
      · obtain ⟨value, hvalue⟩ := htold.ok hnone
        exact ⟨.done, by rw [hvalue]; rfl⟩
  | endCommandBuffer key =>
    cases hr : s.recorder? key with
    | none =>
      simp only [step, hr]
      exact hquietly
    | some recorder =>
      simp only [step, hr]
      exact onDevice_told (s.device.endCommandBuffer_told recorder)
  | submit batches => exact onDevice_told (Device.submit_told h hengine batches)
  | acquireImage swapchain => exact onDevice_told (Device.acquireImage_told hengine h.registry swapchain)
  | present images => exact onDevice_told (Device.present_told hengine images)
  | _ => cases hsink

/-- A call that looks past the rules fails, with the first error that is reported if there is one. -/
theorem step_looksPast {call : Call} (hpast : s.looksPast call = true) :
    (∃ e, (s.step call).result = .error e)
      ∧ ∀ diagnostic, firstError? (s.step call).diagnostics = some diagnostic →
        (s.step call).result = .error (.ofDiagnostic diagnostic) := by
  -- Both kinds of calls are guarded operations that cannot be performed.
  have hfails {σ α : Type} (state : σ) (diagnostics : List Diagnostic)
      {perform : Except Error (α × σ)} (reply : α → Reply) (h : ∃ e, perform = .error e) :
      (∃ e, (Outcome.guarded state diagnostics perform).result.map reply = .error e)
        ∧ ∀ diagnostic,
          firstError? (Outcome.guarded state diagnostics perform).diagnostics = some diagnostic →
          (Outcome.guarded state diagnostics perform).result.map reply
            = .error (.ofDiagnostic diagnostic) := by
    obtain ⟨e, he⟩ := Outcome.exists_error_guarded state diagnostics h
    refine ⟨⟨e, by rw [he]; rfl⟩, fun diagnostic hfirst => ?_⟩
    rw [Outcome.guarded_diagnostics] at hfirst
    rw [Outcome.guarded_eq_error hfirst]
    rfl
  cases call with
  | subresourceLayout handle subresource =>
    refine hfails s.device _ Reply.layout ?_
    obtain ⟨image, himage, hsubresource⟩ := (Option.any_eq_true _ _).mp hpast
    rw [Registry.get_eq_ok.mpr himage]
    refine ⟨.ofKind .invalidParams, ?_⟩
    simp only [bind, Except.bind]
    rw [if_neg (by simpa using hsubresource)]
    rfl
  | record key command =>
    cases command with
    | beginRenderPass info =>
      obtain ⟨hopen, hlost⟩ := Bool.and_eq_true_iff.mp hpast
      obtain ⟨recorder, hr⟩ := Option.isSome_iff_exists.mp hopen
      simp only [step, hr]
      refine hfails recorder _ (fun _ => Reply.done) ?_
      obtain ⟨e, he⟩ := Recorder.perform_lostView recorder.recording hlost
      exact ⟨e, by rw [he]; rfl⟩
    | _ => cases hpast
  | _ => cases hpast

end Session

/-- Calls fail exactly if they are diagnosed.  In every session that calls lead to on the standard engine,
a call that takes a sink fails exactly if an error is reported to the sink, or if the call depends on a
subresource that the image does not have or on a view that a framebuffer has lost.  If an error was
reported, the first one gives the kind, the identifier and the object of the error that is returned. -/
theorem fails_iff_diagnosed {s : Session} (hreachable : s.Reachable)
    (hengine : s.device.engine = Standard.engine) {call : Call} (hsink : call.takesSink = true) :
    ((∃ e, (s.step call).result = .error e)
      ↔ (∃ diagnostic ∈ (s.step call).diagnostics, diagnostic.severity = .error)
        ∨ s.looksPast call = true)
    ∧ ∀ e diagnostic, (s.step call).result = .error e →
        firstError? (s.step call).diagnostics = some diagnostic →
        e.kind = diagnostic.kind ∧ e.vuid = some diagnostic.vuid
          ∧ e.object = diagnostic.objects.head? := by
  rw [← exists_firstError?_iff]
  have hfields {e : Error} {diagnostic : Diagnostic}
      (h : (s.step call).result = .error (.ofDiagnostic diagnostic))
      (hresult : (s.step call).result = .error e) :
      e.kind = diagnostic.kind ∧ e.vuid = some diagnostic.vuid
        ∧ e.object = diagnostic.objects.head? := by
    obtain rfl := Except.error.inj (hresult.symm.trans h)
    exact ⟨rfl, rfl, rfl⟩
  -- Where the rules do not look the call fails in any case; elsewhere it does what they tell.
  cases hpast : s.looksPast call with
  | true =>
    obtain ⟨hfails, hfirst⟩ := Session.step_looksPast hpast
    exact ⟨iff_of_true hfails (Or.inr rfl), fun e diagnostic hresult herror =>
      hfields (hfirst diagnostic herror) hresult⟩
  | false =>
    have htold := Session.step_told hreachable.closed hengine hsink hpast
    refine ⟨⟨fun ⟨e, he⟩ => Or.inl ?_, fun h => ?_⟩, fun e diagnostic hresult herror =>
      hfields (htold.error diagnostic herror) hresult⟩
    · cases hfirst : firstError? (s.step call).diagnostics with
      | some diagnostic => exact ⟨diagnostic, rfl⟩
      | none =>
        obtain ⟨value, hvalue⟩ := htold.ok hfirst
        rw [hvalue] at he
        cases he
    · obtain ⟨diagnostic, hfirst⟩ := h.resolve_right Bool.false_ne_true
      exact ⟨_, htold.error diagnostic hfirst⟩

/-- A buffer that was never created cannot be destroyed, and that is reported. -/
example : ((Session.start {} Standard.engine).step
    (.destroy .buffer (.ofSerial .buffer 1))).diagnostics.map Diagnostic.kind = [.notFound] := by
  decide +kernel

/-- A buffer is created and destroyed. -/
def createAndDestroy : List Call :=
  [.createBuffer { size := 64 }, .destroy .buffer (.ofSerial .buffer 1)]

/-- To destroy the buffer once more fails, and the error names the rule and the buffer. -/
theorem destroyAgain_fails :
    (∃ e, (((Session.start {} Standard.engine).run createAndDestroy).step
      (.destroy .buffer (.ofSerial .buffer 1))).result = .error e)
    ∧ ∀ e, (((Session.start {} Standard.engine).run createAndDestroy).step
        (.destroy .buffer (.ofSerial .buffer 1))).result = .error e →
      e.kind = .useAfterFree ∧ e.vuid = some "UNASSIGNED-ObjectTracker-ObjectDestroyed"
        ∧ e.object = some (Handle.ofSerial .buffer 1).erase := by
  obtain ⟨hfails, hfields⟩ := fails_iff_diagnosed
    ((Session.Reachable.start {} Standard.engine).run createAndDestroy)
    (Session.run_engine (.start {} Standard.engine) createAndDestroy)
    (rfl : (Call.destroy .buffer (.ofSerial .buffer 1)).takesSink = true)
  refine ⟨hfails.mpr (Or.inl (by decide +kernel)), fun e he => ?_⟩
  have hfirst : (firstError? (((Session.start {} Standard.engine).run createAndDestroy).step
      (.destroy .buffer (.ofSerial .buffer 1))).diagnostics).map
        (fun diagnostic => (diagnostic.kind, diagnostic.vuid, diagnostic.objects))
      = some (.useAfterFree, "UNASSIGNED-ObjectTracker-ObjectDestroyed",
        [(Handle.ofSerial .buffer 1).erase]) := by
    decide +kernel
  obtain ⟨diagnostic, hdiagnostic, hvalues⟩ := Option.map_eq_some_iff.mp hfirst
  obtain ⟨hkind, hvuid, hobject⟩ := hfields e diagnostic he hdiagnostic
  simp only [Prod.mk.injEq] at hvalues
  obtain ⟨hk, hv, ho⟩ := hvalues
  exact ⟨hkind.trans hk, hvuid.trans (congrArg some hv), hobject.trans (congrArg List.head? ho)⟩

/-- A render pass, a framebuffer whose view is then destroyed, and a command buffer to record. -/
def loseView : List Call :=
  [.createRenderPass {
      attachments := [{ format := .r8g8b8a8Unorm, finalLayout := .general }]
      subpasses := [{ color := [⟨0, .general⟩] }] },
    .createImage {
      format := .r8g8b8a8Unorm, extent := ⟨4, 4, 1⟩, usage := .colorAttachment },
    .allocateMemory { size := 65536 },
    .bindImage (.ofSerial .image 2) (.ofSerial .deviceMemory 3) 0,
    .createImageView { image := .ofSerial .image 2 },
    .createFramebuffer {
      renderPass := .ofSerial .renderPass 1, attachments := .views [.ofSerial .imageView 4]
      width := 4, height := 4 },
    .destroy .imageView (.ofSerial .imageView 4),
    .beginCommandBuffer ⟨0, 0⟩ none .multipleSubmit]

/-- Begins a render pass with the framebuffer. -/
def beginWithLostView : Call :=
  .record 0 (.beginRenderPass {
    renderPass := .ofSerial .renderPass 1, framebuffer := .ofSerial .framebuffer 5 })

/-- The error of an operation that fails. -/
def Outcome.error? {σ α : Type} (outcome : Outcome σ α) : Option Error :=
  match outcome.result with
  | .error e => some e
  | .ok _ => none

theorem Outcome.error?_eq_some {σ α : Type} {outcome : Outcome σ α} {e : Error} :
    outcome.error? = some e ↔ outcome.result = .error e := by
  rw [error?]
  cases outcome.result <;> simp

/-- The beginning of a render pass with a framebuffer that has lost its view fails, and so does the query
for a second mip level of an image that has one.  Nothing is reported about either. -/
theorem fails_undiagnosed :
    (((Session.start {} Standard.engine).run loseView).step beginWithLostView).diagnostics = []
    ∧ (((Session.start {} Standard.engine).run loseView).step beginWithLostView).result
      = .error (.notFound (Handle.ofSerial .imageView 4).erase)
    ∧ ∃ info subresource,
      (((Session.start {} Standard.engine).run [.createImage info]).step
        (.subresourceLayout (.ofSerial .image 1) subresource)).diagnostics = []
      ∧ (((Session.start {} Standard.engine).run [.createImage info]).step
        (.subresourceLayout (.ofSerial .image 1) subresource)).result
          = .error (.ofKind .invalidParams) := by
  refine ⟨by decide +kernel, Outcome.error?_eq_some.mp (by decide +kernel), {
    format := .r8g8b8a8Unorm, extent := ⟨4, 4, 1⟩, tiling := .linear, usage := .transferDst },
    ⟨.color, 1, 0⟩, by decide +kernel, Outcome.error?_eq_some.mp (by decide +kernel)⟩

end VulkanValidity
