/-
  VulkanValidity.Proofs.Session

  What one call does to a session.  A plain call changes the device alone, and in few ways
  (`Device.PlainEffect`); the others open, use or close recorders, or execute command buffers one by one.
  `Session.Transition` says it for whole sessions, and every invariant of sessions is a case analysis
  over it.

  `Session.Reachable` describes the states that sessions go through.  A submission of several command
  buffers passes through states of its own, which are reachable as well.
-/

import VulkanValidity.Proofs.Operations

namespace VulkanValidity

namespace Device

/-! ## Executions -/

/-- The execution of a command buffer, with the registry that it starts from. -/
structure Execution where
  handle : Handle .commandBuffer
  log : CommandLog
  registry : Registry

/-- The report of the replay of the execution. -/
def Execution.report (e : Execution) : ReplayReport := e.log.replay e.registry

/-- What submitting a command buffer executes: its log, if it is admitted. -/
def execution? (d : Device) (queue : Queue) (handle : Handle .commandBuffer) : Option Execution :=
  ((d.registry.get? handle).bind (d.admitted? queue)).map fun log => ⟨handle, log, d.registry⟩

theorem admitted?_eq_some {d : Device} {queue : Queue} {cb : CommandBuffer} {log : CommandLog}
    (h : d.admitted? queue cb = some log) :
    cb.log = some log ∧ cb.family = queue.family ∧ log.references.all d.registry.contains = true := by
  obtain ⟨hlog, hok⟩ := Option.filter_eq_some_iff.mp h
  simp only [Bool.and_eq_true, beq_iff_eq] at hok
  exact ⟨hlog, hok.1.2, hok.2⟩

/-- A submission executes the log of its command buffer, or leaves the device alone. -/
theorem submitOne_cases (d : Device) (queue : Queue) (handle : Handle .commandBuffer) :
    (d.execution? queue handle = none ∧ (d.submitOne queue handle).state = d)
      ∨ ∃ log, d.execution? queue handle = some ⟨handle, log, d.registry⟩
        ∧ d.registry.log? handle = some log
        ∧ (d.submitOne queue handle).state
          = d.execute queue handle log (log.replay d.registry) := by
  rw [execution?, submitOne, Registry.get]
  cases hget : d.registry.get? handle with
  | none => exact Or.inl ⟨rfl, rfl⟩
  | some cb =>
    simp only [Option.bind_some]
    cases hadmitted : d.admitted? queue cb with
    | none => exact Or.inl ⟨rfl, rfl⟩
    | some log =>
      have hlog := (admitted?_eq_some hadmitted).1
      right
      refine ⟨log, rfl, (Registry.log?_of_get? hget).trans hlog, ?_⟩
      simp only [SubmissionContext.of, hlog, Option.map_some, Option.getD_some]

theorem execution?_eq_some {d : Device} {queue : Queue} {handle : Handle .commandBuffer}
    {e : Execution} (h : d.execution? queue handle = some e) :
    e.handle = handle ∧ e.registry = d.registry ∧ d.registry.log? handle = some e.log
      ∧ (d.submitOne queue handle).state
        = d.execute queue handle e.log (e.log.replay d.registry) := by
  rcases d.submitOne_cases queue handle with ⟨hnone, -⟩ | ⟨log, hsome, hlog, hstate⟩
  · rw [hnone] at h
    cases h
  · obtain rfl := Option.some.inj (hsome.symm.trans h)
    exact ⟨rfl, rfl, hlog, hstate⟩

/-- Applying a report keeps what does not look at the states of resources. -/
theorem apply_keeps {β : Type} (g : Registry → β)
    (h : ∀ r resource states, g (Registry.setStates r resource states) = g r)
    (report : ReplayReport) (r : Registry) : g (report.apply r) = g r :=
  foldl_keeps g (fun r (entry : Resource × RangeMap SubresourceState) => h r entry.1 entry.2)
    report.states r

theorem apply_commandBuffers (report : ReplayReport) (r : Registry) :
    (report.apply r).commandBuffers = r.commandBuffers :=
  apply_keeps Registry.commandBuffers Registry.commandBuffers_setStates report r

section Execute

variable (d : Device) (queue : Queue) (handle : Handle .commandBuffer) (log : CommandLog)
  (report : ReplayReport)

/-- No object is lost in an execution, and none is new. -/
theorem contains_execute (id : ObjectId) :
    (d.execute queue handle log report).registry.contains id = d.registry.contains id := by
  let applied := report.apply d.registry
  let submitted := applied.modify handle CommandBuffer.submit
  let pinned := submitted.pin (pinnedObjects d.registry handle log)
  calc (d.execute queue handle log report).registry.contains id
      = pinned.contains id := (Registry.sameObjects_record pinned handle.erase .submitted).contains_eq id
    _ = submitted.contains id :=
        Registry.contains_congr (fun t handle => by cases t <;> rfl) id
    _ = applied.contains id := Registry.contains_modify applied handle _ id
    _ = d.registry.contains id :=
        apply_keeps (fun r => r.contains id) (fun r _ _ => r.contains_setStates _ _ id) report _

/-- In an execution one command buffer is submitted, and the others stay as they are. -/
theorem get?_execute (other : Handle .commandBuffer) :
    (d.execute queue handle log report).registry.get? other
      = if other = handle then (d.registry.get? other).map CommandBuffer.submit
        else d.registry.get? other := by
  show ((report.apply d.registry).commandBuffers.modify handle CommandBuffer.submit).get? other
    = _
  rw [Store.get?_modify, apply_commandBuffers]
  rfl

/-- After an execution the tracked resources are as the report says. -/
theorem tracked?_execute (resource : Resource) :
    (d.execute queue handle log report).registry.tracked? resource
      = (report.apply d.registry).tracked? resource := by
  cases resource <;> rfl

theorem log?_execute (other : Handle .commandBuffer) :
    (d.execute queue handle log report).registry.log? other = d.registry.log? other := by
  have hmodify : ((report.apply d.registry).modify handle CommandBuffer.submit).log? other
      = (report.apply d.registry).log? other := by
    simp only [Registry.log?, Registry.modify, Registry.setStore, Registry.store,
      Store.get?_modify]
    split
    · cases (report.apply d.registry).commandBuffers.get? other <;> rfl
    · rfl
  calc (d.execute queue handle log report).registry.log? other
      = ((report.apply d.registry).modify handle CommandBuffer.submit).log? other := rfl
    _ = (report.apply d.registry).log? other := hmodify
    _ = d.registry.log? other := by rw [Registry.log?, Registry.log?, apply_commandBuffers]

end Execute

/-! ## Submissions -/

/-- The device after one submission after the other. -/
def submitAll (d : Device) (entries : List (Queue × Handle .commandBuffer)) : Device :=
  entries.foldl (fun d entry => (d.submitOne entry.1 entry.2).state) d

theorem submitAll_append (d : Device) (entries more : List (Queue × Handle .commandBuffer)) :
    d.submitAll (entries ++ more) = (d.submitAll entries).submitAll more := List.foldl_append

/-- What every submission keeps is kept by several. -/
theorem submitAll_keeps {P : Device → Prop}
    (hstep : ∀ (d : Device) (queue : Queue) (handle : Handle .commandBuffer), P d →
      P (d.submitOne queue handle).state)
    {d : Device} (h : P d) (entries : List (Queue × Handle .commandBuffer)) :
    P (d.submitAll entries) := by
  refine List.foldlRecOn (motive := P) entries _ h fun before hbefore entry _ => ?_
  exact hstep before entry.1 entry.2 hbefore

/-- What one submission after the other executes. -/
def executions (d : Device) : List (Queue × Handle .commandBuffer) → List Execution
  | [] => []
  | entry :: rest =>
    (d.execution? entry.1 entry.2).toList
      ++ executions (d.submitOne entry.1 entry.2).state rest

/-- What is executed is executed after the submissions before it. -/
theorem exists_of_mem_executions {d : Device} {entries : List (Queue × Handle .commandBuffer)}
    {e : Execution} (h : e ∈ d.executions entries) :
    ∃ before entry rest, entries = before ++ entry :: rest
      ∧ (d.submitAll before).execution? entry.1 entry.2 = some e := by
  induction entries generalizing d with
  | nil => cases h
  | cons entry entries ih =>
    rcases List.mem_append.mp h with hnow | hlater
    · exact ⟨[], entry, entries, rfl, Option.mem_toList.mp hnow⟩
    · obtain ⟨before, other, rest, rfl, he⟩ := ih hlater
      exact ⟨entry :: before, other, rest, rfl, he⟩

/-- What a submission executes is among what it and the others execute. -/
theorem mem_executions {d : Device} (before : List (Queue × Handle .commandBuffer))
    (entry : Queue × Handle .commandBuffer) (rest : List (Queue × Handle .commandBuffer))
    {e : Execution} (h : (d.submitAll before).execution? entry.1 entry.2 = some e) :
    e ∈ d.executions (before ++ entry :: rest) := by
  induction before generalizing d with
  | nil => exact List.mem_append_left _ (Option.mem_toList.mpr h)
  | cons first before ih => exact List.mem_append_right _ (ih h)

/-- The submissions that submitting batches makes: all of them in order, or none if the batches are
rejected. -/
def submissions (d : Device) (batches : List SubmitBatch) : List (Queue × Handle .commandBuffer) :=
  match verdict (d.diagnose (.submitBatches batches)), submissionOrder? batches with
  | .ok (), some order => submissionSequence batches order
  | _, _ => []

theorem foldl_submitNext_state (outcome : Outcome Device Unit)
    (entries : List (Queue × Handle .commandBuffer)) :
    (entries.foldl submitNext outcome).state = outcome.state.submitAll entries := by
  induction entries generalizing outcome with
  | nil => rfl
  | cons entry entries ih => exact ih _

theorem submit_state (d : Device) (batches : List SubmitBatch) :
    (d.submit batches).state = d.submitAll (d.submissions batches) := by
  rw [submit, submissions]
  cases verdict (d.diagnose (.submitBatches batches)) with
  | error e => rfl
  | ok u =>
    cases submissionOrder? batches with
    | none => rfl
    | some order => exact foldl_submitNext_state _ _

theorem contains_submitOne (d : Device) (queue : Queue) (handle : Handle .commandBuffer)
    (id : ObjectId) :
    (d.submitOne queue handle).state.registry.contains id = d.registry.contains id := by
  rcases d.submitOne_cases queue handle with ⟨-, hs⟩ | ⟨log, -, -, hs⟩
  · rw [hs]
  · rw [hs, contains_execute]

theorem submitOne_engine (d : Device) (queue : Queue) (handle : Handle .commandBuffer) :
    (d.submitOne queue handle).state.engine = d.engine := by
  rcases d.submitOne_cases queue handle with ⟨-, hs⟩ | ⟨log, -, -, hs⟩
  · rw [hs]
  · rw [hs]
    rfl

theorem submitOne_environment (d : Device) (queue : Queue) (handle : Handle .commandBuffer) :
    (d.submitOne queue handle).state.environment = d.environment := by
  rcases d.submitOne_cases queue handle with ⟨-, hs⟩ | ⟨log, -, -, hs⟩
  · rw [hs]
  · rw [hs]
    rfl

theorem submitAll_environment (d : Device) (entries : List (Queue × Handle .commandBuffer)) :
    (d.submitAll entries).environment = d.environment :=
  foldl_keeps Device.environment
    (f := fun d (entry : Queue × Handle .commandBuffer) => (d.submitOne entry.1 entry.2).state)
    (fun d entry => d.submitOne_environment entry.1 entry.2) entries d

theorem submitAll_engine (d : Device) (entries : List (Queue × Handle .commandBuffer)) :
    (d.submitAll entries).engine = d.engine :=
  foldl_keeps Device.engine
    (f := fun d (entry : Queue × Handle .commandBuffer) => (d.submitOne entry.1 entry.2).state)
    (fun d entry => d.submitOne_engine entry.1 entry.2) entries d

/-- Submitting more keeps the diagnostics so far. -/
theorem subset_diagnostics_submitNext (outcome : Outcome Device Unit)
    (entries : List (Queue × Handle .commandBuffer)) :
    outcome.diagnostics ⊆ (entries.foldl submitNext outcome).diagnostics := by
  induction entries generalizing outcome with
  | nil => exact List.Subset.refl _
  | cons entry entries ih =>
    intro diagnostic hmem
    apply ih (submitNext outcome entry)
    exact List.mem_append_left _ hmem

/-- The diagnostics of a submission are those of the rules, with the replay of the log to look at. -/
theorem submitOne_diagnostics {d : Device} {queue : Queue} {handle : Handle .commandBuffer}
    {cb : CommandBuffer} (h : d.registry.get? handle = some cb) :
    (d.submitOne queue handle).diagnostics = d.engine.evaluate
      { d.context (.submit queue handle) with
        submission := some (.of d.registry queue handle cb) } := by
  rw [submitOne, Registry.get_eq_ok.mpr h]
  simp only
  split <;> rfl

end Device

/-! ## Sessions -/

namespace Session

/-! ### Recorders -/

theorem recorder?_openRecorder (s : Session) (recorder : Recorder) (key : Nat) :
    (s.openRecorder recorder).recorder? key
      = (s.recorder? key).or (if key = s.nextKey then some recorder else none) := by
  rw [recorder?, openRecorder, List.lookup_append, List.lookup_cons]
  by_cases h : key = s.nextKey <;> simp [h, recorder?, beq_false_of_ne]

theorem recorder?_setRecorder (s : Session) (key : Nat) (recorder : Recorder) (other : Nat) :
    (s.setRecorder key recorder).recorder? other
      = if other = key then (s.recorder? other).map fun _ => recorder else s.recorder? other := by
  simp only [recorder?, setRecorder]
  induction s.recorders with
  | nil => simp
  | cons entry entries ih =>
    obtain ⟨k, old⟩ := entry
    rw [List.map_cons]
    by_cases ho : other = k
    · subst ho
      by_cases hk : other = key <;> simp [hk]
    · by_cases hk : k = key
      · subst hk
        simp only [if_true, List.lookup_cons, beq_false_of_ne ho, ih]
      · simp only [if_neg hk, List.lookup_cons, beq_false_of_ne ho, ih]

theorem recorder?_closeRecorder (s : Session) (key other : Nat) :
    (s.closeRecorder key).recorder? other = if other = key then none else s.recorder? other :=
  lookup_filter_ne s.recorders key other

/-- Opening a recorder opens no other one. -/
theorem recorder?_of_openRecorder {s : Session} {recorder other : Recorder} {key : Nat}
    (h : (s.openRecorder recorder).recorder? key = some other) :
    s.recorder? key = some other ∨ other = recorder := by
  rw [recorder?_openRecorder, Option.or_eq_some_iff] at h
  rcases h with hold | ⟨-, hnew⟩
  · exact Or.inl hold
  · split at hnew
    · exact Or.inr (Option.some.inj hnew).symm
    · cases hnew

theorem recorder?_of_setRecorder {s : Session} {recorder other : Recorder} {key k : Nat}
    (h : (s.setRecorder key recorder).recorder? k = some other) :
    s.recorder? k = some other ∨ other = recorder := by
  rw [recorder?_setRecorder] at h
  split at h
  · obtain ⟨old, -, rfl⟩ := Option.map_eq_some_iff.mp h
    exact Or.inr rfl
  · exact Or.inl h

theorem recorder?_of_closeRecorder {s : Session} {other : Recorder} {key k : Nat}
    (h : (s.closeRecorder key).recorder? k = some other) : s.recorder? k = some other := by
  rw [recorder?_closeRecorder] at h
  split at h
  · cases h
  · exact h

/-! ### Calls -/

end Session

/-- Whether a call has to do with neither recorders nor submissions. -/
def Call.isPlain : Call → Bool
  | .beginCommandBuffer _ _ _ | .record _ _ | .endCommandBuffer _ | .dropRecorder _ | .submit _ =>
    false
  | _ => true

/-- What plain calls make of a device. -/
inductive Device.PlainEffect (d : Device) : Call → Device → Prop
  | quiet {call : Call} {d' : Device} (h : Device.Edits ([], d) ([], d')) : PlainEffect d call d'
  | destroyed {t : ObjectType} {handle : Handle t} (ht : t ≠ .swapchain)
      (haccepted : verdict (d.diagnose (.destroy handle.erase)) = .ok ())
      (hresult : (d.destroy handle).result = .ok ()) :
    PlainEffect d (.destroy t handle) (d.withRegistry (d.registry.remove handle))
  | swapchainDestroyed {handle : Handle .swapchain} {swapchain : Swapchain}
      (hget : d.registry.get? handle = some swapchain)
      (hresult : (d.destroySwapchain handle).result = .ok ()) :
    PlainEffect d (.destroy .swapchain handle) (d.removeSwapchain handle swapchain.images)
  | waited {call : Call} {done rest : List PendingSubmission} (h : d.pending.Perm (done ++ rest)) :
    PlainEffect d call (d.retireAll done rest)

theorem Device.PlainEffect.continues {d d' : Device} {call : Call} (h : d.PlainEffect call d') :
    d.Continues d' := by
  cases h with
  | quiet h => exact h.quietly.continues
  | destroyed => exact ⟨(Registry.shrinks_remove d.registry _).continues, rfl, rfl⟩
  | swapchainDestroyed => exact d.removeSwapchain_continues _ _
  | waited => exact d.retireAll_continues _ _

namespace Session

/-- Objects other than swapchains are destroyed by themselves. -/
theorem step_destroy (s : Session) {t : ObjectType} (ht : t ≠ .swapchain) (handle : Handle t) :
    s.step (.destroy t handle) = s.onDevice (fun _ => .done) (s.device.destroy handle) := by
  cases t with
  | swapchain => exact absurd rfl ht
  | _ => rfl

/-- A plain call changes the device alone. -/
theorem step_plain (s : Session) {call : Call} (h : call.isPlain = true) :
    ∃ d, (s.step call).state = s.withDevice d ∧ s.device.PlainEffect call d := by
  cases call with
  | createImage info => exact ⟨_, rfl, .quiet (s.device.createImage_edits info)⟩
  | createImageView info => exact ⟨_, rfl, .quiet (s.device.createImageView_edits info)⟩
  | createBuffer info => exact ⟨_, rfl, .quiet (s.device.createBuffer_edits info)⟩
  | createRenderPass info => exact ⟨_, rfl, .quiet (s.device.createRenderPass_edits info)⟩
  | createFramebuffer info => exact ⟨_, rfl, .quiet (s.device.createFramebuffer_edits info)⟩
  | createSwapchain info => exact ⟨_, rfl, .quiet (s.device.createSwapchain_edits info)⟩
  | destroy type handle =>
    by_cases htype : type = .swapchain
    · subst htype
      rcases s.device.destroySwapchain_cases handle with ⟨hs, -⟩ | ⟨swapchain, hget, hs, hok⟩
      · exact ⟨s.device, congrArg s.withDevice hs, .quiet .refl⟩
      · exact ⟨_, congrArg s.withDevice hs, .swapchainDestroyed hget hok⟩
    · have hstep : (s.step (.destroy type handle)).state
          = s.withDevice (s.device.destroy handle).state :=
        congrArg Outcome.state (s.step_destroy htype handle)
      rcases s.device.destroy_cases handle with ⟨hs, -⟩ | ⟨haccepted, hs, hok⟩
      · exact ⟨s.device, hstep.trans (congrArg s.withDevice hs), .quiet .refl⟩
      · exact ⟨_, hstep.trans (congrArg s.withDevice hs), .destroyed htype haccepted hok⟩
  | allocateHardwareBuffer info =>
    exact ⟨_, rfl, .quiet (s.device.allocateHardwareBuffer_edits info)⟩
  | hardwareBufferProperties buffer =>
    exact ⟨_, rfl, .quiet (s.device.hardwareBufferProperties_edits buffer)⟩
  | allocateMemory info => exact ⟨_, rfl, .quiet (s.device.allocateMemory_edits info)⟩
  | exportMemory memory handleType =>
    exact ⟨_, rfl, .quiet (s.device.exportMemory_edits memory handleType)⟩
  | bindImage image memory offset =>
    exact ⟨_, rfl, .quiet (s.device.bindImage_edits image memory offset)⟩
  | bindBuffer buffer memory offset =>
    exact ⟨_, rfl, .quiet (s.device.bindBuffer_edits buffer memory offset)⟩
  -- Queries leave the device as it is.
  | imageRequirements image extended =>
    exact ⟨_, congrArg s.withDevice (s.device.imageRequirements_state image extended), .quiet .refl⟩
  | bufferRequirements buffer =>
    exact ⟨_, congrArg s.withDevice (s.device.bufferRequirements_state buffer), .quiet .refl⟩
  | subresourceLayout image subresource =>
    exact ⟨_, congrArg s.withDevice (s.device.subresourceLayout_state image subresource),
      .quiet .refl⟩
  | queueWait queue =>
    obtain ⟨done, rest, hperm, hs, -⟩ := s.device.queueWait_cases queue
    exact ⟨_, congrArg s.withDevice hs, .waited hperm⟩
  | waitIdle queues =>
    obtain ⟨done, hperm, hs⟩ := s.device.waitIdle_cases queues
    refine ⟨_, congrArg s.withDevice hs, .waited ?_⟩
    rwa [List.append_nil]
  | acquireImage swapchain => exact ⟨_, rfl, .quiet (s.device.acquireImage_edits swapchain)⟩
  | present images => exact ⟨_, rfl, .quiet (s.device.present_edits images)⟩
  | beginCommandBuffer queue again usage => cases h
  | record key command => cases h
  | endCommandBuffer key => cases h
  | dropRecorder key => cases h
  | submit batches => cases h

theorem step_submit (s : Session) (batches : List SubmitBatch) :
    (s.step (.submit batches)).state
      = s.withDevice (s.device.submitAll (s.device.submissions batches)) :=
  congrArg s.withDevice (s.device.submit_state batches)

/-- What calls make of a session. -/
inductive Transition (s : Session) : Call → Session → Prop
  /-- The device changes, and the recorders stay. -/
  | plain {call : Call} {d : Device} (hplain : call.isPlain = true)
      (hd : s.device.PlainEffect call d) :
    Transition s call (s.withDevice d)
  | beginRejected {queue : Queue} {again : Option (Handle .commandBuffer)}
      {usage : CommandBufferUsage} :
    Transition s (.beginCommandBuffer queue again usage) s
  /-- A recorder is opened, with nothing recorded. -/
  | begun {queue : Queue} {again : Option (Handle .commandBuffer)} {usage : CommandBufferUsage}
      {d : Device} {recorder : Recorder} (hd : s.device.Begins queue usage again recorder d) :
    Transition s (.beginCommandBuffer queue again usage) ((s.withDevice d).openRecorder recorder)
  | recorded {key : Nat} {command : Command} {recorder : Recorder}
      (hr : s.recorder? key = some recorder) :
    Transition s (.record key command)
      (s.setRecorder key (recorder.record s.device command).state)
  | endRejected {key : Nat} {recorder : Recorder} {e : Error} (hr : s.recorder? key = some recorder)
      (hresult : (s.device.endCommandBuffer recorder).result = .error e) :
    Transition s (.endCommandBuffer key) (s.closeRecorder key)
  /-- The command buffer gets the log of the recording. -/
  | ended {key : Nat} {recorder : Recorder} (hr : s.recorder? key = some recorder)
      (hresult : (s.device.endCommandBuffer recorder).result = .ok recorder.handle) :
    Transition s (.endCommandBuffer key)
      ((s.closeRecorder key).withDevice (s.device.withRegistry
        (s.device.registry.modify recorder.handle fun cb =>
          cb.finish recorder.recording.finish)))
  | dropped {key : Nat} : Transition s (.dropRecorder key) (s.closeRecorder key)
  /-- There is no recorder with the key. -/
  | recordIgnored {key : Nat} {command : Command} (hr : s.recorder? key = none) :
    Transition s (.record key command) s
  | endIgnored {key : Nat} (hr : s.recorder? key = none) : Transition s (.endCommandBuffer key) s
  | submitted {batches : List SubmitBatch} :
    Transition s (.submit batches)
      (s.withDevice (s.device.submitAll (s.device.submissions batches)))

/-- Every call is one of the transitions. -/
theorem step_transition (s : Session) (call : Call) : s.Transition call (s.step call).state := by
  by_cases hplain : call.isPlain = true
  · obtain ⟨d, hs, hd⟩ := s.step_plain hplain
    rw [hs]
    exact .plain hplain hd
  · cases call with
    | beginCommandBuffer queue again usage =>
      show s.Transition _ (s.opening (s.device.beginCommandBuffer queue again usage)).state
      unfold opening
      -- A recorder is opened only if beginning succeeds.
      rcases s.device.beginCommandBuffer_cases queue again usage with
        ⟨hs, e, he⟩ | ⟨recorder, hok, hbegins⟩
      · rw [hs, he]
        exact .beginRejected
      · rw [hok]
        exact .begun hbegins
    | record key command =>
      simp only [step]
      cases hr : s.recorder? key with
      | none => exact .recordIgnored hr
      | some recorder => exact .recorded hr
    | endCommandBuffer key =>
      simp only [step]
      cases hr : s.recorder? key with
      | none => exact .endIgnored hr
      | some recorder =>
        simp only [creating, onDevice]
        rcases s.device.endCommandBuffer_cases recorder with ⟨hs, e, he⟩ | ⟨hs, hok⟩
        · rw [hs]
          exact .endRejected hr he
        · rw [hs]
          exact .ended hr hok
    | dropRecorder key => exact .dropped
    | submit batches =>
      rw [step_submit]
      exact .submitted
    | _ => exact absurd rfl hplain

/-- A recorder that is open after a call was open before it, was opened by it, or has recorded a command. -/
theorem Transition.recorders {s after : Session} {call : Call} (h : s.Transition call after)
    {key : Nat} {recorder : Recorder} (hr : after.recorder? key = some recorder) :
    s.recorder? key = some recorder
      ∨ (∃ queue again usage, s.device.Begins queue usage again recorder after.device)
      ∨ ∃ k command before, call = .record k command ∧ s.recorder? k = some before
        ∧ recorder = (before.record s.device command).state := by
  cases h with
  | begun hd =>
    rcases recorder?_of_openRecorder hr with hold | rfl
    · exact Or.inl hold
    · exact Or.inr (Or.inl ⟨_, _, _, hd⟩)
  | recorded hbefore =>
    rcases recorder?_of_setRecorder hr with hold | hnew
    · exact Or.inl hold
    · exact Or.inr (Or.inr ⟨_, _, _, rfl, hbefore, hnew⟩)
  | endRejected => exact Or.inl (recorder?_of_closeRecorder hr)
  | @ended closed =>
    have hclosed : (s.closeRecorder closed).recorder? key = some recorder := hr
    exact Or.inl (recorder?_of_closeRecorder hclosed)
  | dropped => exact Or.inl (recorder?_of_closeRecorder hr)
  | _ => exact Or.inl hr

theorem Transition.nextKey_le {s after : Session} {call : Call} (h : s.Transition call after) :
    s.nextKey ≤ after.nextKey := by
  cases h with
  | begun => exact Nat.le_succ s.nextKey
  | _ => exact Nat.le_refl s.nextKey

/-- A recorder whose key is in use already is the same one after a call, but for a command that the call
records with it. -/
theorem Transition.recorder_of_lt {s after : Session} {call : Call} (h : s.Transition call after)
    {key : Nat} (hlt : key < s.nextKey) {recorder : Recorder} (hr : after.recorder? key = some recorder) :
    ∃ before, s.recorder? key = some before
      ∧ (recorder = before ∨ ∃ command, call = .record key command
        ∧ recorder = (before.record s.device command).state) := by
  cases h with
  | @begun _ _ _ d =>
    rw [recorder?_openRecorder, if_neg (show key ≠ (s.withDevice d).nextKey from Nat.ne_of_lt hlt),
      Option.or_none] at hr
    exact ⟨recorder, hr, Or.inl rfl⟩
  | @recorded other command recording hbefore =>
    rw [recorder?_setRecorder] at hr
    split at hr
    · next heq =>
      subst heq
      rw [hbefore] at hr
      exact ⟨recording, hbefore, Or.inr ⟨command, rfl, (Option.some.inj hr).symm⟩⟩
    · exact ⟨recorder, hr, Or.inl rfl⟩
  | endRejected => exact ⟨recorder, recorder?_of_closeRecorder hr, Or.inl rfl⟩
  | @ended closed =>
    have hclosed : (s.closeRecorder closed).recorder? key = some recorder := hr
    exact ⟨recorder, recorder?_of_closeRecorder hclosed, Or.inl rfl⟩
  | dropped => exact ⟨recorder, recorder?_of_closeRecorder hr, Or.inl rfl⟩
  | _ => exact ⟨recorder, hr, Or.inl rfl⟩

theorem Transition.engine {s after : Session} {call : Call} (h : s.Transition call after) :
    after.device.engine = s.device.engine := by
  cases h with
  | plain _ hd => exact hd.continues.engine
  | begun hd => exact hd.continues.engine
  | submitted => exact Device.submitAll_engine s.device _
  | _ => rfl

theorem Transition.environment {s after : Session} {call : Call} (h : s.Transition call after) :
    after.device.environment = s.device.environment := by
  cases h with
  | plain _ hd => exact hd.continues.environment
  | begun hd => exact hd.continues.environment
  | submitted => exact Device.submitAll_environment s.device _
  | _ => rfl

theorem run_engine (s : Session) (calls : List Call) : (s.run calls).device.engine = s.device.engine :=
  foldl_keeps (fun s : Session => s.device.engine) (fun s call => (s.step_transition call).engine)
    calls s

theorem run_environment (s : Session) (calls : List Call) :
    (s.run calls).device.environment = s.device.environment :=
  foldl_keeps (fun s : Session => s.device.environment)
    (fun s call => (s.step_transition call).environment) calls s

theorem step_record_diagnostics {s : Session} {key : Nat} {recorder : Recorder}
    (hr : s.recorder? key = some recorder) (command : Command) :
    (s.step (.record key command)).diagnostics = (recorder.record s.device command).diagnostics := by
  simp only [step]
  rw [hr]

/-- What a call executes. -/
def executions (s : Session) : Call → List Device.Execution
  | .submit batches => s.device.executions (s.device.submissions batches)
  | _ => []

/-- The diagnostics of a run. -/
def diagnostics (s : Session) : List Call → List Diagnostic
  | [] => []
  | call :: rest => (s.step call).diagnostics ++ (s.step call).state.diagnostics rest

/-- The sessions that calls lead to from a new one. While a call submits command buffers, the session
after each of them counts as well. -/
inductive Reachable : Session → Prop
  | start (environment : Environment) (engine : Engine) : Reachable (.start environment engine)
  | call {s : Session} (h : Reachable s) (call : Call) : Reachable (s.step call).state
  | submission {s : Session} (h : Reachable s) (queue : Queue) (handle : Handle .commandBuffer) :
    Reachable (s.withDevice (s.device.submitOne queue handle).state)

/-- What holds of new sessions, and is kept by every call that does not submit and by every submission of a
single command buffer, holds of every reachable session. -/
theorem Reachable.keeps {P : Session → Prop}
    (hstart : ∀ environment engine, P (.start environment engine))
    (hcall : ∀ s call, s.Reachable → (∀ batches, call ≠ .submit batches) → P s → P (s.step call).state)
    (hsubmission : ∀ (s : Session) queue handle, s.Reachable → P s →
      P (s.withDevice (s.device.submitOne queue handle).state))
    {s : Session} (h : s.Reachable) : P s := by
  induction h with
  | start environment engine => exact hstart environment engine
  | submission hs queue handle ih => exact hsubmission _ queue handle hs ih
  | @call s hs call ih =>
    by_cases hsubmit : ∃ batches, call = .submit batches
    · -- A call that submits passes through the sessions after each of its submissions.
      obtain ⟨batches, rfl⟩ := hsubmit
      rw [step_submit]
      exact (Device.submitAll_keeps (P := fun d => (s.withDevice d).Reachable ∧ P (s.withDevice d))
        (fun d queue handle hd => ⟨hd.1.submission queue handle, hsubmission _ queue handle hd.1 hd.2⟩)
        ⟨hs, ih⟩ _).2
    · exact hcall s call hs (not_exists.mp hsubmit) ih

theorem outcome?_eq_some {s : Session} {call : Call} {outcome : Outcome Session Reply}
    (h : s.outcome? call = some outcome) : s.overflows call = false ∧ outcome = s.step call := by
  unfold outcome? at h
  split at h
  · cases h
  · next hfits => exact ⟨Bool.eq_false_iff.mpr hfits, (Option.some.inj h).symm⟩

theorem Reachable.of_outcome? {s : Session} (h : s.Reachable) {call : Call}
    {outcome : Outcome Session Reply} (houtcome : s.outcome? call = some outcome) :
    outcome.state.Reachable := by
  obtain ⟨-, rfl⟩ := outcome?_eq_some houtcome
  exact h.call call

theorem Reachable.run {s : Session} (h : s.Reachable) (calls : List Call) :
    (s.run calls).Reachable := by
  induction calls generalizing s with
  | nil => exact h
  | cons call calls ih => exact ih (h.call call)

end Session

end VulkanValidity
