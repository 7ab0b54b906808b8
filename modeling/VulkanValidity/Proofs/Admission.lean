/-
  VulkanValidity.Proofs.Admission

  Command buffers are executed completely or not at all.  Whether one is admitted depends on the device
  alone (`Device.Admits`), and not on what the rules report: an admitted command buffer is executed
  although its submission fails, and one that is not admitted is left alone although no rule complains.
  A submission of batches that is rejected as a whole, or whose batches wait for one another in a circle,
  executes none of them.
-/

import VulkanValidity.Proofs.BatchOrder
import VulkanValidity.Proofs.References
import VulkanValidity.Proofs.Reports

namespace VulkanValidity

/-! ## Applying reports -/

namespace Registry

theorem get?_image_setStates (r : Registry) (resource : Resource) (states : RangeMap SubresourceState)
    (handle : Handle .image) :
    (r.setStates resource states).images.get? handle
      = if .image handle = resource then
          (r.images.get? handle).map fun image => { image with states := states }
        else r.images.get? handle := by
  cases resource with
  | image other => simp only [setStates, Store.get?_modify, Resource.image.injEq]
  | buffer other => rfl

theorem get?_buffer_setStates (r : Registry) (resource : Resource)
    (states : RangeMap SubresourceState) (handle : Handle .buffer) :
    (r.setStates resource states).buffers.get? handle
      = if .buffer handle = resource then
          (r.buffers.get? handle).map fun buffer => { buffer with states := states }
        else r.buffers.get? handle := by
  cases resource with
  | image other => rfl
  | buffer other => simp only [setStates, Store.get?_modify, Resource.buffer.injEq]

/-- A resource is tracked while it is alive. -/
theorem exists_tracked?_of_contains {r : Registry} {resource : Resource}
    (h : r.contains resource.id = true) : ∃ t, r.tracked? resource = some t := by
  rw [contains_resource] at h
  obtain ⟨sharing, hsharing⟩ := Option.isSome_iff_exists.mp h
  obtain ⟨t, ht, -⟩ := exists_tracked?_of_sharing? hsharing
  exact ⟨t, ht⟩

end Registry

/-- A report is applied to the images and the buffers of a registry. -/
theorem ReplayReport.exists_apply_eq (report : ReplayReport) (r : Registry) :
    ∃ images buffers, report.apply r = { r with images := images, buffers := buffers } := by
  refine List.foldlRecOn (motive := fun after : Registry =>
    ∃ images buffers, after = { r with images := images, buffers := buffers }) report.states _
    ⟨r.images, r.buffers, rfl⟩ ?_
  rintro _ ⟨images, buffers, rfl⟩ ⟨resource, states⟩ -
  cases resource with
  | image handle => exact ⟨_, buffers, rfl⟩
  | buffer handle => exact ⟨images, _, rfl⟩

/-! ## Command buffers -/

namespace Device

/-- The command buffer can be executed on the queue: it is alive, has a log, and is submittable, the queue
exists and is of its family, and all objects that the log refers to are alive. -/
def Admits (d : Device) (queue : Queue) (handle : Handle .commandBuffer) (log : CommandLog) : Prop :=
  ∃ cb, d.registry.get? handle = some cb ∧ cb.log = some log ∧ cb.isSubmittable = true
    ∧ cb.family = queue.family ∧ d.environment.hasQueue queue = true
    ∧ ∀ id ∈ log.references, d.registry.contains id = true

/-- The device `after` is `d` after a complete execution of the log of a command buffer. -/
structure Executed (d : Device) (queue : Queue) (handle : Handle .commandBuffer) (log : CommandLog)
    (after : Device) : Prop where
  /-- Each resource of the log is in the state that the replay found. -/
  replayed : ∀ resource ∈ log.resources, ∃ states,
    (log.replay d.registry).states.lookup resource = some states
      ∧ after.registry.states? resource = some states
  untouched : ∀ resource ∉ log.resources,
    after.registry.states? resource = d.registry.states? resource
  /-- Nothing but the states of images and buffers is written. -/
  images : ∀ image, after.registry.images.get? image
    = (d.registry.images.get? image).map fun object => { object with
        states := ((log.replay d.registry).states.lookup (.image image)).getD object.states }
  buffers : ∀ buffer, after.registry.buffers.get? buffer
    = (d.registry.buffers.get? buffer).map fun object => { object with
        states := ((log.replay d.registry).states.lookup (.buffer buffer)).getD object.states }
  commandBuffers : ∀ other, after.registry.commandBuffers.get? other
    = (d.registry.commandBuffers.get? other).map fun cb =>
        if other = handle then { cb with status := .pending, pendingCount := cb.pendingCount + 1 }
        else cb
  /-- The submission is pending on the queue, pins its objects, and leaves one event. -/
  rest : ∃ images buffers commandBuffers, after = { d with
    registry := { d.registry with
      images := images
      buffers := buffers
      commandBuffers := commandBuffers
      uses := d.registry.uses.addAll (pinnedObjects d.registry handle log)
      feed := d.registry.feed ++ [⟨d.registry.feed.length + 1, handle.erase, .submitted⟩] }
    pending := d.pending ++ [⟨queue, handle, pinnedObjects d.registry handle log⟩] }

section Execute

variable (d : Device) (queue : Queue) (handle : Handle .commandBuffer) (log : CommandLog)

theorem exists_execute_eq :
    ∃ images buffers commandBuffers, d.execute queue handle log (log.replay d.registry) = { d with
      registry := { d.registry with
        images := images
        buffers := buffers
        commandBuffers := commandBuffers
        uses := d.registry.uses.addAll (pinnedObjects d.registry handle log)
        feed := d.registry.feed ++ [⟨d.registry.feed.length + 1, handle.erase, .submitted⟩] }
      pending := d.pending ++ [⟨queue, handle, pinnedObjects d.registry handle log⟩] } := by
  obtain ⟨images, buffers, happly⟩ := (log.replay d.registry).exists_apply_eq d.registry
  refine ⟨images, buffers, d.registry.commandBuffers.modify handle CommandBuffer.submit, ?_⟩
  rw [execute, happly]
  rfl

theorem images_execute (image : Handle .image) :
    (d.execute queue handle log (log.replay d.registry)).registry.images.get? image
      = (d.registry.images.get? image).map fun object => { object with
          states := ((log.replay d.registry).states.lookup (.image image)).getD object.states } := by
  have happly := ReplayReport.read_apply (fun r => r.images.get? image)
    (fun r resource states => r.get?_image_setStates resource states image)
    (log.replay_states_nodup d.registry) d.registry
  refine happly.trans ?_
  cases (log.replay d.registry).states.lookup (.image image) <;> rfl

theorem buffers_execute (buffer : Handle .buffer) :
    (d.execute queue handle log (log.replay d.registry)).registry.buffers.get? buffer
      = (d.registry.buffers.get? buffer).map fun object => { object with
          states := ((log.replay d.registry).states.lookup (.buffer buffer)).getD object.states } := by
  have happly := ReplayReport.read_apply (fun r => r.buffers.get? buffer)
    (fun r resource states => r.get?_buffer_setStates resource states buffer)
    (log.replay_states_nodup d.registry) d.registry
  refine happly.trans ?_
  cases (log.replay d.registry).states.lookup (.buffer buffer) <;> rfl

end Execute

/-- The execution of an admitted log is complete. -/
theorem executed_execute {d : Device} {queue : Queue} {handle : Handle .commandBuffer}
    {log : CommandLog} (hlog : log.WellFormed) (hrefers : log.Refers)
    (halive : ∀ id ∈ log.references, d.registry.contains id = true) :
    d.Executed queue handle log (d.execute queue handle log (log.replay d.registry)) where
  replayed resource hmem := by
    obtain ⟨t, ht⟩ := Registry.exists_tracked?_of_contains (halive _ (hrefers resource hmem))
    refine ⟨log.statesAfter t.sharing resource t.states, ?_, ?_⟩
    · rw [CommandLog.lookup_replay_states hlog, if_pos hmem, ht, Option.map_some]
    · rw [Registry.states?_eq, d.execute_executes queue handle hlog resource, ht]
      rfl
  untouched resource hmem := by
    rw [Registry.states?_eq, Registry.states?_eq, d.execute_executes queue handle hlog resource,
      Option.map_map]
    refine congrArg (Option.map · _) (funext fun t => ?_)
    exact CommandLog.statesAfter_of_not_mem hmem t.sharing t.states
  images := d.images_execute queue handle log
  buffers := d.buffers_execute queue handle log
  commandBuffers other := by
    refine (d.get?_execute queue handle log _ other).trans ?_
    split
    · rfl
    · exact Option.map_id'.symm
  rest := d.exists_execute_eq queue handle log

/-- Admission is what `admitted?` decides. -/
theorem admitted?_iff {d : Device} {queue : Queue} {handle : Handle .commandBuffer}
    {cb : CommandBuffer} (hget : d.registry.get? handle = some cb) {log : CommandLog} :
    d.admitted? queue cb = some log ↔ d.Admits queue handle log := by
  rw [admitted?, Option.filter_eq_some_iff]
  simp only [Bool.and_eq_true, beq_iff_eq, List.all_eq_true]
  constructor
  · rintro ⟨hlog, ⟨⟨hsubmittable, hqueue⟩, hfamily⟩, halive⟩
    exact ⟨cb, hget, hlog, hsubmittable, hfamily, hqueue, halive⟩
  · rintro ⟨other, hother, hlog, hsubmittable, hfamily, hqueue, halive⟩
    obtain rfl := Option.some.inj (hget.symm.trans hother)
    exact ⟨hlog, ⟨⟨hsubmittable, hqueue⟩, hfamily⟩, halive⟩

/-- An admitted command buffer is executed, whatever the rules report. -/
theorem submitOne_of_admits {d : Device} {queue : Queue} {handle : Handle .commandBuffer}
    {log : CommandLog} (h : d.Admits queue handle log) :
    (d.submitOne queue handle).state = d.execute queue handle log (log.replay d.registry)
      ∧ (d.submitOne queue handle).result = verdict (d.submitOne queue handle).diagnostics := by
  have ⟨cb, hget, hlog, _⟩ := h
  rw [submitOne, Registry.get_eq_ok.mpr hget]
  simp only [(admitted?_iff hget).mpr h, SubmissionContext.of, hlog, Option.map_some, Option.getD_some,
    and_self]

/-- A command buffer that is not admitted is not submitted. -/
theorem submitOne_of_not_admits {d : Device} {queue : Queue} {handle : Handle .commandBuffer}
    (h : ∀ log, ¬ d.Admits queue handle log) :
    (d.submitOne queue handle).state = d ∧ ∃ e, (d.submitOne queue handle).result = .error e := by
  rw [submitOne]
  cases hget : d.registry.get? handle with
  | none =>
    rw [Registry.get, hget]
    exact ⟨rfl, _, rfl⟩
  | some cb =>
    have hnone : d.admitted? queue cb = none :=
      Option.eq_none_iff_forall_ne_some.mpr fun log hadmitted => h log ((admitted?_iff hget).mp hadmitted)
    rw [Registry.get_eq_ok.mpr hget]
    simp only [hnone, true_and]
    cases verdict _ with
    | error e => exact ⟨e, rfl⟩
    | ok accepted => exact ⟨_, rfl⟩

/-! ## Batches -/

/-- Batches that are rejected, or that wait for one another in a circle, are not submitted. -/
theorem submit_of_rejected {d : Device} {batches : List SubmitBatch}
    (h : (∃ diagnostic ∈ d.diagnose (.submitBatches batches), diagnostic.severity = .error)
      ∨ ∃ i, Relation.TransGen (Waits batches) i i) :
    (d.submit batches).state = d ∧ ∃ e, (d.submit batches).result = .error e := by
  rw [submit]
  cases hverdict : verdict (d.diagnose (.submitBatches batches)) with
  | error e => exact ⟨rfl, e, rfl⟩
  | ok accepted =>
    rcases h with herror | ⟨i, hcycle⟩
    · obtain ⟨e, he⟩ := exists_verdict_eq_error.mpr herror
      rw [hverdict] at he
      cases he
    · rw [submissionOrder?_of_cycle hcycle]
      exact ⟨rfl, _, rfl⟩

/-- If a command buffer is submitted alone and the submission as a whole is not rejected, it comes to the
command buffer. -/
theorem queueSubmit_singleton {d : Device} {queue : Queue} {handle : Handle .commandBuffer}
    (h : verdict (d.diagnose (.submitBatches [{ queue, commandBuffers := [handle] }])) = .ok ()) :
    d.queueSubmit queue [handle] = ⟨(d.submitOne queue handle).state,
      d.diagnose (.submitBatches [{ queue, commandBuffers := [handle] }])
        ++ (d.submitOne queue handle).diagnostics, (d.submitOne queue handle).result⟩ := by
  have horder : submissionOrder? [{ queue, commandBuffers := [handle] }] = some [0] := rfl
  rw [queueSubmit, submit, h, horder]
  rfl

end Device

/-- A command buffer that is submitted is executed completely or not at all.  If it is admitted it is
executed completely, and the submission fails exactly if an error is reported; otherwise nothing changes,
and the submission fails.  Batches that are rejected as a whole, or whose waits form a cycle, are not
submitted, while a command buffer that passes this check alone is submitted as said. -/
theorem submission_all_or_nothing {s : Session} (hs : s.Reachable) (queue : Queue)
    (handle : Handle .commandBuffer) :
    (∀ log, s.device.Admits queue handle log →
      s.device.Executed queue handle log (s.device.submitOne queue handle).state
      ∧ ((∃ e, (s.device.submitOne queue handle).result = .error e)
        ↔ ∃ diagnostic ∈ (s.device.submitOne queue handle).diagnostics,
          diagnostic.severity = .error))
    ∧ ((∀ log, ¬ s.device.Admits queue handle log) →
      (s.device.submitOne queue handle).state = s.device
      ∧ ∃ e, (s.device.submitOne queue handle).result = .error e)
    ∧ (∀ batches,
      (∃ diagnostic ∈ s.device.diagnose (.submitBatches batches), diagnostic.severity = .error)
        ∨ (∃ i, Relation.TransGen (Waits batches) i i) →
      (s.device.submit batches).state = s.device ∧ ∃ e, (s.device.submit batches).result = .error e)
    ∧ ((∀ diagnostic ∈ s.device.diagnose
        (.submitBatches [{ queue, commandBuffers := [handle] }]), diagnostic.severity ≠ .error) →
      s.device.queueSubmit queue [handle] = ⟨(s.device.submitOne queue handle).state,
        s.device.diagnose (.submitBatches [{ queue, commandBuffers := [handle] }])
          ++ (s.device.submitOne queue handle).diagnostics,
        (s.device.submitOne queue handle).result⟩) := by
  refine ⟨fun log hadmits => ?_, Device.submitOne_of_not_admits,
    fun batches => Device.submit_of_rejected, fun hnone => ?_⟩
  · obtain ⟨hstate, hresult⟩ := Device.submitOne_of_admits hadmits
    obtain ⟨cb, hget, hlog, -, -, -, halive⟩ := hadmits
    have hlog := (Registry.log?_of_get? hget).trans hlog
    rw [hstate, hresult, exists_verdict_eq_error]
    exact ⟨Device.executed_execute (hs.wellFormed.registry.logs handle log hlog)
      (hs.refers.logs.logs handle log hlog) halive, Iff.rfl⟩
  · cases hverdict : verdict (s.device.diagnose
      (.submitBatches [{ queue, commandBuffers := [handle] }])) with
    | ok accepted => exact Device.queueSubmit_singleton hverdict
    | error e =>
      obtain ⟨diagnostic, hmem, hseverity⟩ := exists_verdict_eq_error.mp ⟨e, hverdict⟩
      exact absurd hseverity (hnone diagnostic hmem)

/-- A command buffer that expects an image in a layout that the image is not in. -/
def recordUnexpected : List Call :=
  [.createImage { format := .r8g8b8a8Unorm, extent := ⟨4, 4, 1⟩, usage := .transferDst },
    .allocateMemory { size := 65536 },
    .bindImage (.ofSerial .image 1) (.ofSerial .deviceMemory 2) 0,
    .beginCommandBuffer ⟨0, 0⟩ none .multipleSubmit,
    .record 0 (.barrier { imageBarriers := [{
      image := .ofSerial .image 1, oldLayout := .preinitialized, newLayout := .general }] }),
    .endCommandBuffer 0]

/-- The submission of the command buffer fails, and executes it. On a queue of another family, or in a
circle of batches, it is not executed. -/
theorem unexpectedLayout_executed :
    let d := ((Session.start {} Standard.engine).run recordUnexpected).device
    let handle := Handle.ofSerial .commandBuffer 3
    (∃ log, d.Executed ⟨0, 0⟩ handle log (d.submitOne ⟨0, 0⟩ handle).state)
      ∧ (∃ e, (d.submitOne ⟨0, 0⟩ handle).result = .error e)
      ∧ (d.submitOne ⟨1, 0⟩ handle).state = d
      ∧ (d.submit [{ queue := ⟨0, 0⟩, commandBuffers := [handle], waitFor := [1] },
        { queue := ⟨1, 0⟩, waitFor := [0] }]).state = d := by
  intro d handle
  have hs : ((Session.start {} Standard.engine).run recordUnexpected).Reachable :=
    (Session.Reachable.start {} Standard.engine).run recordUnexpected
  obtain ⟨hadmitted, -, hbatches, -⟩ := submission_all_or_nothing hs ⟨0, 0⟩ handle
  obtain ⟨-, hrejected, -, -⟩ := submission_all_or_nothing hs ⟨1, 0⟩ handle
  have hsome : (d.registry.get? handle).isSome = true := by decide +kernel
  obtain ⟨cb, hget⟩ := Option.isSome_iff_exists.mp hsome
  obtain ⟨log, hlog⟩ : ∃ log, d.Admits ⟨0, 0⟩ handle log := by
    have hadmits : ((d.registry.get? handle).bind (d.admitted? ⟨0, 0⟩)).isSome = true := by
      decide +kernel
    rw [hget] at hadmits
    obtain ⟨log, hlog⟩ := Option.isSome_iff_exists.mp hadmits
    exact ⟨log, (Device.admitted?_iff hget).mp hlog⟩
  have hother (log : CommandLog) : ¬ d.Admits ⟨1, 0⟩ handle log := by
    have hnone : ((d.registry.get? handle).bind (d.admitted? ⟨1, 0⟩)).isNone = true := by
      decide +kernel
    intro hadmits
    rw [hget, Option.bind_some, (Device.admitted?_iff hget).mpr hadmits] at hnone
    cases hnone
  obtain ⟨hexecuted, hfails⟩ := hadmitted log hlog
  refine ⟨⟨log, hexecuted⟩, hfails.mpr (by decide +kernel), (hrejected hother).1,
    (hbatches _ (Or.inr ⟨0, ?_⟩)).1⟩
  exact .tail (.single ⟨_, rfl, List.mem_singleton_self 1, by decide⟩)
    ⟨_, rfl, List.mem_singleton_self 0, by decide⟩

end VulkanValidity
