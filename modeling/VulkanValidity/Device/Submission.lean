/-
  VulkanValidity.Device.Submission

  Submitting command buffers and waiting for them. A command buffer that can be executed at all is
  executed completely, even if rules find errors; one that cannot is left alone. While a submission
  is pending, the objects that it uses are pinned.
-/

import VulkanValidity.Device

namespace VulkanValidity.Device

/-! ## Submitting -/

/-- The log of a command buffer that can be executed on a queue: it is submittable, the queue exists
and is of its family, and all objects that it refers to are alive. -/
def admitted? (d : Device) (queue : Queue) (commandBuffer : CommandBuffer) : Option CommandLog :=
  commandBuffer.log.filter fun log =>
    commandBuffer.isSubmittable && d.environment.hasQueue queue
      && commandBuffer.family == queue.family && log.references.all d.registry.contains

/-- The objects that a pending submission uses: the command buffer, and each object that it refers
to, followed by the allocation bound to it. -/
def pinnedObjects (registry : Registry) (handle : Handle .commandBuffer) (log : CommandLog) :
    List ObjectId :=
  handle.erase :: log.references.flatMap fun id =>
    id :: ((registry.boundMemory? id).map Handle.erase).toList

/-- Carries out a submission that is admitted. -/
def execute (d : Device) (queue : Queue) (handle : Handle .commandBuffer) (log : CommandLog)
    (report : ReplayReport) : Device :=
  let pinned := pinnedObjects d.registry handle log
  let submitted := (report.apply d.registry).modify handle CommandBuffer.submit
  { d with
    registry := (submitted.pin pinned).record handle.erase .submitted
    pending := d.pending ++ [⟨queue, handle, pinned⟩] }

/-- Submits one command buffer, which is executed if it is admitted. -/
def submitOne (d : Device) (queue : Queue) (handle : Handle .commandBuffer) :
    Outcome Device Unit :=
  match d.registry.get handle with
  | .error e => ⟨d, [], .error e⟩
  | .ok commandBuffer =>
    let submission := SubmissionContext.of d.registry queue handle commandBuffer
    let diagnostics := d.engine.evaluate
      { d.context (.submit queue handle) with submission := some submission }
    -- What is reported does not decide: a command buffer that is admitted is executed all the same.
    match d.admitted? queue commandBuffer with
    | some log => ⟨d.execute queue handle log submission.report, diagnostics, verdict diagnostics⟩
    | none =>
      ⟨d, diagnostics, do verdict diagnostics; throw (.ofKind .invalidParams)⟩

/-- Submits one more command buffer after others; the first error of all remains the error. -/
def submitNext (outcome : Outcome Device Unit) (entry : Queue × Handle .commandBuffer) :
    Outcome Device Unit :=
  let next := outcome.state.submitOne entry.1 entry.2
  ⟨next.state, outcome.diagnostics ++ next.diagnostics, do outcome.result; next.result⟩

/-- The command buffers of batches in the order of execution, with their queues. -/
def submissionSequence (batches : List SubmitBatch) (order : List Nat) :
    List (Queue × Handle .commandBuffer) :=
  (order.filterMap fun index => batches[index]?).flatMap fun batch =>
    batch.commandBuffers.map fun handle => (batch.queue, handle)

/-- Submits batches of command buffers. -/
def submit (d : Device) (batches : List SubmitBatch) : Outcome Device Unit :=
  let diagnostics := d.diagnose (.submitBatches batches)
  match verdict diagnostics, submissionOrder? batches with
  | .error e, _ => ⟨d, diagnostics, .error e⟩
  | .ok (), none => ⟨d, diagnostics, .error (.ofKind .invalidParams)⟩
  | .ok (), some order =>
    -- Each command buffer is validated against the state that the ones before it leave.
    (submissionSequence batches order).foldl submitNext ⟨d, diagnostics, .ok ()⟩

/-- Whether submitting batches counts more uses of an object, or more submissions of a command buffer,
than fit the counters. No count gets smaller meanwhile, so that it is enough to look at the end. -/
def submitOverflows (d : Device) (batches : List SubmitBatch) : Bool :=
  !(d.submit batches).state.registry.countsFit

/-- Submits command buffers to a queue, as one batch that waits for nothing. -/
def queueSubmit (d : Device) (queue : Queue) (commandBuffers : List (Handle .commandBuffer)) :
    Outcome Device Unit :=
  d.submit [{ queue, commandBuffers }]

/-! ## Waiting -/

/-- Completes a submission: its objects are in use once less, and its command buffer stops being
pending with its last submission. -/
def retire (registry : Registry) (submission : PendingSubmission) : Registry :=
  ((registry.unpin submission.pinned).modify submission.commandBuffer CommandBuffer.retire).record
    submission.commandBuffer.erase .retired

/-- Completes all submissions to a queue. -/
def queueWait (d : Device) (queue : Queue) : Device :=
  let (done, pending) := d.pending.partition fun submission => submission.queue = queue
  { d with registry := done.foldl retire d.registry, pending := pending }

/-- Completes all submissions, queue by queue. Nothing is promised about the order of the queues: it is
the one in which they are listed, and the queues that are not listed follow. The submissions to one
queue are completed in their order. -/
def waitIdle (d : Device) (queues : List Queue) : Device :=
  (queues ++ d.pending.map PendingSubmission.queue).foldl queueWait d

end VulkanValidity.Device
