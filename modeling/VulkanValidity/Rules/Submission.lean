/-
  VulkanValidity.Rules.Submission

  Rules about submissions and about the queues that operations name.
-/

import VulkanValidity.Rule

namespace VulkanValidity.SubmissionRules

/-! ## Batches -/

/-- The batches that batches wait for exist. -/
def waitIndices (batches : List SubmitBatch) : List Violation :=
  batches.zipIdx.flatMap fun (batch, index) =>
    batch.waitFor.flatMap fun awaited =>
      violationIf (decide (batches.length ≤ awaited))
        (s!"`batches[{index}].wait_for` contains {awaited}, which is not less than the number of " ++
          s!"batches ({batches.length})") []

/-- Batches wait for batches that exist, and do not wait for one another in a cycle. -/
def orderingCycle : Check := fun ctx =>
  match ctx.operation with
  | .submitBatches batches =>
    -- A cycle is looked for only if every batch that is waited for exists.
    match waitIndices batches with
    | [] =>
      violationIf (submissionOrder? batches).isNone
        "the `wait_for` hints of the batches form a cycle" []
    | violations => violations
  | _ => []

/-! ## Command buffers -/

/-- A rule about the submission of a single command buffer. -/
def onSubmit (check : Context → SubmissionContext → List Violation) : Check := fun ctx =>
  match ctx.submission with
  | some submission => check ctx submission
  | none => []

/-- A submitted command buffer is recorded completely. -/
def notExecutable : Check := onSubmit fun _ submission =>
  let status := submission.commandBuffer.status
  violationIf (status != .executable && status != .pending)
    s!"the command buffer is in the {status.name} state" [submission.handle.erase]

/-- The objects that a submitted command buffer refers to are not destroyed. -/
def destroyedReference : Check := onSubmit fun ctx submission =>
  match submission.commandBuffer.log with
  | some log =>
    (log.references.filter ctx.registry.isDestroyed).map fun id =>
      ⟨s!"the command buffer references {id}, which has been destroyed",
        [submission.handle.erase, id]⟩
  | none => []

/-- A command buffer is submitted again while it is pending only if it was recorded for that. -/
def alreadyPending : Check := onSubmit fun _ submission =>
  let commandBuffer := submission.commandBuffer
  violationIf (commandBuffer.status == .pending && commandBuffer.usage != .simultaneousUse)
    ("the command buffer is already pending execution, and was not recorded with " ++
      "`CommandBufferUsage::SimultaneousUse`") [submission.handle.erase]

/-- The command buffer was allocated for the family of the queue. -/
def queueFamily : Check := onSubmit fun _ submission =>
  let family := submission.commandBuffer.family
  violationIf (family != submission.queue.family)
    (s!"the command buffer was allocated for queue family {family}, but is submitted to a queue " ++
      s!"of family {submission.queue.family}") [submission.handle.erase]

/-! ## Findings of the replay -/

/-- The findings of a kind about images or about buffers, as violations. -/
def findings (kind : FindingKind) (images : Bool) : Check := onSubmit fun _ submission =>
  (submission.report.findingsOf kind images).map fun finding =>
    ⟨finding.message, [finding.resource.id]⟩

/-- Images are in the layouts that the command buffer expects. -/
def layout : Check := findings .invalidLayout true

/-- Resources are used on the family that owns them. -/
def ownership : Check := fun ctx =>
  -- Images are reported before buffers, whatever order the replay found them in.
  findings .ownership true ctx ++ findings .ownership false ctx

/-! ## Queues -/

/-- The queue that an operation records for or submits to. -/
def operationQueue? : Operation → Option Queue
  | .beginCommandBuffer queue _ => some queue
  | .submit queue _ => some queue
  | _ => none

/-- The device has the queue family. -/
def queueFamilyExists : Check := fun ctx =>
  match operationQueue? ctx.operation with
  | some queue =>
    let count := ctx.environment.queueFamilies.length
    violationIf (decide (count ≤ queue.family))
      (s!"queue family {queue.family} doesn't exist, the device has {count} queue " ++
        "families") []
  | none => []

/-- The queue family has the queue. -/
def queueExists : Check := fun ctx =>
  match operationQueue? ctx.operation with
  | some queue =>
    match ctx.environment.queueFamilies[queue.family]? with
    | some family =>
      violationIf (decide (family.count ≤ queue.index))
        (s!"queue {queue.index} doesn't exist, queue family {queue.family} has {family.count} " ++
          "queues") []
    | none => []
  | none => []

end VulkanValidity.SubmissionRules
