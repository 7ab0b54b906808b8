/-
  VulkanValidity.Submission

  Submissions: batches of command buffers that wait for one another, the order in which they are
  executed, and what rules see of the submission of a single command buffer.
-/

import VulkanValidity.Replay

namespace VulkanValidity

/-! ## Batches -/

/-- Command buffers that are submitted to a queue together. -/
structure SubmitBatch where
  queue : Queue
  commandBuffers : List (Handle .commandBuffer) := []
  /-- The indices of the batches of the same submission that come before this one. -/
  waitFor : List Nat := []
deriving DecidableEq, Repr

/-! ## The order of batches -/

/-- The batches of a submission while they are put in order. -/
structure Schedule where
  /-- For each batch, how many of its waits are not over. A wait that is listed twice counts twice. -/
  waiting : List Nat
  /-- For each batch, whether it has its place in the order. -/
  done : List Bool
  order : List Nat
deriving DecidableEq, Repr

namespace Schedule

/-- No batch has a place. Indices that are out of range name no batch, and nothing waits for them. -/
def start (batches : List SubmitBatch) : Schedule where
  waiting := batches.map fun batch => batch.waitFor.countP (· < batches.length)
  done := batches.map fun _ => false
  order := []

/-- The lowest index of a batch that has no place and does not wait for anything. -/
def next? (s : Schedule) : Option Nat :=
  (List.range s.done.length).find? fun index =>
    s.done[index]? == some false && s.waiting[index]? == some 0

/-- Gives a batch the next place, so that the waits for it are over. -/
def place (s : Schedule) (batches : List SubmitBatch) (index : Nat) : Schedule where
  waiting := s.waiting.zipWith (fun waits batch => waits - batch.waitFor.count index) batches
  done := s.done.set index true
  order := s.order ++ [index]

/-- Gives a place to each of the batches that are missing in the order, as long as one is ready. -/
def complete (batches : List SubmitBatch) : Nat → Schedule → Option (List Nat)
  | 0, s => some s.order
  | missing + 1, s =>
    match s.next? with
    | some index => complete batches missing (s.place batches index)
    | none => none

end Schedule

/-- The order in which batches are executed: every batch comes after the ones that it waits for, and
among those that are ready the lowest index comes first. There is none if the waits form a cycle. -/
def submissionOrder? (batches : List SubmitBatch) : Option (List Nat) :=
  (Schedule.start batches).complete batches batches.length

/-! ## Single submissions -/

/-- The submission of a command buffer to a queue, with what replaying it gives. -/
structure SubmissionContext where
  queue : Queue
  handle : Handle .commandBuffer
  commandBuffer : CommandBuffer
  report : ReplayReport

/-- What rules see of the submission of a command buffer. A command buffer without a log has nothing
to replay. -/
def SubmissionContext.of (registry : Registry) (queue : Queue) (handle : Handle .commandBuffer)
    (commandBuffer : CommandBuffer) : SubmissionContext :=
  ⟨queue, handle, commandBuffer, (commandBuffer.log.map fun log => log.replay registry).getD {}⟩

end VulkanValidity
