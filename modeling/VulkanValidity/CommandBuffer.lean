/-
  VulkanValidity.CommandBuffer

  Command buffers and their life: they are recorded, become executable, are pending while the device
  executes them, and become executable again or, if they are meant for one submission, invalid.
-/

import VulkanValidity.Recording

namespace VulkanValidity

/-- How often a command buffer can be submitted. -/
inductive CommandBufferUsage
  /-- Once; it is invalid afterwards. -/
  | oneTimeSubmit
  /-- Again and again, but not while it is pending. -/
  | multipleSubmit
  /-- Again and again, even while it is pending. -/
  | simultaneousUse
deriving DecidableEq, Repr

namespace CommandBufferUsage

/-- The name of a usage in texts. -/
def name : CommandBufferUsage → String
  | oneTimeSubmit => "OneTimeSubmit"
  | multipleSubmit => "MultipleSubmit"
  | simultaneousUse => "SimultaneousUse"

instance : Named CommandBufferUsage := ⟨[oneTimeSubmit, multipleSubmit, simultaneousUse], name⟩

end CommandBufferUsage

/-- The states in the life of a command buffer. -/
inductive CommandBufferStatus
  | fresh
  | recording
  | executable
  | pending
  | invalid
deriving DecidableEq, Repr

/-- The name of a status in texts. -/
def CommandBufferStatus.name : CommandBufferStatus → String
  | fresh => "Initial"
  | recording => "Recording"
  | executable => "Executable"
  | pending => "Pending"
  | invalid => "Invalid"

/-- A command buffer of the registry. While it is recorded, a recorder has its recording. -/
structure CommandBuffer where
  /-- The queue family that the command buffer was allocated for. -/
  family : Nat
  status : CommandBufferStatus := .fresh
  usage : CommandBufferUsage := .multipleSubmit
  /-- The log of the last recording that was finished. -/
  log : Option CommandLog := none
  /-- The number of submissions that are not retired yet, which has 32 bits. -/
  pendingCount : Nat := 0
deriving DecidableEq, Repr

namespace CommandBuffer

/-- Whether the command buffer can be submitted in its status. -/
def isSubmittable (cb : CommandBuffer) : Bool :=
  match cb.status with
  | .executable => true
  | .pending => cb.usage == .simultaneousUse
  | _ => false

/-- Whether the number of pending submissions fits its 32 bits. -/
def countFits (cb : CommandBuffer) : Bool := cb.pendingCount ≤ 0xffffffff

/-- Starts a recording, which discards the last one. -/
def begin (cb : CommandBuffer) (usage : CommandBufferUsage) : CommandBuffer :=
  { cb with status := .recording, usage := usage, log := none }

/-- The command buffer when its recording ends, with the log of it. -/
def finish (cb : CommandBuffer) (log : CommandLog) : CommandBuffer :=
  { cb with status := .executable, log := some log }

/-- The command buffer with one more pending submission. -/
def submit (cb : CommandBuffer) : CommandBuffer :=
  { cb with status := .pending, pendingCount := cb.pendingCount + 1 }

/-- Notes that one submission is complete. With the last one the command buffer stops being
pending. -/
def retire (cb : CommandBuffer) : CommandBuffer :=
  let count := cb.pendingCount - 1
  let status :=
    if count = 0 ∧ cb.status = .pending then
      if cb.usage = .oneTimeSubmit then .invalid else .executable
    else cb.status
  { cb with pendingCount := count, status := status }

end CommandBuffer

end VulkanValidity
