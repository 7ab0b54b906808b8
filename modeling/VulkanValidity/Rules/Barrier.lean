/-
  VulkanValidity.Rules.Barrier

  Rules about the barriers of a command. They report every barrier that violates them.
-/

import VulkanValidity.Rule

namespace VulkanValidity.BarrierRules

/-! ## What rules look at -/

/-- A rule about the barriers of a command. -/
def onBarrier (check : Context → Dependency → List Violation) : Check := fun ctx =>
  match ctx.operation with
  | .record (.barrier dependency) => check ctx dependency
  | _ => []

/-- A rule about each image barrier of a command, at its place among them. -/
def onImages (check : Context → ImageBarrier → Nat → List Violation) : Check :=
  onBarrier fun ctx dependency =>
    dependency.imageBarriers.zipIdx.flatMap fun (barrier, index) => check ctx barrier index

/-- A rule about each buffer barrier of a command, at its place among them. -/
def onBuffers (check : Context → BufferBarrier → Nat → List Violation) : Check :=
  onBarrier fun ctx dependency =>
    dependency.bufferBarriers.zipIdx.flatMap fun (barrier, index) => check ctx barrier index

/-- The name of an image barrier in messages. -/
def imageField (index : Nat) : String := s!"image_memory_barriers[{index}]"

/-- The name of a buffer barrier in messages. -/
def bufferField (index : Nat) : String := s!"buffer_memory_barriers[{index}]"

/-! ## Layouts -/

/-- A barrier moves an image to a layout that images can be moved to. -/
def newLayout : Check := onImages fun _ barrier index =>
  violationIf (barrier.newLayout == .undefined || barrier.newLayout == .preinitialized)
    s!"`{imageField index}.new_layout` is `{barrier.newLayout}`" [barrier.image.erase]

/-- An image is in the old layout of its barrier, as far as the command buffer knows its layout. -/
def oldLayout : Check := onImages fun ctx barrier index =>
  match ctx.recording, ctx.registry.get? barrier.image with
  | some recording, some image =>
    if barrier.oldLayout = .undefined then []
    else
      match recording.layoutMismatch? barrier.image image.info barrier.range barrier.oldLayout with
      | some current =>
        [⟨s!"`{imageField index}.old_layout` is `{barrier.oldLayout}`, but the subresources are " ++
          s!"in layout `{current}` at this point of the command buffer", [barrier.image.erase]⟩]
      | none => []
  | _, _ => []

/-! ## Ownership transfers -/

/-- A transfer is meant for resources of the given sharing mode. -/
def transferSharing (field : String) (transfer : OwnershipTransfer) (sharing : Sharing)
    (object : ObjectId) : List Violation :=
  let mode := if sharing.isExclusive then "exclusive" else "concurrent"
  violationIf (transfer.isExclusive != sharing.isExclusive)
    (s!"`{field}.queue_family_ownership_transfer` is `{transfer.text}`, but the resource has " ++
      s!"{mode} sharing") [object]

/-- The transfer of an image is meant for its sharing mode. -/
def imageSharing : Check := onImages fun ctx barrier index =>
  match barrier.transfer, ctx.registry.get? barrier.image with
  | some transfer, some image =>
    transferSharing (imageField index) transfer image.info.sharing barrier.image.erase
  | _, _ => []

/-- The transfer of a buffer suits the sharing mode of the buffer. -/
def bufferSharing : Check := onBuffers fun ctx barrier index =>
  match barrier.transfer, ctx.registry.get? barrier.buffer with
  | some transfer, some buffer =>
    transferSharing (bufferField index) transfer buffer.info.sharing barrier.buffer.erase
  | _, _ => []

/-- The families of the device that a transfer names exist. -/
def transferFamilies (env : Environment) (field : String) (transfer : Option OwnershipTransfer)
    (object : ObjectId) : List Violation :=
  let count := env.queueFamilies.length
  -- Only the first family that does not exist is reported.
  match (transfer.map OwnershipTransfer.localFamilies).getD [] |>.find? (count ≤ ·) with
  | some family =>
    [⟨s!"`{field}.queue_family_ownership_transfer` names queue family {family}, which is not " ++
      s!"less than the number of queue families ({count})", [object]⟩]
  | none => []

/-- The families of the transfer of an image exist. -/
def imageFamilies : Check := onImages fun ctx barrier index =>
  transferFamilies ctx.environment (imageField index) barrier.transfer barrier.image.erase

/-- The families of the transfer of a buffer exist. -/
def bufferFamilies : Check := onBuffers fun ctx barrier index =>
  transferFamilies ctx.environment (bufferField index) barrier.transfer barrier.buffer.erase

/-! ## Barriers in render passes -/

/-- Whether the command is recorded inside of a render pass. -/
def isInside (ctx : Context) : Bool :=
  ctx.recording.any fun recording => recording.renderPass.isSome

/-- The message about a barrier inside of a render pass. -/
def insideMessage (field action : String) : String :=
  s!"the barrier is recorded inside a render pass instance, but `{field}` performs a {action}"

/-- Inside a render pass a barrier does not change layouts. -/
def layoutInside : Check := onImages fun ctx barrier index =>
  violationIf (isInside ctx && barrier.oldLayout != barrier.newLayout)
    (insideMessage (imageField index) "layout transition") [barrier.image.erase]

/-- A barrier with a transfer is not recorded inside of a render pass. -/
def transferOutside (ctx : Context) (field : String) (transfer : Option OwnershipTransfer)
    (object : ObjectId) : List Violation :=
  violationIf (isInside ctx && transfer.isSome)
    (insideMessage field "queue family ownership transfer") [object]

/-- Barriers inside of a render pass do not transfer ownership. -/
def ownershipInside : Check := fun ctx =>
  onImages (fun ctx barrier index =>
      transferOutside ctx (imageField index) barrier.transfer barrier.image.erase) ctx
    ++ onBuffers (fun ctx barrier index =>
      transferOutside ctx (bufferField index) barrier.transfer barrier.buffer.erase) ctx

end VulkanValidity.BarrierRules
