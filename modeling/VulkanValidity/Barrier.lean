/-
  VulkanValidity.Barrier

  Barriers order the accesses before them and after them. The barrier of an image also moves it to
  another layout, and a barrier can transfer the ownership of its resource between queue families.
  What a barrier does then depends on the family of the command buffer that it is recorded into.
-/

import VulkanValidity.Ownership

namespace VulkanValidity

/-- A barrier for a range of an image, which can change its layout and pass it to another queue
family. -/
structure ImageBarrier where
  image : Handle .image
  srcStages : PipelineStages := ∅
  srcAccess : AccessFlags := ∅
  dstStages : PipelineStages := ∅
  dstAccess : AccessFlags := ∅
  /-- The layout before the barrier; undefined stands for any layout. -/
  oldLayout : ImageLayout := .undefined
  newLayout : ImageLayout := .undefined
  transfer : Option OwnershipTransfer := none
  range : SubresourceRange := .first
deriving DecidableEq, Repr

/-- A barrier for a whole buffer, which can pass it to another queue family. -/
structure BufferBarrier where
  buffer : Handle .buffer
  srcStages : PipelineStages := ∅
  srcAccess : AccessFlags := ∅
  dstStages : PipelineStages := ∅
  dstAccess : AccessFlags := ∅
  transfer : Option OwnershipTransfer := none
deriving DecidableEq, Repr

/-- The barriers of one barrier command. -/
structure Dependency where
  imageBarriers : List ImageBarrier := []
  bufferBarriers : List BufferBarrier := []
deriving DecidableEq, Repr

/-- What a barrier does in a command buffer. -/
structure BarrierRole where
  kind : AccessKind
  /-- Whether the layout changes here. -/
  transitions : Bool
deriving DecidableEq, Repr

/-- The role of a barrier with the given transfer in a command buffer of `family`. Between two
families of the device the barrier is recorded twice: the destination acquires, and changes the
layout, and any other family releases. -/
def barrierRole (transfer : Option OwnershipTransfer) (family : Nat) : BarrierRole :=
  match transfer with
  | none => ⟨.barrier, true⟩
  | some (.exclusiveBetweenLocal src dst) =>
    -- A transfer within one family hands nothing over.
    if src = dst then ⟨.barrier, true⟩
    else if family = dst then ⟨.acquire src dst, true⟩
    else ⟨.release src dst, false⟩
  | some (.exclusiveToExternal src) =>
    if src = QueueFamily.external then ⟨.barrier, true⟩ else ⟨.release src QueueFamily.external, true⟩
  | some (.exclusiveToForeign src) =>
    if src = QueueFamily.foreign then ⟨.barrier, true⟩ else ⟨.release src QueueFamily.foreign, true⟩
  | some (.exclusiveFromExternal dst) =>
    if dst = QueueFamily.external then ⟨.barrier, true⟩ else ⟨.acquire QueueFamily.external dst, true⟩
  | some (.exclusiveFromForeign dst) =>
    if dst = QueueFamily.foreign then ⟨.barrier, true⟩ else ⟨.acquire QueueFamily.foreign dst, true⟩
  | some .concurrentToExternal | some .concurrentFromExternal | some .concurrentToForeign
  | some .concurrentFromForeign => ⟨.barrier, true⟩

end VulkanValidity
