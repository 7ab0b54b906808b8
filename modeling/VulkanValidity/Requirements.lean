/-
  VulkanValidity.Requirements

  The memory that images and buffers need, and where the subresources of an image with linear
  tiling lie in it. All sizes stop at 64 bits instead of going beyond.
-/

import VulkanValidity.Resource

namespace VulkanValidity

/-! ## Images -/

namespace ImageInfo

/-- The bytes of a texel; a format that does not say counts as one byte. -/
def texelSize (info : ImageInfo) : Nat := max info.format.blockSize 1

/-- The bytes of one array layer of a mip level. -/
def layerSize (info : ImageInfo) (level : Nat) : Nat :=
  (info.extent.mipLevel level).toList.foldl DeviceSize.mul info.texelSize

/-- The bytes of one layer of the first `levels` mip levels together. -/
def layerChainSize (info : ImageInfo) (levels : Nat) : Nat :=
  ((List.range levels).map info.layerSize).foldl DeviceSize.add 0

/-- The bytes of all layers of the first `levels` mip levels. -/
def chainSize (info : ImageInfo) (levels : Nat) : Nat :=
  DeviceSize.mul (info.layerChainSize levels) info.arrayLayers

/-- The alignment that memory for the image needs, which depends on its tiling. -/
def memoryAlignment (info : ImageInfo) (env : Environment) : Nat :=
  match info.tiling with
  | .linear => env.linearImageAlignment
  | .optimal => env.optimalImageAlignment

/-- The properties that the memory types of the image must not have. Only transient attachments can
be allocated lazily. -/
def excludedProperties (info : ImageInfo) : MemoryPropertyFlags :=
  if info.usage.intersects ImageUsage.transientAttachment then MemoryPropertyFlags.isProtected
  else MemoryPropertyFlags.isProtected ∪ MemoryPropertyFlags.lazilyAllocated

/-- The memory that an image with these properties needs. -/
def requirements (info : ImageInfo) (env : Environment) : MemoryRequirements where
  size := DeviceSize.alignUp
    (DeviceSize.mul (info.chainSize info.mipLevels) info.samples.count) (info.memoryAlignment env)
  alignment := info.memoryAlignment env
  memoryTypeBits := env.memoryTypeBits ∅ info.excludedProperties
  requiresDedicated := info.isDeferred

end ImageInfo

/-! ## Buffers -/

/-- The memory that a buffer with these properties needs. -/
def BufferInfo.requirements (info : BufferInfo) (env : Environment) : MemoryRequirements where
  size := DeviceSize.alignUp (DeviceSize.alignUp info.size 4) env.bufferAlignment
  alignment := env.bufferAlignment
  memoryTypeBits := env.memoryTypeBits ∅
    (MemoryPropertyFlags.isProtected ∪ MemoryPropertyFlags.lazilyAllocated)
  requiresDedicated := false

/-! ## Subresources of images with linear tiling -/

/-- Where a subresource lies in the memory of its image. -/
structure SubresourceLayout where
  offset : Nat
  size : Nat
  rowPitch : Nat
  arrayPitch : Nat
  depthPitch : Nat
deriving DecidableEq, Repr

/-- Where a subresource lies: aspects come one after the other, within an aspect mip levels, and
within a level array layers. -/
def ImageInfo.subresourceLayout (info : ImageInfo) (subresource : Subresource) :
    SubresourceLayout :=
  let level := info.extent.mipLevel subresource.mipLevel
  let aspectPosition := (info.aspects.toList.findIdx? (· = subresource.aspect)).getD 0
  let rowPitch := DeviceSize.mul level.width info.texelSize
  let arrayPitch := info.layerSize subresource.mipLevel
  { offset :=
      DeviceSize.add
        (DeviceSize.add (DeviceSize.mul aspectPosition (info.chainSize info.mipLevels))
          (info.chainSize subresource.mipLevel))
        (DeviceSize.mul subresource.arrayLayer arrayPitch)
    size := arrayPitch
    rowPitch := rowPitch
    arrayPitch := arrayPitch
    depthPitch := DeviceSize.mul rowPitch level.height }

/-- Whether the image has the subresource. -/
def ImageInfo.hasSubresource (info : ImageInfo) (subresource : Subresource) : Bool :=
  decide (subresource.mipLevel < info.mipLevels)
    && decide (subresource.arrayLayer < info.arrayLayers)
    && info.aspects.intersects subresource.aspect.flag

end VulkanValidity
