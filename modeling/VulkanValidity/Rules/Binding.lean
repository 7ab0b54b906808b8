/-
  VulkanValidity.Rules.Binding

  Rules about binding memory to images and buffers, and about queries that need memory to be bound.
  Each check on a binding is one rule for images and one for buffers.
-/

import VulkanValidity.Requirements
import VulkanValidity.Rule

namespace VulkanValidity.BindingRules

/-! ## Bindings -/

/-- What a check on a binding looks at: the resource and the allocation that is bound to it. -/
structure Target where
  resource : ObjectId
  /-- The allocation that would be dedicated to the resource. -/
  own : Resource
  isBound : Bool
  isDeferred : Bool
  handleTypes : ExternalHandleTypes
  requirements : MemoryRequirements
  memoryHandle : ObjectId
  memory : DeviceMemory
  offset : Nat

/-- The binding of a live allocation to a live image, if the operation is one. -/
def imageTarget? (ctx : Context) : Option Target :=
  match ctx.operation with
  | .bindImage handle memoryHandle offset =>
    match ctx.registry.get? handle, ctx.registry.get? memoryHandle with
    | some image, some memory =>
      some ⟨handle.erase, .image handle, image.isBound, image.info.isDeferred,
        image.info.handleTypes, image.info.requirements ctx.environment, memoryHandle.erase, memory,
        offset⟩
    | _, _ => none
  | _ => none

/-- The binding of a live allocation to a live buffer, if the operation is one. -/
def bufferTarget? (ctx : Context) : Option Target :=
  match ctx.operation with
  | .bindBuffer handle memoryHandle offset =>
    match ctx.registry.get? handle, ctx.registry.get? memoryHandle with
    | some buffer, some memory =>
      some ⟨handle.erase, .buffer handle, buffer.isBound, false,
        buffer.info.handleTypes, buffer.info.requirements ctx.environment, memoryHandle.erase,
        memory, offset⟩
    | _, _ => none
  | _ => none

/-- A rule about a binding of an image. -/
def onImage (check : Target → List Violation) : Check := fun ctx =>
  (imageTarget? ctx).elim [] check

/-- A rule about a binding of a buffer. -/
def onBuffer (check : Target → List Violation) : Check := fun ctx =>
  (bufferTarget? ctx).elim [] check

/-! ## Checks on bindings -/

/-- Memory is bound once. -/
def notBound (target : Target) : List Violation :=
  violationIf target.isBound "memory is already bound to the resource" [target.resource]

/-- The offset lies inside the allocation. -/
def offsetInRange (target : Target) : List Violation :=
  violationIf (decide (target.memory.size ≤ target.offset))
    (s!"`memory_offset` is {target.offset}, which is not less than the size of the allocation " ++
      s!"({target.memory.size})") [target.memoryHandle]

/-- The resource allows the memory type of the allocation. -/
def memoryType (target : Target) : List Violation :=
  let mask := target.requirements.memoryTypeBits
  violationIf (!target.isDeferred && !allowsMemoryType mask target.memory.memoryType)
    (s!"the allocation has memory type {target.memory.memoryType}, which is not in the allowed " ++
      s!"memory types of the resource ({DeviceSize.binaryText mask})")
    [target.resource, target.memoryHandle]

/-- Whether the memory type of the allocation has no place in a mask of 32 bits. -/
def memoryTypeOverflows (target : Target) : Bool :=
  -- A deferred resource allows every type without a look at its mask.
  !target.isDeferred && decide (32 ≤ target.memory.memoryType)

/-- An image is bound to memory of a type that it allows. -/
def imageMemoryType : Predicate where
  check := onImage memoryType
  overflows ctx := (imageTarget? ctx).any memoryTypeOverflows

/-- A buffer is bound to memory of a type that it allows. -/
def bufferMemoryType : Predicate where
  check := onBuffer memoryType
  overflows ctx := (bufferTarget? ctx).any memoryTypeOverflows

/-- The offset has the required alignment. -/
def offsetAlignment (target : Target) : List Violation :=
  let alignment := target.requirements.alignment
  violationIf (target.offset % max alignment 1 != 0)
    (s!"`memory_offset` is {target.offset}, which is not a multiple of the required alignment " ++
      s!"({alignment})") [target.resource]

/-- The allocation has room for the resource at the offset. -/
def size (target : Target) : List Violation :=
  let required := target.requirements.size
  violationIf
    (!target.isDeferred && decide (target.memory.size < DeviceSize.add target.offset required))
    (s!"the resource requires {required} bytes at offset {target.offset}, but the allocation is " ++
      s!"only {target.memory.size} bytes") [target.resource, target.memoryHandle]

/-- A resource that needs an allocation of its own gets one. -/
def requiresDedicated (target : Target) : List Violation :=
  violationIf
    (target.requirements.requiresDedicated && target.memory.dedicated != some target.own)
    ("the resource requires a dedicated allocation, but the allocation is not dedicated " ++
      "to it") [target.resource, target.memoryHandle]

/-- A dedicated allocation is bound to its own resource, from its start on. -/
def dedicatedMismatch (target : Target) : List Violation :=
  match target.memory.dedicated with
  | none => []
  | some dedicated =>
    if dedicated = target.own then
      violationIf (target.offset != 0)
        (s!"the allocation is dedicated to the resource, but `memory_offset` is " ++
          s!"{target.offset}") [target.resource, target.memoryHandle]
    else
      [⟨s!"the allocation is dedicated to {dedicated.id}, not to the resource",
        [target.resource, target.memoryHandle]⟩]

/-- An imported hardware buffer is bound to a resource that was created for one. -/
def hardwareBufferHandleType (target : Target) : List Violation :=
  violationIf
    (target.memory.source.any MemoryImport.isHardwareBuffer
      && !target.handleTypes.intersects ExternalHandleTypes.androidHardwareBuffer)
    ("the allocation imports an Android hardware buffer, but the resource was not created " ++
      "with `ExternalMemoryHandleTypes::ANDROID_HARDWARE_BUFFER`")
    [target.resource, target.memoryHandle]

/-- Memory from a file descriptor is bound to a resource that was created for that kind. -/
def importHandleType (target : Target) : List Violation :=
  match target.memory.source with
  | some (.fileDescriptor handleType _) =>
    violationIf (!target.handleTypes.intersects handleType)
      (s!"the allocation was imported with handle type {handleType}, but the resource was " ++
        s!"created with external memory handle types {target.handleTypes}")
      [target.resource, target.memoryHandle]
  | _ => []

/-- Memory that can be exported is bound to a resource that was created for one of its kinds. -/
def exportHandleType (target : Target) : List Violation :=
  let exportTypes := target.memory.exportTypes
  violationIf (!exportTypes.isEmpty && !target.handleTypes.intersects exportTypes)
    (s!"the allocation was created with export handle types {exportTypes}, none of which the " ++
      "resource was created with") [target.resource, target.memoryHandle]

/-! ## Queries -/

/-- The violation of a query that needs memory to be bound to a deferred image. -/
def deferredBound (ctx : Context) (handle : Handle .image) : List Violation :=
  match ctx.registry.get? handle with
  | some image =>
    violationIf (image.info.isDeferred && !image.isBound)
      ("the image was created with `ExternalMemoryHandleTypes::ANDROID_HARDWARE_BUFFER`, " ++
        "and its memory requirements are only known once memory has been bound to it")
      [handle.erase]
  | none => []

/-- The requirements of a deferred image are queried once memory is bound to it. -/
def requirementsBeforeBind (extended : Bool) : Check := fun ctx =>
  match ctx.operation with
  | .queryImageRequirements handle isExtended =>
    if isExtended = extended then deferredBound ctx handle else []
  | _ => []

/-- The subresource layouts of a deferred image are queried once memory is bound to it. -/
def subresourceLayoutBeforeBind : Check := fun ctx =>
  match ctx.operation with
  | .querySubresourceLayout handle _ => deferredBound ctx handle
  | _ => []

/-- Subresource layouts are queried for images with linear tiling. -/
def subresourceLayoutTiling : Check := fun ctx =>
  match ctx.operation with
  | .querySubresourceLayout handle _ =>
    match ctx.registry.get? handle with
    | some image =>
      violationIf (image.info.tiling != .linear)
        (s!"the image has tiling {image.info.tiling}, but the layout of subresources is only " ++
          "defined for `ImageTiling::Linear`") [handle.erase]
    | none => []
  | _ => []

end VulkanValidity.BindingRules
