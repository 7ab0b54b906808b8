/-
  VulkanValidity.Device.Memory

  Allocating, importing and exporting memory, binding it to resources, and asking what memory
  resources need.
-/

import VulkanValidity.Device
import VulkanValidity.Requirements

namespace VulkanValidity.Device

/-! ## Hardware buffers -/

/-- Allocates a hardware buffer, which no rule is about. It needs an extension of the environment. -/
def allocateHardwareBuffer (d : Device) (info : HardwareBufferInfo) :
    Outcome Device HardwareBuffer :=
  .guarded d [] <|
    if !d.environment.hasExtension hardwareBufferExtension then .error (.ofKind .notFound)
    else if !info.isValid then .error (.ofKind .invalidParams)
    else
      .ok (⟨d.nextHardwareBuffer, info⟩, { d with nextHardwareBuffer := d.nextHardwareBuffer + 1 })

/-- Asks for the properties of a hardware buffer, which makes its external format known. -/
def hardwareBufferProperties (d : Device) (buffer : HardwareBuffer) :
    Outcome Device HardwareBufferProperties :=
  let properties := buffer.properties d.environment
  d.guarded (.queryHardwareBuffer buffer)
    (.ok (properties,
      d.withRegistry (d.registry.addExternalFormat properties.externalFormat)))

/-! ## Allocations -/

/-- The size of an allocation. One that makes a hardware buffer for an image and has no size of its
own gets the size that the image needs. -/
def allocationSize (d : Device) (info : AllocationInfo) : Except Error Nat :=
  match info.dedicated with
  | some (.image handle) =>
    if info.size = 0 ∧ info.exportsHardwareBufferForImage then do
      let image ← d.registry.get handle
      pure (image.info.requirements d.environment).size
    else .ok info.size
  | _ => .ok info.size

/-- The registry after what an allocation imports was used up. -/
def takeImport (registry : Registry) : Option MemoryImport → Registry
  | some (.fileDescriptor _ fd) => registry.takeDescriptor fd
  -- A hardware buffer can be imported again.
  | _ => registry

/-- Allocates memory, or imports it and takes what it is imported from. -/
def allocateMemory (d : Device) (info : AllocationInfo) : Outcome Device (Handle .deviceMemory) :=
  d.guarded (.allocateMemory info) do
    let size ← d.allocationSize info
    pure ((d.withRegistry (takeImport d.registry info.source)).insert .deviceMemory
      (.ofInfo info size))

/-- Exports memory through a new file descriptor. -/
def exportMemory (d : Device) (handle : Handle .deviceMemory) (handleType : ExternalHandleTypes) :
    Outcome Device Int :=
  d.guarded (.exportMemory handle handleType) do
    let memory ← d.registry.get handle
    let (fd, registry) := d.registry.exportMemory handle memory
    pure (fd, d.withRegistry registry)

/-! ## Bindings -/

/-- The bytes of an allocation that a binding to an image takes. A deferred image takes all that
there is. -/
def imageBindingSize (d : Device) (image : Image) (memory : DeviceMemory) (offset : Nat) : Nat :=
  if image.info.isDeferred then memory.size - offset
  else (image.info.requirements d.environment).size

/-- Binds memory to an image that has none. -/
def bindImage (d : Device) (handle : Handle .image) (memory : Handle .deviceMemory) (offset : Nat) :
    Outcome Device Unit :=
  d.guarded (.bindImage handle memory offset) do
    let image ← d.registry.get handle
    let allocation ← d.registry.get memory
    if image.isBound then throw (.ofKind .invalidParams)
    let binding : MemoryBinding := ⟨memory, offset, d.imageBindingSize image allocation offset⟩
    pure ((), d.withRegistry
      ((d.registry.modify handle fun image => { image with memory := some (.bound binding) }).record
        handle.erase .bound))

/-- Binds memory to a buffer that has none. -/
def bindBuffer (d : Device) (handle : Handle .buffer) (memory : Handle .deviceMemory)
    (offset : Nat) : Outcome Device Unit :=
  d.guarded (.bindBuffer handle memory offset) do
    let buffer ← d.registry.get handle
    if buffer.isBound then throw (.ofKind .invalidParams)
    let binding : MemoryBinding :=
      ⟨memory, offset, (buffer.info.requirements d.environment).size⟩
    pure ((), d.withRegistry
      ((d.registry.modify handle fun buffer => { buffer with memory := some binding }).record
        handle.erase .bound))

/-! ## Queries -/

/-- The memory that an image needs. A deferred image needs what is bound to it. -/
def imageNeeds (d : Device) (image : Image) : MemoryRequirements :=
  let requirements := image.info.requirements d.environment
  match image.binding? with
  | some binding =>
    if image.info.isDeferred then { requirements with size := binding.size } else requirements
  | none => requirements

/-- Asks for the memory that an image needs, by the plain or by the extended query. -/
def imageRequirements (d : Device) (handle : Handle .image) (extended : Bool) :
    Outcome Device MemoryRequirements :=
  d.guarded (.queryImageRequirements handle extended) do
    let image ← d.registry.get handle
    pure (d.imageNeeds image, d)

/-- Asks for the memory that a buffer needs, which no rule is about. -/
def bufferRequirements (d : Device) (handle : Handle .buffer) :
    Outcome Device MemoryRequirements :=
  .guarded d [] do
    let buffer ← d.registry.get handle
    pure (buffer.info.requirements d.environment, d)

/-- Asks where a subresource of an image with linear tiling lies. -/
def subresourceLayout (d : Device) (handle : Handle .image) (subresource : Subresource) :
    Outcome Device SubresourceLayout :=
  d.guarded (.querySubresourceLayout handle subresource) do
    let image ← d.registry.get handle
    if image.info.hasSubresource subresource then pure (image.info.subresourceLayout subresource, d)
    else throw (.ofKind .invalidParams)

end VulkanValidity.Device
