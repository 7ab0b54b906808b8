/-
  VulkanValidity.Memory

  Allocations of device memory: what they are made for, what they import and export, and how a part
  of one is bound to an image or a buffer.
-/

import VulkanValidity.HardwareBuffer

namespace VulkanValidity

/-- What an allocation takes its memory from instead of making new memory. -/
inductive MemoryImport
  | hardwareBuffer (buffer : HardwareBuffer)
  | fileDescriptor (handleType : ExternalHandleTypes) (fd : Int)
deriving DecidableEq, Repr

namespace MemoryImport

/-- The type of the handle that the memory is imported through. -/
def handleType : MemoryImport → ExternalHandleTypes
  | hardwareBuffer _ => .androidHardwareBuffer
  | fileDescriptor handleType _ => handleType

/-- Whether the memory is that of a hardware buffer. -/
def isHardwareBuffer : MemoryImport → Bool
  | hardwareBuffer _ => true
  | fileDescriptor _ _ => false

end MemoryImport

/-- The properties that an allocation is made with. -/
structure AllocationInfo where
  size : Nat := 0
  memoryType : Nat := 0
  /-- The one resource that the allocation is made for, if it is dedicated. -/
  dedicated : Option Resource := none
  exportTypes : ExternalHandleTypes := ∅
  source : Option MemoryImport := none
deriving DecidableEq, Repr

namespace AllocationInfo

/-- Whether the allocation imports the memory of a hardware buffer. -/
def importsHardwareBuffer (info : AllocationInfo) : Bool :=
  info.source.any MemoryImport.isHardwareBuffer

/-- Whether the allocation makes a hardware buffer for an image, whose size is then the image's. -/
def exportsHardwareBufferForImage (info : AllocationInfo) : Bool :=
  info.exportTypes.intersects ExternalHandleTypes.androidHardwareBuffer
    && match info.dedicated with
      | some (.image _) => true
      | _ => false

end AllocationInfo

/-- What a resource needs of the memory that is bound to it. -/
structure MemoryRequirements where
  size : Nat
  alignment : Nat
  /-- The mask of the memory types that the resource can be bound to. -/
  memoryTypeBits : Nat
  requiresDedicated : Bool
deriving DecidableEq, Repr

/-- Whether a memory type is in a mask. -/
def allowsMemoryType (mask type : Nat) : Bool := mask.testBit type

/-- A part of an allocation that is bound to a resource. -/
structure MemoryBinding where
  memory : Handle .deviceMemory
  offset : Nat
  size : Nat
deriving DecidableEq, Repr

/-- The text of a binding. -/
def MemoryBinding.text (binding : MemoryBinding) : String :=
  s!"{binding.memory} offset {binding.offset} size {binding.size}"

/-- Memory that was allocated or imported. -/
structure DeviceMemory where
  size : Nat
  memoryType : Nat
  dedicated : Option Resource
  exportTypes : ExternalHandleTypes
  source : Option MemoryImport
deriving DecidableEq, Repr

/-- The allocation that is made with the given properties and size. -/
def DeviceMemory.ofInfo (info : AllocationInfo) (size : Nat) : DeviceMemory :=
  ⟨size, info.memoryType, info.dedicated, info.exportTypes, info.source⟩

/-- What is known of the memory behind a file descriptor. -/
structure ExportedMemory where
  memory : Handle .deviceMemory
  size : Nat
  memoryType : Nat
deriving DecidableEq, Repr

/-- The text of exported memory. -/
def ExportedMemory.text (exported : ExportedMemory) : String :=
  s!"{exported.memory} size {exported.size} type {exported.memoryType}"

end VulkanValidity
