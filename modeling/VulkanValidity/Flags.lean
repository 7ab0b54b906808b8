/-
  VulkanValidity.Flags

  Flag sets: sets of named bits. A set of any kind is stored as the number whose bits are the raw
  values that the Vulkan headers give the flags. Each kind lists its flags in declaration order, and
  that list decides how a set is written and which bits of a raw number are known.
-/

import VulkanValidity.Named

namespace VulkanValidity

/-! ## Kinds -/

/-- The kinds of flag sets. -/
inductive FlagKind
  | queue
  | imageUsage
  | imageCreate
  | imageAspect
  | bufferUsage
  | memoryProperty
  | handleType
  | pipelineStage
  | access
deriving DecidableEq, Repr

/-- The name of a kind of flag sets. -/
def FlagKind.name : FlagKind → String
  | queue => "QueueFlags"
  | imageUsage => "ImageUsage"
  | imageCreate => "ImageCreateFlags"
  | imageAspect => "ImageAspects"
  | bufferUsage => "BufferUsage"
  | memoryProperty => "MemoryPropertyFlags"
  | handleType => "ExternalMemoryHandleTypes"
  | pipelineStage => "PipelineStages"
  | access => "AccessFlags"

instance : Named FlagKind where
  values := [.queue, .imageUsage, .imageCreate, .imageAspect, .bufferUsage, .memoryProperty,
    .handleType, .pipelineStage, .access]
  name := FlagKind.name

/-- The flags of a kind with their bits, in declaration order. -/
def FlagKind.table : FlagKind → List (String × Nat)
  | queue => [("GRAPHICS", 1), ("COMPUTE", 2), ("TRANSFER", 4), ("SPARSE_BINDING", 8),
      ("PROTECTED", 16)]
  | imageUsage => [("TRANSFER_SRC", 1), ("TRANSFER_DST", 2), ("SAMPLED", 4), ("STORAGE", 8),
      ("COLOR_ATTACHMENT", 16), ("DEPTH_STENCIL_ATTACHMENT", 32), ("TRANSIENT_ATTACHMENT", 64),
      ("INPUT_ATTACHMENT", 128)]
  | imageCreate => [("SPARSE_BINDING", 1), ("MUTABLE_FORMAT", 8), ("CUBE_COMPATIBLE", 16),
      ("ARRAY_2D_COMPATIBLE", 32), ("EXTENDED_USAGE", 256), ("PROTECTED", 2048)]
  | imageAspect => [("COLOR", 1), ("DEPTH", 2), ("STENCIL", 4)]
  | bufferUsage => [("TRANSFER_SRC", 1), ("TRANSFER_DST", 2), ("UNIFORM_TEXEL_BUFFER", 4),
      ("STORAGE_TEXEL_BUFFER", 8), ("UNIFORM_BUFFER", 16), ("STORAGE_BUFFER", 32),
      ("INDEX_BUFFER", 64), ("VERTEX_BUFFER", 128), ("INDIRECT_BUFFER", 256)]
  | memoryProperty => [("DEVICE_LOCAL", 1), ("HOST_VISIBLE", 2), ("HOST_COHERENT", 4),
      ("HOST_CACHED", 8), ("LAZILY_ALLOCATED", 16), ("PROTECTED", 32)]
  | handleType => [("OPAQUE_FD", 1), ("OPAQUE_WIN32", 2), ("OPAQUE_WIN32_KMT", 4),
      ("DMA_BUF", 512), ("ANDROID_HARDWARE_BUFFER", 1024), ("HOST_ALLOCATION", 128)]
  | pipelineStage => [("TOP_OF_PIPE", 1), ("DRAW_INDIRECT", 2), ("VERTEX_INPUT", 4),
      ("VERTEX_SHADER", 8), ("FRAGMENT_SHADER", 128), ("EARLY_FRAGMENT_TESTS", 256),
      ("LATE_FRAGMENT_TESTS", 512), ("COLOR_ATTACHMENT_OUTPUT", 1024), ("COMPUTE_SHADER", 2048),
      ("ALL_TRANSFER", 4096), ("BOTTOM_OF_PIPE", 8192), ("HOST", 16384), ("ALL_GRAPHICS", 32768),
      ("ALL_COMMANDS", 65536)]
  | access => [("INPUT_ATTACHMENT_READ", 16), ("SHADER_READ", 32), ("SHADER_WRITE", 64),
      ("COLOR_ATTACHMENT_READ", 128), ("COLOR_ATTACHMENT_WRITE", 256),
      ("DEPTH_STENCIL_ATTACHMENT_READ", 512), ("DEPTH_STENCIL_ATTACHMENT_WRITE", 1024),
      ("TRANSFER_READ", 2048), ("TRANSFER_WRITE", 4096), ("HOST_READ", 8192), ("HOST_WRITE", 16384),
      ("MEMORY_READ", 32768), ("MEMORY_WRITE", 65536)]

/-! ## Sets -/

/-- A set of flags of the kind `k`. -/
structure Flags (k : FlagKind) where
  /-- The union of the bits of the flags in the set. -/
  bits : Nat
deriving DecidableEq, Repr

namespace Flags

variable {k : FlagKind}

/-- The set without flags. -/
def empty : Flags k := ⟨0⟩

instance : Inhabited (Flags k) := ⟨empty⟩
instance : EmptyCollection (Flags k) := ⟨empty⟩

/-- Whether the set has no flags. -/
def isEmpty (a : Flags k) : Bool := a.bits == 0

/-- Whether the sets have a flag in common. -/
def intersects (a b : Flags k) : Bool := a.bits &&& b.bits != 0

/-- Whether the first set has all flags of the second. -/
def contains (a b : Flags k) : Bool := a.bits &&& b.bits == b.bits

/-- The flags of either set. -/
def union (a b : Flags k) : Flags k := ⟨a.bits ||| b.bits⟩

/-- The flags that both sets have. -/
def inter (a b : Flags k) : Flags k := ⟨a.bits &&& b.bits⟩

/-- The flags of the first set that the second does not have. -/
def diff (a b : Flags k) : Flags k := ⟨a.bits - (a.bits &&& b.bits)⟩

instance : Union (Flags k) := ⟨union⟩
instance : Inter (Flags k) := ⟨inter⟩
instance : SDiff (Flags k) := ⟨diff⟩

/-- The flag sets that each hold one flag of the kind, in declaration order, with their names. -/
def named (k : FlagKind) : List (String × Flags k) :=
  k.table.map fun (name, bits) => (name, ⟨bits⟩)

/-- The set of the known flags among the bits of a raw number. -/
def ofBits (k : FlagKind) (raw : Nat) : Flags k :=
  (named k).foldl (fun set (_, flag) => if raw &&& flag.bits == flag.bits then set ∪ flag else set) ∅

/-- The flag with the given name, if the kind has one. -/
def ofName? (k : FlagKind) (name : String) : Option (Flags k) :=
  ((named k).find? fun entry => entry.1 == name).map Prod.snd

/-- The names of the flags in the set, in declaration order. -/
def names (a : Flags k) : List String :=
  ((named k).filter fun (_, flag) => a.contains flag).map Prod.fst

/-- The number of named flags in the set. -/
def count (a : Flags k) : Nat := a.names.length

/-- The text of a set: its names, or `empty()`. -/
def text (a : Flags k) : String :=
  match a.names with
  | [] => "empty()"
  | names => " | ".intercalate names

instance : ToString (Flags k) := ⟨text⟩

end Flags

/-! ## The flags that rules refer to -/

/-- What the queues of a family are capable of. -/
abbrev QueueFlags := Flags .queue

namespace QueueFlags

/-- The queues can draw. -/
def graphics : QueueFlags := ⟨1⟩

/-- The queues can dispatch computations. -/
def compute : QueueFlags := ⟨2⟩

/-- The queues can copy. -/
def transfer : QueueFlags := ⟨4⟩

end QueueFlags

/-- The ways in which an image can be used. -/
abbrev ImageUsage := Flags .imageUsage

namespace ImageUsage

/-- The image can be copied from. -/
def transferSrc : ImageUsage := ⟨1⟩

/-- The image can be copied to and cleared. -/
def transferDst : ImageUsage := ⟨2⟩

/-- The image can be sampled by shaders. -/
def sampled : ImageUsage := ⟨4⟩

/-- The image can be a color attachment. -/
def colorAttachment : ImageUsage := ⟨16⟩

/-- The image can be a depth and stencil attachment. -/
def depthStencilAttachment : ImageUsage := ⟨32⟩

/-- The image can be an attachment whose contents need not be kept in memory. -/
def transientAttachment : ImageUsage := ⟨64⟩

/-- The image can be an input attachment. -/
def inputAttachment : ImageUsage := ⟨128⟩

end ImageUsage

/-- The properties that an image is created with beside its parameters. -/
abbrev ImageCreateFlags := Flags .imageCreate

namespace ImageCreateFlags

/-- Views of the image can have other formats. -/
def mutableFormat : ImageCreateFlags := ⟨8⟩

/-- Views of the image can be cubes. -/
def cubeCompatible : ImageCreateFlags := ⟨16⟩

/-- The slices of the 3D image can be viewed as 2D layers. -/
def array2dCompatible : ImageCreateFlags := ⟨32⟩

/-- The image has protected memory. -/
def isProtected : ImageCreateFlags := ⟨2048⟩

end ImageCreateFlags

/-- The aspects of the subresources of an image. -/
abbrev ImageAspects := Flags .imageAspect

namespace ImageAspects

/-- The color of the texels. -/
def color : ImageAspects := ⟨1⟩

/-- The depth of the texels. -/
def depth : ImageAspects := ⟨2⟩

/-- The stencil value of the texels. -/
def stencil : ImageAspects := ⟨4⟩

end ImageAspects

/-- The ways in which a buffer can be used. -/
abbrev BufferUsage := Flags .bufferUsage

namespace BufferUsage

/-- The buffer can be copied from. -/
def transferSrc : BufferUsage := ⟨1⟩

/-- The buffer can be copied to and filled. -/
def transferDst : BufferUsage := ⟨2⟩

end BufferUsage

/-- The properties of a memory type. -/
abbrev MemoryPropertyFlags := Flags .memoryProperty

namespace MemoryPropertyFlags

/-- The memory is close to the device. -/
def deviceLocal : MemoryPropertyFlags := ⟨1⟩

/-- The host can map the memory. -/
def hostVisible : MemoryPropertyFlags := ⟨2⟩

/-- What the host writes is visible without flushing. -/
def hostCoherent : MemoryPropertyFlags := ⟨4⟩

/-- The memory is only committed when it is needed. -/
def lazilyAllocated : MemoryPropertyFlags := ⟨16⟩

/-- Only protected work can access the memory. -/
def isProtected : MemoryPropertyFlags := ⟨32⟩

end MemoryPropertyFlags

/-- The kinds of handles through which memory is shared with the outside of a device. -/
abbrev ExternalHandleTypes := Flags .handleType

namespace ExternalHandleTypes

/-- A file descriptor that says nothing about what it stands for. -/
def opaqueFd : ExternalHandleTypes := ⟨1⟩

/-- A file descriptor of a DMA buffer. -/
def dmaBuf : ExternalHandleTypes := ⟨512⟩

/-- A hardware buffer of the operating system. -/
def androidHardwareBuffer : ExternalHandleTypes := ⟨1024⟩

end ExternalHandleTypes

/-- Stages of the pipelines that commands run through. -/
abbrev PipelineStages := Flags .pipelineStage

namespace PipelineStages

/-- The stage in which color attachments are written. -/
def colorAttachmentOutput : PipelineStages := ⟨1024⟩

/-- All stages of transfer commands. -/
def allTransfer : PipelineStages := ⟨4096⟩

end PipelineStages

/-- The kinds of memory accesses that a dependency covers. -/
abbrev AccessFlags := Flags .access

end VulkanValidity
