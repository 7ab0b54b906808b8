/-
  VulkanValidity.HardwareBuffer

  Hardware buffers are images and blobs that the operating system allocates and that a device can
  import. They have formats and usages of their own, and the environment derives from these how
  much memory an import takes and which memory types and formats it can have.
-/

import VulkanValidity.DeviceSize
import VulkanValidity.Environment

namespace VulkanValidity

/-! ## Formats -/

/-- The formats of hardware buffers. -/
inductive HardwareBufferFormat
  | r8g8b8a8Unorm
  | r8g8b8x8Unorm
  | r8g8b8Unorm
  | r5g6b5Unorm
  | r16g16b16a16Float
  | r10g10b10a2Unorm
  | blob
  | y8cb8cr8_420
  | d16Unorm
deriving DecidableEq, Repr

namespace HardwareBufferFormat

/-- The name of a format. -/
def name : HardwareBufferFormat → String
  | r8g8b8a8Unorm => "R8G8B8A8Unorm"
  | r8g8b8x8Unorm => "R8G8B8X8Unorm"
  | r8g8b8Unorm => "R8G8B8Unorm"
  | r5g6b5Unorm => "R5G6B5Unorm"
  | r16g16b16a16Float => "R16G16B16A16Float"
  | r10g10b10a2Unorm => "R10G10B10A2Unorm"
  | blob => "Blob"
  | y8cb8cr8_420 => "Y8Cb8Cr8_420"
  | d16Unorm => "D16Unorm"

/-- The number of a format in the operating system. -/
def code : HardwareBufferFormat → Nat
  | r8g8b8a8Unorm => 1
  | r8g8b8x8Unorm => 2
  | r8g8b8Unorm => 3
  | r5g6b5Unorm => 4
  | r16g16b16a16Float => 0x16
  | r10g10b10a2Unorm => 0x2b
  | blob => 0x21
  | y8cb8cr8_420 => 0x23
  | d16Unorm => 0x30

instance : Enumerated HardwareBufferFormat where
  values := [r8g8b8a8Unorm, r8g8b8x8Unorm, r8g8b8Unorm, r5g6b5Unorm, r16g16b16a16Float,
    r10g10b10a2Unorm, blob, y8cb8cr8_420, d16Unorm]
  name := name
  raw format := format.code

instance : ToString HardwareBufferFormat := ⟨name⟩

/-- The format of images that import a buffer of this format, undefined if there is none. -/
def imageFormat : HardwareBufferFormat → Format
  | r8g8b8a8Unorm | r8g8b8x8Unorm => .r8g8b8a8Unorm
  | r8g8b8Unorm => .r8g8b8Unorm
  | r5g6b5Unorm => .r5g6b5UnormPack16
  | r16g16b16a16Float => .r16g16b16a16Sfloat
  | r10g10b10a2Unorm => .a2b10g10r10UnormPack32
  | d16Unorm => .d16Unorm
  | blob | y8cb8cr8_420 => .undefined

/-- The external format of images that import a buffer of this format. -/
def externalFormat (format : HardwareBufferFormat) : Nat := 0x1000 + format.code

/-- Twice the bytes of a texel, which is a whole number also where color is subsampled. -/
def doubleTexelSize : HardwareBufferFormat → Nat
  | blob => 2
  | y8cb8cr8_420 => 3
  | r5g6b5Unorm | d16Unorm => 4
  | r8g8b8Unorm => 6
  | r8g8b8a8Unorm | r8g8b8x8Unorm | r10g10b10a2Unorm => 8
  | r16g16b16a16Float => 16

end HardwareBufferFormat

/-! ## Usages -/

/-- The ways in which a hardware buffer is used, as a mask of the operating system. -/
structure HardwareBufferUsage where
  bits : Nat
deriving DecidableEq, Repr

namespace HardwareBufferUsage

/-- The host often reads the buffer. -/
def cpuReadOften : HardwareBufferUsage := ⟨3⟩

/-- The host often writes the buffer. -/
def cpuWriteOften : HardwareBufferUsage := ⟨3 <<< 4⟩

/-- The device samples the buffer as an image. -/
def gpuSampledImage : HardwareBufferUsage := ⟨1 <<< 8⟩

/-- The device renders to the buffer. -/
def gpuFramebuffer : HardwareBufferUsage := ⟨1 <<< 9⟩

/-- The contents of the buffer are protected. -/
def protectedContent : HardwareBufferUsage := ⟨1 <<< 14⟩

/-- The device uses the buffer as a plain buffer. -/
def gpuDataBuffer : HardwareBufferUsage := ⟨1 <<< 24⟩

/-- The layers of the buffer are the faces of a cube. -/
def gpuCubeMap : HardwareBufferUsage := ⟨1 <<< 25⟩

/-- The buffer has a full chain of mip levels. -/
def gpuMipmapComplete : HardwareBufferUsage := ⟨1 <<< 26⟩

/-- The usages of either mask. -/
def union (a b : HardwareBufferUsage) : HardwareBufferUsage := ⟨a.bits ||| b.bits⟩

instance : Union HardwareBufferUsage := ⟨union⟩
instance : EmptyCollection HardwareBufferUsage := ⟨⟨0⟩⟩

/-- Every usage by the graphics device. -/
def gpuAny : HardwareBufferUsage :=
  gpuSampledImage ∪ gpuFramebuffer ∪ gpuDataBuffer ∪ gpuCubeMap ∪ gpuMipmapComplete

/-- The usages that can be named, with their names. -/
def named : List (String × HardwareBufferUsage) :=
  [("CPU_READ_OFTEN", cpuReadOften), ("CPU_WRITE_OFTEN", cpuWriteOften),
    ("GPU_SAMPLED_IMAGE", gpuSampledImage), ("GPU_FRAMEBUFFER", gpuFramebuffer),
    ("PROTECTED_CONTENT", protectedContent), ("GPU_DATA_BUFFER", gpuDataBuffer),
    ("GPU_CUBE_MAP", gpuCubeMap), ("GPU_MIPMAP_COMPLETE", gpuMipmapComplete), ("GPU_ANY", gpuAny)]

/-- The usage with the given name, if there is one. -/
def ofName? (name : String) : Option HardwareBufferUsage :=
  (named.find? fun entry => entry.1 == name).map Prod.snd

/-- Whether the masks have a bit in common. -/
def intersects (a b : HardwareBufferUsage) : Bool := a.bits &&& b.bits != 0

/-- Whether the first mask has all bits of the second. -/
def contains (a b : HardwareBufferUsage) : Bool := a.bits &&& b.bits == b.bits

/-- The text of a mask, in hexadecimal. -/
def text (usage : HardwareBufferUsage) : String :=
  s!"HardwareBufferUsage({DeviceSize.hexText usage.bits})"

instance : ToString HardwareBufferUsage := ⟨text⟩

end HardwareBufferUsage

/-! ## Buffers -/

/-- The properties that a hardware buffer is allocated with. -/
structure HardwareBufferInfo where
  width : Nat := 1
  height : Nat := 1
  layers : Nat := 1
  format : HardwareBufferFormat := .r8g8b8a8Unorm
  usage : HardwareBufferUsage := ∅
deriving DecidableEq, Repr

namespace HardwareBufferInfo

/-- The number of texels of the buffer, without further mip levels. -/
def texels (info : HardwareBufferInfo) : Nat := info.width * info.height * info.layers

/-- The bytes of the texels, rounded up. -/
def baseSize (info : HardwareBufferInfo) : Nat :=
  (info.texels * info.format.doubleTexelSize + 1) / 2

/-- The bytes of the buffer. A complete mip chain is taken to need a third more. -/
def byteSize (info : HardwareBufferInfo) : Nat :=
  if info.usage.intersects .gpuMipmapComplete then info.baseSize + (info.baseSize + 2) / 3
  else info.baseSize

/-- The size of the pages that hardware buffers are made of. -/
def pageSize : Nat := 4096

/-- The bytes of the buffer in whole pages. -/
def allocationSize (info : HardwareBufferInfo) : Nat :=
  (info.byteSize + (pageSize - 1)) / pageSize * pageSize

/-- Whether the size can be computed in 64 bits: no number on the way to it is larger than the doubled
size of the texels or the size in whole pages. -/
def sizeFits (info : HardwareBufferInfo) : Bool :=
  DeviceSize.fits (info.texels * info.format.doubleTexelSize)
    && DeviceSize.fits info.allocationSize

/-- Whether a buffer with these properties can be allocated: no dimension is zero, and a blob is
one-dimensional. -/
def isValid (info : HardwareBufferInfo) : Bool :=
  info.width != 0 && info.height != 0 && info.layers != 0
    && (info.format != .blob || (info.height == 1 && info.layers == 1))

end HardwareBufferInfo

/-- A hardware buffer that was allocated. -/
structure HardwareBuffer where
  id : Nat
  info : HardwareBufferInfo
deriving DecidableEq, Repr

/-- What an import of a hardware buffer can look like. -/
structure HardwareBufferProperties where
  allocationSize : Nat
  memoryTypeBits : Nat
  format : Format
  externalFormat : Nat
deriving DecidableEq, Repr

/-- The properties of imports of a hardware buffer: it fits local memory that is neither protected
nor lazily allocated. -/
def HardwareBuffer.properties (buffer : HardwareBuffer) (env : Environment) :
    HardwareBufferProperties where
  allocationSize := buffer.info.allocationSize
  memoryTypeBits := env.memoryTypeBits MemoryPropertyFlags.deviceLocal
    (MemoryPropertyFlags.isProtected ∪ MemoryPropertyFlags.lazilyAllocated)
  format := buffer.info.format.imageFormat
  externalFormat := buffer.info.format.externalFormat

end VulkanValidity
