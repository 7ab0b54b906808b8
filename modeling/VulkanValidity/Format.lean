/-
  VulkanValidity.Format

  The formats that the texels of images and image views can have, with their size, the bits of
  their components and their aspects.
-/

import VulkanValidity.Flags
import VulkanValidity.Named

namespace VulkanValidity

/-- The format of the texels of an image. -/
inductive Format
  | undefined
  | r8Unorm
  | r8g8Unorm
  | r5g6b5UnormPack16
  | r8g8b8Unorm
  | r8g8b8a8Unorm
  | r8g8b8a8Srgb
  | b8g8r8a8Unorm
  | b8g8r8a8Srgb
  | a2b10g10r10UnormPack32
  | r16g16b16a16Sfloat
  | r32Sfloat
  | r32g32b32a32Sfloat
  | d16Unorm
  | d32Sfloat
  | s8Uint
  | d24UnormS8Uint
  | d32SfloatS8Uint
deriving DecidableEq, Repr

namespace Format

/-- The name of a format. -/
def name : Format → String
  | undefined => "UNDEFINED"
  | r8Unorm => "R8_UNORM"
  | r8g8Unorm => "R8G8_UNORM"
  | r5g6b5UnormPack16 => "R5G6B5_UNORM_PACK16"
  | r8g8b8Unorm => "R8G8B8_UNORM"
  | r8g8b8a8Unorm => "R8G8B8A8_UNORM"
  | r8g8b8a8Srgb => "R8G8B8A8_SRGB"
  | b8g8r8a8Unorm => "B8G8R8A8_UNORM"
  | b8g8r8a8Srgb => "B8G8R8A8_SRGB"
  | a2b10g10r10UnormPack32 => "A2B10G10R10_UNORM_PACK32"
  | r16g16b16a16Sfloat => "R16G16B16A16_SFLOAT"
  | r32Sfloat => "R32_SFLOAT"
  | r32g32b32a32Sfloat => "R32G32B32A32_SFLOAT"
  | d16Unorm => "D16_UNORM"
  | d32Sfloat => "D32_SFLOAT"
  | s8Uint => "S8_UINT"
  | d24UnormS8Uint => "D24_UNORM_S8_UINT"
  | d32SfloatS8Uint => "D32_SFLOAT_S8_UINT"

/-- The number of a format in the headers. -/
def raw : Format → Int
  | undefined => 0
  | r8Unorm => 9
  | r8g8Unorm => 16
  | r5g6b5UnormPack16 => 4
  | r8g8b8Unorm => 23
  | r8g8b8a8Unorm => 37
  | r8g8b8a8Srgb => 43
  | b8g8r8a8Unorm => 44
  | b8g8r8a8Srgb => 50
  | a2b10g10r10UnormPack32 => 64
  | r16g16b16a16Sfloat => 97
  | r32Sfloat => 100
  | r32g32b32a32Sfloat => 109
  | d16Unorm => 124
  | d32Sfloat => 126
  | s8Uint => 127
  | d24UnormS8Uint => 129
  | d32SfloatS8Uint => 130

instance : Enumerated Format where
  values := [undefined, r8Unorm, r8g8Unorm, r5g6b5UnormPack16, r8g8b8Unorm, r8g8b8a8Unorm,
    r8g8b8a8Srgb, b8g8r8a8Unorm, b8g8r8a8Srgb, a2b10g10r10UnormPack32, r16g16b16a16Sfloat,
    r32Sfloat, r32g32b32a32Sfloat, d16Unorm, d32Sfloat, s8Uint, d24UnormS8Uint, d32SfloatS8Uint]
  name := name
  raw := raw

instance : Inhabited Format := ⟨undefined⟩
instance : ToString Format := ⟨name⟩

/-- The number of bytes of a texel; an undefined format has none. -/
def blockSize : Format → Nat
  | undefined => 0
  | r8Unorm | s8Uint => 1
  | r8g8Unorm | r5g6b5UnormPack16 | d16Unorm => 2
  | r8g8b8Unorm => 3
  | r8g8b8a8Unorm | r8g8b8a8Srgb | b8g8r8a8Unorm | b8g8r8a8Srgb | a2b10g10r10UnormPack32
  | r32Sfloat | d32Sfloat | d24UnormS8Uint => 4
  | r16g16b16a16Sfloat | d32SfloatS8Uint => 8
  | r32g32b32a32Sfloat => 16

/-- The bits of the four color components, or of depth and stencil in the first two places. Missing
components have no bits. -/
def componentBits : Format → List Nat
  | undefined => [0, 0, 0, 0]
  | r8Unorm | s8Uint => [8, 0, 0, 0]
  | r8g8Unorm => [8, 8, 0, 0]
  | r5g6b5UnormPack16 => [5, 6, 5, 0]
  | d16Unorm => [16, 0, 0, 0]
  | r8g8b8Unorm => [8, 8, 8, 0]
  | r8g8b8a8Unorm | r8g8b8a8Srgb | b8g8r8a8Unorm | b8g8r8a8Srgb => [8, 8, 8, 8]
  | a2b10g10r10UnormPack32 => [10, 10, 10, 2]
  | r32Sfloat | d32Sfloat => [32, 0, 0, 0]
  | d24UnormS8Uint => [24, 8, 0, 0]
  | r16g16b16a16Sfloat => [16, 16, 16, 16]
  | d32SfloatS8Uint => [32, 8, 0, 0]
  | r32g32b32a32Sfloat => [32, 32, 32, 32]

/-- The aspects of images of the format. -/
def aspects : Format → ImageAspects
  | undefined => ∅
  | d16Unorm | d32Sfloat => .depth
  | s8Uint => .stencil
  | d24UnormS8Uint | d32SfloatS8Uint => ImageAspects.depth ∪ ImageAspects.stencil
  | _ => .color

/-- Whether images of the format have a depth or a stencil aspect. -/
def isDepthStencil (format : Format) : Bool :=
  format.aspects.intersects (ImageAspects.depth ∪ ImageAspects.stencil)

end Format

/-! ## Single aspects -/

/-- One aspect of an image. -/
inductive ImageAspect
  | color
  | depth
  | stencil
deriving DecidableEq, Repr

namespace ImageAspect

/-- The name of an aspect. -/
def name : ImageAspect → String
  | color => "Color"
  | depth => "Depth"
  | stencil => "Stencil"

/-- The raw number of an aspect, which is the bit of its flag. -/
def bit : ImageAspect → Nat
  | color => 1
  | depth => 2
  | stencil => 4

instance : Enumerated ImageAspect where
  values := [color, depth, stencil]
  name := name
  raw aspect := aspect.bit

instance : ToString ImageAspect := ⟨name⟩

/-- The flag set that holds just this aspect. -/
def flag (aspect : ImageAspect) : ImageAspects := ⟨aspect.bit⟩

end ImageAspect

/-- The aspects in a set, in the order color, depth, stencil. -/
def ImageAspects.toList (aspects : ImageAspects) : List ImageAspect :=
  [ImageAspect.color, .depth, .stencil].filter fun aspect => aspects.intersects aspect.flag

end VulkanValidity
