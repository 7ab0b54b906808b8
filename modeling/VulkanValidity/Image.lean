/-
  VulkanValidity.Image

  The properties that images are created with. The subresources of an image are numbered: the number
  of a subresource is `(a * mips + m) * layers + l` for the position `a` of its aspect among the
  aspects of the image, its mip level `m` and its array layer `l`. The depth slices of a 3D image
  are not told apart, so that its mip levels count as one layer each. `ImageInfo.indexRanges` turns
  a range of subresources into the runs of numbers that it covers.
-/

import VulkanValidity.DeviceSize
import VulkanValidity.Format
import VulkanValidity.Handle
import VulkanValidity.Interval
import VulkanValidity.Queue

namespace VulkanValidity

/-! ## Enumerations -/

/-- How the texels of an image are arranged in memory for a kind of use. -/
inductive ImageLayout
  | undefined
  | general
  | colorAttachmentOptimal
  | depthStencilAttachmentOptimal
  | depthStencilReadOnlyOptimal
  | shaderReadOnlyOptimal
  | transferSrcOptimal
  | transferDstOptimal
  | preinitialized
  | presentSrc
deriving DecidableEq, Repr

namespace ImageLayout

/-- The name of a layout. -/
def name : ImageLayout → String
  | undefined => "Undefined"
  | general => "General"
  | colorAttachmentOptimal => "ColorAttachmentOptimal"
  | depthStencilAttachmentOptimal => "DepthStencilAttachmentOptimal"
  | depthStencilReadOnlyOptimal => "DepthStencilReadOnlyOptimal"
  | shaderReadOnlyOptimal => "ShaderReadOnlyOptimal"
  | transferSrcOptimal => "TransferSrcOptimal"
  | transferDstOptimal => "TransferDstOptimal"
  | preinitialized => "Preinitialized"
  | presentSrc => "PresentSrc"

/-- The number of a layout in the headers. -/
def raw : ImageLayout → Int
  | undefined => 0
  | general => 1
  | colorAttachmentOptimal => 2
  | depthStencilAttachmentOptimal => 3
  | depthStencilReadOnlyOptimal => 4
  | shaderReadOnlyOptimal => 5
  | transferSrcOptimal => 6
  | transferDstOptimal => 7
  | preinitialized => 8
  | presentSrc => 1000001002

instance : Enumerated ImageLayout where
  values := [undefined, general, colorAttachmentOptimal, depthStencilAttachmentOptimal,
    depthStencilReadOnlyOptimal, shaderReadOnlyOptimal, transferSrcOptimal, transferDstOptimal,
    preinitialized, presentSrc]
  name := name
  raw := raw

instance : ToString ImageLayout := ⟨name⟩

end ImageLayout

/-- The number of dimensions of an image. -/
inductive ImageType
  | dim1d
  | dim2d
  | dim3d
deriving DecidableEq, Repr

namespace ImageType

/-- The name of a type of images. -/
def name : ImageType → String
  | dim1d => "Dim1d"
  | dim2d => "Dim2d"
  | dim3d => "Dim3d"

/-- The number of a type of images in the headers. -/
def raw : ImageType → Int
  | dim1d => 0
  | dim2d => 1
  | dim3d => 2

instance : Enumerated ImageType where
  values := [dim1d, dim2d, dim3d]
  name := name
  raw := raw

instance : ToString ImageType := ⟨name⟩

end ImageType

/-- The order of texels in memory. -/
inductive ImageTiling
  | optimal
  | linear
deriving DecidableEq, Repr

namespace ImageTiling

/-- The name of a tiling. -/
def name : ImageTiling → String
  | optimal => "Optimal"
  | linear => "Linear"

/-- The number of a tiling in the headers. -/
def raw : ImageTiling → Int
  | optimal => 0
  | linear => 1

instance : Enumerated ImageTiling where
  values := [optimal, linear]
  name := name
  raw := raw

instance : ToString ImageTiling := ⟨name⟩

end ImageTiling

/-- The number of samples of a texel. -/
inductive SampleCount
  | sample1
  | sample2
  | sample4
  | sample8
  | sample16
  | sample32
  | sample64
deriving DecidableEq, Repr

namespace SampleCount

/-- The number of samples of a texel. -/
def count : SampleCount → Nat
  | sample1 => 1
  | sample2 => 2
  | sample4 => 4
  | sample8 => 8
  | sample16 => 16
  | sample32 => 32
  | sample64 => 64

/-- The name of a sample count. -/
def name (samples : SampleCount) : String := s!"Sample{samples.count}"

instance : Enumerated SampleCount where
  values := [sample1, sample2, sample4, sample8, sample16, sample32, sample64]
  name := name
  raw samples := samples.count

instance : ToString SampleCount := ⟨name⟩

end SampleCount

/-! ## Extents and mip levels -/

/-- The size of an image in texels. -/
structure Extent where
  width : Nat
  height : Nat
  depth : Nat
deriving DecidableEq, Repr

namespace Extent

/-- The width, the height and the depth. -/
def toList (e : Extent) : List Nat := [e.width, e.height, e.depth]

/-- The text of an extent. -/
def text (e : Extent) : String := bracketed (e.toList.map toString)

/-- The length of the longest mip chain: the number of bits of the largest component. -/
def maxMipLevels (e : Extent) : Nat :=
  let bits := e.width ||| e.height ||| e.depth
  if bits = 0 then 0 else bits.log2 + 1

/-- The extent of a mip level: every component is halved once per level, but stays at least 1. -/
def mipLevel (e : Extent) (level : Nat) : Extent :=
  let halved (n : Nat) := max (n >>> min level 31) 1
  ⟨halved e.width, halved e.height, halved e.depth⟩

/-- The number of texels that the extent holds. -/
def volume (e : Extent) : Nat := e.width * e.height * e.depth

end Extent

/-! ## Subresources -/

/-- A range of subresources: some aspects of some mip levels of some array layers. -/
structure SubresourceRange where
  aspects : ImageAspects
  mipLevels : Interval
  arrayLayers : Interval
deriving DecidableEq, Repr

namespace SubresourceRange

/-- The first mip level of the first layer of the color aspect. -/
def first : SubresourceRange := ⟨.color, ⟨0, 1⟩, ⟨0, 1⟩⟩

instance : Inhabited SubresourceRange := ⟨first⟩

/-- The text of a range: its aspects, mip levels and array layers. -/
def text (r : SubresourceRange) : String := s!"{r.aspects} {r.mipLevels} {r.arrayLayers}"

end SubresourceRange

/-- A single aspect of a single array layer of a single mip level. -/
structure Subresource where
  aspect : ImageAspect
  mipLevel : Nat
  arrayLayer : Nat
deriving DecidableEq, Repr

/-! ## Images -/

/-- The properties that an image is created with. -/
structure ImageInfo where
  flags : ImageCreateFlags := ∅
  imageType : ImageType := .dim2d
  format : Format := .undefined
  /-- The format of an image whose memory is laid out by someone else, if it has one. -/
  externalFormat : Option Nat := none
  /-- The formats that views of the image will have. -/
  viewFormats : List Format := []
  extent : Extent := ⟨0, 0, 0⟩
  mipLevels : Nat := 1
  arrayLayers : Nat := 1
  samples : SampleCount := .sample1
  tiling : ImageTiling := .optimal
  usage : ImageUsage := ∅
  sharing : Sharing := .exclusive
  initialLayout : ImageLayout := .undefined
  handleTypes : ExternalHandleTypes := ∅
deriving DecidableEq, Repr

namespace ImageInfo

/-- The aspects of the image in order. External formats have no aspects of their own, but they are
color formats. -/
def aspectList (info : ImageInfo) : List ImageAspect :=
  if info.format = .undefined then [.color] else info.format.aspects.toList

/-- The aspects that the format of the image has. -/
def aspects (info : ImageInfo) : ImageAspects :=
  info.aspectList.foldl (fun set aspect => set ∪ aspect.flag) ∅

/-- The number of layers that are told apart: a 3D image counts as one. -/
def trackedLayers (info : ImageInfo) : Nat :=
  if info.imageType = .dim3d then 1 else info.arrayLayers

/-- The number of subresources that are told apart. -/
def trackedSize (info : ImageInfo) : Nat :=
  info.aspectList.length * info.mipLevels * info.trackedLayers

/-- Whether the subresources can be numbered in 64 bits. -/
def trackedSizeFits (info : ImageInfo) : Bool := DeviceSize.fits info.trackedSize

/-- The range of all subresources of the image. -/
def wholeRange (info : ImageInfo) : SubresourceRange :=
  ⟨info.aspects, ⟨0, info.mipLevels⟩, ⟨0, info.arrayLayers⟩⟩

/-- Whether the requirements of the image are only known once memory is bound to it, because its
memory comes from a hardware buffer. -/
def isDeferred (info : ImageInfo) : Bool :=
  info.handleTypes.intersects ExternalHandleTypes.androidHardwareBuffer

/-- The number of the first tracked layer of a mip level of the aspect at a position. -/
def levelIndex (info : ImageInfo) (aspectPosition level : Nat) : Nat :=
  (aspectPosition * info.mipLevels + level) * info.trackedLayers

/-- The layers of a range that are tracked. -/
def coveredLayers (info : ImageInfo) (range : SubresourceRange) : Interval :=
  -- Whatever layers a range of a 3D image names, they are the one that is tracked.
  if info.imageType = .dim3d then ⟨0, 1⟩ else range.arrayLayers.clampTo info.trackedLayers

/-- The mip levels of a range that the image has. -/
def coveredLevels (info : ImageInfo) (range : SubresourceRange) : Interval :=
  range.mipLevels.clampTo info.mipLevels

/-- The positions of the image's aspects that a range selects. -/
def coveredAspects (info : ImageInfo) (range : SubresourceRange) : List Nat :=
  (info.aspectList.zipIdx.filter fun (aspect, _) => range.aspects.intersects aspect.flag).map Prod.snd

/-- The runs of subresource numbers that a range covers, in increasing order, joined where they
touch. -/
def indexRanges (info : ImageInfo) (range : SubresourceRange) : List Interval :=
  let layers := info.coveredLayers range
  -- Without this, joining would keep an empty run for each level.
  if layers.isEmpty then []
  else
    Interval.coalesce <|
      (info.coveredAspects range).flatMap fun position =>
        (info.coveredLevels range).toList.map fun level =>
          layers.shift (info.levelIndex position level)

end ImageInfo

end VulkanValidity
