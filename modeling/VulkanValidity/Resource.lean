/-
  VulkanValidity.Resource

  Images, image views and buffers as they live on a device: the properties that they were created
  with, the memory that is bound to them, and the tracked state of their subresources.
-/

import VulkanValidity.Memory
import VulkanValidity.Ownership
import VulkanValidity.RangeMap

namespace VulkanValidity

/-! ## Images -/

/-- The memory behind an image. -/
inductive ImageMemory
  /-- A part of an allocation. -/
  | bound (binding : MemoryBinding)
  /-- The memory of the image at an index of a swapchain. -/
  | presented (swapchain : Handle .swapchain) (index : Nat)
deriving DecidableEq, Repr

/-- The text of what an image has for memory. -/
def ImageMemory.text : ImageMemory → String
  | bound binding => binding.text
  | presented swapchain index => s!"{swapchain} image {index}"

/-- An image of a device. -/
structure Image where
  info : ImageInfo
  memory : Option ImageMemory
  /-- The tracked states of the subresources, by number. -/
  states : RangeMap SubresourceState
deriving DecidableEq, Repr

namespace Image

/-- A new image, with every subresource in the initial layout. -/
def ofInfo (info : ImageInfo) : Image :=
  ⟨info, none, RangeMap.replicate info.trackedSize { layout := info.initialLayout }⟩

/-- Whether the image has memory, or belongs to a swapchain. -/
def isBound (image : Image) : Bool := image.memory.isSome

/-- Whether the image belongs to a swapchain. -/
def isPresented (image : Image) : Bool :=
  match image.memory with
  | some (.presented _ _) => true
  | _ => false

/-- The part of an allocation that is bound to the image, if its memory comes from one. -/
def binding? (image : Image) : Option MemoryBinding :=
  match image.memory with
  | some (.bound binding) => some binding
  | _ => none

end Image

/-! ## Image views -/

/-- The number of dimensions and the arrangement of a view. -/
inductive ImageViewType
  | dim1d
  | dim2d
  | dim3d
  | cube
  | dim1dArray
  | dim2dArray
  | cubeArray
deriving DecidableEq, Repr

namespace ImageViewType

/-- The name of a type of views. -/
def name : ImageViewType → String
  | dim1d => "Dim1d"
  | dim2d => "Dim2d"
  | dim3d => "Dim3d"
  | cube => "Cube"
  | dim1dArray => "Dim1dArray"
  | dim2dArray => "Dim2dArray"
  | cubeArray => "CubeArray"

/-- The number of a type of views in the headers. -/
def raw : ImageViewType → Int
  | dim1d => 0
  | dim2d => 1
  | dim3d => 2
  | cube => 3
  | dim1dArray => 4
  | dim2dArray => 5
  | cubeArray => 6

instance : Enumerated ImageViewType where
  values := [dim1d, dim2d, dim3d, cube, dim1dArray, dim2dArray, cubeArray]
  name := name
  raw := raw

instance : ToString ImageViewType := ⟨name⟩

end ImageViewType

/-- Where a view takes a color component from. -/
inductive ComponentSwizzle
  | same
  | zero
  | one
  | red
  | green
  | blue
  | alpha
deriving DecidableEq, Repr

namespace ComponentSwizzle

/-- The name of a swizzle. -/
def name : ComponentSwizzle → String
  | same => "Identity"
  | zero => "Zero"
  | one => "One"
  | red => "Red"
  | green => "Green"
  | blue => "Blue"
  | alpha => "Alpha"

/-- The number of a swizzle in the headers. -/
def raw : ComponentSwizzle → Int
  | same => 0
  | zero => 1
  | one => 2
  | red => 3
  | green => 4
  | blue => 5
  | alpha => 6

instance : Enumerated ComponentSwizzle where
  values := [same, zero, one, red, green, blue, alpha]
  name := name
  raw := raw

end ComponentSwizzle

/-- Where a view takes its four color components from. -/
structure ComponentMapping where
  r : ComponentSwizzle := .same
  g : ComponentSwizzle := .same
  b : ComponentSwizzle := .same
  a : ComponentSwizzle := .same
deriving DecidableEq, Repr

/-- Whether every component is taken from itself. -/
def ComponentMapping.isIdentity (m : ComponentMapping) : Bool :=
  (m.r == .same || m.r == .red) && (m.g == .same || m.g == .green)
    && (m.b == .same || m.b == .blue) && (m.a == .same || m.a == .alpha)

/-- The properties that a view is created with. -/
structure ImageViewInfo where
  image : Handle .image
  viewType : ImageViewType := .dim2d
  /-- The format of the view; undefined stands for the format of the image. -/
  format : Format := .undefined
  mapping : ComponentMapping := {}
  range : SubresourceRange := .first
  /-- The usage of the view; empty stands for the usage of the image. -/
  usage : ImageUsage := ∅
deriving DecidableEq, Repr

/-- A view of an image of a device. -/
structure ImageView where
  image : Handle .image
  /-- The properties of the image, which the view keeps when the image is destroyed. -/
  imageInfo : ImageInfo
  viewType : ImageViewType
  format : Format
  mapping : ComponentMapping
  range : SubresourceRange
  usage : ImageUsage
deriving DecidableEq, Repr

namespace ImageView

/-- The view that is created with the given properties of an image with properties `imageInfo`. -/
def ofInfo (info : ImageViewInfo) (imageInfo : ImageInfo) : ImageView where
  image := info.image
  imageInfo := imageInfo
  viewType := info.viewType
  format := if info.format = .undefined then imageInfo.format else info.format
  mapping := info.mapping
  range := info.range
  usage := if info.usage.isEmpty then imageInfo.usage else info.usage

/-- The extent of the first mip level of the view. -/
def extent (view : ImageView) : Extent :=
  view.imageInfo.extent.mipLevel view.range.mipLevels.start

/-- The number of array layers of the view. -/
def layerCount (view : ImageView) : Nat := view.range.arrayLayers.length

end ImageView

/-! ## Buffers -/

/-- The properties that a buffer is created with. -/
structure BufferInfo where
  size : Nat := 0
  usage : BufferUsage := ∅
  sharing : Sharing := .exclusive
  handleTypes : ExternalHandleTypes := ∅
deriving DecidableEq, Repr

/-- A buffer of the registry. -/
structure Buffer where
  info : BufferInfo
  memory : Option MemoryBinding
  /-- The tracked state of the buffer, which counts as one subresource. -/
  states : RangeMap SubresourceState
deriving DecidableEq, Repr

namespace Buffer

/-- A new buffer, which has no memory and which nobody owns. -/
def ofInfo (info : BufferInfo) : Buffer :=
  ⟨info, none, RangeMap.replicate 1 {}⟩

/-- Whether the buffer has memory. -/
def isBound (buffer : Buffer) : Bool := buffer.memory.isSome

end Buffer

end VulkanValidity
