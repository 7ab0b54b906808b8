/-
  VulkanValidity.Environment

  What a device runs on: its queue families and memory types, the extensions and limits that it
  supports, and its platform. An environment is only used if it is valid.
-/

import VulkanValidity.Diagnostic
import VulkanValidity.Image

namespace VulkanValidity

/-! ## Parts of an environment -/

/-- A family of queues with the same capabilities. -/
structure QueueFamilyInfo where
  flags : QueueFlags
  count : Nat
deriving DecidableEq, Repr

/-- The text of a queue family: its capabilities and the number of its queues. -/
def QueueFamilyInfo.text (family : QueueFamilyInfo) : String := s!"{family.flags} x{family.count}"

/-- A kind of memory that allocations are made from. -/
structure MemoryType where
  properties : MemoryPropertyFlags
  heap : Nat
deriving DecidableEq, Repr

/-- The text of a memory type: its properties and its heap. -/
def MemoryType.text (type : MemoryType) : String := s!"{type.properties} heap {type.heap}"

/-- The optional features of an implementation on top of another graphics interface. -/
structure PortabilityFeatures where
  imageView2dOn3dImage : Bool := false
  imageViewFormatReinterpretation : Bool := false
  imageViewFormatSwizzle : Bool := false
  multisampleArrayImage : Bool := false
deriving DecidableEq, Repr

/-- The operating systems that a device can run on. -/
inductive Platform
  | linux
  | windows
  | android
  | macOs
deriving DecidableEq, Repr

namespace Platform

/-- The name of a platform. -/
def name : Platform → String
  | linux => "Linux"
  | windows => "Windows"
  | android => "Android"
  | macOs => "MacOs"

instance : Named Platform := ⟨[linux, windows, android, macOs], name⟩

end Platform

/-- The name of the extension that hardware buffers need. -/
def hardwareBufferExtension : String := "VK_ANDROID_external_memory_android_hardware_buffer"

/-- The name of the extension that an implementation with portability features has. -/
def portabilityExtension : String := "VK_KHR_portability_subset"

/-! ## Environments -/

/-- What a device runs on. -/
structure Environment where
  queueFamilies : List QueueFamilyInfo :=
    [⟨QueueFlags.graphics ∪ QueueFlags.compute ∪ QueueFlags.transfer, 4⟩,
      ⟨QueueFlags.compute ∪ QueueFlags.transfer, 2⟩,
      ⟨QueueFlags.transfer, 1⟩]
  memoryTypes : List MemoryType :=
    [⟨MemoryPropertyFlags.deviceLocal, 0⟩,
      ⟨MemoryPropertyFlags.hostVisible ∪ MemoryPropertyFlags.hostCoherent, 1⟩,
      ⟨MemoryPropertyFlags.deviceLocal ∪ MemoryPropertyFlags.lazilyAllocated, 0⟩,
      ⟨MemoryPropertyFlags.deviceLocal ∪ MemoryPropertyFlags.isProtected, 0⟩]
  extensions : List String :=
    ["VK_KHR_swapchain", "VK_KHR_dedicated_allocation", "VK_KHR_external_memory",
      "VK_KHR_external_memory_fd", "VK_KHR_imageless_framebuffer"]
  platform : Platform := .linux
  optimalImageAlignment : Nat := 1024
  linearImageAlignment : Nat := 256
  bufferAlignment : Nat := 256
  maxImageDimension1d : Nat := 16384
  maxImageDimension2d : Nat := 16384
  maxImageDimension3d : Nat := 2048
  portability : Option PortabilityFeatures := none
deriving DecidableEq, Repr

namespace Environment

/-- The environment with all limits at their defaults. -/
def standard : Environment := {}

/-- An environment on Android, with hardware buffers. -/
def android : Environment :=
  { standard with
    platform := .android
    extensions := standard.extensions ++ [hardwareBufferExtension] }

/-- An environment on another graphics interface, without any of the optional features. -/
def portable : Environment :=
  { standard with
    platform := .macOs
    extensions := standard.extensions ++ [portabilityExtension]
    portability := some {} }

/-- The limits of the extents of images with one, two and three dimensions. -/
def maxDimensions (env : Environment) : List Nat :=
  [env.maxImageDimension1d, env.maxImageDimension2d, env.maxImageDimension3d]

/-- The alignments of the memory of images with optimal and linear tiling and of buffers. -/
def alignments (env : Environment) : List Nat :=
  [env.optimalImageAlignment, env.linearImageAlignment, env.bufferAlignment]

/-- Whether a number is a power of two. -/
def isPowerOfTwo (n : Nat) : Bool := n != 0 && n == 1 <<< n.log2

/-- Whether a device can run in the environment: it has families, each with a queue, and between 1
and 32 memory types, its limits are not zero, and its alignments are powers of two. -/
def isValid (env : Environment) : Bool :=
  !env.queueFamilies.isEmpty
    && env.queueFamilies.all (fun family => family.count != 0)
    && !env.memoryTypes.isEmpty
    && decide (env.memoryTypes.length ≤ 32)
    && env.maxDimensions.all (fun limit => limit != 0)
    && env.alignments.all isPowerOfTwo

/-- The environment, if a device can run in it. -/
def validated (env : Environment) : Except Error Environment :=
  if env.isValid then .ok env else .error (.ofKind .invalidParams)

/-- The largest dimension that images of a type can have. -/
def maxImageDimension (env : Environment) : ImageType → Nat
  | .dim1d => env.maxImageDimension1d
  | .dim2d => env.maxImageDimension2d
  | .dim3d => env.maxImageDimension3d

/-- Whether the device has the queue. -/
def hasQueue (env : Environment) (queue : Queue) : Bool :=
  match env.queueFamilies[queue.family]? with
  | some family => decide (queue.index < family.count)
  | none => false

/-- The mask of the memory types that have all required and none of the excluded properties. -/
def memoryTypeBits (env : Environment) (required excluded : MemoryPropertyFlags) : Nat :=
  (env.memoryTypes.zipIdx.filter fun (type, _) =>
      type.properties.contains required && !type.properties.intersects excluded).foldl
    (fun bits (_, index) => bits ||| 1 <<< index) 0

/-- Whether the device has the extension. -/
def hasExtension (env : Environment) (name : String) : Bool := env.extensions.contains name

/-- The reason to skip what needs an extension, if the extension is missing. -/
def requireExtension (env : Environment) (name : String) : Except String Unit :=
  if env.hasExtension name then .ok () else .error s!"extension `{name}` is not supported"

/-- Fails unless the environment runs on the platform. -/
def requirePlatform (env : Environment) (platform : Platform) : Except String Unit :=
  if env.platform = platform then .ok ()
  else .error (s!"the test requires platform {platform.name}, but the environment runs on " ++
    env.platform.name)

end Environment

end VulkanValidity
