/-
  VulkanValidity.Rules.Memory

  Rules about allocations of memory, about what they import and export, and about queries of
  hardware buffers.
-/

import VulkanValidity.Requirements
import VulkanValidity.Rule

namespace VulkanValidity.MemoryRules

/-! ## Allocations -/

/-- A rule about an allocation. -/
def onAllocate (check : Context → AllocationInfo → List Violation) : Check := fun ctx =>
  match ctx.operation with
  | .allocateMemory info => check ctx info
  | _ => []

/-- The device has the memory type. -/
def memoryType : Check := onAllocate fun ctx info =>
  let count := ctx.environment.memoryTypes.length
  violationIf (decide (count ≤ info.memoryType))
    (s!"`memory_type_index` is {info.memoryType}, but the device has only {count} memory " ++
      "types") []

/-- An allocation has a size, unless that follows from a hardware buffer. -/
def sizeNonzero : Check := onAllocate fun _ info =>
  violationIf
    (info.size == 0 && !info.exportsHardwareBufferForImage && !info.importsHardwareBuffer)
    "`allocation_size` is zero" []

/-- An allocation that makes a hardware buffer for an image has no size of its own. -/
def hardwareBufferExportSize : Check := onAllocate fun _ info =>
  violationIf (info.exportsHardwareBufferForImage && info.size != 0)
    ("the allocation exports an Android hardware buffer and is dedicated to an image, but " ++
      s!"`allocation_size` is {info.size} instead of 0") []

/-! ## Imports of hardware buffers -/

/-- A rule about an allocation that imports a hardware buffer. -/
def onImport (check : Context → AllocationInfo → HardwareBuffer → List Violation) : Check :=
  onAllocate fun ctx info =>
    match info.source with
    | some (.hardwareBuffer buffer) => check ctx info buffer
    | _ => []

/-- Whether the size of an imported hardware buffer does not fit 64 bits. -/
def importOverflows (ctx : Context) : Bool :=
  match ctx.operation with
  | .allocateMemory info =>
    match info.source with
    | some (.hardwareBuffer buffer) => !buffer.info.sizeFits
    | _ => false
  | _ => false

/-- A rule about an allocation that looks up the properties of the hardware buffer that it
imports. -/
def measured (check : Check) : Predicate := { check, overflows := importOverflows }

/-- The size of an import is the size of the hardware buffer. -/
def hardwareBufferImportSize : Predicate := measured <| onImport fun ctx info buffer =>
  let required := (buffer.properties ctx.environment).allocationSize
  violationIf (info.size != required)
    (s!"`allocation_size` is {info.size}, but the imported hardware buffer requires an " ++
      s!"allocation size of {required}") []

/-- The memory type is one that the imported hardware buffer allows. -/
def hardwareBufferImportMemoryType : Predicate := measured <| onImport fun ctx info buffer =>
  let mask := (buffer.properties ctx.environment).memoryTypeBits
  violationIf (!allowsMemoryType mask (min info.memoryType 31))
    (s!"`memory_type_index` is {info.memoryType}, but the imported hardware buffer only allows " ++
      s!"the memory types {DeviceSize.binaryText mask}") []

/-- An import that is not made for an image takes a blob that the device can use as data. -/
def hardwareBufferImportBlob : Predicate := measured <| onImport fun _ info buffer =>
  let forImage := match info.dedicated with
    | some (.image _) => true
    | _ => false
  violationIf
    (!forImage && (buffer.info.format != .blob
      || !buffer.info.usage.intersects HardwareBufferUsage.gpuDataBuffer))
    ("the allocation imports a hardware buffer without being dedicated to an image, but " ++
      s!"the hardware buffer has format {buffer.info.format} and usage {buffer.info.usage} " ++
      "instead of a blob format with GPU data buffer usage") []

/-- The device can use an imported hardware buffer for something. -/
def hardwareBufferImportUsage : Predicate := measured <| onImport fun _ _ buffer =>
  violationIf (!buffer.info.usage.intersects HardwareBufferUsage.gpuAny)
    (s!"the imported hardware buffer has usage {buffer.info.usage}, which contains no GPU " ++
      "usage") []

/-! ## Imports of hardware buffers for an image -/

/-- A rule about an import of a hardware buffer that is made for a live image. -/
def onImageImport
    (check : Context → HardwareBuffer → Handle .image → ImageInfo → List Violation) : Check :=
  onImport fun ctx info buffer =>
    match info.dedicated with
    | some (.image handle) =>
      match ctx.registry.get? handle with
      | some image => check ctx buffer handle image.info
      | none => []
    | _ => []

/-- The text of an external format that may be missing. -/
def externalFormatText : Option Nat → String
  | some format => s!"Some({format})"
  | none => "None"

/-- The image has the external format of the hardware buffer, or, without one, its format. -/
def dedicatedFormat : Predicate := measured <| onImageImport fun ctx buffer handle image =>
  let properties := buffer.properties ctx.environment
  let agrees := match image.externalFormat with
    | some format => properties.externalFormat == format
    | none => image.format == properties.format
  violationIf (!agrees)
    (s!"the dedicated image has format {image.format} and external format " ++
      s!"{externalFormatText image.externalFormat}, which doesn't match the format " ++
      s!"{properties.format} of the imported hardware buffer") [handle.erase]

/-- The dedicated image has the dimensions of the imported hardware buffer. -/
def dedicatedExtent : Predicate := measured <| onImageImport fun _ buffer handle image =>
  let info := buffer.info
  violationIf (image.extent != ⟨info.width, info.height, 1⟩ || image.arrayLayers != info.layers)
    (s!"the dedicated image has extent {image.extent.text} and {image.arrayLayers} array " ++
      s!"layers, but the imported hardware buffer is {info.width}x{info.height} with " ++
      s!"{info.layers} layers") [handle.erase]

/-- The image has one mip level, or all of them if the hardware buffer has them too. -/
def dedicatedMipLevels : Predicate := measured <| onImageImport fun _ buffer handle image =>
  let full := image.extent.maxMipLevels
  if buffer.info.usage.intersects HardwareBufferUsage.gpuMipmapComplete then
    violationIf (image.mipLevels != 1 && image.mipLevels != full)
      ("the imported hardware buffer has a complete mip chain, but the dedicated image has " ++
        s!"{image.mipLevels} mip levels instead of 1 or {full}") [handle.erase]
  else
    violationIf (image.mipLevels != 1)
      (s!"the imported hardware buffer has no mip chain, but the dedicated image has " ++
        s!"{image.mipLevels} mip levels") [handle.erase]

/-- The hardware buffer can be used in one of the ways of the image that need `required`. -/
def usagePermitted (buffer : HardwareBufferUsage) (handle : Handle .image) (image usage : ImageUsage)
    (required : HardwareBufferUsage) : List Violation :=
  violationIf (image.intersects usage && !buffer.contains required)
    (s!"the dedicated image has usage {image ∩ usage}, which requires the imported hardware " ++
      s!"buffer to have usage {required}, but it has {buffer}") [handle.erase]

/-- The hardware buffer can be used in the ways of the image. -/
def dedicatedUsage : Predicate := measured <| onImageImport fun _ buffer handle image =>
  let usage := buffer.info.usage
  usagePermitted usage handle image.usage (ImageUsage.sampled ∪ ImageUsage.inputAttachment)
      .gpuSampledImage
    ++ usagePermitted usage handle image.usage
      (ImageUsage.colorAttachment ∪ ImageUsage.depthStencilAttachment) .gpuFramebuffer
    ++ violationIf
      (image.flags.intersects ImageCreateFlags.cubeCompatible
        && !usage.contains HardwareBufferUsage.gpuCubeMap)
      ("the dedicated image is cube compatible, but the imported hardware buffer " ++
        "doesn't have cube map usage") [handle.erase]

/-! ## Imports of file descriptors -/

/-- An imported file descriptor leads to memory of the same size and type. -/
def fdImport : Check := onAllocate fun ctx info =>
  match info.source with
  | some (.fileDescriptor _ fd) =>
    match ctx.registry.exportedMemory? fd with
    | none =>
      [⟨s!"file descriptor {fd} was not exported from an allocation, or was already imported", []⟩]
    | some exported =>
      violationIf (exported.size != info.size || exported.memoryType != info.memoryType)
        (s!"the allocation has size {info.size} and memory type {info.memoryType}, but the " ++
          s!"memory exported to file descriptor {fd} has size {exported.size} and memory type " ++
          s!"{exported.memoryType}") [exported.memory.erase]
  | _ => []

/-! ## Dedicated allocations -/

/-- Whether the size of a dedicated allocation follows from a hardware buffer. -/
def sizeExempt (info : AllocationInfo) : Bool :=
  info.exportsHardwareBufferForImage || info.importsHardwareBuffer

/-- An allocation for an image has the size that the image needs. -/
def dedicatedImageSize : Check := onAllocate fun ctx info =>
  match info.dedicated with
  | some (.image handle) =>
    match ctx.registry.get? handle with
    | some image =>
      let required := (image.info.requirements ctx.environment).size
      violationIf (!(sizeExempt info || image.info.isDeferred) && info.size != required)
        (s!"the allocation is dedicated to an image requiring {required} bytes, but " ++
          s!"`allocation_size` is {info.size}") [handle.erase]
    | none => []
  | _ => []

/-- An allocation for a buffer has the size that the buffer needs. -/
def dedicatedBufferSize : Check := onAllocate fun ctx info =>
  match info.dedicated with
  | some (.buffer handle) =>
    match ctx.registry.get? handle with
    | some buffer =>
      let required := (buffer.info.requirements ctx.environment).size
      violationIf (!sizeExempt info && info.size != required)
        (s!"the allocation is dedicated to a buffer requiring {required} bytes, but " ++
          s!"`allocation_size` is {info.size}") [handle.erase]
    | none => []
  | _ => []

/-! ## Exports and queries -/

/-- Memory is exported through handles that its allocation was made for. -/
def fdExportDeclared : Check := fun ctx =>
  match ctx.operation with
  | .exportMemory handle handleType =>
    match ctx.registry.get? handle with
    | some memory =>
      violationIf (!memory.exportTypes.contains handleType)
        (s!"`handle_type` is {handleType}, but the allocation was only created with export " ++
          s!"handle types {memory.exportTypes}") [handle.erase]
    | none => []
  | _ => []

/-- Memory is exported through one kind of file descriptor. -/
def fdExportHandleType : Check := fun ctx =>
  match ctx.operation with
  | .exportMemory _ handleType =>
    violationIf
      (handleType != ExternalHandleTypes.opaqueFd && handleType != ExternalHandleTypes.dmaBuf)
      s!"`handle_type` is {handleType}, which is not a file descriptor handle type" []
  | _ => []

/-- The device can use a hardware buffer whose properties are queried. -/
def hardwareBufferValid : Check := fun ctx =>
  match ctx.operation with
  | .queryHardwareBuffer buffer =>
    violationIf (!buffer.info.usage.intersects HardwareBufferUsage.gpuAny)
      s!"the hardware buffer has usage {buffer.info.usage}, which contains no GPU usage" []
  | _ => []

end VulkanValidity.MemoryRules
