/-
  VulkanValidity.Rules.Image

  Rules about the creation of images.
-/

import VulkanValidity.Rules.Sharing

namespace VulkanValidity.ImageRules

/-- A rule about the creation of an image. -/
def onCreate (check : Context → ImageInfo → List Violation) : Check := fun ctx =>
  match ctx.operation with
  | .createImage info => check ctx info
  | _ => []

/-! ## Formats -/

/-- An image has a format or an external format. -/
def formatOrExternalFormat : Check := onCreate fun _ info =>
  violationIf (info.format == .undefined && info.externalFormat.isNone)
    "`format` is `Format::UNDEFINED`, but no nonzero `external_format` is provided" []

/-- An image does not have both. -/
def externalFormatWithFormat : Check := onCreate fun _ info =>
  violationIf (info.externalFormat.isSome && info.format != .undefined)
    (s!"`external_format` is provided, but `format` is `{info.format}` instead of " ++
      "`Format::UNDEFINED`") []

/-- An external format was found on a hardware buffer. -/
def externalFormatKnown : Check := onCreate fun ctx info =>
  match info.externalFormat with
  | some format =>
    violationIf (!ctx.registry.knowsExternalFormat format)
      (s!"`external_format` {format} was not returned by a hardware buffer properties " ++
        "query") []
  | none => []

/-- The format of views of an image with an external format is fixed. -/
def externalFormatMutable : Check := onCreate fun _ info =>
  violationIf (info.externalFormat.isSome && info.flags.intersects ImageCreateFlags.mutableFormat)
    "`external_format` is provided, but `flags` contains `ImageCreateFlags::MUTABLE_FORMAT`" []

/-- An image with an external format is only sampled. -/
def externalFormatUsage : Check := onCreate fun _ info =>
  violationIf (info.externalFormat.isSome && info.usage != ImageUsage.sampled)
    (s!"`external_format` is provided, but `usage` is `{info.usage}` instead of only " ++
      "`ImageUsage::SAMPLED`") []

/-- An image with an external format has optimal tiling. -/
def externalFormatTiling : Check := onCreate fun _ info =>
  violationIf (info.externalFormat.isSome && info.tiling != .optimal)
    "`external_format` is provided, but `tiling` is not `ImageTiling::Optimal`" []

/-! ## Images of hardware buffers -/

/-- An image of a hardware buffer is two-dimensional. -/
def hardwareBufferImageType : Check := onCreate fun _ info =>
  violationIf (info.isDeferred && info.imageType != .dim2d)
    ("`external_memory_handle_types` contains " ++
      "`ExternalMemoryHandleTypes::ANDROID_HARDWARE_BUFFER`, but `image_type` is not " ++
      "`ImageType::Dim2d`") []

/-- An image of a hardware buffer has one mip level or all of them. -/
def hardwareBufferMipLevels : Check := onCreate fun _ info =>
  violationIf (info.isDeferred && info.mipLevels != 1 && info.mipLevels != info.extent.maxMipLevels)
    ("`external_memory_handle_types` contains " ++
      s!"`ExternalMemoryHandleTypes::ANDROID_HARDWARE_BUFFER`, but `mip_levels` is " ++
      s!"{info.mipLevels} instead of either 1 or the full mip chain") []

/-! ## Extents -/

/-- The extent is not zero in a dimension. -/
def extentNonzero (dimension : Nat) (size : Extent → Nat) : Check := onCreate fun _ info =>
  violationIf (size info.extent == 0) s!"`extent[{dimension}]` is zero" []

/-- A 1D image has neither height nor depth. -/
def extent1d : Check := onCreate fun _ info =>
  violationIf
    (info.imageType == .dim1d && !(info.extent.height == 1 && info.extent.depth == 1))
    "`image_type` is `ImageType::Dim1d`, but `extent[1]` and `extent[2]` are not both 1" []

/-- A 2D image has no depth. -/
def extent2d : Check := onCreate fun _ info =>
  violationIf (info.imageType == .dim2d && info.extent.depth != 1)
    "`image_type` is `ImageType::Dim2d`, but `extent[2]` is not 1" []

/-- The number of dimensions of a type of images. -/
def dimensions : ImageType → Nat
  | .dim1d => 1
  | .dim2d => 2
  | .dim3d => 3

/-- A dimension that the type of the image has is within the limit for that type. -/
def extentMax (dimension : Nat) (size : Extent → Nat) : Check := onCreate fun ctx info =>
  let limit := ctx.environment.maxImageDimension info.imageType
  violationIf (decide (dimension < dimensions info.imageType) && decide (limit < size info.extent))
    (s!"`extent[{dimension}]` is {size info.extent}, but images of type {info.imageType} can be " ++
      s!"at most {limit} texels in every dimension") []

/-! ## Levels and layers -/

/-- The image has mip levels. -/
def mipLevelsNonzero : Check := onCreate fun _ info =>
  violationIf (info.mipLevels == 0) "`mip_levels` is zero" []

/-- The extent has room for the mip levels. -/
def mipLevelsMax : Check := onCreate fun _ info =>
  let limit := info.extent.maxMipLevels
  violationIf (decide (limit < info.mipLevels))
    s!"`mip_levels` is {info.mipLevels}, but the extent only allows {limit} mip levels" []

/-- The image has array layers. -/
def arrayLayersNonzero : Check := onCreate fun _ info =>
  violationIf (info.arrayLayers == 0) "`array_layers` is zero" []

/-- An image that cubes can be made of is a square with at least six layers. -/
def cubeCompatible : Check := onCreate fun _ info =>
  violationIf
    (info.flags.intersects ImageCreateFlags.cubeCompatible
      && (info.imageType != .dim2d || info.extent.width != info.extent.height
        || decide (info.arrayLayers < 6)))
    ("`flags` contains `ImageCreateFlags::CUBE_COMPATIBLE`, but the image is not a " ++
      "square 2D image with at least 6 array layers") []

/-! ## Sharing and portability -/

/-- Concurrent sharing is between at least two queue families. -/
def concurrentFamilyCount : Check := onCreate fun _ info =>
  SharingRules.familyCount info.sharing

/-- The families of a concurrently shared image exist and are different. -/
def concurrentFamilyIndex : Check := onCreate fun ctx info =>
  SharingRules.familyIndex ctx.environment info.sharing

/-- A multisampled image has one layer, where the environment does not support more. -/
def portabilityMultisampleArray : Check := onCreate fun ctx info =>
  violationIf
    (ctx.environment.portability.any (fun features => !features.multisampleArrayImage)
      && info.samples != .sample1 && decide (1 < info.arrayLayers))
    ("the portability subset doesn't support multisampled images with more than one " ++
      "array layer") []

end VulkanValidity.ImageRules
