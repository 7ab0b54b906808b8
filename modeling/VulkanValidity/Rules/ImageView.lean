/-
  VulkanValidity.Rules.ImageView

  Rules about the creation of views of live images.
-/

import VulkanValidity.Rule

namespace VulkanValidity.ImageViewRules

/-- A rule about a view that is created of a live image, with the properties of both. -/
def onCreate (check : Context → ImageViewInfo → ImageInfo → List Violation) : Check := fun ctx =>
  match ctx.operation with
  | .createImageView info =>
    match ctx.registry.get? info.image with
    | some image => check ctx info image.info
    | none => []
  | _ => []

/-- Whether a view shows the depth slices of a 3D image as layers. -/
def showsSlices (info : ImageViewInfo) (image : ImageInfo) : Bool :=
  image.imageType == .dim3d && (info.viewType == .dim2d || info.viewType == .dim2dArray)

/-- The number of layers that a view can show: the depth slices of its first mip level, if it shows
those, and otherwise the array layers. -/
def layerLimit (info : ImageViewInfo) (image : ImageInfo) : Nat :=
  if showsSlices info image then (image.extent.mipLevel info.range.mipLevels.start).depth
  else image.arrayLayers

/-! ## Ranges -/

/-- The image has the first mip level of the view. -/
def baseMipLevel : Check := onCreate fun _ info image =>
  let start := info.range.mipLevels.start
  violationIf (decide (image.mipLevels ≤ start))
    (s!"`subresource_range.mip_levels.start` is {start}, but the image has only " ++
      s!"{image.mipLevels} mip levels") [info.image.erase]

/-- The mip levels of the view are not empty, and the image has them. -/
def mipLevelCount : Check := onCreate fun _ info image =>
  let levels := info.range.mipLevels
  violationIf (levels.isEmpty || decide (image.mipLevels < levels.stop))
    (s!"`subresource_range.mip_levels` is {levels}, which is empty or exceeds the " ++
      s!"{image.mipLevels} mip levels of the image") [info.image.erase]

/-- The image has the first array layer of the view. -/
def baseArrayLayer : Check := onCreate fun _ info image =>
  let start := info.range.arrayLayers.start
  let limit := layerLimit info image
  violationIf (decide (limit ≤ start))
    (s!"`subresource_range.array_layers.start` is {start}, but the image has only {limit} " ++
      "layers") [info.image.erase]

/-- The layers of the view are not empty, and the image has them. -/
def arrayLayerCount : Check := onCreate fun _ info image =>
  let layers := info.range.arrayLayers
  let limit := layerLimit info image
  violationIf (layers.isEmpty || decide (limit < layers.stop))
    (s!"`subresource_range.array_layers` is {layers}, which is empty or exceeds the {limit} " ++
      "layers of the image") [info.image.erase]

/-! ## 2D views of 3D images -/

/-- A 3D image is only viewed in slices if it was created for that. -/
def slicesCompatible : Check := onCreate fun _ info image =>
  violationIf
    (showsSlices info image && !image.flags.intersects ImageCreateFlags.array2dCompatible)
    ("the image is a 3D image and `view_type` is 2D or 2D array, but the image was not " ++
      "created with `ImageCreateFlags::ARRAY_2D_COMPATIBLE`") [info.image.erase]

/-- A view of slices shows a single mip level. -/
def slicesLevelCount : Check := onCreate fun _ info image =>
  violationIf (showsSlices info image && info.range.mipLevels.length != 1)
    ("the image is a 3D image and `view_type` is 2D or 2D array, but " ++
      "`subresource_range.mip_levels` does not contain exactly one mip level") [info.image.erase]

/-! ## Formats and usages -/

/-- The format of a view differs from the format of the image only if that is mutable. -/
def format : Check := onCreate fun _ info image =>
  violationIf
    (info.format != .undefined && info.format != image.format
      && !image.flags.intersects ImageCreateFlags.mutableFormat)
    (s!"`format` is `{info.format}`, which differs from the format `{image.format}` of the " ++
      "image, but the image was not created with `ImageCreateFlags::MUTABLE_FORMAT`")
    [info.image.erase]

/-- The view has no usage that the image does not have. -/
def usage : Check := onCreate fun _ info image =>
  violationIf (!image.usage.contains info.usage)
    (s!"`usage` is `{info.usage}`, which is not a subset of the usage `{image.usage}` of the " ++
      "image") [info.image.erase]

/-- A view of an image with an external format has no format of its own. -/
def externalFormat : Check := onCreate fun _ info image =>
  violationIf (image.externalFormat.isSome && info.format != .undefined)
    (s!"the image has an external format, but `format` is `{info.format}` instead of " ++
      "`Format::UNDEFINED`") [info.image.erase]

/-- A view of an image with an external format leaves the components in place. -/
def externalFormatSwizzle : Check := onCreate fun _ info image =>
  violationIf (image.externalFormat.isSome && !info.mapping.isIdentity)
    ("the image has an external format, but `component_mapping` is not the identity " ++
      "mapping") [info.image.erase]

/-! ## Portability -/

/-- 3D images are viewed in slices only where the environment supports it. -/
def portabilitySlices : Check := onCreate fun ctx info image =>
  violationIf
    (ctx.environment.portability.any (fun features => !features.imageView2dOn3dImage)
      && showsSlices info image)
    "the portability subset doesn't support 2D or 2D array views of 3D images" [info.image.erase]

/-- Components are moved only where the environment supports it. -/
def portabilitySwizzle : Check := onCreate fun ctx info _ =>
  violationIf
    (ctx.environment.portability.any (fun features => !features.imageViewFormatSwizzle)
      && !info.mapping.isIdentity)
    "the portability subset doesn't support component mappings other than the identity"
    [info.image.erase]

/-- Views have other components than the image only where the environment supports it. -/
def portabilityReinterpretation : Check := onCreate fun ctx info image =>
  violationIf
    (ctx.environment.portability.any (fun features => !features.imageViewFormatReinterpretation)
      && info.format != .undefined && info.format.componentBits != image.format.componentBits)
    (s!"`format` is `{info.format}`, which has different components than the format " ++
      s!"`{image.format}` of the image, but the portability subset doesn't support format " ++
      "reinterpretation") [info.image.erase]

end VulkanValidity.ImageViewRules
