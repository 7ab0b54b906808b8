/-
  VulkanValidity.Rules.Swapchain

  Rules about swapchains, about their images and about presentation.
-/

import VulkanValidity.Rule

namespace VulkanValidity.SwapchainRules

/-! ## Creation -/

/-- A rule about the creation of a swapchain. -/
def onCreate (check : SwapchainInfo → List Violation) : Check := fun ctx =>
  match ctx.operation with
  | .createSwapchain info => check info
  | _ => []

/-- The images of the swapchain are not empty. -/
def extentNonzero : Check := onCreate fun info =>
  violationIf (info.dimensions.contains 0)
    (s!"`image_extent` is {bracketed (info.dimensions.map toString)}, which has a zero " ++
      "dimension") []

/-- The images of the swapchain have array layers. -/
def arrayLayersNonzero : Check := onCreate fun info =>
  violationIf (info.layers == 0) "`image_array_layers` is 0" []

/-! ## Acquiring and presenting -/

/-- An image that can be acquired is left. -/
def acquireExhausted : Check := fun ctx =>
  match ctx.operation with
  | .acquireImage handle =>
    match ctx.registry.get? handle with
    | some swapchain =>
      let count := swapchain.images.length
      violationIf (swapchain.acquiredCount == count)
        s!"all {count} images of the swapchain are already acquired" [handle.erase]
    | none => []
  | _ => []

/-- A rule about each image of a live swapchain that is presented. -/
def onPresent (check : Context → PresentedImage → Swapchain → List Violation) : Check :=
  fun ctx =>
    match ctx.operation with
    | .present images =>
      images.flatMap fun presented =>
        match ctx.registry.get? presented.swapchain with
        | some swapchain => check ctx presented swapchain
        | none => []
    | _ => []

/-- Presented images are acquired. -/
def presentNotAcquired : Check := onPresent fun _ presented swapchain =>
  violationIf (!swapchain.isAcquired presented.index)
    s!"image {presented.index} of the swapchain is not acquired" [presented.swapchain.erase]

/-- The first layout of a part of an image that images cannot be presented in. -/
def unpresentableLayout? (image : Image) : Option ImageLayout :=
  image.states.segments.findSome? fun segment =>
    if segment.value.layout = .presentSrc then none else some segment.value.layout

/-- Presented images are in the layout for presentation. Images that are not acquired are left to
the rule about that. -/
def presentLayout : Check := onPresent fun ctx presented swapchain =>
  let found : Option (ObjectId × ImageLayout) := do
    guard (swapchain.isAcquired presented.index)
    let handle ← swapchain.images[presented.index]?
    let image ← ctx.registry.get? handle
    let layout ← unpresentableLayout? image
    pure (handle.erase, layout)
  match found with
  | some (image, layout) =>
    [⟨s!"image {presented.index} of the swapchain is in layout {layout}, but presented images " ++
      "must be in layout `ImageLayout::PresentSrc`", [image, presented.swapchain.erase]⟩]
  | none => []

/-! ## Destruction -/

/-- Images of a swapchain are destroyed with it. -/
def destroyImage : Check := fun ctx =>
  match ctx.operation with
  | .destroy id =>
    match (id.downcast? .image).bind fun handle => ctx.registry.get? handle with
    | some image =>
      violationIf image.isPresented
        "the image is owned by a swapchain, and is destroyed along with it" [id]
    | none => []
  | _ => []

end VulkanValidity.SwapchainRules
