/-
  VulkanValidity.Device.Presentation

  Swapchains: creating and destroying them together with their images, acquiring images, and
  presenting them.
-/

import VulkanValidity.Device

namespace VulkanValidity.Device

/-! ## Creation and destruction -/

/-- The image at an index of a new swapchain. -/
def swapchainImage (info : SwapchainInfo) (swapchain : Handle .swapchain) (index : Nat) : Image :=
  { Image.ofInfo info.imageInfo with memory := some (.presented swapchain index) }

/-- Adds the images of a new swapchain, in the order of their indices. -/
def insertImages (info : SwapchainInfo) (swapchain : Handle .swapchain) (registry : Registry) :
    List (Handle .image) × Registry :=
  (List.range info.imageCount).foldl (fun (handles, registry) index =>
    let (handle, registry) := registry.insert .image (swapchainImage info swapchain index)
    (handles ++ [handle], registry)) ([], registry)

/-- Creates a swapchain and its images. -/
def createSwapchain (d : Device) (info : SwapchainInfo) : Outcome Device (Handle .swapchain) :=
  d.guarded (.createSwapchain info) <|
    -- The swapchain takes its serial before its images do, and is added after them.
    let (handle, reserved) := d.registry.reserve .swapchain
    let (images, registry) := insertImages info handle reserved
    .ok (handle, d.withRegistry (registry.add handle (Swapchain.ofImages info images)))

/-- Destroys a swapchain and its images. -/
def destroySwapchain (d : Device) (handle : Handle .swapchain) : Outcome Device Unit :=
  d.guarded (.destroy handle.erase) do
    let swapchain ← d.registry.get handle
    pure ((), d.withRegistry
      (swapchain.images.foldl (fun registry image => registry.remove image)
        (d.registry.remove handle)))

/-! ## Acquiring and presenting -/

/-- Acquires the first image that is not acquired, and gives its index. -/
def acquireImage (d : Device) (handle : Handle .swapchain) : Outcome Device Nat :=
  d.guarded (.acquireImage handle) do
    let swapchain ← d.registry.get handle
    match swapchain.nextIndex? with
    | some index =>
      pure (index, d.withRegistry (d.registry.modify handle fun swapchain => swapchain.acquire index))
    | none => throw (.ofKind .invalidParams)

/-- Gives images back to their swapchains, up to the first swapchain that is not alive. -/
def releaseImages (registry : Registry) : List PresentedImage → Registry × Except Error Unit
  | [] => (registry, .ok ())
  | image :: rest =>
    match registry.get image.swapchain with
    | .error e => (registry, .error e)
    | .ok _ =>
      releaseImages
        (registry.modify image.swapchain fun swapchain => swapchain.release image.index) rest

/-- Presents images, which gives them back to their swapchains. -/
def present (d : Device) (images : List PresentedImage) : Outcome Device Unit :=
  let diagnostics := d.diagnose (.present images)
  match verdict diagnostics with
  | .error e => ⟨d, diagnostics, .error e⟩
  | .ok () =>
    let (registry, released) := releaseImages d.registry images
    ⟨d.withRegistry registry, diagnostics, released⟩

end VulkanValidity.Device
