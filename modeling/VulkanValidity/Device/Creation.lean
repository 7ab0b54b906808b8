/-
  VulkanValidity.Device.Creation

  Creating images, views, buffers, render passes and framebuffers, and destroying objects of any type
  but swapchains.
-/

import VulkanValidity.Device

namespace VulkanValidity.Device

/-- Creates an image, to which no memory is bound yet. -/
def createImage (d : Device) (info : ImageInfo) : Outcome Device (Handle .image) :=
  d.guarded (.createImage info) (.ok (d.insert .image (.ofInfo info)))

/-- Creates a view of an image, which keeps the properties of the image. -/
def createImageView (d : Device) (info : ImageViewInfo) : Outcome Device (Handle .imageView) :=
  d.guarded (.createImageView info) do
    let image ← d.registry.get info.image
    pure (d.insert .imageView (.ofInfo info image.info))

/-- Creates a buffer, to which no memory is bound yet. -/
def createBuffer (d : Device) (info : BufferInfo) : Outcome Device (Handle .buffer) :=
  d.guarded (.createBuffer info) (.ok (d.insert .buffer (.ofInfo info)))

/-- Creates a render pass. -/
def createRenderPass (d : Device) (info : RenderPassInfo) : Outcome Device (Handle .renderPass) :=
  d.guarded (.createRenderPass info) (.ok (d.insert .renderPass info))

/-- Creates a framebuffer, which keeps the properties of its render pass. -/
def createFramebuffer (d : Device) (info : FramebufferInfo) : Outcome Device (Handle .framebuffer) :=
  d.guarded (.createFramebuffer info) do
    let renderPass ← d.registry.get info.renderPass
    pure (d.insert .framebuffer ⟨info, renderPass⟩)

/-- Destroys an object that is alive. -/
def destroy {t : ObjectType} (d : Device) (handle : Handle t) : Outcome Device Unit :=
  d.guarded (.destroy handle.erase) do
    let _ ← d.registry.get handle
    pure ((), d.withRegistry (d.registry.remove handle))

end VulkanValidity.Device
