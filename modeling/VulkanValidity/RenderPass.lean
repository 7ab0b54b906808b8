/-
  VulkanValidity.RenderPass

  Render passes and framebuffers. A render pass describes attachments and the subpasses that refer
  to them. A framebuffer names the views that become the attachments, or, if it is imageless, only
  the properties that these views will have.
-/

import VulkanValidity.Resource

namespace VulkanValidity

/-! ## Render passes -/

/-- An image that a render pass renders to or reads from. -/
structure AttachmentDescription where
  format : Format := .undefined
  samples : SampleCount := .sample1
  /-- The layout that the image is in when the render pass begins. -/
  initialLayout : ImageLayout := .undefined
  /-- The layout that the image is left in when the render pass ends. -/
  finalLayout : ImageLayout := .undefined
deriving DecidableEq, Repr

/-- A reference of a subpass to an attachment, with the layout that the subpass uses it in. -/
structure AttachmentReference where
  attachment : Nat
  layout : ImageLayout
deriving DecidableEq, Repr

/-- The attachments that a subpass refers to. -/
structure Subpass where
  color : List AttachmentReference := []
  depthStencil : Option AttachmentReference := none
  input : List AttachmentReference := []
deriving DecidableEq, Repr

/-- All references of a subpass: color, then depth and stencil, then input. -/
def Subpass.references (subpass : Subpass) : List AttachmentReference :=
  subpass.color ++ subpass.depthStencil.toList ++ subpass.input

/-- How the subpasses of a render pass use an attachment. -/
structure AttachmentUse where
  color : Bool
  depthStencil : Bool
  input : Bool
deriving DecidableEq, Repr

/-- The properties of a render pass. -/
structure RenderPassInfo where
  attachments : List AttachmentDescription := []
  subpasses : List Subpass := []
deriving DecidableEq, Repr

namespace RenderPassInfo

/-- How the subpasses use the attachment at an index. -/
def attachmentUse (info : RenderPassInfo) (index : Nat) : AttachmentUse where
  color := info.subpasses.any fun subpass => subpass.color.any (·.attachment == index)
  depthStencil := info.subpasses.any fun subpass => subpass.depthStencil.any (·.attachment == index)
  input := info.subpasses.any fun subpass => subpass.input.any (·.attachment == index)

/-- The layout of the first reference to the attachment at an index, if a subpass refers to it. -/
def firstLayout? (info : RenderPassInfo) (index : Nat) : Option ImageLayout :=
  ((info.subpasses.flatMap Subpass.references).find? (·.attachment == index)).map
    AttachmentReference.layout

/-- Whether framebuffers for one render pass can be used with the other: the attachments agree in
format and sample count. -/
def isCompatible (a b : RenderPassInfo) : Bool :=
  a.attachments.map (fun x => (x.format, x.samples))
    == b.attachments.map (fun x => (x.format, x.samples))

end RenderPassInfo

/-! ## Framebuffers -/

/-- The properties of a view that an imageless framebuffer will be used with. -/
structure AttachmentImageInfo where
  flags : ImageCreateFlags := ∅
  usage : ImageUsage := ∅
  width : Nat := 0
  height : Nat := 0
  layerCount : Nat := 1
  viewFormats : List Format := []
deriving DecidableEq, Repr

/-- The attachments of a framebuffer. -/
inductive FramebufferAttachments
  /-- The views that the framebuffer was created with. -/
  | views (handles : List (Handle .imageView))
  /-- The properties of the views that a render pass will begin with. -/
  | imageless (infos : List AttachmentImageInfo)
deriving DecidableEq, Repr

namespace FramebufferAttachments

/-- The number of attachments. -/
def count : FramebufferAttachments → Nat
  | views handles => handles.length
  | imageless infos => infos.length

/-- Whether the views are still to come. -/
def isImageless : FramebufferAttachments → Bool
  | views _ => false
  | imageless _ => true

end FramebufferAttachments

/-- The properties that a framebuffer is created with. -/
structure FramebufferInfo where
  renderPass : Handle .renderPass
  attachments : FramebufferAttachments := .views []
  width : Nat := 0
  height : Nat := 0
  layers : Nat := 1
deriving DecidableEq, Repr

/-- A framebuffer of the registry. -/
structure Framebuffer where
  info : FramebufferInfo
  /-- The properties of the render pass, which the framebuffer keeps when that is destroyed. -/
  renderPassInfo : RenderPassInfo
deriving DecidableEq, Repr

/-! ## Instances of render passes -/

/-- How a render pass begins. -/
structure RenderPassBegin where
  renderPass : Handle .renderPass
  framebuffer : Handle .framebuffer
  /-- The views for an imageless framebuffer. -/
  views : List (Handle .imageView) := []
deriving DecidableEq, Repr

/-- A view that a render pass has begun with. -/
structure BoundView where
  handle : Handle .imageView
  view : ImageView
deriving DecidableEq, Repr

/-- A render pass that has begun and not ended yet. -/
structure RenderPassInstance where
  renderPass : Handle .renderPass
  renderPassInfo : RenderPassInfo
  framebuffer : Handle .framebuffer
  views : List BoundView
deriving DecidableEq, Repr

namespace RenderPassInstance

/-- The views with the attachments that they are used as. -/
def attachments (inst : RenderPassInstance) : List (BoundView × AttachmentDescription) :=
  inst.views.zip inst.renderPassInfo.attachments

end RenderPassInstance

end VulkanValidity
