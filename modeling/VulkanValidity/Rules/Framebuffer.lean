/-
  VulkanValidity.Rules.Framebuffer

  Rules about the creation of framebuffers. What a framebuffer names, its render pass and its views,
  has to be alive for a rule to look at it.
-/

import VulkanValidity.Rule

namespace VulkanValidity.FramebufferRules

/-! ## What rules look at -/

/-- A framebuffer that is created for a live render pass. -/
structure Target where
  info : FramebufferInfo
  renderPass : RenderPassInfo

/-- A rule about the creation of a framebuffer whose render pass is alive. -/
def onCreate (check : Target → List Violation) : Check := fun ctx =>
  match ctx.operation with
  | .createFramebuffer info =>
    match ctx.registry.get? info.renderPass with
    | some renderPass => check ⟨info, renderPass⟩
    | none => []
  | _ => []

/-- A view of a framebuffer, at its place among the attachments. -/
structure ViewAttachment where
  index : Nat
  handle : Handle .imageView
  view : ImageView

/-- The views with the given handles, if all of them are alive. -/
def liveViews? (registry : Registry) (handles : List (Handle .imageView)) :
    Option (List ViewAttachment) :=
  handles.zipIdx.mapM fun (handle, index) =>
    (registry.get? handle).map fun view => ⟨index, handle, view⟩

/-- A rule about each view of a framebuffer that is created from live views. It gives the message of
the violation. -/
def onView (check : Target → ViewAttachment → Option String) : Check := fun ctx =>
  onCreate (fun target =>
    match target.info.attachments with
    | .views handles =>
      ((liveViews? ctx.registry handles).getD []).filterMap fun attachment =>
        (check target attachment).map fun message => ⟨message, [attachment.handle.erase]⟩
    | .imageless _ => []) ctx

/-- A rule about each view that takes the place of an attachment of the render pass. -/
def onDescribedView (check : AttachmentDescription → ViewAttachment → Option String) : Check :=
  onView fun target attachment =>
    (target.renderPass.attachments[attachment.index]?).bind fun description =>
      check description attachment

/-- A rule about the properties of each attachment of an imageless framebuffer. It gives the message
of the violation. -/
def onImageless (check : Target → AttachmentImageInfo → Nat → Option String) : Check :=
  onCreate fun target =>
    match target.info.attachments with
    | .views _ => []
    | .imageless infos =>
      infos.zipIdx.filterMap fun (info, index) =>
        (check target info index).map fun message => ⟨message, []⟩

/-- The message, if the condition holds. -/
def messageIf (condition : Bool) (message : String) : Option String :=
  if condition then some message else none

/-! ## Dimensions -/

/-- The framebuffer has a width. -/
def extentWidth : Check := onCreate fun target =>
  violationIf (target.info.width == 0) "`extent[0]` is zero" []

/-- The framebuffer has a height. -/
def extentHeight : Check := onCreate fun target =>
  violationIf (target.info.height == 0) "`extent[1]` is zero" []

/-- The framebuffer has layers. -/
def layers : Check := onCreate fun target =>
  violationIf (target.info.layers == 0) "`layers` is zero" []

/-! ## Views -/

/-- There are as many views as attachments of the render pass. -/
def attachmentCount : Check := onCreate fun target =>
  match target.info.attachments with
  | .views handles =>
    let count := target.renderPass.attachments.length
    violationIf (handles.length != count)
      (s!"`attachments` contains {handles.length} image views, but the render pass has {count} " ++
        "attachments") [target.info.renderPass.erase]
  | .imageless _ => []

/-- A view that the render pass uses in a way has the usage that this needs. -/
def viewUsage (isUsed : AttachmentUse → Bool) (usage : ImageUsage) : Check :=
  onView fun target attachment =>
    messageIf
      (isUsed (target.renderPass.attachmentUse attachment.index)
        && !attachment.view.usage.intersects usage)
      (s!"`attachments[{attachment.index}]` is used as {usage} attachment by the render pass, " ++
        s!"but the image view has usage {attachment.view.usage}")

/-- A view for a color attachment can be one. -/
def colorUsage : Check := viewUsage AttachmentUse.color .colorAttachment

/-- A view for a depth and stencil attachment can be one. -/
def depthStencilUsage : Check :=
  viewUsage AttachmentUse.depthStencil .depthStencilAttachment

/-- A view for an input attachment can be one. -/
def inputUsage : Check := viewUsage AttachmentUse.input .inputAttachment

/-- A view has the format of its attachment. -/
def format : Check := onDescribedView fun description attachment =>
  messageIf (attachment.view.format != description.format)
    (s!"`attachments[{attachment.index}]` has format {attachment.view.format}, but the " ++
      s!"attachment of the render pass has format {description.format}")

/-- The image of a view has the sample count of its attachment. -/
def samples : Check := onDescribedView fun description attachment =>
  messageIf (attachment.view.imageInfo.samples != description.samples)
    (s!"the image of `attachments[{attachment.index}]` has {attachment.view.imageInfo.samples}, " ++
      s!"but the attachment of the render pass has {description.samples}")

/-- A view shows a single mip level. -/
def viewLevels : Check := onView fun _ attachment =>
  messageIf (attachment.view.range.mipLevels.length != 1)
    s!"`attachments[{attachment.index}]` does not have exactly one mip level"

/-- A view does not swizzle its components. -/
def viewSwizzle : Check := onView fun _ attachment =>
  messageIf (!attachment.view.mapping.isIdentity)
    s!"`attachments[{attachment.index}]` does not have an identity component mapping"

/-- A dimension of a view is at least that of the framebuffer. -/
def viewExtent (dimension : String) (viewSize : ImageView → Nat) (required : FramebufferInfo → Nat) :
    Check := onView fun target attachment =>
  let size := viewSize attachment.view
  messageIf (decide (size < required target.info))
    (s!"the {dimension} of `attachments[{attachment.index}]` is {size}, which is less than the " ++
      s!"{dimension} of the framebuffer ({required target.info})")

/-- A view is at least as wide as the framebuffer. -/
def viewWidth : Check :=
  viewExtent "width" (fun view => view.extent.width) FramebufferInfo.width

/-- A view is at least as high as the framebuffer. -/
def viewHeight : Check :=
  viewExtent "height" (fun view => view.extent.height) FramebufferInfo.height

/-- A view has at least as many layers as the framebuffer. -/
def viewLayers : Check :=
  viewExtent "layer count" ImageView.layerCount FramebufferInfo.layers

/-! ## Imageless framebuffers -/

/-- There are as many attachments as the render pass has. -/
def imagelessCount : Check := onCreate fun target =>
  match target.info.attachments with
  | .views _ => []
  | .imageless infos =>
    let count := target.renderPass.attachments.length
    violationIf (infos.length != count)
      (s!"the framebuffer is imageless with {infos.length} attachment image infos, but the " ++
        s!"render pass has {count} attachments") [target.info.renderPass.erase]

/-- An attachment that the render pass uses in a way has the usage that this needs. -/
def imagelessUsage (isUsed : AttachmentUse → Bool) (usage : ImageUsage) : Check :=
  onImageless fun target info index =>
    messageIf
      (isUsed (target.renderPass.attachmentUse index) && !info.usage.intersects usage)
      (s!"attachment {index} is used as {usage} attachment by the render pass, but its image " ++
        s!"info has usage {info.usage}")

/-- What is announced for a color attachment can be one. -/
def imagelessColorUsage : Check := imagelessUsage AttachmentUse.color .colorAttachment

/-- What is announced for a depth and stencil attachment can be one. -/
def imagelessDepthStencilUsage : Check :=
  imagelessUsage AttachmentUse.depthStencil .depthStencilAttachment

/-- What is announced for an input attachment can be one. -/
def imagelessInputUsage : Check := imagelessUsage AttachmentUse.input .inputAttachment

/-- The view formats of an attachment include the format of the render pass. -/
def imagelessFormat : Check := onImageless fun target info index =>
  (target.renderPass.attachments[index]?).bind fun description =>
    messageIf (!info.viewFormats.contains description.format)
      (s!"the render pass attachment {index} has format {description.format}, which is not in " ++
        "the `view_formats` of its image info")

/-- A dimension of an attachment is at least that of the framebuffer. -/
def imagelessExtent (dimension : String) (size : AttachmentImageInfo → Nat)
    (required : FramebufferInfo → Nat) : Check := onImageless fun target info index =>
  messageIf (decide (size info < required target.info))
    (s!"the {dimension} of the image info of attachment {index} is {size info}, which is less " ++
      s!"than the {dimension} of the framebuffer ({required target.info})")

/-- An attachment is at least as wide as the framebuffer. -/
def imagelessWidth : Check :=
  imagelessExtent "width" AttachmentImageInfo.width FramebufferInfo.width

/-- An attachment is at least as high as the framebuffer. -/
def imagelessHeight : Check :=
  imagelessExtent "height" AttachmentImageInfo.height FramebufferInfo.height

end VulkanValidity.FramebufferRules
