/-
  VulkanValidity.Rules.RenderPassBegin

  Rules about the beginning and the end of render passes in command buffers. The views that a render
  pass begins with have to be what its imageless framebuffer expects.
-/

import VulkanValidity.Rule

namespace VulkanValidity.RenderPassBeginRules

/-! ## What rules look at -/

/-- A rule about a render pass that begins with a live framebuffer. -/
def onBegin (check : Context → RenderPassBegin → Framebuffer → List Violation) : Check :=
  fun ctx =>
    match ctx.operation with
    | .record (.beginRenderPass info) =>
      match ctx.registry.get? info.framebuffer with
      | some framebuffer => check ctx info framebuffer
      | none => []
    | _ => []

/-- A live view for an attachment of an imageless framebuffer. -/
structure ImagelessAttachment where
  index : Nat
  view : ImageView
  /-- What the framebuffer expects of the view. -/
  expected : AttachmentImageInfo
  /-- What the render pass expects of the view. -/
  description : AttachmentDescription

/-- A rule about each live view for an imageless framebuffer. It gives the message of the
violation. -/
def onAttachment (check : ImagelessAttachment → Option String) : Check :=
  onBegin fun ctx info framebuffer =>
    match framebuffer.info.attachments with
    | .views _ => []
    | .imageless infos =>
      let places := (infos.zip framebuffer.renderPassInfo.attachments).zipIdx
      (info.views.zip places).filterMap fun (handle, (expected, description), index) =>
        (ctx.registry.get? handle).bind fun view =>
          (check ⟨index, view, expected, description⟩).map fun message =>
            ⟨message, [handle.erase]⟩

/-- A rule that the value of a view is the expected one. -/
def onEqual {α : Type} [DecidableEq α] (actual expected : ImagelessAttachment → α)
    (message : ImagelessAttachment → String) : Check :=
  onAttachment fun a => if actual a = expected a then none else some (message a)

/-! ## Attachments of imageless framebuffers -/

/-- A framebuffer that has views takes no others. -/
def attachmentsNotImageless : Check := onBegin fun _ info framebuffer =>
  violationIf (!framebuffer.info.attachments.isImageless && !info.views.isEmpty)
    "`attachments` is not empty, but the framebuffer is not imageless" [info.framebuffer.erase]

/-- An imageless framebuffer takes a view for each attachment. -/
def attachmentCount : Check := onBegin fun _ info framebuffer =>
  match framebuffer.info.attachments with
  | .views _ => []
  | .imageless infos =>
    violationIf (info.views.length != infos.length)
      (s!"the framebuffer is imageless with {infos.length} attachments, but `attachments` " ++
        s!"contains {info.views.length} image views") [info.framebuffer.erase]

/-- The image of a view was created with the announced flags. -/
def attachmentFlags : Check :=
  onEqual (fun a => a.view.imageInfo.flags) (fun a => a.expected.flags) fun a =>
    s!"the image of `attachments[{a.index}]` was created with flags {a.view.imageInfo.flags}, " ++
      s!"but the framebuffer expects {a.expected.flags}"

/-- A view has the announced usage. -/
def attachmentUsage : Check :=
  onEqual (fun a => a.view.usage) (fun a => a.expected.usage) fun a =>
    s!"`attachments[{a.index}]` has usage {a.view.usage}, but the framebuffer expects " ++
      s!"{a.expected.usage}"

/-- A view has the announced width. -/
def attachmentWidth : Check :=
  onEqual (fun a => a.view.extent.width) (fun a => a.expected.width) fun a =>
    s!"`attachments[{a.index}]` has width {a.view.extent.width}, but the framebuffer expects " ++
      s!"{a.expected.width}"

/-- A view has the announced height. -/
def attachmentHeight : Check :=
  onEqual (fun a => a.view.extent.height) (fun a => a.expected.height) fun a =>
    s!"`attachments[{a.index}]` has height {a.view.extent.height}, but the framebuffer expects " ++
      s!"{a.expected.height}"

/-- A view has the announced number of layers. -/
def attachmentLayers : Check :=
  onEqual (fun a => a.view.layerCount) (fun a => a.expected.layerCount) fun a =>
    s!"`attachments[{a.index}]` has {a.view.layerCount} layers, but the framebuffer expects " ++
      s!"{a.expected.layerCount}"

/-- The image of a view was created with as many view formats as announced. -/
def viewFormatCount : Check :=
  onEqual (fun a => a.view.imageInfo.viewFormats.length) (fun a => a.expected.viewFormats.length)
    fun a =>
      s!"the image of `attachments[{a.index}]` was created with " ++
        s!"{a.view.imageInfo.viewFormats.length} view formats, but the framebuffer expects " ++
        s!"{a.expected.viewFormats.length}"

/-- The text of a list of formats. -/
def formatsText (formats : List Format) : String := bracketed (formats.map Format.name)

/-- If there are as many view formats as expected, they are the expected ones. -/
def viewFormats : Check := onAttachment fun a =>
  let formats := a.view.imageInfo.viewFormats
  let expected := a.expected.viewFormats
  if formats.length = expected.length ∧ formats ≠ expected then
    some (s!"the image of `attachments[{a.index}]` was created with view formats " ++
      s!"{formatsText formats}, but the framebuffer expects {formatsText expected}")
  else none

/-- A view has the format of its attachment. -/
def attachmentFormat : Check :=
  onEqual (fun a => a.view.format) (fun a => a.description.format) fun a =>
    s!"`attachments[{a.index}]` has format {a.view.format}, but the render pass attachment has " ++
      s!"format {a.description.format}"

/-- The image of a view has the sample count of its attachment. -/
def attachmentSamples : Check :=
  onEqual (fun a => a.view.imageInfo.samples) (fun a => a.description.samples) fun a =>
    s!"the image of `attachments[{a.index}]` has {a.view.imageInfo.samples}, but the render " ++
      s!"pass attachment has {a.description.samples}"

/-- A view shows a single mip level. -/
def attachmentLevels : Check :=
  onEqual (fun a => a.view.range.mipLevels.length) (fun _ => 1) fun a =>
    s!"`attachments[{a.index}]` does not have exactly one mip level"

/-- A view does not swizzle its components. -/
def attachmentSwizzle : Check :=
  onEqual (fun a => a.view.mapping.isIdentity) (fun _ => true) fun a =>
    s!"`attachments[{a.index}]` does not have an identity component mapping"

/-- A view is not a 3D view. -/
def attachment3d : Check :=
  onEqual (fun a => a.view.viewType == .dim3d) (fun _ => false) fun a =>
    s!"`attachments[{a.index}]` is a 3D image view"

/-! ## Render passes -/

/-- The framebuffer was created for a compatible render pass. -/
def compatible : Check := onBegin fun ctx info framebuffer =>
  match ctx.registry.get? info.renderPass with
  | some renderPass =>
    violationIf (!renderPass.isCompatible framebuffer.renderPassInfo)
      ("`render_pass` is not compatible with the render pass that the framebuffer was " ++
        "created for") [info.renderPass.erase, info.framebuffer.erase]
  | none => []

/-- Render passes do not nest. -/
def insideRenderPass : Check := fun ctx =>
  match ctx.operation, ctx.recording with
  | .record (.beginRenderPass _), some recording =>
    match recording.renderPass with
    | some inst =>
      [⟨"a render pass instance is already active in the command buffer",
        [inst.renderPass.erase]⟩]
    | none => []
  | _, _ => []

/-- A render pass has begun before it ends. -/
def endOutside : Check := fun ctx =>
  match ctx.operation, ctx.recording with
  | .record .endRenderPass, some recording =>
    violationIf recording.renderPass.isNone
      "no render pass instance is active in the command buffer" []
  | _, _ => []

end VulkanValidity.RenderPassBeginRules
