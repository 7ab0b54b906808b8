/-
  VulkanValidity.Rules.Command

  Rules about the commands that clear, copy and fill, and about beginning and ending command
  buffers.
-/

import VulkanValidity.Rule

namespace VulkanValidity.CommandRules

/-! ## What commands have in common -/

/-- A command is recorded outside of render passes. -/
def outsideRenderPass (ctx : Context) (command : String) : List Violation :=
  match ctx.recording.bind Recording.renderPass with
  | some inst =>
    [⟨s!"`{command}` is recorded inside a render pass instance", [inst.renderPass.erase]⟩]
  | none => []

/-- An image that a command writes is in a layout for that. -/
def destinationLayout (field : String) (layout : ImageLayout) (image : ObjectId) : List Violation :=
  violationIf (layout != .transferDstOptimal && layout != .general)
    (s!"`{field}` is `{layout}`, which is not `ImageLayout::TransferDstOptimal` or " ++
      "`ImageLayout::General`") [image]

/-- The regions of an image that a command writes are in the given layout, as far as the command
buffer knows their layouts. -/
def regionLayouts (ctx : Context) (field : String) (layout : ImageLayout) (handle : Handle .image)
    (regions : List SubresourceRange) : List Violation :=
  match ctx.recording, ctx.registry.get? handle with
  | some recording, some image =>
    (image.info.regionsOrWhole regions).flatMap fun range =>
      match recording.layoutMismatch? handle image.info range layout with
      | some current =>
        [⟨s!"`{field}` is `{layout}`, but the subresources are in layout `{current}` at this " ++
          "point of the command buffer", [handle.erase]⟩]
      | none => []
  | _, _ => []

/-! ## Clearing images -/

/-- A rule about a command that clears an image. -/
def onClear (check : Context → ClearInfo → List Violation) : Check := fun ctx =>
  match ctx.operation with
  | .record (.clear info) => check ctx info
  | _ => []

/-- A rule about the live image that a command clears. -/
def onClearImage (check : ClearInfo → Image → List Violation) : Check := onClear fun ctx info =>
  match ctx.registry.get? info.image with
  | some image => check info image
  | none => []

/-- The cleared image can be a transfer destination. -/
def clearUsage : Check := onClearImage fun info image =>
  violationIf (!image.info.usage.intersects ImageUsage.transferDst)
    (s!"the image has usage {image.info.usage}, which does not contain " ++
      "`ImageUsage::TRANSFER_DST`") [info.image.erase]

/-- The cleared image has memory. -/
def clearBound : Check := onClearImage fun info image =>
  violationIf (!image.isBound) "no memory is bound to the image" [info.image.erase]

/-- A cleared image is in the layout that the command names. -/
def clearLayoutMismatch : Check := onClear fun ctx info =>
  regionLayouts ctx "image_layout" info.layout info.image info.regions

/-- The image is cleared in a layout for that. -/
def clearLayout : Check := onClear fun _ info =>
  destinationLayout "image_layout" info.layout info.image.erase

/-- Images are cleared outside of render passes. -/
def clearInside : Check := onClear fun ctx _ => outsideRenderPass ctx "clear_color_image"

/-! ## Copying buffers to images -/

/-- A rule about a command that copies a buffer to an image. -/
def onCopy (check : Context → CopyInfo → List Violation) : Check := fun ctx =>
  match ctx.operation with
  | .record (.copy info) => check ctx info
  | _ => []

/-- The image that is copied to can be a transfer destination. -/
def copyImageUsage : Check := onCopy fun ctx info =>
  match ctx.registry.get? info.image with
  | some image =>
    violationIf (!image.info.usage.intersects ImageUsage.transferDst)
      (s!"`dst_image` has usage {image.info.usage}, which does not contain " ++
        "`ImageUsage::TRANSFER_DST`") [info.image.erase]
  | none => []

/-- The buffer that is copied can be a transfer source. -/
def copyBufferUsage : Check := onCopy fun ctx info =>
  match ctx.registry.get? info.buffer with
  | some buffer =>
    violationIf (!buffer.info.usage.intersects BufferUsage.transferSrc)
      (s!"`src_buffer` has usage {buffer.info.usage}, which does not contain " ++
        "`BufferUsage::TRANSFER_SRC`") [info.buffer.erase]
  | none => []

/-- The regions that are copied to are in the layout that the command names. -/
def copyLayoutMismatch : Check := onCopy fun ctx info =>
  regionLayouts ctx "dst_image_layout" info.layout info.image info.regions

/-- The image is copied to in a layout for that. -/
def copyLayout : Check := onCopy fun _ info =>
  destinationLayout "dst_image_layout" info.layout info.image.erase

/-- Nothing is copied inside a render pass. -/
def copyInside : Check := onCopy fun ctx _ => outsideRenderPass ctx "copy_buffer_to_image"

/-! ## Filling buffers -/

/-- A rule about the live buffer that a command fills. -/
def onFillBuffer (check : Handle .buffer → Buffer → List Violation) : Check := fun ctx =>
  match ctx.operation with
  | .record (.fill handle _) =>
    match ctx.registry.get? handle with
    | some buffer => check handle buffer
    | none => []
  | _ => []

/-- The filled buffer can be a transfer destination. -/
def fillUsage : Check := onFillBuffer fun handle buffer =>
  violationIf (!buffer.info.usage.intersects BufferUsage.transferDst)
    (s!"`dst_buffer` has usage {buffer.info.usage}, which does not contain " ++
      "`BufferUsage::TRANSFER_DST`") [handle.erase]

/-- The filled buffer has memory. -/
def fillBound : Check := onFillBuffer fun handle buffer =>
  violationIf (!buffer.isBound) "no memory is bound to `dst_buffer`" [handle.erase]

/-- Nothing is filled inside a render pass. -/
def fillInside : Check := fun ctx =>
  match ctx.operation with
  | .record (.fill _ _) => outsideRenderPass ctx "fill_buffer"
  | _ => []

/-! ## Beginning and ending command buffers -/

/-- A command buffer is not recorded again while it is pending. -/
def beginPending : Check := fun ctx =>
  match ctx.operation with
  | .beginCommandBuffer _ (some handle) =>
    match ctx.registry.get? handle with
    | some commandBuffer =>
      violationIf (commandBuffer.status == .pending) "the command buffer is pending execution"
        [handle.erase]
    | none => []
  | _ => []

/-- A command buffer does not end inside of a render pass. -/
def endInside : Check := fun ctx =>
  match ctx.operation with
  | .endCommandBuffer => outsideRenderPass ctx "end"
  | _ => []

end VulkanValidity.CommandRules
