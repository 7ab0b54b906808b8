/-
  VulkanValidity.Rules.RenderPass

  Rules about the creation of render passes.
-/

import VulkanValidity.Rule

namespace VulkanValidity.RenderPassRules

/-- A rule about the creation of a render pass. -/
def onCreate (check : RenderPassInfo → List Violation) : Check := fun ctx =>
  match ctx.operation with
  | .createRenderPass info => check info
  | _ => []

/-- The render pass has a subpass. -/
def subpassCount : Check := onCreate fun info =>
  violationIf info.subpasses.isEmpty "`subpasses` is empty" []

/-- The attachments that a subpass refers to exist. -/
def attachmentIndex : Check := onCreate fun info =>
  let count := info.attachments.length
  info.subpasses.zipIdx.flatMap fun (subpass, index) =>
    subpass.references.flatMap fun reference =>
      violationIf (decide (count ≤ reference.attachment))
        (s!"`subpasses[{index}]` references attachment {reference.attachment}, which is not " ++
          s!"less than the number of attachments ({count})") []

/-- Attachments are left in a layout that images can be moved to. -/
def finalLayout : Check := onCreate fun info =>
  info.attachments.zipIdx.flatMap fun (attachment, index) =>
    violationIf (attachment.finalLayout == .undefined || attachment.finalLayout == .preinitialized)
      s!"`attachments[{index}].final_layout` is `{attachment.finalLayout}`" []

end VulkanValidity.RenderPassRules
