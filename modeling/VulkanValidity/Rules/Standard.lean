/-
  VulkanValidity.Rules.Standard

  The standard rules, in the order in which they are evaluated. Each rule has a name of its own, but
  several rules may report the same identifier. Rules about objects and queues that operations of any
  kind name are evaluated at every checkpoint.
-/

import VulkanValidity.Rules.Barrier
import VulkanValidity.Rules.Binding
import VulkanValidity.Rules.Buffer
import VulkanValidity.Rules.Command
import VulkanValidity.Rules.Framebuffer
import VulkanValidity.Rules.Image
import VulkanValidity.Rules.ImageView
import VulkanValidity.Rules.Memory
import VulkanValidity.Rules.Objects
import VulkanValidity.Rules.RenderPass
import VulkanValidity.Rules.RenderPassBegin
import VulkanValidity.Rules.Submission
import VulkanValidity.Rules.Swapchain

namespace VulkanValidity.Standard

/-- A rule that is evaluated at one checkpoint and whose violations are errors. -/
def rule (checkpoint : Checkpoint) (kind : ErrorKind) (name vuid : String) (predicate : Predicate) :
    Rule :=
  { name, vuid, kind, checkpoint, predicate }

/-- A rule that is evaluated at every checkpoint and whose violations are errors. -/
def everywhere (kind : ErrorKind) (name vuid : String) (predicate : Predicate) : Rule :=
  { name, vuid, kind, predicate }

/-! ## The rules by subject -/

/-- The rules about the objects that operations name. -/
def objectRules : List Rule := [
  everywhere .useAfterFree "rules::object_destroyed"
    "UNASSIGNED-ObjectTracker-ObjectDestroyed" ObjectRules.objectDestroyed,
  everywhere .notFound "rules::object_unknown"
    "UNASSIGNED-ObjectTracker-InvalidHandle" ObjectRules.objectUnknown,
  rule .resourceCreation .useAfterFree "rules::destroy_image_in_use"
    "VUID-vkDestroyImage-image-01000" (ObjectRules.destroyInUse .image),
  rule .resourceCreation .useAfterFree "rules::destroy_image_view_in_use"
    "VUID-vkDestroyImageView-imageView-01026" (ObjectRules.destroyInUse .imageView),
  rule .resourceCreation .useAfterFree "rules::destroy_buffer_in_use"
    "VUID-vkDestroyBuffer-buffer-00922" (ObjectRules.destroyInUse .buffer),
  rule .resourceCreation .useAfterFree "rules::destroy_memory_in_use"
    "VUID-vkFreeMemory-memory-00677" (ObjectRules.destroyInUse .deviceMemory),
  rule .resourceCreation .useAfterFree "rules::destroy_render_pass_in_use"
    "VUID-vkDestroyRenderPass-renderPass-00873" (ObjectRules.destroyInUse .renderPass),
  rule .resourceCreation .useAfterFree "rules::destroy_framebuffer_in_use"
    "VUID-vkDestroyFramebuffer-framebuffer-00892" (ObjectRules.destroyInUse .framebuffer),
  rule .resourceCreation .useAfterFree "rules::destroy_command_buffer_in_use"
    "VUID-vkFreeCommandBuffers-pCommandBuffers-00047" (ObjectRules.destroyInUse .commandBuffer),
  rule .submission .invalidParams "rules::submit_ordering_cycle"
    "UNASSIGNED-vkQueueSubmit-ordering-cycle" SubmissionRules.orderingCycle]

/-- The rules about the creation of images. -/
def imageRules : List Rule := [
  rule .resourceCreation .invalidParams "image::format_or_external_format"
    "VUID-VkImageCreateInfo-pNext-01975" ImageRules.formatOrExternalFormat,
  rule .resourceCreation .invalidParams "image::external_format_with_format"
    "VUID-VkImageCreateInfo-pNext-01974" ImageRules.externalFormatWithFormat,
  rule .resourceCreation .invalidParams "image::external_format_known"
    "VUID-VkExternalFormatANDROID-externalFormat-01894" ImageRules.externalFormatKnown,
  rule .resourceCreation .invalidParams "image::external_format_mutable"
    "VUID-VkImageCreateInfo-pNext-02396" ImageRules.externalFormatMutable,
  rule .resourceCreation .invalidParams "image::external_format_usage"
    "VUID-VkImageCreateInfo-pNext-02397" ImageRules.externalFormatUsage,
  rule .resourceCreation .invalidParams "image::external_format_tiling"
    "VUID-VkImageCreateInfo-pNext-02398" ImageRules.externalFormatTiling,
  rule .resourceCreation .invalidParams "image::hardware_buffer_image_type"
    "VUID-VkImageCreateInfo-pNext-02393" ImageRules.hardwareBufferImageType,
  rule .resourceCreation .invalidParams "image::hardware_buffer_mip_levels"
    "VUID-VkImageCreateInfo-pNext-02394" ImageRules.hardwareBufferMipLevels,
  rule .resourceCreation .invalidParams "image::extent_width"
    "VUID-VkImageCreateInfo-extent-00944" (ImageRules.extentNonzero 0 Extent.width),
  rule .resourceCreation .invalidParams "image::extent_height"
    "VUID-VkImageCreateInfo-extent-00945" (ImageRules.extentNonzero 1 Extent.height),
  rule .resourceCreation .invalidParams "image::extent_depth"
    "VUID-VkImageCreateInfo-extent-00946" (ImageRules.extentNonzero 2 Extent.depth),
  rule .resourceCreation .invalidParams "image::extent_1d"
    "VUID-VkImageCreateInfo-imageType-00956" ImageRules.extent1d,
  rule .resourceCreation .invalidParams "image::extent_2d"
    "VUID-VkImageCreateInfo-imageType-00957" ImageRules.extent2d,
  rule .resourceCreation .invalidParams "image::extent_max_width"
    "VUID-VkImageCreateInfo-extent-02252" (ImageRules.extentMax 0 Extent.width),
  rule .resourceCreation .invalidParams "image::extent_max_height"
    "VUID-VkImageCreateInfo-extent-02253" (ImageRules.extentMax 1 Extent.height),
  rule .resourceCreation .invalidParams "image::extent_max_depth"
    "VUID-VkImageCreateInfo-extent-02254" (ImageRules.extentMax 2 Extent.depth),
  rule .resourceCreation .invalidParams "image::mip_levels_nonzero"
    "VUID-VkImageCreateInfo-mipLevels-00947" ImageRules.mipLevelsNonzero,
  rule .resourceCreation .invalidParams "image::mip_levels_max"
    "VUID-VkImageCreateInfo-mipLevels-00958" ImageRules.mipLevelsMax,
  rule .resourceCreation .invalidParams "image::array_layers_nonzero"
    "VUID-VkImageCreateInfo-arrayLayers-00948" ImageRules.arrayLayersNonzero,
  rule .resourceCreation .invalidParams "image::cube_compatible"
    "VUID-VkImageCreateInfo-imageType-00954" ImageRules.cubeCompatible,
  rule .resourceCreation .invalidParams "image::concurrent_family_count"
    "VUID-VkImageCreateInfo-sharingMode-00942" ImageRules.concurrentFamilyCount,
  rule .resourceCreation .invalidParams "image::concurrent_family_index"
    "VUID-VkImageCreateInfo-sharingMode-01420" ImageRules.concurrentFamilyIndex,
  rule .resourceCreation .invalidParams "image::portability_multisample_array"
    "VUID-VkImageCreateInfo-multisampleArrayImage-04460" ImageRules.portabilityMultisampleArray]

/-- The rules about the creation of image views. -/
def imageViewRules : List Rule := [
  rule .resourceCreation .invalidParams "image::view_base_mip_level"
    "VUID-VkImageViewCreateInfo-subresourceRange-01478" ImageViewRules.baseMipLevel,
  rule .resourceCreation .invalidParams "image::view_mip_level_count"
    "VUID-VkImageViewCreateInfo-subresourceRange-01718" ImageViewRules.mipLevelCount,
  rule .resourceCreation .invalidParams "image::view_base_array_layer"
    "VUID-VkImageViewCreateInfo-subresourceRange-01480" ImageViewRules.baseArrayLayer,
  rule .resourceCreation .invalidParams "image::view_array_layer_count"
    "VUID-VkImageViewCreateInfo-subresourceRange-01719" ImageViewRules.arrayLayerCount,
  rule .resourceCreation .invalidParams "image::view_2d_of_3d_compatible"
    "VUID-VkImageViewCreateInfo-image-01005" ImageViewRules.slicesCompatible,
  rule .resourceCreation .invalidParams "image::view_2d_of_3d_level_count"
    "VUID-VkImageViewCreateInfo-image-04970" ImageViewRules.slicesLevelCount,
  rule .resourceCreation .invalidParams "image::view_format"
    "VUID-VkImageViewCreateInfo-image-01762" ImageViewRules.format,
  rule .resourceCreation .invalidParams "image::view_usage"
    "VUID-VkImageViewCreateInfo-pNext-02662" ImageViewRules.usage,
  rule .resourceCreation .invalidParams "image::view_external_format"
    "VUID-VkImageViewCreateInfo-image-02399" ImageViewRules.externalFormat,
  rule .resourceCreation .invalidParams "image::view_external_format_swizzle"
    "VUID-VkImageViewCreateInfo-image-02401" ImageViewRules.externalFormatSwizzle,
  rule .resourceCreation .invalidParams "image::portability_view_2d_on_3d"
    "VUID-VkImageViewCreateInfo-imageView2DOn3DImage-04459" ImageViewRules.portabilitySlices,
  rule .resourceCreation .invalidParams "image::portability_view_swizzle"
    "VUID-VkImageViewCreateInfo-imageViewFormatSwizzle-04465" ImageViewRules.portabilitySwizzle,
  rule .resourceCreation .invalidParams "image::portability_view_reinterpretation"
    "VUID-VkImageViewCreateInfo-imageViewFormatReinterpretation-04466"
    ImageViewRules.portabilityReinterpretation]

/-- The rules about the creation of buffers. -/
def bufferRules : List Rule := [
  rule .resourceCreation .invalidParams "buffer::size_nonzero"
    "VUID-VkBufferCreateInfo-size-00912" BufferRules.sizeNonzero,
  rule .resourceCreation .invalidParams "buffer::concurrent_family_count"
    "VUID-VkBufferCreateInfo-sharingMode-00914" BufferRules.concurrentFamilyCount,
  rule .resourceCreation .invalidParams "buffer::concurrent_family_index"
    "VUID-VkBufferCreateInfo-sharingMode-01419" BufferRules.concurrentFamilyIndex]

/-- The rules about allocations, imports and exports. -/
def memoryRules : List Rule := [
  rule .resourceCreation .invalidParams "memory::memory_type_index"
    "VUID-VkMemoryAllocateInfo-memoryTypeIndex-01714" MemoryRules.memoryType,
  rule .resourceCreation .invalidParams "memory::allocation_size_nonzero"
    "VUID-VkMemoryAllocateInfo-allocationSize-00638" MemoryRules.sizeNonzero,
  rule .resourceCreation .invalidParams "memory::hardware_buffer_export_size"
    "VUID-VkMemoryAllocateInfo-pNext-01874" MemoryRules.hardwareBufferExportSize,
  rule .resourceCreation .importMismatch "memory::hardware_buffer_import_size"
    "VUID-VkMemoryAllocateInfo-allocationSize-02383" MemoryRules.hardwareBufferImportSize,
  rule .resourceCreation .importMismatch "memory::hardware_buffer_import_memory_type"
    "VUID-VkMemoryAllocateInfo-memoryTypeIndex-02385" MemoryRules.hardwareBufferImportMemoryType,
  rule .resourceCreation .importUsageMismatch "memory::hardware_buffer_import_blob"
    "VUID-VkMemoryAllocateInfo-pNext-02384" MemoryRules.hardwareBufferImportBlob,
  rule .resourceCreation .importUsageMismatch "memory::hardware_buffer_import_gpu_usage"
    "VUID-VkMemoryAllocateInfo-pNext-02386" MemoryRules.hardwareBufferImportUsage,
  rule .resourceCreation .importMismatch "memory::hardware_buffer_dedicated_format"
    "VUID-VkMemoryAllocateInfo-pNext-02387" MemoryRules.dedicatedFormat,
  rule .resourceCreation .importMismatch "memory::hardware_buffer_dedicated_extent"
    "VUID-VkMemoryAllocateInfo-pNext-02388" MemoryRules.dedicatedExtent,
  rule .resourceCreation .importMismatch "memory::hardware_buffer_dedicated_mip_levels"
    "VUID-VkMemoryAllocateInfo-pNext-02389" MemoryRules.dedicatedMipLevels,
  rule .resourceCreation .importUsageMismatch "memory::hardware_buffer_dedicated_usage"
    "VUID-VkMemoryAllocateInfo-pNext-02390" MemoryRules.dedicatedUsage,
  rule .resourceCreation .importMismatch "memory::fd_import"
    "VUID-VkMemoryAllocateInfo-allocationSize-01742" MemoryRules.fdImport,
  rule .resourceCreation .dedicatedAllocationMismatch "memory::dedicated_image_size"
    "VUID-VkMemoryDedicatedAllocateInfo-image-01433" MemoryRules.dedicatedImageSize,
  rule .resourceCreation .dedicatedAllocationMismatch "memory::dedicated_buffer_size"
    "VUID-VkMemoryDedicatedAllocateInfo-buffer-01435" MemoryRules.dedicatedBufferSize,
  rule .resourceCreation .invalidParams "memory::fd_export_declared"
    "VUID-VkMemoryGetFdInfoKHR-handleType-00671" MemoryRules.fdExportDeclared,
  rule .resourceCreation .invalidParams "memory::fd_export_handle_type"
    "VUID-VkMemoryGetFdInfoKHR-handleType-00672" MemoryRules.fdExportHandleType,
  rule .resourceCreation .invalidParams "memory::hardware_buffer_valid"
    "VUID-vkGetAndroidHardwareBufferPropertiesANDROID-buffer-01884" MemoryRules.hardwareBufferValid]

/-- Rules about bindings and the queries that need them. -/
def bindingRules : List Rule := [
  rule .resourceCreation .invalidParams "binding::image_already_bound"
    "VUID-vkBindImageMemory-image-01044" (BindingRules.onImage BindingRules.notBound),
  rule .resourceCreation .invalidParams "binding::buffer_already_bound"
    "VUID-vkBindBufferMemory-buffer-01029" (BindingRules.onBuffer BindingRules.notBound),
  rule .resourceCreation .invalidParams "binding::image_offset_in_range"
    "VUID-vkBindImageMemory-memoryOffset-01046" (BindingRules.onImage BindingRules.offsetInRange),
  rule .resourceCreation .invalidParams "binding::buffer_offset_in_range"
    "VUID-vkBindBufferMemory-memoryOffset-01031" (BindingRules.onBuffer BindingRules.offsetInRange),
  rule .resourceCreation .incompatibleMemoryType "binding::image_memory_type"
    "VUID-vkBindImageMemory-memory-01047" BindingRules.imageMemoryType,
  rule .resourceCreation .incompatibleMemoryType "binding::buffer_memory_type"
    "VUID-vkBindBufferMemory-memory-01035" BindingRules.bufferMemoryType,
  rule .resourceCreation .badAlignment "binding::image_offset_alignment"
    "VUID-vkBindImageMemory-memoryOffset-01048" (BindingRules.onImage BindingRules.offsetAlignment),
  rule .resourceCreation .badAlignment "binding::buffer_offset_alignment"
    "VUID-vkBindBufferMemory-memoryOffset-01036"
    (BindingRules.onBuffer BindingRules.offsetAlignment),
  rule .resourceCreation .insufficientSize "binding::image_size"
    "VUID-vkBindImageMemory-size-01049" (BindingRules.onImage BindingRules.size),
  rule .resourceCreation .insufficientSize "binding::buffer_size"
    "VUID-vkBindBufferMemory-size-01037" (BindingRules.onBuffer BindingRules.size),
  rule .resourceCreation .dedicatedAllocationMismatch "binding::image_requires_dedicated"
    "VUID-vkBindImageMemory-memory-01509" (BindingRules.onImage BindingRules.requiresDedicated),
  rule .resourceCreation .dedicatedAllocationMismatch "binding::buffer_requires_dedicated"
    "VUID-vkBindBufferMemory-memory-01508" (BindingRules.onBuffer BindingRules.requiresDedicated),
  rule .resourceCreation .dedicatedAllocationMismatch "binding::image_dedicated_mismatch"
    "VUID-vkBindImageMemory-memory-02628" (BindingRules.onImage BindingRules.dedicatedMismatch),
  rule .resourceCreation .dedicatedAllocationMismatch "binding::buffer_dedicated_mismatch"
    "VUID-vkBindBufferMemory-buffer-01444" (BindingRules.onBuffer BindingRules.dedicatedMismatch),
  rule .resourceCreation .importUsageMismatch "binding::image_hardware_buffer_handle_type"
    "VUID-vkBindImageMemory-memory-02990"
    (BindingRules.onImage BindingRules.hardwareBufferHandleType),
  rule .resourceCreation .importUsageMismatch "binding::buffer_hardware_buffer_handle_type"
    "VUID-vkBindBufferMemory-memory-02986"
    (BindingRules.onBuffer BindingRules.hardwareBufferHandleType),
  rule .resourceCreation .importUsageMismatch "binding::image_import_handle_type"
    "VUID-vkBindImageMemory-memory-02989" (BindingRules.onImage BindingRules.importHandleType),
  rule .resourceCreation .importUsageMismatch "binding::buffer_import_handle_type"
    "VUID-vkBindBufferMemory-memory-02985" (BindingRules.onBuffer BindingRules.importHandleType),
  rule .resourceCreation .importUsageMismatch "binding::image_export_handle_type"
    "VUID-vkBindImageMemory-memory-02728" (BindingRules.onImage BindingRules.exportHandleType),
  rule .resourceCreation .importUsageMismatch "binding::buffer_export_handle_type"
    "VUID-vkBindBufferMemory-memory-02726" (BindingRules.onBuffer BindingRules.exportHandleType),
  rule .resourceCreation .queryBeforeBind "binding::requirements_before_bind"
    "VUID-vkGetImageMemoryRequirements-image-04004" (BindingRules.requirementsBeforeBind false),
  rule .resourceCreation .queryBeforeBind "binding::requirements2_before_bind"
    "VUID-VkImageMemoryRequirementsInfo2-image-01897" (BindingRules.requirementsBeforeBind true),
  rule .resourceCreation .queryBeforeBind "binding::subresource_layout_before_bind"
    "VUID-vkGetImageSubresourceLayout-image-01895" BindingRules.subresourceLayoutBeforeBind,
  rule .resourceCreation .invalidParams "binding::subresource_layout_tiling"
    "VUID-vkGetImageSubresourceLayout-image-00996" BindingRules.subresourceLayoutTiling]

/-- The rules about the creation of render passes. -/
def renderPassRules : List Rule := [
  rule .resourceCreation .invalidParams "render_pass::render_pass_subpass_count"
    "VUID-VkRenderPassCreateInfo-subpassCount-arraylength" RenderPassRules.subpassCount,
  rule .resourceCreation .invalidParams "render_pass::render_pass_attachment_index"
    "VUID-VkRenderPassCreateInfo-attachment-00834" RenderPassRules.attachmentIndex,
  rule .resourceCreation .invalidParams "render_pass::render_pass_final_layout"
    "VUID-VkAttachmentDescription-finalLayout-00843" RenderPassRules.finalLayout]

/-- The rules about the creation of framebuffers. -/
def framebufferRules : List Rule := [
  rule .resourceCreation .invalidParams "render_pass::framebuffer_extent_width"
    "VUID-VkFramebufferCreateInfo-width-00885" FramebufferRules.extentWidth,
  rule .resourceCreation .invalidParams "render_pass::framebuffer_extent_height"
    "VUID-VkFramebufferCreateInfo-height-00887" FramebufferRules.extentHeight,
  rule .resourceCreation .invalidParams "render_pass::framebuffer_layers"
    "VUID-VkFramebufferCreateInfo-layers-00889" FramebufferRules.layers,
  rule .resourceCreation .invalidParams "render_pass::framebuffer_attachment_count"
    "VUID-VkFramebufferCreateInfo-attachmentCount-00876" FramebufferRules.attachmentCount,
  rule .resourceCreation .invalidParams "render_pass::framebuffer_color_usage"
    "VUID-VkFramebufferCreateInfo-pAttachments-00877" FramebufferRules.colorUsage,
  rule .resourceCreation .invalidParams "render_pass::framebuffer_depth_stencil_usage"
    "VUID-VkFramebufferCreateInfo-pAttachments-02633" FramebufferRules.depthStencilUsage,
  rule .resourceCreation .invalidParams "render_pass::framebuffer_input_usage"
    "VUID-VkFramebufferCreateInfo-pAttachments-00879" FramebufferRules.inputUsage,
  rule .resourceCreation .invalidParams "render_pass::framebuffer_format"
    "VUID-VkFramebufferCreateInfo-pAttachments-00880" FramebufferRules.format,
  rule .resourceCreation .invalidParams "render_pass::framebuffer_samples"
    "VUID-VkFramebufferCreateInfo-pAttachments-00881" FramebufferRules.samples,
  rule .resourceCreation .invalidParams "render_pass::framebuffer_view_levels"
    "VUID-VkFramebufferCreateInfo-pAttachments-00883" FramebufferRules.viewLevels,
  rule .resourceCreation .invalidParams "render_pass::framebuffer_view_swizzle"
    "VUID-VkFramebufferCreateInfo-pAttachments-00884" FramebufferRules.viewSwizzle,
  rule .resourceCreation .invalidParams "render_pass::framebuffer_view_width"
    "VUID-VkFramebufferCreateInfo-flags-04533" FramebufferRules.viewWidth,
  rule .resourceCreation .invalidParams "render_pass::framebuffer_view_height"
    "VUID-VkFramebufferCreateInfo-flags-04534" FramebufferRules.viewHeight,
  rule .resourceCreation .invalidParams "render_pass::framebuffer_view_layers"
    "VUID-VkFramebufferCreateInfo-flags-04535" FramebufferRules.viewLayers,
  rule .resourceCreation .invalidParams "render_pass::framebuffer_imageless_count"
    "VUID-VkFramebufferCreateInfo-flags-03191" FramebufferRules.imagelessCount,
  rule .resourceCreation .invalidParams "render_pass::framebuffer_imageless_color_usage"
    "VUID-VkFramebufferCreateInfo-flags-03201" FramebufferRules.imagelessColorUsage,
  rule .resourceCreation .invalidParams "render_pass::framebuffer_imageless_depth_stencil_usage"
    "VUID-VkFramebufferCreateInfo-flags-03202" FramebufferRules.imagelessDepthStencilUsage,
  rule .resourceCreation .invalidParams "render_pass::framebuffer_imageless_input_usage"
    "VUID-VkFramebufferCreateInfo-flags-03204" FramebufferRules.imagelessInputUsage,
  rule .resourceCreation .invalidParams "render_pass::framebuffer_imageless_format"
    "VUID-VkFramebufferCreateInfo-flags-03205" FramebufferRules.imagelessFormat,
  rule .resourceCreation .invalidParams "render_pass::framebuffer_imageless_width"
    "VUID-VkFramebufferCreateInfo-flags-04541" FramebufferRules.imagelessWidth,
  rule .resourceCreation .invalidParams "render_pass::framebuffer_imageless_height"
    "VUID-VkFramebufferCreateInfo-flags-04542" FramebufferRules.imagelessHeight]

/-- Rules about the beginning and the end of render passes. -/
def renderPassBeginRules : List Rule := [
  rule .commandRecording .invalidParams "render_pass::begin_attachments_not_imageless"
    "VUID-VkRenderPassBeginInfo-framebuffer-03207" RenderPassBeginRules.attachmentsNotImageless,
  rule .commandRecording .invalidParams "render_pass::begin_attachment_count"
    "VUID-VkRenderPassBeginInfo-framebuffer-03208" RenderPassBeginRules.attachmentCount,
  rule .commandRecording .invalidParams "render_pass::begin_attachment_flags"
    "VUID-VkRenderPassBeginInfo-framebuffer-03209" RenderPassBeginRules.attachmentFlags,
  rule .commandRecording .invalidParams "render_pass::begin_attachment_usage"
    "VUID-VkRenderPassBeginInfo-framebuffer-04627" RenderPassBeginRules.attachmentUsage,
  rule .commandRecording .invalidParams "render_pass::begin_attachment_width"
    "VUID-VkRenderPassBeginInfo-framebuffer-03211" RenderPassBeginRules.attachmentWidth,
  rule .commandRecording .invalidParams "render_pass::begin_attachment_height"
    "VUID-VkRenderPassBeginInfo-framebuffer-03212" RenderPassBeginRules.attachmentHeight,
  rule .commandRecording .invalidParams "render_pass::begin_attachment_layers"
    "VUID-VkRenderPassBeginInfo-framebuffer-03213" RenderPassBeginRules.attachmentLayers,
  rule .commandRecording .invalidParams "render_pass::begin_view_format_count"
    "VUID-VkRenderPassBeginInfo-framebuffer-03214" RenderPassBeginRules.viewFormatCount,
  rule .commandRecording .invalidParams "render_pass::begin_view_formats"
    "VUID-VkRenderPassBeginInfo-framebuffer-03215" RenderPassBeginRules.viewFormats,
  rule .commandRecording .invalidParams "render_pass::begin_attachment_format"
    "VUID-VkRenderPassBeginInfo-framebuffer-03216" RenderPassBeginRules.attachmentFormat,
  rule .commandRecording .invalidParams "render_pass::begin_attachment_samples"
    "VUID-VkRenderPassBeginInfo-framebuffer-03217" RenderPassBeginRules.attachmentSamples,
  rule .commandRecording .invalidParams "render_pass::begin_attachment_levels"
    "VUID-VkRenderPassAttachmentBeginInfo-pAttachments-03218" RenderPassBeginRules.attachmentLevels,
  rule .commandRecording .invalidParams "render_pass::begin_attachment_swizzle"
    "VUID-VkRenderPassAttachmentBeginInfo-pAttachments-03219"
    RenderPassBeginRules.attachmentSwizzle,
  rule .commandRecording .invalidParams "render_pass::begin_attachment_3d"
    "VUID-VkRenderPassAttachmentBeginInfo-pAttachments-04114" RenderPassBeginRules.attachment3d,
  rule .commandRecording .invalidParams "render_pass::begin_render_pass_compatible"
    "VUID-VkRenderPassBeginInfo-renderPass-00904" RenderPassBeginRules.compatible,
  rule .commandRecording .invalidParams "render_pass::begin_in_render_pass"
    "VUID-vkCmdBeginRenderPass-renderpass" RenderPassBeginRules.insideRenderPass,
  rule .commandRecording .invalidParams "render_pass::end_outside_render_pass"
    "VUID-vkCmdEndRenderPass-renderpass" RenderPassBeginRules.endOutside]

/-- The rules about barriers. -/
def barrierRules : List Rule := [
  rule .commandRecording .invalidParams "sync::barrier_new_layout"
    "VUID-VkImageMemoryBarrier-newLayout-01198" BarrierRules.newLayout,
  rule .commandRecording .invalidParams "sync::image_barrier_sharing"
    "VUID-VkImageMemoryBarrier-image-04071" BarrierRules.imageSharing,
  rule .commandRecording .invalidParams "sync::buffer_barrier_sharing"
    "VUID-VkBufferMemoryBarrier-buffer-04088" BarrierRules.bufferSharing,
  rule .commandRecording .invalidParams "sync::image_barrier_family_index"
    "VUID-VkImageMemoryBarrier-image-04072" BarrierRules.imageFamilies,
  rule .commandRecording .invalidParams "sync::buffer_barrier_family_index"
    "VUID-VkBufferMemoryBarrier-buffer-04089" BarrierRules.bufferFamilies,
  rule .commandRecording .invalidParams "sync::barrier_layout_in_render_pass"
    "VUID-vkCmdPipelineBarrier-oldLayout-01181" BarrierRules.layoutInside,
  rule .commandRecording .invalidParams "sync::barrier_ownership_in_render_pass"
    "VUID-vkCmdPipelineBarrier-srcQueueFamilyIndex-01182" BarrierRules.ownershipInside,
  rule .commandRecording .layoutMismatch "tracker::barrier_old_layout"
    "VUID-VkImageMemoryBarrier-oldLayout-01197" BarrierRules.oldLayout]

/-- Rules about what the replay of a command buffer finds. -/
def replayRules : List Rule := [
  rule .submission .layoutMismatch "tracker::submit_layout"
    "UNASSIGNED-CoreValidation-DrawState-InvalidImageLayout" SubmissionRules.layout,
  rule .submission .ownershipViolation "tracker::submit_ownership"
    "VUID-vkQueueSubmit-pSubmits-04626" SubmissionRules.ownership,
  rule .submission .ownershipViolation "tracker::submit_image_acquire_unreleased"
    "UNASSIGNED-VkImageMemoryBarrier-image-00004"
    (SubmissionRules.findings .acquireUnreleased true),
  rule .submission .ownershipViolation "tracker::submit_buffer_acquire_unreleased"
    "UNASSIGNED-VkBufferMemoryBarrier-buffer-00004"
    (SubmissionRules.findings .acquireUnreleased false),
  rule .submission .ownershipViolation "tracker::submit_image_duplicate_release"
    "UNASSIGNED-VkImageMemoryBarrier-image-00003" (SubmissionRules.findings .duplicateRelease true),
  rule .submission .ownershipViolation "tracker::submit_buffer_duplicate_release"
    "UNASSIGNED-VkBufferMemoryBarrier-buffer-00003"
    (SubmissionRules.findings .duplicateRelease false)]

/-- The rules about the queues that operations name. -/
def queueRules : List Rule := [
  everywhere .invalidParams "command_buffer::queue_family_index"
    "VUID-VkDeviceQueueCreateInfo-queueFamilyIndex-00381" SubmissionRules.queueFamilyExists,
  everywhere .invalidParams "command_buffer::queue_index"
    "VUID-VkDeviceQueueCreateInfo-queueCount-00382" SubmissionRules.queueExists]

/-- The rules about the recording of command buffers and of other commands. -/
def commandRules : List Rule := [
  rule .commandRecording .invalidParams "command_buffer::begin_pending"
    "VUID-vkBeginCommandBuffer-commandBuffer-00049" CommandRules.beginPending,
  rule .commandRecording .invalidParams "command_buffer::end_in_render_pass"
    "VUID-vkEndCommandBuffer-commandBuffer-00060" CommandRules.endInside,
  rule .commandRecording .invalidParams "command_buffer::clear_usage"
    "VUID-vkCmdClearColorImage-image-00002" CommandRules.clearUsage,
  rule .commandRecording .invalidParams "command_buffer::clear_bound"
    "VUID-vkCmdClearColorImage-image-00003" CommandRules.clearBound,
  rule .commandRecording .layoutMismatch "command_buffer::clear_layout_mismatch"
    "VUID-vkCmdClearColorImage-imageLayout-00004" CommandRules.clearLayoutMismatch,
  rule .commandRecording .invalidParams "command_buffer::clear_layout"
    "VUID-vkCmdClearColorImage-imageLayout-01394" CommandRules.clearLayout,
  rule .commandRecording .invalidParams "command_buffer::clear_in_render_pass"
    "VUID-vkCmdClearColorImage-renderpass" CommandRules.clearInside,
  rule .commandRecording .invalidParams "command_buffer::copy_dst_usage"
    "VUID-vkCmdCopyBufferToImage-dstImage-00177" CommandRules.copyImageUsage,
  rule .commandRecording .invalidParams "command_buffer::copy_src_usage"
    "VUID-vkCmdCopyBufferToImage-srcBuffer-00174" CommandRules.copyBufferUsage,
  rule .commandRecording .layoutMismatch "command_buffer::copy_layout_mismatch"
    "VUID-vkCmdCopyBufferToImage-dstImageLayout-00180" CommandRules.copyLayoutMismatch,
  rule .commandRecording .invalidParams "command_buffer::copy_layout"
    "VUID-vkCmdCopyBufferToImage-dstImageLayout-01396" CommandRules.copyLayout,
  rule .commandRecording .invalidParams "command_buffer::copy_in_render_pass"
    "VUID-vkCmdCopyBufferToImage-renderpass" CommandRules.copyInside,
  rule .commandRecording .invalidParams "command_buffer::fill_usage"
    "VUID-vkCmdFillBuffer-dstBuffer-00029" CommandRules.fillUsage,
  rule .commandRecording .invalidParams "command_buffer::fill_bound"
    "VUID-vkCmdFillBuffer-dstBuffer-00031" CommandRules.fillBound,
  rule .commandRecording .invalidParams "command_buffer::fill_in_render_pass"
    "VUID-vkCmdFillBuffer-renderpass" CommandRules.fillInside]

/-- Rules about submitted command buffers. -/
def submissionRules : List Rule := [
  rule .submission .invalidParams "command_buffer::submit_not_executable"
    "VUID-vkQueueSubmit-pCommandBuffers-00070" SubmissionRules.notExecutable,
  rule .submission .useAfterFree "command_buffer::submit_destroyed_reference"
    "VUID-vkQueueSubmit-pCommandBuffers-00070" SubmissionRules.destroyedReference,
  rule .submission .invalidParams "command_buffer::submit_pending"
    "VUID-vkQueueSubmit-pCommandBuffers-00071" SubmissionRules.alreadyPending,
  rule .submission .invalidParams "command_buffer::submit_queue_family"
    "VUID-vkQueueSubmit-pCommandBuffers-00074" SubmissionRules.queueFamily]

/-- The rules about swapchains and the presentation of their images. -/
def swapchainRules : List Rule := [
  rule .resourceCreation .invalidParams "swapchain::extent_nonzero"
    "VUID-VkSwapchainCreateInfoKHR-imageExtent-01689" SwapchainRules.extentNonzero,
  rule .resourceCreation .invalidParams "swapchain::array_layers_nonzero"
    "VUID-VkSwapchainCreateInfoKHR-imageArrayLayers-01275" SwapchainRules.arrayLayersNonzero,
  rule .presentation .invalidParams "swapchain::acquire_exhausted"
    "VUID-vkAcquireNextImageKHR-swapchain-01802" SwapchainRules.acquireExhausted,
  rule .presentation .invalidParams "swapchain::present_not_acquired"
    "VUID-VkPresentInfoKHR-pImageIndices-01430" SwapchainRules.presentNotAcquired,
  rule .presentation .layoutMismatch "swapchain::present_layout"
    "VUID-VkPresentInfoKHR-pImageIndices-01296" SwapchainRules.presentLayout,
  rule .resourceCreation .invalidParams "swapchain::destroy_swapchain_image"
    "VUID-vkDestroyImage-image-04882" SwapchainRules.destroyImage]

/-! ## The whole -/

/-- The standard rules, in the order in which they are evaluated. -/
def rules : List Rule :=
  objectRules ++ imageRules ++ imageViewRules ++ bufferRules ++ memoryRules
    ++ bindingRules ++ renderPassRules ++ framebufferRules ++ renderPassBeginRules ++ barrierRules
    ++ replayRules ++ queueRules ++ commandRules ++ submissionRules ++ swapchainRules

/-- The predicates of the standard rules, by the names of the rules. -/
def predicates : PredicateTable := rules.map fun rule => (rule.name, rule.predicate)

/-- The engine with the standard rules. -/
def engine : Engine := ⟨rules⟩

end VulkanValidity.Standard
