/-
  VulkanValidity.Recording

  What a command buffer gathers while it is recorded. For every image subresource that it touches it
  knows the layout that the first command expects, if it expects one, and the layout that the last
  command leaves. Beside that it keeps the list of its accesses, in order, and the objects that it
  refers to. A finished recording is a log, which is replayed when the command buffer is submitted.
-/

import VulkanValidity.Barrier
import VulkanValidity.RenderPass

namespace VulkanValidity

/-! ## Commands -/

/-- The parameters of a command that clears an image. -/
structure ClearInfo where
  image : Handle .image
  layout : ImageLayout := .transferDstOptimal
  /-- The ranges to clear; none stands for the whole image. -/
  regions : List SubresourceRange := []
deriving DecidableEq, Repr

/-- The parameters of a command that copies a buffer to an image. -/
structure CopyInfo where
  buffer : Handle .buffer
  image : Handle .image
  layout : ImageLayout := .transferDstOptimal
  /-- The ranges to copy to; none stands for the whole image. -/
  regions : List SubresourceRange := []
deriving DecidableEq, Repr

/-- The commands that can be recorded. -/
inductive Command
  | barrier (dependency : Dependency)
  | beginRenderPass (info : RenderPassBegin)
  | endRenderPass
  | clear (info : ClearInfo)
  | copy (info : CopyInfo)
  | fill (buffer : Handle .buffer) (data : Nat)
deriving DecidableEq, Repr

/-- The regions, or the whole image if there are none. -/
def ImageInfo.regionsOrWhole (info : ImageInfo) (regions : List SubresourceRange) :
    List SubresourceRange :=
  if regions.isEmpty then [info.wholeRange] else regions

/-! ## What is known of layouts -/

/-- What a command buffer knows of the layout of a subresource. -/
structure LocalLayout where
  /-- The layout that the first command expects, if it expects one. -/
  expected : Option ImageLayout
  /-- The layout that the last command leaves. -/
  current : ImageLayout
deriving DecidableEq, Repr

namespace LocalLayout

/-- The text of what is known: the expected layout, or a star for any, and the current one. -/
def text (l : LocalLayout) : String :=
  (l.expected.elim "*" ImageLayout.name) ++ "->" ++ l.current.name

/-- What is known after a transition from `old` to `new`. -/
def transition (old new : ImageLayout) : Option LocalLayout → Option LocalLayout
  -- Only the first command on a subresource sets the expectation.
  | some known => some { known with current := new }
  -- The old layout `undefined` expects nothing.
  | none => some ⟨if old = .undefined then none else some old, new⟩

/-- What is known after a use in `layout`. A use changes nothing that is known already. -/
def use (layout : ImageLayout) : Option LocalLayout → Option LocalLayout
  | some _ => none
  | none => some ⟨some layout, layout⟩

end LocalLayout

/-! ## Accesses -/

/-- An access to some subresources of a resource. -/
structure Access where
  resource : Resource
  ranges : List Interval
  effect : AccessEffect
deriving DecidableEq, Repr

/-- The one subresource that a buffer counts as. -/
def bufferRange : Interval := ⟨0, 1⟩

/-! ## Recordings -/

/-- The state of a command buffer that is being recorded. -/
structure Recording where
  family : Nat
  /-- The known layouts of the images that were touched. -/
  layouts : List (Handle .image × RangeMap LocalLayout) := []
  accesses : List Access := []
  /-- The objects that the commands refer to, each once, in the order of the first reference. -/
  references : List ObjectId := []
  /-- The render pass that has begun and not ended yet. -/
  renderPass : Option RenderPassInstance := none
deriving DecidableEq, Repr

namespace Recording

/-- What is known of the layouts of an image, if it was touched. -/
def layoutsOf? (recording : Recording) (image : Handle .image) : Option (RangeMap LocalLayout) :=
  recording.layouts.lookup image

/-- What is known of the layout of a subresource, if it was touched. -/
def localLayout? (recording : Recording) (image : Handle .image) (index : Nat) :
    Option LocalLayout :=
  (recording.layoutsOf? image).bind fun known => known.get? index

/-- The first known layout among the subresources of a range that is not `layout`. -/
def layoutMismatch? (recording : Recording) (image : Handle .image) (info : ImageInfo)
    (range : SubresourceRange) (layout : ImageLayout) : Option ImageLayout :=
  (recording.layoutsOf? image).bind fun known =>
    ((info.indexRanges range).flatMap known.within).findSome? fun segment =>
      if segment.value.current = layout then none else some segment.value.current

/-- Adds a reference to an object, unless there is one already. -/
def reference (recording : Recording) (id : ObjectId) : Recording :=
  if recording.references.contains id then recording
  else { recording with references := recording.references ++ [id] }

/-- Replaces the value of a key by what `f` makes of it, or of `none` if the key is new. -/
def upsert {κ α : Type} [DecidableEq κ] (f : Option α → α) (key : κ) : List (κ × α) → List (κ × α)
  | [] => [(key, f none)]
  | (k, value) :: rest =>
    if k = key then (k, f (some value)) :: rest else (k, value) :: upsert f key rest

/-- Changes what is known of the layouts of a range of an image. -/
def updateLayouts (recording : Recording) (image : Handle .image) (info : ImageInfo)
    (range : SubresourceRange) (f : Option LocalLayout → Option LocalLayout) : Recording :=
  { recording with
    layouts := upsert (fun known => (known.getD .empty).updateAll (info.indexRanges range) f) image
      recording.layouts }

/-- Moves a range of an image from one layout to another. -/
def transition (recording : Recording) (image : Handle .image) (info : ImageInfo)
    (range : SubresourceRange) (old new : ImageLayout) : Recording :=
  recording.updateLayouts image info range (LocalLayout.transition old new)

/-- Uses a range of an image in a layout. -/
def useLayout (recording : Recording) (image : Handle .image) (info : ImageInfo)
    (range : SubresourceRange) (layout : ImageLayout) : Recording :=
  recording.updateLayouts image info range (LocalLayout.use layout)

/-- Adds an access, and a reference to its resource. -/
def access (recording : Recording) (access : Access) : Recording :=
  let recording := recording.reference access.resource.id
  { recording with accesses := recording.accesses ++ [access] }

/-- Adds an access to a range of an image. -/
def accessImage (recording : Recording) (image : Handle .image) (info : ImageInfo)
    (range : SubresourceRange) (effect : AccessEffect) : Recording :=
  recording.access ⟨.image image, info.indexRanges range, effect⟩

/-- Adds an access to a buffer. -/
def accessBuffer (recording : Recording) (buffer : Handle .buffer) (effect : AccessEffect) :
    Recording :=
  recording.access ⟨.buffer buffer, [bufferRange], effect⟩

/-! ### Commands on known objects -/

/-- The effect of a transfer command. -/
def transferEffect (write : Bool) : AccessEffect := ⟨.use, .allTransfer, write⟩

/-- Adds the barrier of an image. -/
def imageBarrier (recording : Recording) (info : ImageInfo) (barrier : ImageBarrier) : Recording :=
  let role := barrierRole barrier.transfer recording.family
  -- A release leaves the change of the layout to the acquisition.
  let moved :=
    if role.transitions then
      recording.transition barrier.image info barrier.range barrier.oldLayout barrier.newLayout
    else recording
  moved.accessImage barrier.image info barrier.range ⟨role.kind, barrier.dstStages, false⟩

/-- Adds the barrier of a buffer. -/
def bufferBarrier (recording : Recording) (barrier : BufferBarrier) : Recording :=
  let role := barrierRole barrier.transfer recording.family
  recording.accessBuffer barrier.buffer ⟨role.kind, barrier.dstStages, false⟩

/-- Writes a region of an image by a transfer. -/
def writeRegion (recording : Recording) (image : Handle .image) (info : ImageInfo)
    (layout : ImageLayout) (region : SubresourceRange) : Recording :=
  (recording.useLayout image info region layout).accessImage image info region (transferEffect true)

/-- Writes regions of an image by a transfer. -/
def writeRegions (recording : Recording) (image : Handle .image) (info : ImageInfo)
    (layout : ImageLayout) (regions : List SubresourceRange) : Recording :=
  (info.regionsOrWhole regions).foldl (fun recording region =>
    recording.writeRegion image info layout region) recording

/-- Moves the view of an attachment from its initial layout to the layout of its first use, and
writes it. -/
def beginAttachment (recording : Recording) (renderPass : RenderPassInfo)
    (attachment : (BoundView × AttachmentDescription) × Nat) : Recording :=
  let ((bound, description), index) := attachment
  let layout := (renderPass.firstLayout? index).getD description.finalLayout
  let view := bound.view
  ((recording.reference bound.handle.erase).transition view.image view.imageInfo view.range
    description.initialLayout layout).accessImage view.image view.imageInfo view.range
      ⟨.use, .colorAttachmentOutput, true⟩

/-- Begins a render pass: refers to its objects, and moves its attachments to their first layouts. -/
def beginRenderPass (recording : Recording) (inst : RenderPassInstance) : Recording :=
  let referenced :=
    (recording.reference inst.renderPass.erase).reference inst.framebuffer.erase
  let begun := inst.attachments.zipIdx.foldl (fun recording attachment =>
    recording.beginAttachment inst.renderPassInfo attachment) referenced
  { begun with renderPass := some inst }

/-- Moves the view of an attachment to its final layout. -/
def endAttachment (recording : Recording) (attachment : BoundView × AttachmentDescription) :
    Recording :=
  let view := attachment.1.view
  recording.transition view.image view.imageInfo view.range .undefined attachment.2.finalLayout

/-- Ends the render pass that has begun, and moves its attachments to their final layouts. -/
def endRenderPass (recording : Recording) : Recording :=
  match recording.renderPass with
  | none => recording
  | some inst => inst.attachments.foldl endAttachment { recording with renderPass := none }

end Recording

/-! ## Logs -/

/-- What remains of a finished recording. -/
structure CommandLog where
  family : Nat
  /-- The known layouts of the images that were touched, in the order of the images. -/
  layouts : List (Handle .image × RangeMap LocalLayout)
  accesses : List Access
  references : List ObjectId
deriving DecidableEq, Repr

/-- The log of a recording. -/
def Recording.finish (recording : Recording) : CommandLog where
  family := recording.family
  layouts := recording.layouts.mergeSort fun a b => decide (a.1.raw ≤ b.1.raw)
  accesses := recording.accesses
  references := recording.references

namespace CommandLog

/-- The known layouts of an image as segments; an image that was not touched has none. -/
def layoutSegments (log : CommandLog) (image : Handle .image) : List (Segment LocalLayout) :=
  ((log.layouts.lookup image).map RangeMap.segments).getD []

/-- The resources that the log touches, each once. -/
def resources (log : CommandLog) : List Resource :=
  (log.layouts.map (fun entry => Resource.image entry.1) ++ log.accesses.map Access.resource).eraseDups

end CommandLog

end VulkanValidity
