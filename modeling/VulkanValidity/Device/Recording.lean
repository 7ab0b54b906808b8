/-
  VulkanValidity.Device.Recording

  Recording command buffers. A recorder holds what a command buffer gathers until the recording ends.
  A command that is rejected is not recorded, except for a barrier with no other fault than that the
  layouts before it are not as it says: it is recorded, and fails all the same.
-/

import VulkanValidity.Device

namespace VulkanValidity

/-- A command buffer that is being recorded. -/
structure Recorder where
  handle : Handle .commandBuffer
  recording : Recording
deriving DecidableEq, Repr

/-- The text of a recorder, which leaves out the recording. -/
def Recorder.text (recorder : Recorder) : String :=
  "RecordingCommandBuffer \x7b command_buffer: " ++ recorder.handle.text ++
    s!", queue_family_index: {recorder.recording.family}, .. \x7d"

/-! ## Beginning and ending -/

namespace Device

/-- Begins to record a new command buffer for a queue, or one that exists again. -/
def beginCommandBuffer (d : Device) (queue : Queue) (again : Option (Handle .commandBuffer))
    (usage : CommandBufferUsage) : Outcome Device Recorder :=
  d.guarded (.beginCommandBuffer queue again) do
    match again with
    | some handle =>
      -- A command buffer keeps its family, whatever queue it is recorded for now.
      let commandBuffer ← d.registry.get handle
      let registry := d.registry.modify handle fun commandBuffer => commandBuffer.begin usage
      pure (⟨handle, { family := commandBuffer.family }⟩, d.withRegistry registry)
    | none =>
      let fresh : CommandBuffer := { family := queue.family }
      let (handle, d) := d.insert .commandBuffer (fresh.begin usage)
      pure (⟨handle, { family := queue.family }⟩, d)

/-- The diagnostics of an operation on a recording. -/
def diagnoseRecording (d : Device) (recording : Recording) (operation : Operation) :
    List Diagnostic :=
  d.engine.evaluate { d.context operation with recording := some recording }

/-- Ends a recording. The command buffer can be submitted afterwards, if it still exists. -/
def endCommandBuffer (d : Device) (recorder : Recorder) :
    Outcome Device (Handle .commandBuffer) :=
  let log := recorder.recording.finish
  .guarded d (d.diagnoseRecording recorder.recording .endCommandBuffer)
    (.ok (recorder.handle,
      d.withRegistry (d.registry.modify recorder.handle fun commandBuffer =>
        commandBuffer.finish log)))

end Device

/-! ## Commands -/

namespace Recorder

/-- The recorder with another recording. -/
def withRecording (recorder : Recorder) (recording : Recording) : Recorder :=
  { recorder with recording := recording }

/-- Records the image barriers of a command, up to one whose image is not alive. -/
def imageBarriers (registry : Registry) (recording : Recording) :
    List ImageBarrier → Recording × Except Error Unit
  | [] => (recording, .ok ())
  | barrier :: rest =>
    match registry.get barrier.image with
    -- The barriers before this one stay recorded.
    | .error e => (recording, .error e)
    | .ok image => imageBarriers registry (recording.imageBarrier image.info barrier) rest

/-- Records the buffer barriers of a command, up to one whose buffer is not alive. -/
def bufferBarriers (registry : Registry) (recording : Recording) :
    List BufferBarrier → Recording × Except Error Unit
  | [] => (recording, .ok ())
  | barrier :: rest =>
    match registry.get barrier.buffer with
    | .error e => (recording, .error e)
    | .ok _ => bufferBarriers registry (recording.bufferBarrier barrier) rest

/-- Records the barriers of a command, those of images first. -/
def barriers (registry : Registry) (recording : Recording) (dependency : Dependency) :
    Recording × Except Error Unit :=
  match imageBarriers registry recording dependency.imageBarriers with
  | (recording, .error e) => (recording, .error e)
  | (recording, .ok ()) => bufferBarriers registry recording dependency.bufferBarriers

/-- Records a barrier command with the given diagnostics. -/
def recordBarrier (recorder : Recorder) (registry : Registry) (diagnostics : List Diagnostic)
    (dependency : Dependency) : Outcome Recorder Unit :=
  if hasStructuralError diagnostics then ⟨recorder, diagnostics, verdict diagnostics⟩
  else
    -- A layout mismatch makes the call fail, but the barriers are recorded.
    let (recording, recorded) := barriers registry recorder.recording dependency
    ⟨recorder.withRecording recording, diagnostics, do recorded; verdict diagnostics⟩

/-- The views that a render pass begins with. -/
def beginViews (registry : Registry) (framebuffer : Framebuffer) (info : RenderPassBegin) :
    Except Error (List BoundView) :=
  let handles := match framebuffer.info.attachments with
    | .views handles => handles
    | .imageless _ => info.views
  handles.mapM fun handle => do
    let view ← registry.get handle
    pure ⟨handle, view⟩

/-- The recording after a command other than a barrier. -/
def perform (registry : Registry) (recording : Recording) : Command → Except Error Recording
  | .barrier _ => .ok recording
  | .clear info => do
    let image ← registry.get info.image
    pure (recording.writeRegions info.image image.info info.layout info.regions)
  | .copy info => do
    let _ ← registry.get info.buffer
    let image ← registry.get info.image
    pure ((recording.accessBuffer info.buffer (Recording.transferEffect false)).writeRegions
      info.image image.info info.layout info.regions)
  | .fill buffer _ => do
    let _ ← registry.get buffer
    pure (recording.accessBuffer buffer (Recording.transferEffect true))
  | .beginRenderPass info => do
    let renderPass ← registry.get info.renderPass
    let framebuffer ← registry.get info.framebuffer
    let views ← beginViews registry framebuffer info
    pure (recording.beginRenderPass ⟨info.renderPass, renderPass, info.framebuffer, views⟩)
  | .endRenderPass => .ok recording.endRenderPass

/-- Records a command on a device. -/
def record (recorder : Recorder) (d : Device) (command : Command) : Outcome Recorder Unit :=
  let diagnostics := d.diagnoseRecording recorder.recording (.record command)
  match command with
  | .barrier dependency => recorder.recordBarrier d.registry diagnostics dependency
  | command =>
    .guarded recorder diagnostics do
      let recording ← perform d.registry recorder.recording command
      pure ((), recorder.withRecording recording)

end Recorder

end VulkanValidity
