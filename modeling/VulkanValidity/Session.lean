/-
  VulkanValidity.Session

  Sessions: a device together with the recorders that are open on it. A session goes on by calls, and
  each call has an outcome. Recorders are told apart by keys, which are handed out in order; several
  of them may record the same command buffer.

  The device calculates with exact numbers. Sizes have 64 bits, and masks of memory types and counters
  of uses and submissions 32. A call that computes a number beyond that is the one kind of call that
  has no outcome.
-/

import VulkanValidity.Device.Creation
import VulkanValidity.Device.Memory
import VulkanValidity.Device.Presentation
import VulkanValidity.Device.Recording
import VulkanValidity.Device.Submission

namespace VulkanValidity

/-- Everything that a session can be asked to do. -/
inductive Call
  | createImage (info : ImageInfo)
  | createImageView (info : ImageViewInfo)
  | createBuffer (info : BufferInfo)
  | createRenderPass (info : RenderPassInfo)
  | createFramebuffer (info : FramebufferInfo)
  | createSwapchain (info : SwapchainInfo)
  /-- Destroys an object; a swapchain together with its images. -/
  | destroy (type : ObjectType) (handle : Handle type)
  | allocateHardwareBuffer (info : HardwareBufferInfo)
  | hardwareBufferProperties (buffer : HardwareBuffer)
  | allocateMemory (info : AllocationInfo)
  | exportMemory (memory : Handle .deviceMemory) (handleType : ExternalHandleTypes)
  | bindImage (image : Handle .image) (memory : Handle .deviceMemory) (offset : Nat)
  | bindBuffer (buffer : Handle .buffer) (memory : Handle .deviceMemory) (offset : Nat)
  | imageRequirements (image : Handle .image) (extended : Bool)
  | bufferRequirements (buffer : Handle .buffer)
  | subresourceLayout (image : Handle .image) (subresource : Subresource)
  | beginCommandBuffer (queue : Queue) (again : Option (Handle .commandBuffer))
      (usage : CommandBufferUsage)
  | record (recorder : Nat) (command : Command)
  | endCommandBuffer (recorder : Nat)
  /-- Closes a recorder without ending the recording. -/
  | dropRecorder (recorder : Nat)
  | submit (batches : List SubmitBatch)
  | queueWait (queue : Queue)
  /-- Waits for all queues, one after the other in some order: first the listed ones. -/
  | waitIdle (queues : List Queue)
  | acquireImage (swapchain : Handle .swapchain)
  | present (images : List PresentedImage)
deriving DecidableEq, Repr

/-- The operation that a call validates before anything else, if sizes or masks are computed for it. -/
def Call.operation? : Call → Option Operation
  | .createImage info => some (.createImage info)
  | .createImageView info => some (.createImageView info)
  | .createBuffer info => some (.createBuffer info)
  | .createRenderPass info => some (.createRenderPass info)
  | .createFramebuffer info => some (.createFramebuffer info)
  | .createSwapchain info => some (.createSwapchain info)
  | .destroy _ handle => some (.destroy handle.erase)
  | .hardwareBufferProperties buffer => some (.queryHardwareBuffer buffer)
  | .allocateMemory info => some (.allocateMemory info)
  | .exportMemory memory handleType => some (.exportMemory memory handleType)
  | .bindImage image memory offset => some (.bindImage image memory offset)
  | .bindBuffer buffer memory offset => some (.bindBuffer buffer memory offset)
  | .imageRequirements image extended => some (.queryImageRequirements image extended)
  | .subresourceLayout image subresource => some (.querySubresourceLayout image subresource)
  | .acquireImage swapchain => some (.acquireImage swapchain)
  | .present images => some (.present images)
  | _ => none

/-- Whether a call that is accepted goes on to compute a number that does not fit 64 bits: the number
of subresources of a new image, or the size of a hardware buffer. -/
def Call.resultOverflows : Call → Bool
  | .createImage info => !info.trackedSizeFits
  | .hardwareBufferProperties buffer => !buffer.info.sizeFits
  | _ => false

/-- What a call that did not fail gives. -/
inductive Reply
  | done
  | object (id : ObjectId)
  | hardwareBuffer (buffer : HardwareBuffer)
  | properties (properties : HardwareBufferProperties)
  | descriptor (fd : Int)
  | requirements (requirements : MemoryRequirements)
  | layout (layout : SubresourceLayout)
  | recorder (key : Nat)
  | imageIndex (index : Nat)
deriving DecidableEq, Repr

/-- A device and the recorders that are open on it. -/
structure Session where
  device : Device
  /-- The open recorders with their keys. -/
  recorders : List (Nat × Recorder) := []
  nextKey : Nat := 0

namespace Session

/-- The open recorder with the given key. -/
def recorder? (s : Session) (key : Nat) : Option Recorder := s.recorders.lookup key

/-- The session with its device in another state. -/
def withDevice (s : Session) (device : Device) : Session := { s with device := device }

/-- The session with one more recorder, under the next key. -/
def openRecorder (s : Session) (recorder : Recorder) : Session :=
  { s with recorders := s.recorders ++ [(s.nextKey, recorder)], nextKey := s.nextKey + 1 }

/-- The session with another state of the recorder under a key. -/
def setRecorder (s : Session) (key : Nat) (recorder : Recorder) : Session :=
  { s with recorders := s.recorders.map fun entry =>
      if entry.1 = key then (key, recorder) else entry }

/-- The session without the recorder under a key. -/
def closeRecorder (s : Session) (key : Nat) : Session :=
  { s with recorders := s.recorders.filter fun entry => entry.1 != key }

/-- The outcome of a call that changes the device alone. -/
def onDevice {α : Type} (s : Session) (reply : α → Reply) (outcome : Outcome Device α) :
    Outcome Session Reply :=
  ⟨s.withDevice outcome.state, outcome.diagnostics, outcome.result.map reply⟩

/-- The outcome of a call that creates an object. -/
def creating {t : ObjectType} (s : Session) (outcome : Outcome Device (Handle t)) :
    Outcome Session Reply :=
  s.onDevice (fun handle => .object handle.erase) outcome

/-- The outcome of a call that always succeeds and about which no rule is. -/
def quietly (s : Session) : Outcome Session Reply := ⟨s, [], .ok .done⟩

/-- The outcome of beginning a command buffer: if that succeeds, a recorder is opened. -/
def opening (s : Session) (outcome : Outcome Device Recorder) : Outcome Session Reply :=
  let s := s.withDevice outcome.state
  match outcome.result with
  | .ok recorder => ⟨s.openRecorder recorder, outcome.diagnostics, .ok (.recorder s.nextKey)⟩
  | .error e => ⟨s, outcome.diagnostics, .error e⟩

/-- Makes a call. A call for a recorder that is not open does nothing. -/
def step (s : Session) : Call → Outcome Session Reply
  | .createImage info => s.creating (s.device.createImage info)
  | .createImageView info => s.creating (s.device.createImageView info)
  | .createBuffer info => s.creating (s.device.createBuffer info)
  | .createRenderPass info => s.creating (s.device.createRenderPass info)
  | .createFramebuffer info => s.creating (s.device.createFramebuffer info)
  | .createSwapchain info => s.creating (s.device.createSwapchain info)
  | .destroy .swapchain handle => s.onDevice (fun _ => .done) (s.device.destroySwapchain handle)
  | .destroy _ handle => s.onDevice (fun _ => .done) (s.device.destroy handle)
  | .allocateHardwareBuffer info =>
    s.onDevice Reply.hardwareBuffer (s.device.allocateHardwareBuffer info)
  | .hardwareBufferProperties buffer =>
    s.onDevice Reply.properties (s.device.hardwareBufferProperties buffer)
  | .allocateMemory info => s.creating (s.device.allocateMemory info)
  | .exportMemory memory handleType =>
    s.onDevice Reply.descriptor (s.device.exportMemory memory handleType)
  | .bindImage image memory offset =>
    s.onDevice (fun _ => .done) (s.device.bindImage image memory offset)
  | .bindBuffer buffer memory offset =>
    s.onDevice (fun _ => .done) (s.device.bindBuffer buffer memory offset)
  | .imageRequirements image extended =>
    s.onDevice Reply.requirements (s.device.imageRequirements image extended)
  | .bufferRequirements buffer => s.onDevice Reply.requirements (s.device.bufferRequirements buffer)
  | .subresourceLayout image subresource =>
    s.onDevice Reply.layout (s.device.subresourceLayout image subresource)
  | .beginCommandBuffer queue again usage => s.opening (s.device.beginCommandBuffer queue again usage)
  | .record key command =>
    match s.recorder? key with
    | none => s.quietly
    | some recorder =>
      let outcome := recorder.record s.device command
      ⟨s.setRecorder key outcome.state, outcome.diagnostics, outcome.result.map fun _ => .done⟩
  | .endCommandBuffer key =>
    match s.recorder? key with
    | none => s.quietly
    | some recorder => (s.closeRecorder key).creating (s.device.endCommandBuffer recorder)
  | .dropRecorder key => (s.closeRecorder key).quietly
  | .submit batches => s.onDevice (fun _ => .done) (s.device.submit batches)
  | .queueWait queue => (s.withDevice (s.device.queueWait queue)).quietly
  | .waitIdle queues => (s.withDevice (s.device.waitIdle queues)).quietly
  | .acquireImage swapchain => s.onDevice Reply.imageIndex (s.device.acquireImage swapchain)
  | .present images => s.onDevice (fun _ => .done) (s.device.present images)

/-- Whether a call makes submissions that the counters are too small for. -/
def submissionOverflows (s : Session) : Call → Bool
  | .submit batches => s.device.submitOverflows batches
  | _ => false

/-- Whether a call computes a number that does not fit its width, while it is validated or after it was
accepted. -/
def overflows (s : Session) (call : Call) : Bool :=
  match call.operation? with
  | some operation =>
    s.device.overflows operation || (s.device.accepts operation && call.resultOverflows)
  | none => s.submissionOverflows call

/-- The outcome of a call. There is none if a number does not fit its width. -/
def outcome? (s : Session) (call : Call) : Option (Outcome Session Reply) :=
  if s.overflows call then none else some (s.step call)

/-- The session after a sequence of calls. -/
def run (s : Session) (calls : List Call) : Session :=
  calls.foldl (fun s call => (s.step call).state) s

/-- The session of a new device, on which nothing is recorded. -/
def start (environment : Environment) (engine : Engine) : Session :=
  { device := { environment, engine } }

end Session

end VulkanValidity
