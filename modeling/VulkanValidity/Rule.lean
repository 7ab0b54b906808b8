/-
  VulkanValidity.Rule

  Rules of valid usage. Before a device performs an operation, it builds a context that shows the
  operation and the state of the device to the rules. A rule is a predicate on contexts with the
  identifier, the kind and the severity of the diagnostics that its violations become. The engine of
  a device evaluates the rules for the checkpoint of the operation, in the order of registration.
-/

import VulkanValidity.Submission

namespace VulkanValidity

/-! ## Operations -/

/-- The points in the life of an operation at which rules are evaluated. -/
inductive Checkpoint
  /-- Objects are created, allocated, bound, queried or destroyed. -/
  | resourceCreation
  /-- Commands are recorded. -/
  | commandRecording
  /-- Command buffers are submitted. -/
  | submission
  /-- Images are acquired and presented. -/
  | presentation
deriving DecidableEq, Repr

namespace Checkpoint

/-- The name of a checkpoint. -/
def name : Checkpoint → String
  | resourceCreation => "ResourceCreation"
  | commandRecording => "CommandRecording"
  | submission => "Submission"
  | presentation => "Presentation"

instance : Named Checkpoint :=
  ⟨[resourceCreation, commandRecording, submission, presentation], name⟩

end Checkpoint

/-- The operations that a device validates. -/
inductive Operation
  | createImage (info : ImageInfo)
  | createImageView (info : ImageViewInfo)
  | createBuffer (info : BufferInfo)
  | allocateMemory (info : AllocationInfo)
  | exportMemory (memory : Handle .deviceMemory) (handleType : ExternalHandleTypes)
  | queryHardwareBuffer (buffer : HardwareBuffer)
  | createRenderPass (info : RenderPassInfo)
  | createFramebuffer (info : FramebufferInfo)
  | createSwapchain (info : SwapchainInfo)
  | destroy (id : ObjectId)
  | bindImage (image : Handle .image) (memory : Handle .deviceMemory) (offset : Nat)
  | bindBuffer (buffer : Handle .buffer) (memory : Handle .deviceMemory) (offset : Nat)
  /-- The requirements of an image, by the plain or by the extended query. -/
  | queryImageRequirements (image : Handle .image) (extended : Bool)
  | querySubresourceLayout (image : Handle .image) (subresource : Subresource)
  | beginCommandBuffer (queue : Queue) (again : Option (Handle .commandBuffer))
  | endCommandBuffer
  | record (command : Command)
  /-- A whole submission, before any of its command buffers. -/
  | submitBatches (batches : List SubmitBatch)
  /-- The submission of a single command buffer. -/
  | submit (queue : Queue) (commandBuffer : Handle .commandBuffer)
  | acquireImage (swapchain : Handle .swapchain)
  | present (images : List PresentedImage)
deriving DecidableEq, Repr

/-- The objects that a command names directly. -/
def Command.objects : Command → List ObjectId
  | .barrier dependency =>
    dependency.imageBarriers.map (fun barrier => barrier.image.erase)
      ++ dependency.bufferBarriers.map (fun barrier => barrier.buffer.erase)
  | .beginRenderPass info =>
    info.renderPass.erase :: info.framebuffer.erase :: info.views.map Handle.erase
  | .endRenderPass => []
  | .clear info => [info.image.erase]
  | .copy info => [info.buffer.erase, info.image.erase]
  | .fill buffer _ => [buffer.erase]

namespace Operation

/-- The checkpoint at which the rules for an operation are evaluated. -/
def checkpoint : Operation → Checkpoint
  | createImage _ | createImageView _ | createBuffer _ | allocateMemory _ | exportMemory _ _
  | queryHardwareBuffer _ | createRenderPass _ | createFramebuffer _ | createSwapchain _
  | destroy _ | bindImage _ _ _ | bindBuffer _ _ _ | queryImageRequirements _ _
  | querySubresourceLayout _ _ => .resourceCreation
  | beginCommandBuffer _ _ | endCommandBuffer | record _ => .commandRecording
  | submitBatches _ | submit _ _ => .submission
  | acquireImage _ | present _ => .presentation

/-- The objects that an operation names directly. What is only reached through another object is
not among them. -/
def objects : Operation → List ObjectId
  | createImage _ | createBuffer _ | queryHardwareBuffer _ | createRenderPass _
  | createSwapchain _ | endCommandBuffer | submit _ _ => []
  | createImageView info => [info.image.erase]
  | allocateMemory info => info.dedicated.toList.map Resource.id
  | exportMemory memory _ => [memory.erase]
  | createFramebuffer info =>
    info.renderPass.erase ::
      match info.attachments with
      | .views handles => handles.map Handle.erase
      | .imageless _ => []
  | destroy id => [id]
  | bindImage image memory _ => [image.erase, memory.erase]
  | bindBuffer buffer memory _ => [buffer.erase, memory.erase]
  | queryImageRequirements image _ => [image.erase]
  | querySubresourceLayout image _ => [image.erase]
  | beginCommandBuffer _ again => again.toList.map Handle.erase
  | record command => command.objects
  | submitBatches batches => (batches.flatMap SubmitBatch.commandBuffers).map Handle.erase
  | acquireImage swapchain => [swapchain.erase]
  | present images => images.map fun image => image.swapchain.erase

end Operation

/-! ## Contexts and violations -/

/-- What rules look at: the state before an operation, and the operation. -/
structure Context where
  registry : Registry
  environment : Environment
  operation : Operation
  /-- The recording that a command is added to. -/
  recording : Option Recording := none
  /-- The submission of a single command buffer. -/
  submission : Option SubmissionContext := none

/-- What is wrong in the eyes of a rule. -/
structure Violation where
  message : String
  objects : List ObjectId
deriving DecidableEq, Repr

/-- The violation with the given message and objects, if the condition holds. -/
def violationIf (condition : Bool) (message : String) (objects : List ObjectId) : List Violation :=
  if condition then [⟨message, objects⟩] else []

/-- A check gives the violations in a context. -/
abbrev Check := Context → List Violation

/-- What a rule evaluates. Checks calculate with exact numbers; where these stand for numbers of a
fixed width, the predicate also says when one of them does not fit. -/
structure Predicate where
  check : Check
  /-- Whether the check computes a number in the context that does not fit its width. -/
  overflows : Context → Bool := fun _ => false

instance : Coe Check Predicate := ⟨fun check => { check }⟩

/-! ## Rules and engines -/

/-- A rule: what it checks, and how what it finds is reported. -/
structure Rule where
  name : String
  /-- The identifier that the diagnostics of the rule carry. -/
  vuid : String
  kind : ErrorKind := .invalidParams
  severity : Severity := .error
  /-- The checkpoint at which the rule is evaluated; none stands for all of them. -/
  checkpoint : Option Checkpoint := none
  predicate : Predicate

namespace Rule

/-- Whether the rule is evaluated at a checkpoint. -/
def appliesTo (rule : Rule) (checkpoint : Checkpoint) : Bool :=
  match rule.checkpoint with
  | none => true
  | some own => own == checkpoint

/-- The diagnostic that a violation of the rule becomes. -/
def diagnostic (rule : Rule) (violation : Violation) : Diagnostic :=
  ⟨rule.vuid, rule.kind, rule.severity, violation.message, violation.objects⟩

/-- The diagnostics of the rule in a context. -/
def diagnostics (rule : Rule) (ctx : Context) : List Diagnostic :=
  (rule.predicate.check ctx).map rule.diagnostic

end Rule

/-- The error of a registration under a name that is taken. -/
structure DuplicateRule where
  name : String
deriving DecidableEq, Repr

/-- The text of the error. -/
def DuplicateRule.text (e : DuplicateRule) : String :=
  s!"a rule named `{e.name}` is already registered"

/-- The rules of a device, in the order in which they are evaluated. -/
structure Engine where
  rules : List Rule := []

namespace Engine

/-- The names of the rules. -/
def names (engine : Engine) : List String := engine.rules.map Rule.name

/-- Adds a rule after the ones that are there, unless there is one of the same name. -/
def register (engine : Engine) (rule : Rule) : Except DuplicateRule Engine :=
  if engine.names.contains rule.name then .error ⟨rule.name⟩
  else .ok ⟨engine.rules ++ [rule]⟩

/-- The rule with the given name, if there is one. -/
def rule? (engine : Engine) (name : String) : Option Rule :=
  engine.rules.find? fun rule => rule.name == name

/-- The rules that are evaluated in a context: those for the checkpoint of its operation. -/
def applicable (engine : Engine) (ctx : Context) : List Rule :=
  engine.rules.filter fun rule => rule.appliesTo ctx.operation.checkpoint

/-- The diagnostics of the rules that apply, in the order of the rules. -/
def evaluate (engine : Engine) (ctx : Context) : List Diagnostic :=
  (engine.applicable ctx).flatMap fun rule => rule.diagnostics ctx

/-- Whether a check of an applicable rule computes a number that does not fit its width. -/
def overflows (engine : Engine) (ctx : Context) : Bool :=
  (engine.applicable ctx).any fun rule => rule.predicate.overflows ctx

end Engine

/-! ## Names of predicates -/

/-- Predicates by their names, of which the first counts. -/
abbrev PredicateTable := List (String × Predicate)

/-- The predicate with the given name, if there is one. -/
def PredicateTable.find? (table : PredicateTable) (name : String) : Option Predicate :=
  List.lookup name table

end VulkanValidity
