/-
  VulkanValidity.Registry

  The registry of the objects of a device. Objects of each type are kept in a store of their own, by
  handle. Serials are handed out in order and never again, so that a handle whose object was
  destroyed can be told from one that never existed. Every change of the registry is an event in its
  change feed. Beside the objects the registry knows which of them are in use by the device, which
  external formats exist, and which file descriptors lead to memory.
-/

import VulkanValidity.CommandBuffer
import VulkanValidity.Swapchain
import VulkanValidity.UseTable

namespace VulkanValidity

/-! ## Stores -/

/-- The objects of one type that are alive, in the order of their creation. -/
structure Store (t : ObjectType) (α : Type) where
  entries : List (Handle t × α)
deriving Repr

namespace Store

variable {t : ObjectType} {α : Type}

/-- The store without objects. -/
def empty : Store t α := ⟨[]⟩

/-- The object with the given handle, if it is alive. -/
def get? (s : Store t α) (handle : Handle t) : Option α := s.entries.lookup handle

/-- Whether the store has an object with the handle. -/
def contains (s : Store t α) (handle : Handle t) : Bool := (s.get? handle).isSome

/-- The handles of the objects, in the order in which they were added. -/
def handles (s : Store t α) : List (Handle t) := s.entries.map Prod.fst

/-- The number of objects. -/
def size (s : Store t α) : Nat := s.entries.length

/-- Adds an object under a new handle. -/
def insert (s : Store t α) (handle : Handle t) (object : α) : Store t α :=
  ⟨s.entries ++ [(handle, object)]⟩

/-- Removes the object with the handle. -/
def erase (s : Store t α) (handle : Handle t) : Store t α :=
  ⟨s.entries.filter fun entry => entry.1 != handle⟩

/-- Changes the object with the given handle, if it is alive. -/
def modify (s : Store t α) (handle : Handle t) (f : α → α) : Store t α :=
  ⟨s.entries.map fun entry => if entry.1 = handle then (entry.1, f entry.2) else entry⟩

end Store

/-- The type of the objects that handles of type `t` name. -/
abbrev ObjectType.Object : ObjectType → Type
  | .image => Image
  | .imageView => ImageView
  | .buffer => Buffer
  | .deviceMemory => DeviceMemory
  | .renderPass => RenderPassInfo
  | .framebuffer => Framebuffer
  | .commandBuffer => CommandBuffer
  | .swapchain => Swapchain

/-! ## The change feed -/

/-- The kinds of changes of an object. -/
inductive ObjectChange
  | created
  | destroyed
  | bound
  | submitted
  | retired
deriving DecidableEq, Repr

/-- The name of a kind of changes. -/
def ObjectChange.name : ObjectChange → String
  | created => "Created"
  | destroyed => "Destroyed"
  | bound => "Bound"
  | submitted => "Submitted"
  | retired => "Retired"

/-- An entry of the change feed. Entries are numbered from 1. -/
structure Event where
  sequence : Nat
  id : ObjectId
  change : ObjectChange
deriving DecidableEq, Repr

/-- The text of an event. -/
def Event.text (event : Event) : String := s!"{event.sequence} {event.id} {event.change.name}"

/-! ## The registry -/

/-- The objects of a device, and what is known about them. -/
structure Registry where
  nextSerial : Nat := 1
  images : Store .image Image := .empty
  imageViews : Store .imageView ImageView := .empty
  buffers : Store .buffer Buffer := .empty
  memories : Store .deviceMemory DeviceMemory := .empty
  renderPasses : Store .renderPass RenderPassInfo := .empty
  framebuffers : Store .framebuffer Framebuffer := .empty
  commandBuffers : Store .commandBuffer CommandBuffer := .empty
  swapchains : Store .swapchain Swapchain := .empty
  /-- The handles of destroyed objects. -/
  tombstones : List ObjectId := []
  /-- The change feed, oldest entry first. -/
  feed : List Event := []
  /-- How often pending submissions use the objects. -/
  uses : UseTable := .empty
  /-- The external formats that hardware buffers were found to have. -/
  externalFormats : List Nat := []
  /-- The file descriptors that were exported and not imported yet. -/
  exported : List (Int × ExportedMemory) := []
  /-- The next file descriptor; the ones below 3 belong to the standard streams. -/
  nextDescriptor : Int := 3

namespace Registry

/-- The store of the objects of type `t`. -/
def store (r : Registry) : (t : ObjectType) → Store t t.Object
  | .image => r.images
  | .imageView => r.imageViews
  | .buffer => r.buffers
  | .deviceMemory => r.memories
  | .renderPass => r.renderPasses
  | .framebuffer => r.framebuffers
  | .commandBuffer => r.commandBuffers
  | .swapchain => r.swapchains

/-- The registry with another store for the objects of a type. -/
def setStore (r : Registry) : (t : ObjectType) → Store t t.Object → Registry
  | .image, s => { r with images := s }
  | .imageView, s => { r with imageViews := s }
  | .buffer, s => { r with buffers := s }
  | .deviceMemory, s => { r with memories := s }
  | .renderPass, s => { r with renderPasses := s }
  | .framebuffer, s => { r with framebuffers := s }
  | .commandBuffer, s => { r with commandBuffers := s }
  | .swapchain, s => { r with swapchains := s }

/-! ### Looking up -/

/-- The object with the given handle, if it is alive. -/
def get? {t : ObjectType} (r : Registry) (handle : Handle t) : Option t.Object :=
  (r.store t).get? handle

/-- The object with the given handle, which has to be alive. -/
def get {t : ObjectType} (r : Registry) (handle : Handle t) : Except Error t.Object :=
  match r.get? handle with
  | some object => .ok object
  | none => .error (.notFound handle.erase)

/-- Whether an object with the id is alive. -/
def contains (r : Registry) (id : ObjectId) : Bool :=
  match id.type? with
  | some t => (id.downcast? t).any fun handle => (r.store t).contains handle
  | none => false

/-- Whether an object existed and was destroyed. -/
def isDestroyed (r : Registry) (id : ObjectId) : Bool := r.tombstones.contains id

/-- Whether a handle was ever handed out. -/
def isKnown (r : Registry) (id : ObjectId) : Bool := r.contains id || r.isDestroyed id

/-- Whether a pending submission uses an object. -/
def isInFlight (r : Registry) (id : ObjectId) : Bool := r.uses.contains id

/-- Whether an external format was found on a hardware buffer. -/
def knowsExternalFormat (r : Registry) (format : Nat) : Bool := r.externalFormats.contains format

/-- The memory that a file descriptor leads to, if it was exported and not imported yet. -/
def exportedMemory? (r : Registry) (fd : Int) : Option ExportedMemory := r.exported.lookup fd

/-- The events after a cursor, and the cursor for the next call. -/
def changesSince (r : Registry) (cursor : Nat) : List Event × Nat :=
  (r.feed.drop cursor, r.feed.length)

/-! ### Changing -/

/-- Appends an event to the change feed, with the next number. -/
def record (r : Registry) (id : ObjectId) (change : ObjectChange) : Registry :=
  { r with feed := r.feed ++ [⟨r.feed.length + 1, id, change⟩] }

/-- Takes the next serial for an object of type `t`. -/
def reserve (r : Registry) (t : ObjectType) : Handle t × Registry :=
  (.ofSerial t r.nextSerial, { r with nextSerial := r.nextSerial + 1 })

/-- Adds an object under a handle that was reserved for it. -/
def add {t : ObjectType} (r : Registry) (handle : Handle t) (object : t.Object) : Registry :=
  (r.setStore t ((r.store t).insert handle object)).record handle.erase .created

/-- Adds an object under a handle that is reserved for it. -/
def insert (r : Registry) (t : ObjectType) (object : t.Object) : Handle t × Registry :=
  let (handle, reserved) := r.reserve t
  (handle, reserved.add handle object)

/-- Removes an object, if it is alive, and remembers its handle. -/
def remove {t : ObjectType} (r : Registry) (handle : Handle t) : Registry :=
  if (r.store t).contains handle then
    ({ r.setStore t ((r.store t).erase handle) with
        tombstones := handle.erase :: r.tombstones }).record handle.erase .destroyed
  else r

/-- Changes an object, if it is alive. -/
def modify {t : ObjectType} (r : Registry) (handle : Handle t) (f : t.Object → t.Object) : Registry :=
  r.setStore t ((r.store t).modify handle f)

/-- Notes one more use of each of the objects. -/
def pin (r : Registry) (ids : List ObjectId) : Registry :=
  { r with uses := r.uses.addAll ids }

/-- Takes back one use of each of the objects. -/
def unpin (r : Registry) (ids : List ObjectId) : Registry :=
  { r with uses := r.uses.removeAll ids }

/-- Whether the counters of uses and of pending submissions all fit their 32 bits. -/
def countsFit (r : Registry) : Bool :=
  r.uses.fits && r.commandBuffers.handles.all fun handle =>
    (r.commandBuffers.get? handle).all CommandBuffer.countFits

/-- Notes an external format that a hardware buffer has. -/
def addExternalFormat (r : Registry) (format : Nat) : Registry :=
  { r with externalFormats := if r.knowsExternalFormat format then r.externalFormats
      else r.externalFormats ++ [format] }

/-- Uses up a file descriptor. -/
def takeDescriptor (r : Registry) (fd : Int) : Registry :=
  { r with exported := r.exported.filter fun entry => entry.1 != fd }

/-- Makes a new file descriptor that leads to an allocation. File descriptors have 32 bits with a sign,
and after the last one their numbers start over from the lowest. -/
def exportMemory (r : Registry) (handle : Handle .deviceMemory) (memory : DeviceMemory) :
    Int × Registry :=
  let fd := r.nextDescriptor
  (fd,
    { r with
      exported := (r.takeDescriptor fd).exported ++ [(fd, ⟨handle, memory.size, memory.memoryType⟩)]
      nextDescriptor := (fd + 1).bmod 0x100000000 })

/-! ### Tracked states -/

/-- The tracked states of a resource, if it is alive. -/
def states? (r : Registry) : Resource → Option (RangeMap SubresourceState)
  | .image handle => (r.images.get? handle).map Image.states
  | .buffer handle => (r.buffers.get? handle).map Buffer.states

/-- The sharing mode of a resource, if it is alive. -/
def sharing? (r : Registry) : Resource → Option Sharing
  | .image handle => (r.images.get? handle).map fun image => image.info.sharing
  | .buffer handle => (r.buffers.get? handle).map fun buffer => buffer.info.sharing

/-- Replaces the tracked states of a resource, if it is alive. -/
def setStates (r : Registry) (resource : Resource) (states : RangeMap SubresourceState) : Registry :=
  match resource with
  | .image handle => { r with images := r.images.modify handle fun image =>
      { image with states := states } }
  | .buffer handle => { r with buffers := r.buffers.modify handle fun buffer =>
      { buffer with states := states } }

/-- The allocation that is bound to an object, if it is a resource with memory from one. -/
def boundMemory? (r : Registry) (id : ObjectId) : Option (Handle .deviceMemory) :=
  match id.downcast? .image, id.downcast? .buffer with
  | some image, _ => ((r.images.get? image).bind Image.binding?).map MemoryBinding.memory
  | none, some buffer => ((r.buffers.get? buffer).bind Buffer.memory).map MemoryBinding.memory
  | none, none => none

/-! ### Summary -/

/-- The number of live objects of each type, with the names of the stores. -/
def sizes (r : Registry) : List (String × Nat) :=
  [("images", r.images.size), ("image_views", r.imageViews.size), ("buffers", r.buffers.size),
    ("memories", r.memories.size), ("render_passes", r.renderPasses.size),
    ("framebuffers", r.framebuffers.size), ("command_buffers", r.commandBuffers.size),
    ("swapchains", r.swapchains.size)]

/-- The text of a registry: the number of live objects of each type. -/
def text (r : Registry) : String :=
  let stores := r.sizes.map fun (name, size) =>
    name ++ ": Storage \x7b len: " ++ toString size ++ ", .. \x7d"
  "Resources \x7b " ++ ", ".intercalate stores ++ ", .. \x7d"

end Registry

end VulkanValidity
