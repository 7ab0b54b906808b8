/-
  VulkanValidity.Handle

  Handles name the objects of a device. A raw handle packs the serial number of an object into its
  high 56 bits and the tag of the object's type into its low 8 bits, so that handles are ordered by
  serial first and by type second.
-/

import VulkanValidity.Named

namespace VulkanValidity

/-! ## Object types -/

/-- The types of objects that a device creates. -/
inductive ObjectType
  | image
  | imageView
  | buffer
  | deviceMemory
  | renderPass
  | framebuffer
  | commandBuffer
  | swapchain
deriving DecidableEq, Repr

namespace ObjectType

/-- Every object type, in tag order. -/
def all : List ObjectType :=
  [image, imageView, buffer, deviceMemory, renderPass, framebuffer, commandBuffer, swapchain]

/-- The number that ids encode a type by. -/
def tag : ObjectType → Nat
  | image => 0
  | imageView => 1
  | buffer => 2
  | deviceMemory => 3
  | renderPass => 4
  | framebuffer => 5
  | commandBuffer => 6
  | swapchain => 7

/-- The type that a tag marks; tags above 7 mark none. -/
def ofTag? : Nat → Option ObjectType
  | 0 => some image
  | 1 => some imageView
  | 2 => some buffer
  | 3 => some deviceMemory
  | 4 => some renderPass
  | 5 => some framebuffer
  | 6 => some commandBuffer
  | 7 => some swapchain
  | _ => none

@[simp] theorem ofTag?_tag (type : ObjectType) : ofTag? type.tag = some type := by
  cases type <;> rfl

theorem ofTag?_eq_some {tag : Nat} {type : ObjectType} : ofTag? tag = some type ↔ tag = type.tag := by
  constructor
  · intro h
    unfold ofTag? at h
    split at h <;> cases h <;> rfl
  · rintro rfl
    exact ofTag?_tag type

theorem tag_inj {type other : ObjectType} : type.tag = other.tag ↔ type = other := by
  rw [← ofTag?_eq_some, ofTag?_tag, Option.some.injEq]

/-- The name of a type. -/
def name : ObjectType → String
  | image => "Image"
  | imageView => "ImageView"
  | buffer => "Buffer"
  | deviceMemory => "DeviceMemory"
  | renderPass => "RenderPass"
  | framebuffer => "Framebuffer"
  | commandBuffer => "CommandBuffer"
  | swapchain => "Swapchain"

instance : Named ObjectType := ⟨all, name⟩

end ObjectType

/-! ## Handles of any type -/

/-- A handle to an object of a type that is only known from its tag. -/
structure ObjectId where
  /-- The serial times 256, plus the tag. -/
  raw : Nat
deriving DecidableEq, Repr

namespace ObjectId

/-- The number of values that a tag can take. -/
def tagFactor : Nat := 256

/-- The largest serial that fits beside a tag in 64 bits. -/
def maxSerial : Nat := 1 <<< 56 - 1

/-- The handle of the object with the given type and serial. Serials that do not fit stick at the
largest one, so that the tag stays intact. -/
def ofSerial (type : ObjectType) (serial : Nat) : ObjectId :=
  ⟨min serial maxSerial * tagFactor + type.tag⟩

/-- The serial number that an id encodes. -/
def serial (id : ObjectId) : Nat :=
  id.raw / tagFactor

/-- The number of the type that an id encodes. -/
def tag (id : ObjectId) : Nat :=
  id.raw % tagFactor

/-- The type of the object, if the tag marks one. -/
def type? (id : ObjectId) : Option ObjectType :=
  ObjectType.ofTag? id.tag

/-- Whether the id is one of an object of the type. -/
def isOf (id : ObjectId) (type : ObjectType) : Bool :=
  id.type? == some type

/-- Handles are ordered as their raw numbers are. -/
instance : Ord ObjectId := ⟨fun id other => compare id.raw other.raw⟩

theorem typeTag_lt (type : ObjectType) : type.tag < tagFactor := by
  cases type <;> decide

/-- The tag is what is left of the handle beside the multiples of the factor. -/
@[simp] theorem tag_ofSerial (type : ObjectType) (serial : Nat) : (ofSerial type serial).tag = type.tag := by
  rw [tag, ofSerial, Nat.mul_add_mod_of_lt (typeTag_lt type)]

@[simp] theorem serial_ofSerial (type : ObjectType) (serial : Nat) :
    (ofSerial type serial).serial = min serial maxSerial := by
  rw [ObjectId.serial, ofSerial, Nat.mul_comm, Nat.mul_add_div (by decide), Nat.div_eq_of_lt (typeTag_lt type),
    Nat.add_zero]

theorem serial_ofSerial_of_le (type : ObjectType) {serial : Nat} (h : serial ≤ maxSerial) :
    (ofSerial type serial).serial = serial := by
  rw [serial_ofSerial, Nat.min_eq_left h]

@[simp] theorem type?_ofSerial (type : ObjectType) (serial : Nat) :
    (ofSerial type serial).type? = some type := by
  rw [type?, tag_ofSerial, ObjectType.ofTag?_tag]

theorem isOf_ofSerial (type : ObjectType) (serial : Nat) : (ofSerial type serial).isOf type = true := by
  rw [isOf, type?_ofSerial, beq_self_eq_true]

/-- The text of a handle, for instance `Image#3`. -/
def text (id : ObjectId) : String :=
  match id.type? with
  | some type => s!"{type.name}#{id.serial}"
  | none => s!"Unknown({id.tag})#{id.serial}"

instance : ToString ObjectId := ⟨text⟩

end ObjectId

/-! ## Handles of a known type -/

/-- A handle to an object of type `t`, which is tagged so. -/
structure Handle (t : ObjectType) where
  /-- The serial times 256, plus the tag. -/
  raw : Nat
  isTyped : (ObjectId.mk raw).isOf t = true
deriving DecidableEq, Repr

namespace Handle

variable {t : ObjectType}

/-- The handle of the object of type `t` with the given serial. -/
def ofSerial (t : ObjectType) (serial : Nat) : Handle t :=
  ⟨(ObjectId.ofSerial t serial).raw, ObjectId.isOf_ofSerial t serial⟩

/-- The id of an object, without its type. -/
def erase (handle : Handle t) : ObjectId :=
  ⟨handle.raw⟩

theorem isOf_erase (handle : Handle t) : handle.erase.isOf t = true := handle.isTyped

theorem type?_erase (handle : Handle t) : handle.erase.type? = some t :=
  beq_iff_eq.mp handle.isTyped

theorem erase_inj {a b : Handle t} : a.erase = b.erase ↔ a = b := by
  cases a
  cases b
  simp [erase]

/-- The text of a handle, for instance `Image#3`. -/
def text (handle : Handle t) : String :=
  handle.erase.text

instance : ToString (Handle t) := ⟨text⟩

end Handle

namespace ObjectId

/-- The handle as a handle to an object of type `t`, if it is tagged so. -/
def downcast? (id : ObjectId) (t : ObjectType) : Option (Handle t) :=
  if h : id.isOf t = true then some ⟨id.raw, h⟩ else none

theorem downcast?_eq_some {id : ObjectId} {t : ObjectType} {handle : Handle t} :
    id.downcast? t = some handle ↔ id = handle.erase := by
  constructor
  · intro h
    rw [downcast?] at h
    split at h
    · rw [← Option.some.inj h]
      rfl
    · cases h
  · intro h
    subst h
    exact dif_pos handle.isTyped

@[simp] theorem downcast?_erase {t : ObjectType} (handle : Handle t) :
    handle.erase.downcast? t = some handle :=
  downcast?_eq_some.mpr rfl

end ObjectId

/-! ## Resources -/

/-- A resource: an object that memory is bound to and whose contents are tracked. -/
inductive Resource
  | image (handle : Handle .image)
  | buffer (handle : Handle .buffer)
deriving DecidableEq, Repr

namespace Resource

/-- The id of a resource. -/
def id : Resource → ObjectId
  | image handle => handle.erase
  | buffer handle => handle.erase

/-- Whether the resource is an image. -/
def isImage : Resource → Bool
  | image _ => true
  | buffer _ => false

end Resource

end VulkanValidity
