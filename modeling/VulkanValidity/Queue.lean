/-
  VulkanValidity.Queue

  Queues and queue families: how a resource is shared between families, and the transfers that hand
  an exclusively shared resource from one family to another or to the outside of the device.
-/

import VulkanValidity.Named

namespace VulkanValidity

/-- A queue, by its family and its index within the family. -/
structure Queue where
  family : Nat
  index : Nat
deriving DecidableEq, Repr

/-! ## Special families -/

namespace QueueFamily

/-- The family that stands for the families of a concurrently shared resource. -/
def ignored : Nat := 1 <<< 32 - 1

/-- The family of queues outside of the device's instance, on the same underlying device. -/
def external : Nat := 1 <<< 32 - 2

/-- The family of queues of another device. -/
def foreign : Nat := 1 <<< 32 - 3

/-- Whether the family lies outside of the device. -/
def isOutside (family : Nat) : Bool :=
  family == external || family == foreign

end QueueFamily

/-! ## Sharing -/

/-- In which queue families a resource can be used. -/
inductive Sharing
  /-- In one family at a time. -/
  | exclusive
  /-- In all of the listed families at the same time. -/
  | concurrent (families : List Nat)
deriving DecidableEq, Repr

namespace Sharing

/-- Whether a family can use the resource without an ownership transfer. -/
def allows (sharing : Sharing) (family : Nat) : Bool :=
  match sharing with
  -- The ownership of an exclusive resource is tracked apart from this.
  | exclusive => true
  | concurrent families => families.contains family

/-- Whether a single queue family owns the resource at a time. -/
def isExclusive : Sharing → Bool
  | exclusive => true
  | concurrent _ => false

/-- The text of a sharing mode. -/
def text : Sharing → String
  | exclusive => "Exclusive"
  | concurrent families => s!"Concurrent({bracketed (families.map toString)})"

end Sharing

/-! ## Ownership transfers -/

/-- A transfer of the ownership of a resource between queue families. -/
inductive OwnershipTransfer
  | exclusiveBetweenLocal (src dst : Nat)
  | exclusiveToExternal (src : Nat)
  | exclusiveFromExternal (dst : Nat)
  | exclusiveToForeign (src : Nat)
  | exclusiveFromForeign (dst : Nat)
  | concurrentToExternal
  | concurrentFromExternal
  | concurrentToForeign
  | concurrentFromForeign
deriving DecidableEq, Repr

namespace OwnershipTransfer

/-- The source and the destination family of a transfer. -/
def families : OwnershipTransfer → Nat × Nat
  | exclusiveBetweenLocal src dst => (src, dst)
  | exclusiveToExternal src => (src, QueueFamily.external)
  | exclusiveFromExternal dst => (QueueFamily.external, dst)
  | exclusiveToForeign src => (src, QueueFamily.foreign)
  | exclusiveFromForeign dst => (QueueFamily.foreign, dst)
  | concurrentToExternal => (QueueFamily.ignored, QueueFamily.external)
  | concurrentFromExternal => (QueueFamily.external, QueueFamily.ignored)
  | concurrentToForeign => (QueueFamily.ignored, QueueFamily.foreign)
  | concurrentFromForeign => (QueueFamily.foreign, QueueFamily.ignored)

/-- Whether the transfer is meant for an exclusively shared resource. -/
def isExclusive : OwnershipTransfer → Bool
  | exclusiveBetweenLocal _ _ | exclusiveToExternal _ | exclusiveFromExternal _
  | exclusiveToForeign _ | exclusiveFromForeign _ => true
  | concurrentToExternal | concurrentFromExternal | concurrentToForeign
  | concurrentFromForeign => false

/-- The families of the device that the transfer names. -/
def localFamilies : OwnershipTransfer → List Nat
  | exclusiveBetweenLocal src dst => [src, dst]
  | exclusiveToExternal src | exclusiveToForeign src => [src]
  | exclusiveFromExternal dst | exclusiveFromForeign dst => [dst]
  | concurrentToExternal | concurrentFromExternal | concurrentToForeign
  | concurrentFromForeign => []

/-- The name of the form of a transfer, without the families in it. -/
def form : OwnershipTransfer → String
  | exclusiveBetweenLocal _ _ => "ExclusiveBetweenLocal"
  | exclusiveToExternal _ => "ExclusiveToExternal"
  | exclusiveFromExternal _ => "ExclusiveFromExternal"
  | exclusiveToForeign _ => "ExclusiveToForeign"
  | exclusiveFromForeign _ => "ExclusiveFromForeign"
  | concurrentToExternal => "ConcurrentToExternal"
  | concurrentFromExternal => "ConcurrentFromExternal"
  | concurrentToForeign => "ConcurrentToForeign"
  | concurrentFromForeign => "ConcurrentFromForeign"

/-- The fields of a transfer, as its text writes them. -/
def fields : OwnershipTransfer → List String
  | exclusiveBetweenLocal src dst => [s!"src_index: {src}", s!"dst_index: {dst}"]
  | exclusiveToExternal src | exclusiveToForeign src => [s!"src_index: {src}"]
  | exclusiveFromExternal dst | exclusiveFromForeign dst => [s!"dst_index: {dst}"]
  | concurrentToExternal | concurrentFromExternal | concurrentToForeign
  | concurrentFromForeign => []

/-- The text of a transfer: its form and, between braces, the families that it names. -/
def text (transfer : OwnershipTransfer) : String :=
  match transfer.fields with
  | [] => transfer.form
  | fields => transfer.form ++ " \x7b " ++ ", ".intercalate fields ++ " \x7d"

/-- The transfer of the given form, with the families that the form names. -/
def ofForm? (form : String) (src dst : Nat) : Option OwnershipTransfer :=
  [exclusiveBetweenLocal src dst, exclusiveToExternal src, exclusiveFromExternal dst,
    exclusiveToForeign src, exclusiveFromForeign dst, concurrentToExternal,
    concurrentFromExternal, concurrentToForeign, concurrentFromForeign].find?
      fun transfer => transfer.form == form

end OwnershipTransfer

end VulkanValidity
