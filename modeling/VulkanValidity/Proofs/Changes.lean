/-
  VulkanValidity.Proofs.Changes

  How a registry changes.  Whatever a device does to its registry is made of a few small changes
  (`Registry.Change`): a handle is reserved, an object is added under it, an object is changed, bound to
  memory or removed, a submission is noted, or something changes that is neither an object nor an event.
  A handle is reserved before its object is added, and other objects can be added in between; the handles
  that are reserved and not yet in use go along with the registry, the latest one first.
-/

import Mathlib.Logic.Relation
import VulkanValidity.Proofs.Objects

namespace VulkanValidity

/-- The memory that is bound to an object. Only images and buffers are bound to memory, and an image of a
swapchain is not. -/
def ObjectType.binding? : (t : ObjectType) → t.Object → Option MemoryBinding
  | .image, object => Image.binding? object
  | .buffer, object => Buffer.memory object
  | _, _ => none

namespace Registry

/-- The registries hold the same objects, and have seen the same events. -/
structure SameRecords (r r' : Registry) : Prop where
  store : ∀ t, r'.store t = r.store t
  tombstones : r'.tombstones = r.tombstones
  nextSerial : r'.nextSerial = r.nextSerial
  feed : r'.feed = r.feed

theorem SameRecords.refl (r : Registry) : r.SameRecords r := ⟨fun _ => rfl, rfl, rfl, rfl⟩

theorem SameRecords.get?_eq {r r' : Registry} (h : r.SameRecords r') {t : ObjectType}
    (handle : Handle t) : r'.get? handle = r.get? handle := by
  rw [get?, h.store, get?]

theorem SameRecords.sameObjects {r r' : Registry} (h : r.SameRecords r') (huses : r'.uses = r.uses) :
    r.SameObjects r' :=
  ⟨h.store, h.tombstones, huses⟩

/-- A small change of a registry, with the handles that are reserved before and after it. -/
inductive Change : List ObjectId × Registry → List ObjectId × Registry → Prop
  /-- Something changes that is neither an object nor an event. -/
  | aside {reserved : List ObjectId} {r r' : Registry} (h : r.SameRecords r') :
    Change (reserved, r) (reserved, r')
  /-- A handle is reserved, if none of its type is. -/
  | reserve {reserved : List ObjectId} {r : Registry} (t : ObjectType)
      (hnew : ∀ id ∈ reserved, id.type? ≠ some t) :
    Change (reserved, r) ((r.reserve t).1.erase :: reserved, (r.reserve t).2)
  /-- An object without memory is added under the handle that was reserved last. -/
  | add {reserved : List ObjectId} {r : Registry} {t : ObjectType} (handle : Handle t)
      {object : t.Object} (hunbound : t.binding? object = none) :
    Change (handle.erase :: reserved, r) (reserved, r.add handle object)
  /-- An object is changed, and keeps its memory. -/
  | modify {reserved : List ObjectId} {r : Registry} {t : ObjectType} (handle : Handle t)
      {f : t.Object → t.Object} (hbinding : ∀ object, t.binding? (f object) = t.binding? object) :
    Change (reserved, r) (reserved, r.modify handle f)
  /-- An object without memory is bound to memory. -/
  | bind {reserved : List ObjectId} {r : Registry} {t : ObjectType} {handle : Handle t}
      {object : t.Object} {f : t.Object → t.Object} (hget : r.get? handle = some object)
      (hunbound : t.binding? object = none) (hbound : (t.binding? (f object)).isSome = true) :
    Change (reserved, r) (reserved, (r.modify handle f).record handle.erase .bound)
  | remove {reserved : List ObjectId} {r : Registry} {t : ObjectType} (handle : Handle t) :
    Change (reserved, r) (reserved, r.remove handle)
  /-- The submission of a command buffer is noted, or its completion. -/
  | note {reserved : List ObjectId} {r : Registry} (id : ObjectId) {change : ObjectChange}
      (hchange : change = .submitted ∨ change = .retired) :
    Change (reserved, r) (reserved, r.record id change)

/-- A registry goes on by small changes. -/
abbrev Changes : List ObjectId × Registry → List ObjectId × Registry → Prop :=
  Relation.ReflTransGen Change

/-- What every small change keeps is kept. -/
theorem Changes.keeps {P : List ObjectId → Registry → Prop}
    (hP : ∀ before after, Change before after → P before.1 before.2 → P after.1 after.2)
    {before after : List ObjectId × Registry} (h : Changes before after)
    (hbefore : P before.1 before.2) : P after.1 after.2 := by
  induction h with
  | refl => exact hbefore
  | tail _ hlast ih => exact hP _ _ hlast ih

/-- A fold goes on by small changes if each of its steps does. -/
theorem changes_foldl {α : Type} {reserved : List ObjectId} {f : Registry → α → Registry}
    (h : ∀ r a, Changes (reserved, r) (reserved, f r a)) (l : List α) (r : Registry) :
    Changes (reserved, r) (reserved, l.foldl f r) := by
  refine List.foldlRecOn (motive := fun after => Changes (reserved, r) (reserved, after)) l f .refl
    fun before hbefore a _ => ?_
  exact hbefore.trans (h before a)

/-! ## The change feed -/

@[simp] theorem feed_setStore (r : Registry) (t : ObjectType) (s : Store t t.Object) :
    (r.setStore t s).feed = r.feed := by
  cases t <;> rfl

@[simp] theorem nextSerial_setStore (r : Registry) (t : ObjectType) (s : Store t t.Object) :
    (r.setStore t s).nextSerial = r.nextSerial := by
  cases t <;> rfl

section Feed

variable {t : ObjectType} (r : Registry) (handle : Handle t)

@[simp] theorem feed_modify (f : t.Object → t.Object) : (r.modify handle f).feed = r.feed :=
  feed_setStore r t _

@[simp] theorem nextSerial_modify (f : t.Object → t.Object) :
    (r.modify handle f).nextSerial = r.nextSerial :=
  nextSerial_setStore r t _

theorem feed_add (object : t.Object) :
    (r.add handle object).feed = r.feed ++ [⟨r.feed.length + 1, handle.erase, .created⟩] := by
  rw [add, record, feed_setStore]

@[simp] theorem nextSerial_add (object : t.Object) :
    (r.add handle object).nextSerial = r.nextSerial :=
  nextSerial_setStore r t _

theorem feed_record_modify (f : t.Object → t.Object) (id : ObjectId) (change : ObjectChange) :
    ((r.modify handle f).record id change).feed
      = r.feed ++ [⟨r.feed.length + 1, id, change⟩] := by
  simp only [record, feed_modify]

theorem contains_store : (r.store t).contains handle = r.contains handle.erase :=
  (r.contains_erase handle).symm

/-- A removal of what is not alive does nothing. -/
theorem remove_of_not_contains (h : r.contains handle.erase = false) : r.remove handle = r := by
  rw [← contains_store] at h
  exact if_neg (Bool.eq_false_iff.mp h)

/-- A removal is an event, and leaves the handle of the object behind. -/
theorem feed_remove (h : r.contains handle.erase = true) :
    (r.remove handle).feed = r.feed ++ [⟨r.feed.length + 1, handle.erase, .destroyed⟩] := by
  rw [← contains_store] at h
  rw [remove, if_pos h]
  simp only [record, feed_setStore]

theorem tombstones_remove (h : r.contains handle.erase = true) :
    (r.remove handle).tombstones = handle.erase :: r.tombstones := by
  rw [← contains_store] at h
  rw [remove, if_pos h]
  rfl

@[simp] theorem nextSerial_remove : (r.remove handle).nextSerial = r.nextSerial := by
  rw [remove]
  split
  · exact nextSerial_setStore r t _
  · rfl

end Feed

/-- A change is at most one event, which is appended to the feed with the next number. -/
theorem Change.feed_cases {before after : List ObjectId × Registry} (h : Change before after) :
    after.2.feed = before.2.feed
      ∨ ∃ id change, after.2.feed = before.2.feed ++ [⟨before.2.feed.length + 1, id, change⟩] := by
  cases h with
  | aside h => exact Or.inl h.feed
  | reserve t => exact Or.inl rfl
  | add handle => exact Or.inr ⟨_, _, feed_add _ _ _⟩
  | modify handle => exact Or.inl (feed_modify _ _ _)
  | bind => exact Or.inr ⟨_, _, feed_record_modify _ _ _ _ _⟩
  | remove handle =>
    cases halive : Registry.contains _ handle.erase with
    | true => exact Or.inr ⟨_, _, feed_remove _ handle halive⟩
    | false => exact Or.inl (congrArg feed (remove_of_not_contains _ handle halive))
  | note id => exact Or.inr ⟨_, _, rfl⟩

theorem Change.feed_extends {before after : List ObjectId × Registry} (h : Change before after) :
    before.2.feed <+: after.2.feed := by
  rcases h.feed_cases with hsame | ⟨id, change, hevent⟩
  · exact hsame ▸ List.prefix_refl _
  · exact ⟨_, hevent.symm⟩

theorem Change.nextSerial_le {before after : List ObjectId × Registry} (h : Change before after) :
    before.2.nextSerial ≤ after.2.nextSerial := by
  cases h with
  | aside h => exact Nat.le_of_eq h.nextSerial.symm
  | reserve t => exact Nat.le_succ _
  | add handle => exact Nat.le_of_eq (nextSerial_add _ _ _).symm
  | modify handle => exact Nat.le_of_eq (nextSerial_modify _ _ _).symm
  | bind => exact Nat.le_of_eq (nextSerial_modify _ _ _).symm
  | remove handle => exact Nat.le_of_eq (nextSerial_remove _ _).symm
  | note id => exact Nat.le_refl _

/-- Events are only appended. -/
theorem Changes.feed_extends {before after : List ObjectId × Registry} (h : Changes before after) :
    before.2.feed <+: after.2.feed :=
  h.keeps (P := fun _ r => before.2.feed <+: r.feed)
    (fun _ _ hchange hbefore => hbefore.trans hchange.feed_extends) (List.prefix_refl _)

/-- The events are numbered from 1 on, without gaps. -/
def Numbered (r : Registry) : Prop :=
  r.feed.map Event.sequence = List.range' 1 r.feed.length

theorem Change.numbered {before after : List ObjectId × Registry} (h : Change before after)
    (hbefore : before.2.Numbered) : after.2.Numbered := by
  rcases h.feed_cases with hsame | ⟨id, change, hevent⟩
  · rwa [Numbered, hsame]
  · rw [Numbered, hevent, List.map_append, hbefore, List.length_append, List.length_singleton,
      List.range'_1_concat, Nat.add_comm 1]
    rfl

theorem Changes.numbered {before after : List ObjectId × Registry} (h : Changes before after)
    (hbefore : before.2.Numbered) : after.2.Numbered :=
  h.keeps (P := fun _ r => r.Numbered) (fun _ _ hchange => hchange.numbered) hbefore

end Registry

end VulkanValidity
