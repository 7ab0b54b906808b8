/-
  VulkanValidity.Proofs.Feed

  The change feed.  It tells of every object in which order it was created, bound to memory and destroyed
  (`Registry.lifeOf`), and this agrees with what the registry holds (`Registry.Agrees`): what is alive has
  not been destroyed, what is bound has been bound once, and what was never handed out has no history.
  The objects that were created have the serials from 1 on, each of them once; the serials that are left
  over belong to handles that are reserved and not yet in use.

  Handles of serials beyond `ObjectId.maxSerial`, which is 2^56 - 1, are all the same, so all of this is about
  registries that have not handed out more serials than that.
-/

import Mathlib.Data.List.Nodup
import VulkanValidity.Proofs.Changes

namespace VulkanValidity

/-! ## Serials -/

/-- The handle of a serial that fits has that serial. -/
theorem Handle.serial_ofSerial {t : ObjectType} {serial : Nat} (h : serial ≤ ObjectId.maxSerial) :
    (Handle.ofSerial t serial).erase.serial = serial :=
  ObjectId.serial_ofSerial_of_le t h

/-- Handles that are the same are of the same type. -/
theorem Handle.eq_of_erase_eq {t t' : ObjectType} {handle : Handle t} {other : Handle t'}
    (h : other.erase = handle.erase) : ∃ ht : t' = t, ht ▸ other = handle := by
  have htype := congrArg ObjectId.type? h
  rw [other.type?_erase, handle.type?_erase] at htype
  obtain rfl := Option.some.inj htype
  exact ⟨rfl, Handle.erase_inj.mp h⟩

theorem Handle.erase_ne {t t' : ObjectType} (h : t' ≠ t) (handle : Handle t) (other : Handle t') :
    other.erase ≠ handle.erase :=
  fun heq => h (Handle.eq_of_erase_eq heq).1

namespace Registry

/-! ## Looking up other objects -/

section Elsewhere

variable {t t' : ObjectType} (r : Registry) {handle : Handle t} {other : Handle t'}
  (h : other.erase ≠ handle.erase)
include h

theorem get?_add_elsewhere (object : t.Object) : (r.add handle object).get? other = r.get? other := by
  by_cases ht : t' = t
  · subst ht
    rw [get?_add, if_neg fun heq => h (congrArg Handle.erase heq), Option.or_none]
  · exact get?_add_of_ne r handle object ht other

theorem get?_modify_elsewhere (f : t.Object → t.Object) :
    (r.modify handle f).get? other = r.get? other := by
  by_cases ht : t' = t
  · subst ht
    rw [get?_modify, if_neg fun heq => h (congrArg Handle.erase heq)]
  · exact get?_modify_of_ne r handle f ht other

theorem get?_remove_elsewhere : (r.remove handle).get? other = r.get? other := by
  by_cases ht : t' = t
  · subst ht
    rw [get?_remove, if_neg fun heq => h (congrArg Handle.erase heq)]
  · exact get?_remove_of_ne r handle ht other

end Elsewhere

/-! ## What the feed tells -/

/-- What happened to an object, in order. -/
def changesOf (r : Registry) (id : ObjectId) : List ObjectChange :=
  (r.feed.filter fun event => event.id = id).map Event.change

/-- What happened to an object, but for its submissions. -/
def lifeOf (r : Registry) (id : ObjectId) : List ObjectChange :=
  (r.changesOf id).filter fun change => change ≠ .submitted ∧ change ≠ .retired

/-- The objects that were created, in order. -/
def createdIds (r : Registry) : List ObjectId :=
  (r.feed.filter fun event => event.change = .created).map Event.id

theorem mem_createdIds {r : Registry} {id : ObjectId} : id ∈ r.createdIds ↔ .created ∈ r.lifeOf id := by
  simp only [createdIds, lifeOf, changesOf, List.mem_map, List.mem_filter, decide_eq_true_eq]
  constructor
  · rintro ⟨event, ⟨hmem, hchange⟩, rfl⟩
    exact ⟨⟨event, ⟨hmem, rfl⟩, hchange⟩, by decide⟩
  · rintro ⟨⟨event, ⟨hmem, rfl⟩, hchange⟩, -⟩
    exact ⟨event, ⟨hmem, hchange⟩, rfl⟩

section Append

variable {r r' : Registry} {n : Nat} {id : ObjectId} {change : ObjectChange}
  (h : r'.feed = r.feed ++ [⟨n, id, change⟩])
include h

theorem changesOf_append (other : ObjectId) :
    r'.changesOf other = r.changesOf other ++ if id = other then [change] else [] := by
  rw [changesOf, h, List.filter_append, List.map_append, changesOf]
  by_cases heq : id = other <;> simp [heq]

/-- Nothing happened to another object. -/
theorem changesOf_append_of_ne {other : ObjectId} (hne : other ≠ id) :
    r'.changesOf other = r.changesOf other := by
  rw [changesOf_append h, if_neg (Ne.symm hne), List.append_nil]

theorem lifeOf_append (hchange : change ≠ .submitted ∧ change ≠ .retired) (other : ObjectId) :
    r'.lifeOf other = r.lifeOf other ++ if id = other then [change] else [] := by
  rw [lifeOf, changesOf_append h, List.filter_append, lifeOf]
  by_cases heq : id = other <;> simp [heq, hchange]

theorem createdIds_append :
    r'.createdIds = r.createdIds ++ if change = .created then [id] else [] := by
  rw [createdIds, h, List.filter_append, List.map_append, createdIds]
  by_cases heq : change = .created <;> simp [heq]

end Append

theorem changesOf_congr {r r' : Registry} (h : r'.feed = r.feed) (id : ObjectId) :
    r'.changesOf id = r.changesOf id := by
  rw [changesOf, h, changesOf]

theorem lifeOf_congr {r r' : Registry} (h : r'.feed = r.feed) (id : ObjectId) :
    r'.lifeOf id = r.lifeOf id := by
  rw [lifeOf, changesOf_congr h, lifeOf]

theorem createdIds_congr {r r' : Registry} (h : r'.feed = r.feed) :
    r'.createdIds = r.createdIds := by
  rw [createdIds, h, createdIds]

/-- Objects that were created stay so. -/
theorem Changes.length_createdIds_le {before after : List ObjectId × Registry}
    (h : Changes before after) : before.2.createdIds.length ≤ after.2.createdIds.length := by
  obtain ⟨later, hlater⟩ := h.feed_extends
  simp only [createdIds, ← hlater, List.filter_append, List.map_append, List.length_append]
  exact Nat.le_add_right _ _

@[simp] theorem createdIds_add {t : ObjectType} (r : Registry) (handle : Handle t)
    (object : t.Object) : (r.add handle object).createdIds = r.createdIds ++ [handle.erase] := by
  rw [createdIds_append (feed_add r handle object), if_pos rfl]

theorem createdIds_record (r : Registry) (id : ObjectId) {change : ObjectChange}
    (h : change ≠ .created) : (r.record id change).createdIds = r.createdIds := by
  have hfeed : (r.record id change).feed = r.feed ++ [⟨r.feed.length + 1, id, change⟩] := rfl
  rw [createdIds_append hfeed, if_neg h, List.append_nil]

@[simp] theorem createdIds_modify {t : ObjectType} (r : Registry) (handle : Handle t)
    (f : t.Object → t.Object) : (r.modify handle f).createdIds = r.createdIds :=
  createdIds_congr (feed_modify r handle f)

@[simp] theorem createdIds_remove {t : ObjectType} (r : Registry) (handle : Handle t) :
    (r.remove handle).createdIds = r.createdIds := by
  cases halive : r.contains handle.erase with
  | true =>
    rw [createdIds_append (feed_remove r handle halive), if_neg (by decide), List.append_nil]
  | false => rw [remove_of_not_contains r handle halive]

/-- Submissions are no part of a life. -/
theorem lifeOf_record_of_submission (r : Registry) (id : ObjectId) {change : ObjectChange}
    (hchange : change = .submitted ∨ change = .retired) (other : ObjectId) :
    (r.record id change).lifeOf other = r.lifeOf other := by
  have hfeed : (r.record id change).feed = r.feed ++ [⟨r.feed.length + 1, id, change⟩] := rfl
  rw [lifeOf, changesOf_append hfeed, List.filter_append, lifeOf]
  rcases hchange with rfl | rfl <;> by_cases heq : id = other <;> simp [heq]

/-! ## Registries that agree with their feed -/

/-- The life of an object that is alive. -/
def aliveLife (bound : Bool) : List ObjectChange :=
  if bound then [.created, .bound] else [.created]

/-- The feed tells the lives of the objects. -/
structure Lives (r : Registry) : Prop where
  alive : ∀ (t : ObjectType) (handle : Handle t) (object : t.Object), r.get? handle = some object →
    r.lifeOf handle.erase = aliveLife (t.binding? object).isSome
  destroyed : ∀ id, r.isDestroyed id = true → ∃ bound, r.lifeOf id = aliveLife bound ++ [.destroyed]
  unknown : ∀ id, r.isKnown id = false → r.lifeOf id = []

/-- The registry agrees with its feed, while some handles are reserved. -/
structure Agrees (reserved : List ObjectId) (r : Registry) : Prop extends r.Lives where
  /-- The serials below the next one are those of the objects that were created, and of the handles that
  are reserved. -/
  serials : ((r.createdIds ++ reserved).map ObjectId.serial).Perm (List.range' 1 (r.nextSerial - 1))
  positive : 0 < r.nextSerial
  /-- Objects of one type were created in the order of their serials. -/
  increasing : r.createdIds.Pairwise fun a b => a.type? = b.type? → a.serial < b.serial
  above : ∀ id ∈ reserved, ∀ other ∈ r.createdIds, other.type? = id.type? → other.serial < id.serial
  apart : reserved.Pairwise fun a b => a.type? ≠ b.type?

theorem agrees_empty : ({} : Registry).Agrees [] where
  alive t handle object hget := by cases t <;> cases hget
  destroyed id hdestroyed := by cases hdestroyed
  unknown id _ := rfl
  serials := .refl _
  positive := Nat.one_pos
  increasing := .nil
  above id hid := by cases hid
  apart := .nil

theorem not_mem_aliveLife (bound : Bool) : ObjectChange.destroyed ∉ aliveLife bound := by
  cases bound <;> decide

theorem created_mem_aliveLife (bound : Bool) : ObjectChange.created ∈ aliveLife bound := by
  cases bound <;> decide

namespace Lives

variable {r r' : Registry} (h : r.Lives)
include h

/-- No object is alive and destroyed. -/
theorem not_isDestroyed {id : ObjectId} (halive : r.contains id = true) : r.isDestroyed id = false := by
  obtain ⟨t, handle, rfl⟩ := exists_of_contains halive
  obtain ⟨object, hget⟩ := exists_get?_of_contains halive
  refine Bool.eq_false_iff.mpr fun hdestroyed => ?_
  obtain ⟨bound, hlife⟩ := h.destroyed _ hdestroyed
  have hmem : ObjectChange.destroyed ∈ r.lifeOf handle.erase := by
    rw [hlife]
    exact List.mem_append_right _ (List.mem_singleton_self _)
  rw [h.alive t handle object hget] at hmem
  exact not_mem_aliveLife _ hmem

/-- The objects that were created are those that are known. -/
theorem mem_createdIds_iff {id : ObjectId} : id ∈ r.createdIds ↔ r.isKnown id = true := by
  rw [mem_createdIds]
  constructor
  · intro hcreated
    rw [← Bool.not_eq_false]
    intro hunknown
    rw [h.unknown id hunknown] at hcreated
    cases hcreated
  · intro hknown
    rw [isKnown, Bool.or_eq_true] at hknown
    rcases hknown with halive | hdestroyed
    · obtain ⟨t, handle, rfl⟩ := exists_of_contains halive
      obtain ⟨object, hget⟩ := exists_get?_of_contains halive
      rw [h.alive t handle object hget]
      exact created_mem_aliveLife _
    · obtain ⟨bound, hlife⟩ := h.destroyed id hdestroyed
      rw [hlife]
      exact List.mem_append_left _ (created_mem_aliveLife bound)

/-- Nothing that the feed tells of changes. -/
theorem congr (hget : ∀ (t : ObjectType) (handle : Handle t),
      (r'.get? handle).map t.binding? = (r.get? handle).map t.binding?)
    (htombstones : r'.tombstones = r.tombstones) (hlife : ∀ id, r'.lifeOf id = r.lifeOf id) :
    r'.Lives := by
  have hdestroyed (id : ObjectId) : r'.isDestroyed id = r.isDestroyed id := by
    rw [isDestroyed, htombstones, isDestroyed]
  have hcontains (id : ObjectId) : r'.contains id = r.contains id :=
    contains_congr (fun t handle => by simpa using congrArg Option.isSome (hget t handle)) id
  refine ⟨fun t handle object hobject => ?_, fun id hid => ?_, fun id hid => ?_⟩
  · have hbinding := (hget t handle).symm
    rw [hobject, Option.map_some] at hbinding
    obtain ⟨found, hfound, hsame⟩ := Option.map_eq_some_iff.mp hbinding
    rw [hlife, h.alive t handle found hfound, hsame]
  · rw [hlife]
    exact h.destroyed id ((hdestroyed id).symm.trans hid)
  · rw [isKnown, hcontains, hdestroyed] at hid
    rw [hlife]
    exact h.unknown id hid

/-- One event goes on with the life of one object, and nothing happens to the others. -/
theorem event {n : Nat} {id : ObjectId} {change : ObjectChange}
    (hfeed : r'.feed = r.feed ++ [⟨n, id, change⟩])
    (hchange : change ≠ .submitted ∧ change ≠ .retired)
    (hget : ∀ (t : ObjectType) (handle : Handle t), handle.erase ≠ id →
      r'.get? handle = r.get? handle)
    (htombstones : ∀ other, other ≠ id → r'.isDestroyed other = r.isDestroyed other)
    (halive : ∀ (t : ObjectType) (handle : Handle t) (object : t.Object), handle.erase = id →
      r'.get? handle = some object → r.lifeOf id ++ [change] = aliveLife (t.binding? object).isSome)
    (hdestroyed : r'.isDestroyed id = true →
      ∃ bound, r.lifeOf id ++ [change] = aliveLife bound ++ [.destroyed])
    (hknown : r'.isKnown id = true) : r'.Lives := by
  have hown : r'.lifeOf id = r.lifeOf id ++ [change] := by
    rw [lifeOf_append hfeed hchange, if_pos rfl]
  have hother {other : ObjectId} (hne : other ≠ id) : r'.lifeOf other = r.lifeOf other := by
    rw [lifeOf_append hfeed hchange, if_neg (Ne.symm hne), List.append_nil]
  refine ⟨fun t handle object hobject => ?_, fun other hdead => ?_, fun other hunknown => ?_⟩
  · by_cases heq : handle.erase = id
    · rw [heq, hown]
      exact halive t handle object heq hobject
    · rw [hother heq]
      exact h.alive t handle object ((hget t handle heq).symm.trans hobject)
  · by_cases heq : other = id
    · subst heq
      rw [hown]
      exact hdestroyed hdead
    · rw [hother heq]
      exact h.destroyed other ((htombstones other heq).symm.trans hdead)
  · have hne : other ≠ id := by
      rintro rfl
      rw [hknown] at hunknown
      cases hunknown
    rw [hother hne]
    refine h.unknown other (Bool.eq_false_iff.mpr fun hbefore => ?_)
    -- What was known before the event is known after it.
    rw [isKnown, Bool.or_eq_false_iff, htombstones other hne] at hunknown
    rw [isKnown, hunknown.2, Bool.or_false] at hbefore
    obtain ⟨t, handle, rfl⟩ := exists_of_contains hbefore
    rw [contains_erase, hget t handle hne, ← contains_erase, hbefore] at hunknown
    cases hunknown.1

end Lives

namespace Agrees

variable {reserved : List ObjectId} {r r' : Registry} (h : r.Agrees reserved)
include h

theorem nodup_serials : ((r.createdIds ++ reserved).map ObjectId.serial).Nodup :=
  h.serials.nodup_iff.mpr List.nodup_range'

/-- A handle that is reserved is not known. -/
theorem not_isKnown {id : ObjectId} (hid : id ∈ reserved) : r.isKnown id = false := by
  refine Bool.eq_false_iff.mpr fun hknown => ?_
  have hnodup := h.nodup_serials
  rw [List.map_append] at hnodup
  have hcreated := List.mem_map_of_mem (f := ObjectId.serial) (h.mem_createdIds_iff.mpr hknown)
  exact (List.disjoint_of_nodup_append hnodup) hcreated (List.mem_map_of_mem hid)

theorem serial_lt {id : ObjectId} (hid : id ∈ r.createdIds ++ reserved) : id.serial < r.nextSerial := by
  have hmem := h.serials.mem_iff.mp (List.mem_map_of_mem hid)
  have := List.mem_range'_1.mp hmem
  have := h.positive
  omega

/-! ### Small changes -/

/-- Nothing is created, and the lives of the objects go on. -/
theorem of_lives (hlives : r'.Lives) (hserial : r'.nextSerial = r.nextSerial)
    (hcreated : r'.createdIds = r.createdIds) : r'.Agrees reserved where
  toLives := hlives
  serials := by
    rw [hcreated, hserial]
    exact h.serials
  positive := hserial ▸ h.positive
  increasing := hcreated ▸ h.increasing
  above := hcreated ▸ h.above
  apart := h.apart

theorem aside (hsame : r.SameRecords r') : r'.Agrees reserved :=
  h.of_lives (h.toLives.congr (fun _ handle => by rw [hsame.get?_eq]) hsame.tombstones
    (lifeOf_congr hsame.feed)) hsame.nextSerial (createdIds_congr hsame.feed)

theorem modify {t : ObjectType} (handle : Handle t) {f : t.Object → t.Object}
    (hbinding : ∀ object, t.binding? (f object) = t.binding? object) :
    (r.modify handle f).Agrees reserved := by
  have hfeed := feed_modify r handle f
  refine h.of_lives (h.toLives.congr (fun t' other => ?_) (tombstones_modify r handle f)
    (lifeOf_congr hfeed)) (nextSerial_modify r handle f) (createdIds_modify r handle f)
  by_cases heq : other.erase = handle.erase
  · obtain ⟨rfl, rfl⟩ := Handle.eq_of_erase_eq heq
    rw [get?_modify, if_pos rfl, Option.map_map]
    exact congrArg (Option.map · _) (funext hbinding)
  · rw [get?_modify_elsewhere r heq]

theorem note (id : ObjectId) {change : ObjectChange} (hchange : change = .submitted ∨ change = .retired) :
    (r.record id change).Agrees reserved := by
  have hcreated : change ≠ .created := by rcases hchange with rfl | rfl <;> decide
  exact h.of_lives (h.toLives.congr
    (fun _ handle => by rw [(sameObjects_record r id change).get?_eq]) rfl
    (r.lifeOf_record_of_submission id hchange)) rfl (createdIds_record r id hcreated)

theorem reserve (t : ObjectType) (hnew : ∀ id ∈ reserved, id.type? ≠ some t)
    (hfits : r.nextSerial ≤ ObjectId.maxSerial) :
    (r.reserve t).2.Agrees ((r.reserve t).1.erase :: reserved) := by
  -- The serial that is handed out fits, so that it is the next one and no other.
  have hserial : (r.reserve t).1.erase.serial = r.nextSerial := Handle.serial_ofSerial hfits
  have htype : (r.reserve t).1.erase.type? = some t := Handle.type?_erase _
  have hsame := sameObjects_reserve r t
  exact {
    alive := fun t' handle object hget => h.alive t' handle object (hsame.get?_eq handle ▸ hget)
    destroyed := h.destroyed
    unknown := fun id hid => h.unknown id ((hsame.isKnown_eq id).symm.trans hid)
    serials := by
      have hcons : (r.createdIds ++ (r.reserve t).1.erase :: reserved).Perm
          ((r.createdIds ++ reserved) ++ [(r.reserve t).1.erase]) :=
        List.perm_middle.trans (List.perm_append_singleton _ _).symm
      have hrange : List.range' 1 ((r.reserve t).2.nextSerial - 1)
          = List.range' 1 (r.nextSerial - 1) ++ [r.nextSerial] := by
        obtain ⟨n, hn⟩ := Nat.exists_eq_succ_of_ne_zero (Nat.ne_of_gt h.positive)
        show List.range' 1 (r.nextSerial + 1 - 1) = _
        rw [hn, Nat.add_sub_cancel, Nat.succ_sub_one, List.range'_1_concat, Nat.add_comm]
      rw [hrange]
      refine (hcons.map ObjectId.serial).trans ?_
      rw [List.map_append, List.map_singleton, hserial]
      exact h.serials.append_right _
    positive := Nat.succ_pos _
    increasing := h.increasing
    above := fun id hid other hother hsametype => by
      rcases List.mem_cons.mp hid with rfl | hold
      · rw [hserial]
        exact h.serial_lt (List.mem_append_left _ hother)
      · exact h.above id hold other hother hsametype
    apart := List.pairwise_cons.mpr ⟨fun id hid heq => hnew id hid (heq.symm.trans htype), h.apart⟩ }

omit h in
theorem add {t : ObjectType} {handle : Handle t} (h : r.Agrees (handle.erase :: reserved))
    {object : t.Object} (hunbound : t.binding? object = none) :
    (r.add handle object).Agrees reserved := by
  have hunknown : r.isKnown handle.erase = false := h.not_isKnown List.mem_cons_self
  have hnone : r.get? handle = none := by
    refine Option.eq_none_iff_forall_ne_some.mpr fun found hfound => ?_
    rw [isKnown_of_contains (contains_of_get? hfound)] at hunknown
    cases hunknown
  have hnew : (r.add handle object).get? handle = some object := by
    rw [get?_add, hnone, if_pos rfl, Option.none_or]
  have hdead (id : ObjectId) : (r.add handle object).isDestroyed id = r.isDestroyed id := by
    rw [isDestroyed, tombstones_add, isDestroyed]
  have hlives : (r.add handle object).Lives := by
    refine h.toLives.event (feed_add r handle object) (by decide)
      (fun _ _ hne => get?_add_elsewhere r hne object) (fun id _ => hdead id)
      (fun t' other found heq hfound => ?_) (fun hdestroyed => ?_)
      (isKnown_of_contains (contains_of_get? hnew))
    · -- This is the object that was added.
      obtain ⟨rfl, rfl⟩ := Handle.eq_of_erase_eq heq
      obtain rfl := Option.some.inj (hnew.symm.trans hfound)
      rw [h.unknown _ hunknown, hunbound]
      rfl
    · rw [hdead] at hdestroyed
      rw [isKnown, hdestroyed, Bool.or_true] at hunknown
      cases hunknown
  have hcreated := createdIds_add r handle object
  exact {
    toLives := hlives
    serials := by
      rw [hcreated, List.append_assoc, List.singleton_append, nextSerial_add]
      exact h.serials
    positive := (nextSerial_add r handle object).symm ▸ h.positive
    increasing := by
      rw [hcreated]
      refine List.pairwise_append.mpr ⟨h.increasing, List.pairwise_singleton _ _, ?_⟩
      intro other hother id hid
      rw [List.mem_singleton.mp hid]
      exact h.above _ List.mem_cons_self other hother
    above := fun id hid other hother hsametype => by
      rw [hcreated] at hother
      rcases List.mem_append.mp hother with hold | hadded
      · exact h.above id (List.mem_cons_of_mem _ hid) other hold hsametype
      · -- The handles that are reserved are of different types.
        rw [List.mem_singleton.mp hadded] at hsametype
        exact absurd hsametype ((List.pairwise_cons.mp h.apart).1 id hid)
    apart := (List.pairwise_cons.mp h.apart).2 }

theorem bind {t : ObjectType} {handle : Handle t} {object : t.Object} {f : t.Object → t.Object}
    (hget : r.get? handle = some object) (hunbound : t.binding? object = none)
    (hbound : (t.binding? (f object)).isSome = true) :
    ((r.modify handle f).record handle.erase .bound).Agrees reserved := by
  have hfeed := feed_record_modify r handle f handle.erase .bound
  have hobjects := sameObjects_record (r.modify handle f) handle.erase .bound
  have halive : r.contains handle.erase = true := contains_of_get? hget
  have hdead (id : ObjectId) :
      ((r.modify handle f).record handle.erase .bound).isDestroyed id = r.isDestroyed id := by
    rw [isDestroyed, hobjects.tombstones, tombstones_modify, isDestroyed]
  have hlives : ((r.modify handle f).record handle.erase .bound).Lives := by
    refine h.toLives.event hfeed (by decide)
      (fun _ _ hne => (hobjects.get?_eq _).trans (get?_modify_elsewhere r hne f))
      (fun id _ => hdead id) (fun t' other found heq hfound => ?_) (fun hdestroyed => ?_) ?_
    · -- This is the object that was bound, and it had no memory before.
      obtain ⟨rfl, rfl⟩ := Handle.eq_of_erase_eq heq
      rw [hobjects.get?_eq, get?_modify, if_pos rfl, hget, Option.map_some] at hfound
      obtain rfl := Option.some.inj hfound
      rw [h.alive _ other object hget, hunbound, hbound]
      rfl
    · rw [hdead, h.not_isDestroyed halive] at hdestroyed
      cases hdestroyed
    · rw [hobjects.isKnown_eq, isKnown_modify]
      exact isKnown_of_contains halive
  refine h.of_lives hlives (nextSerial_modify r handle f) ?_
  rw [createdIds_record _ _ (by decide), createdIds_modify]

theorem remove {t : ObjectType} (handle : Handle t) : (r.remove handle).Agrees reserved := by
  cases halive : r.contains handle.erase with
  | false =>
    rw [remove_of_not_contains r handle halive]
    exact h
  | true =>
    obtain ⟨object, hget⟩ := exists_get?_of_contains halive
    have hfeed := feed_remove r handle halive
    have hdead (id : ObjectId) : (r.remove handle).isDestroyed id
        = (id == handle.erase || r.isDestroyed id) := by
      rw [isDestroyed, tombstones_remove r handle halive, List.contains_cons, isDestroyed]
    have hlives : (r.remove handle).Lives := by
      refine h.toLives.event hfeed (by decide) (fun _ _ hne => get?_remove_elsewhere r hne)
        (fun id hne => by rw [hdead, beq_false_of_ne hne, Bool.false_or])
        (fun t' other found heq hfound => ?_) (fun _ => ?_)
        (by rw [isKnown, hdead, beq_self_eq_true, Bool.true_or, Bool.or_true])
      · -- The object is not alive any more.
        have hne := ((contains_remove r handle other.erase).mp (contains_of_get? hfound)).2
        exact absurd heq hne
      · exact ⟨_, congrArg (· ++ [_]) (h.alive t handle object hget)⟩
    exact h.of_lives hlives (nextSerial_remove r handle) (createdIds_remove r handle)

end Agrees

/-- Small changes keep registry and feed in agreement, as long as the serials fit. -/
theorem Change.agrees {before after : List ObjectId × Registry} (hchange : Change before after)
    (hfits : after.2.nextSerial ≤ ObjectId.maxSerial + 1) (h : before.2.Agrees before.1) :
    after.2.Agrees after.1 := by
  cases hchange with
  | aside hsame => exact h.aside hsame
  | reserve t hnew => exact h.reserve t hnew (Nat.le_of_succ_le_succ hfits)
  | add handle hunbound => exact h.add hunbound
  | modify handle hbinding => exact h.modify handle hbinding
  | bind hget hunbound hbound => exact h.bind hget hunbound hbound
  | remove handle => exact h.remove handle
  | note id hnote => exact h.note id hnote

/-- So does everything that is made of small changes. -/
theorem Changes.agrees {before after : List ObjectId × Registry} (hchanges : Changes before after)
    (hfits : after.2.nextSerial ≤ ObjectId.maxSerial + 1) (h : before.2.Agrees before.1) :
    after.2.Agrees after.1 := by
  induction hchanges with
  | refl => exact h
  | tail _ hlast ih => exact hlast.agrees hfits (ih (Nat.le_trans hlast.nextSerial_le hfits))

/-! ## The number of objects -/

/-- Every serial that was handed out belongs to an object that was created, or to a handle that is
reserved. -/
def CountsSerials (reserved : List ObjectId) (r : Registry) : Prop :=
  r.createdIds.length + reserved.length + 1 = r.nextSerial

theorem Change.countsSerials {before after : List ObjectId × Registry} (hchange : Change before after)
    (h : CountsSerials before.1 before.2) : CountsSerials after.1 after.2 := by
  unfold CountsSerials at h ⊢
  cases hchange with
  | aside hsame => rw [createdIds_congr hsame.feed, hsame.nextSerial, h]
  | reserve t =>
    show _ + (_ + 1) + 1 = _ + 1
    rw [← h]
    rfl
  | @add reserved r t handle object =>
    have hbefore : r.createdIds.length + (reserved.length + 1) + 1 = r.nextSerial := h
    rw [createdIds_add, nextSerial_add, List.length_append, List.length_singleton, ← hbefore]
    show r.createdIds.length + 1 + reserved.length + 1 = _
    omega
  | modify handle => rw [createdIds_modify, nextSerial_modify, h]
  | @bind _ r t handle _ f =>
    rw [createdIds_record _ _ (by decide), createdIds_modify, h]
    exact (nextSerial_modify r handle f).symm
  | remove handle => rw [createdIds_remove, nextSerial_remove, h]
  | @note _ r id change hnote =>
    have hcreated : change ≠ .created := by rcases hnote with rfl | rfl <;> decide
    rw [createdIds_record r id hcreated]
    exact h

/-- As long as there are not more objects than serials, the next serial is at most one too large. -/
theorem Changes.serials_fit {r : Registry} (h : Changes ([], {}) ([], r))
    (hfew : r.createdIds.length ≤ ObjectId.maxSerial) : r.nextSerial ≤ ObjectId.maxSerial + 1 := by
  have hcounts : CountsSerials [] r :=
    h.keeps (P := CountsSerials) (fun _ _ hchange => hchange.countsSerials) rfl
  have hserial : r.createdIds.length + 0 + 1 = r.nextSerial := hcounts
  omega

/-- A registry that comes from the empty one agrees with its feed. -/
theorem Changes.agrees_of_empty {r : Registry} (h : Changes ([], {}) ([], r))
    (hfew : r.createdIds.length ≤ ObjectId.maxSerial) : r.Agrees [] :=
  h.agrees (h.serials_fit hfew) agrees_empty

/-! ## Bindings -/

/-- The object is known, and while it is alive it is bound to the memory. -/
structure IsBound {t : ObjectType} (r : Registry) (handle : Handle t) (binding : MemoryBinding) :
    Prop where
  known : r.isKnown handle.erase = true
  alive : ∀ object, r.get? handle = some object → t.binding? object = some binding

theorem Change.isKnown {before after : List ObjectId × Registry} (hchange : Change before after)
    {id : ObjectId} (h : before.2.isKnown id = true) : after.2.isKnown id = true := by
  cases hchange with
  | aside hsame =>
    have hobjects (t : ObjectType) (handle : Handle t) := congrArg Option.isSome (hsame.get?_eq handle)
    rwa [Registry.isKnown, contains_congr hobjects, isDestroyed, hsame.tombstones]
  | reserve t => exact ((sameObjects_reserve _ t).isKnown_eq id).trans h
  | add handle => exact isKnown_add _ handle _ h
  | modify handle => exact (isKnown_modify _ handle _ id).trans h
  | bind =>
    rw [(sameObjects_record _ _ _).isKnown_eq, isKnown_modify]
    exact h
  | remove handle => exact isKnown_remove _ handle h
  | note other => exact ((sameObjects_record _ other _).isKnown_eq id).trans h

/-- What is known stays known. -/
theorem Changes.isKnown {before after : List ObjectId × Registry} (h : Changes before after)
    {id : ObjectId} (hbefore : before.2.isKnown id = true) : after.2.isKnown id = true :=
  h.keeps (P := fun _ r => r.isKnown id = true) (fun _ _ hchange => hchange.isKnown) hbefore

/-- A binding is made once and stays. -/
theorem Change.isBound {before after : List ObjectId × Registry} (hchange : Change before after)
    (hagrees : before.2.Agrees before.1) {t : ObjectType} {handle : Handle t}
    {binding : MemoryBinding} (h : before.2.IsBound handle binding) :
    after.2.IsBound handle binding := by
  refine ⟨hchange.isKnown h.known, fun object hget => ?_⟩
  cases hchange with
  | aside hsame => exact h.alive object ((hsame.get?_eq handle).symm.trans hget)
  | reserve t => exact h.alive object (((sameObjects_reserve _ t).get?_eq handle).symm.trans hget)
  | add other =>
    by_cases heq : handle.erase = other.erase
    · -- The handle is known, and so it is not one that is reserved.
      have hunknown := hagrees.not_isKnown (List.mem_cons_self (a := other.erase))
      rw [← heq, h.known] at hunknown
      cases hunknown
    · exact h.alive object ((get?_add_elsewhere _ heq _).symm.trans hget)
  | modify other hbinding =>
    by_cases heq : handle.erase = other.erase
    · obtain ⟨rfl, rfl⟩ := Handle.eq_of_erase_eq heq
      rw [get?_modify, if_pos rfl] at hget
      obtain ⟨found, hfound, rfl⟩ := Option.map_eq_some_iff.mp hget
      exact (hbinding found).trans (h.alive found hfound)
    · exact h.alive object ((get?_modify_elsewhere _ heq _).symm.trans hget)
  | @bind _ r t' other found f hfound hunbound =>
    rw [(sameObjects_record _ _ _).get?_eq] at hget
    by_cases heq : handle.erase = other.erase
    · -- The object has no memory yet, but it has.
      obtain ⟨rfl, rfl⟩ := Handle.eq_of_erase_eq heq
      rw [h.alive found hfound] at hunbound
      cases hunbound
    · exact h.alive object ((get?_modify_elsewhere _ heq _).symm.trans hget)
  | remove other =>
    by_cases heq : handle.erase = other.erase
    · obtain ⟨rfl, rfl⟩ := Handle.eq_of_erase_eq heq
      rw [get?_remove, if_pos rfl] at hget
      cases hget
    · exact h.alive object ((get?_remove_elsewhere _ heq).symm.trans hget)
  | note other => exact h.alive object (((sameObjects_record _ other _).get?_eq handle).symm.trans hget)

theorem Changes.isBound {before after : List ObjectId × Registry} (hchanges : Changes before after)
    (hfits : after.2.nextSerial ≤ ObjectId.maxSerial + 1) (hagrees : before.2.Agrees before.1)
    {t : ObjectType} {handle : Handle t} {binding : MemoryBinding}
    (h : before.2.IsBound handle binding) : after.2.IsBound handle binding := by
  induction hchanges with
  | refl => exact h
  | tail hinit hlast ih =>
    -- The serials of the last registry fit, and so do those of the ones before it.
    have hbefore := Nat.le_trans hlast.nextSerial_le hfits
    exact hlast.isBound (Changes.agrees hinit hbefore hagrees) (ih hbefore)

end Registry

end VulkanValidity
