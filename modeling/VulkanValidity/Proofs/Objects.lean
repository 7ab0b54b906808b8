/-
  VulkanValidity.Proofs.Objects

  Which objects are alive, and which handles are known, after a registry changed.  An addition, a change
  or a removal looks at one handle of one type; what it does to handles of other types is nothing, and
  what it does to handles of the same type is said by `get?_add`, `get?_modify` and `get?_remove`.
  Handles that are known stay known, as a removed object leaves its handle behind.
-/

import VulkanValidity.Proofs.Registry

namespace VulkanValidity

/-- What no step of a fold changes, the fold does not change. -/
theorem foldl_keeps {α σ β : Type} (g : σ → β) {f : σ → α → σ} (h : ∀ s a, g (f s a) = g s)
    (l : List α) (s : σ) : g (l.foldl f s) = g s := by
  refine List.foldlRecOn (motive := fun s' => g s' = g s) l f rfl fun s' hbefore a _ => ?_
  exact (h s' a).trans hbefore

namespace Registry

variable {t t' : ObjectType}

/-! ## Looking up by type -/

@[simp] theorem store_setStore (r : Registry) (t : ObjectType) (s : Store t t.Object) :
    (r.setStore t s).store t = s := by
  cases t <;> rfl

theorem store_setStore_of_ne (r : Registry) (h : t' ≠ t) (s : Store t t.Object) :
    (r.setStore t s).store t' = r.store t' := by
  cases t <;> cases t' <;> first | rfl | exact absurd rfl h

@[simp] theorem tombstones_setStore (r : Registry) (t : ObjectType) (s : Store t t.Object) :
    (r.setStore t s).tombstones = r.tombstones := by
  cases t <;> rfl

@[simp] theorem uses_setStore (r : Registry) (t : ObjectType) (s : Store t t.Object) :
    (r.setStore t s).uses = r.uses := by
  cases t <;> rfl

/-- An object is alive if its handle leads to it. -/
theorem contains_erase (r : Registry) (handle : Handle t) :
    r.contains handle.erase = (r.get? handle).isSome := by
  rw [contains, handle.type?_erase]
  simp only [ObjectId.downcast?_erase, Option.any_some]
  rfl

theorem contains_resource (r : Registry) (resource : Resource) :
    r.contains resource.id = (r.sharing? resource).isSome := by
  cases resource with
  | image handle => exact (r.contains_erase handle).trans Option.isSome_map.symm
  | buffer handle => exact (r.contains_erase handle).trans Option.isSome_map.symm

theorem exists_of_contains {r : Registry} {id : ObjectId} (h : r.contains id = true) :
    ∃ (t : ObjectType) (handle : Handle t), id = handle.erase := by
  rw [contains] at h
  split at h
  · next t _ =>
    obtain ⟨handle, hhandle, -⟩ := (Option.any_eq_true _ _).mp h
    exact ⟨t, handle, ObjectId.downcast?_eq_some.mp hhandle⟩
  · cases h

/-- Objects are alive in both of two registries if their handles lead to them in both. -/
theorem contains_congr {r r' : Registry}
    (h : ∀ (t : ObjectType) (handle : Handle t), (r'.get? handle).isSome = (r.get? handle).isSome)
    (id : ObjectId) : r'.contains id = r.contains id := by
  rw [Bool.eq_iff_iff]
  constructor
  · intro hc
    obtain ⟨t, handle, rfl⟩ := exists_of_contains hc
    rwa [contains_erase, h, ← contains_erase] at hc
  · intro hc
    obtain ⟨t, handle, rfl⟩ := exists_of_contains hc
    rwa [contains_erase, ← h, ← contains_erase] at hc

theorem exists_get?_of_contains {r : Registry} {handle : Handle t}
    (h : r.contains handle.erase = true) : ∃ object, r.get? handle = some object := by
  rw [contains_erase] at h
  exact Option.isSome_iff_exists.mp h

theorem contains_of_get? {r : Registry} {handle : Handle t} {object : t.Object}
    (h : r.get? handle = some object) : r.contains handle.erase = true := by
  rw [contains_erase, h, Option.isSome_some]

theorem isKnown_of_contains {r : Registry} {id : ObjectId} (h : r.contains id = true) :
    r.isKnown id = true := by
  rw [isKnown, h, Bool.true_or]

/-! ## The same objects -/

/-- The registries hold the same objects, and the same handles of destroyed objects and of objects that
are in use. -/
structure SameObjects (r r' : Registry) : Prop where
  store : ∀ t, r'.store t = r.store t
  tombstones : r'.tombstones = r.tombstones
  uses : r'.uses = r.uses

namespace SameObjects

variable {r r' : Registry} (h : r.SameObjects r')
include h

theorem get?_eq (handle : Handle t) : r'.get? handle = r.get? handle := by
  rw [get?, h.store, get?]

theorem contains_eq (id : ObjectId) : r'.contains id = r.contains id :=
  contains_congr (fun _ handle => by rw [h.get?_eq]) id

theorem isKnown_eq (id : ObjectId) : r'.isKnown id = r.isKnown id := by
  rw [isKnown, isKnown, h.contains_eq, isDestroyed, h.tombstones, isDestroyed]

theorem grows : r.Grows r' where
  resources resource := by
    left
    cases resource with
    | image handle => exact congrArg (Option.map _) (h.get?_eq handle)
    | buffer handle => exact congrArg (Option.map _) (h.get?_eq handle)
  logs handle := congrArg (Option.bind · CommandBuffer.log) (h.get?_eq handle)

theorem isNew {t : ObjectType} {object : t.Object} (hnew : r.IsNew t object) :
    r'.IsNew t object := by
  cases t with
  | imageView => exact (h.isKnown_eq _).trans hnew
  | _ => exact hnew

end SameObjects

theorem sameObjects_record (r : Registry) (id : ObjectId) (change : ObjectChange) :
    r.SameObjects (r.record id change) :=
  ⟨fun t => by cases t <;> rfl, rfl, rfl⟩

theorem sameObjects_reserve (r : Registry) (t : ObjectType) : r.SameObjects (r.reserve t).2 :=
  ⟨fun t => by cases t <;> rfl, rfl, rfl⟩

/-! ## Adding objects -/

section Add

variable (r : Registry) (handle : Handle t) (object : t.Object)

theorem get?_add (other : Handle t) :
    (r.add handle object).get? other
      = (r.get? other).or (if other = handle then some object else none) := by
  rw [add, (sameObjects_record _ _ _).get?_eq, get?, store_setStore, Store.get?_insert]
  rfl

theorem get?_add_of_ne (h : t' ≠ t) (other : Handle t') :
    (r.add handle object).get? other = r.get? other := by
  rw [add, (sameObjects_record _ _ _).get?_eq, get?, store_setStore_of_ne r h]
  rfl

@[simp] theorem tombstones_add : (r.add handle object).tombstones = r.tombstones :=
  tombstones_setStore r t _

@[simp] theorem uses_add : (r.add handle object).uses = r.uses :=
  uses_setStore r t _

/-- What is alive stays alive when an object is added. -/
theorem contains_add {id : ObjectId} (h : r.contains id = true) :
    (r.add handle object).contains id = true := by
  obtain ⟨t', other, rfl⟩ := exists_of_contains h
  obtain ⟨found, hfound⟩ := exists_get?_of_contains h
  rw [contains_erase]
  by_cases ht : t' = t
  · subst ht
    rw [get?_add, hfound, Option.some_or, Option.isSome_some]
  · rw [get?_add_of_ne r handle object ht, hfound, Option.isSome_some]

theorem isKnown_add {id : ObjectId} (h : r.isKnown id = true) :
    (r.add handle object).isKnown id = true := by
  rw [isKnown, Bool.or_eq_true] at h ⊢
  refine h.imp (contains_add r handle object) fun hdead => ?_
  rwa [isDestroyed, tombstones_add]

end Add

/-! ## Changing objects -/

section Modify

variable (r : Registry) (handle : Handle t) (f : t.Object → t.Object)

theorem get?_modify (other : Handle t) :
    (r.modify handle f).get? other
      = if other = handle then (r.get? other).map f else r.get? other := by
  rw [modify, get?, store_setStore, Store.get?_modify]
  rfl

theorem get?_modify_of_ne (h : t' ≠ t) (other : Handle t') :
    (r.modify handle f).get? other = r.get? other := by
  rw [modify, get?, store_setStore_of_ne r h]
  rfl

@[simp] theorem tombstones_modify : (r.modify handle f).tombstones = r.tombstones :=
  tombstones_setStore r t _

@[simp] theorem uses_modify : (r.modify handle f).uses = r.uses :=
  uses_setStore r t _

/-- The same objects are alive after one of them changed. -/
@[simp] theorem contains_modify (id : ObjectId) : (r.modify handle f).contains id = r.contains id := by
  refine contains_congr (fun t' other => ?_) id
  by_cases ht : t' = t
  · subst ht
    rw [get?_modify]
    split
    · exact Option.isSome_map
    · rfl
  · rw [get?_modify_of_ne r handle f ht]

@[simp] theorem isKnown_modify (id : ObjectId) : (r.modify handle f).isKnown id = r.isKnown id := by
  rw [isKnown, contains_modify, isDestroyed, tombstones_modify]
  rfl

theorem contains_setStates (resource : Resource) (states : RangeMap SubresourceState)
    (id : ObjectId) : (r.setStates resource states).contains id = r.contains id := by
  cases resource with
  | image handle => exact contains_modify (t := .image) r handle _ id
  | buffer handle => exact contains_modify (t := .buffer) r handle _ id

end Modify

/-! ## Removing objects -/

section Remove

variable (r : Registry) (handle : Handle t)

theorem get?_remove (other : Handle t) :
    (r.remove handle).get? other = if other = handle then none else r.get? other := by
  rw [remove]
  split
  · rw [(sameObjects_record _ _ _).get?_eq]
    calc ((r.setStore t ((r.store t).erase handle)).store t).get? other
        = ((r.store t).erase handle).get? other := by rw [store_setStore]
      _ = if other = handle then none else r.get? other := Store.get?_erase _ _ _
  · next hdead =>
    -- Nothing is removed, and the handle leads to nothing as it is.
    split
    · next heq =>
      subst heq
      exact Option.not_isSome_iff_eq_none.mp hdead
    · rfl

theorem get?_remove_of_ne (h : t' ≠ t) (other : Handle t') :
    (r.remove handle).get? other = r.get? other := by
  rw [remove]
  split
  · rw [(sameObjects_record _ _ _).get?_eq]
    calc ((r.setStore t ((r.store t).erase handle)).store t').get? other
        = (r.store t').get? other := by rw [store_setStore_of_ne r h]
      _ = r.get? other := rfl
  · rfl

@[simp] theorem uses_remove : (r.remove handle).uses = r.uses := by
  rw [remove]
  split
  · exact uses_setStore r t _
  · rfl

/-- What is alive stays alive when another object is removed. -/
theorem contains_remove (id : ObjectId) :
    (r.remove handle).contains id = true ↔ r.contains id = true ∧ id ≠ handle.erase := by
  constructor
  · intro h
    obtain ⟨t', other, rfl⟩ := exists_of_contains h
    rw [contains_erase] at h ⊢
    by_cases ht : t' = t
    · subst ht
      rw [get?_remove] at h
      split at h
      · cases h
      · next hne => exact ⟨h, fun heq => hne (Handle.erase_inj.mp heq)⟩
    · rw [get?_remove_of_ne r handle ht] at h
      refine ⟨h, fun heq => ht ?_⟩
      -- A handle is of the type that it is tagged with.
      have htype := congrArg ObjectId.type? heq
      rw [other.type?_erase, handle.type?_erase] at htype
      exact Option.some.inj htype
  · rintro ⟨h, hne⟩
    obtain ⟨t', other, rfl⟩ := exists_of_contains h
    rw [contains_erase] at h ⊢
    by_cases ht : t' = t
    · subst ht
      rwa [get?_remove, if_neg fun heq => hne (congrArg Handle.erase heq)]
    · rwa [get?_remove_of_ne r handle ht]

/-- The handle of a removed object is remembered. -/
theorem isKnown_remove {id : ObjectId} (h : r.isKnown id = true) :
    (r.remove handle).isKnown id = true := by
  have htombstones : (r.remove handle).tombstones = r.tombstones ∨
      (r.remove handle).tombstones = handle.erase :: r.tombstones := by
    rw [remove]
    split
    · exact Or.inr rfl
    · exact Or.inl rfl
  rw [isKnown, Bool.or_eq_true, isDestroyed, List.contains_iff_mem] at h ⊢
  rcases h with halive | hdead
  · by_cases hid : id = handle.erase
    · right
      subst hid
      rw [remove, if_pos]
      · exact List.mem_cons_self
      · rwa [contains_erase] at halive
    · exact Or.inl ((contains_remove r handle id).mpr ⟨halive, hid⟩)
  · right
    rcases htombstones with heq | heq
    · rwa [heq]
    · rw [heq]
      exact List.mem_cons_of_mem _ hdead

end Remove

end Registry

end VulkanValidity
