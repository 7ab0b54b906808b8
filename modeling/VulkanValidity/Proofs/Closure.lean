/-
  VulkanValidity.Proofs.Closure

  What operations can rely on beside the rules.  A live view shows an image that is known, a command
  buffer that can be submitted has a log, a swapchain tells of each of its images whether it is acquired
  (`Registry.Fits`), and all that recordings and logs refer to is known.  No rule says so; it holds of
  every session that calls lead to, whatever the engine (`Session.Reachable.closed`).
-/

import VulkanValidity.Proofs.Logs

namespace VulkanValidity

namespace Registry

variable {t : ObjectType} {r r' r'' : Registry}

/-! ## Objects that fit into a registry -/

/-- What an object needs beside itself. -/
def Fits (r : Registry) : (t : ObjectType) → t.Object → Prop
  | .imageView, view => r.isKnown view.image.erase = true
  | .commandBuffer, cb => cb.status = .executable ∨ cb.status = .pending → cb.log.isSome = true
  | .swapchain, swapchain => swapchain.acquired.length = swapchain.images.length
  | _, _ => True

/-- All live objects fit. -/
def Closed (r : Registry) : Prop :=
  ∀ (t : ObjectType) (handle : Handle t) (object : t.Object),
    r.get? handle = some object → r.Fits t object

/-- A change after which all that is known is still known, and all objects still fit. -/
structure Preserves (r r' : Registry) : Prop where
  known : ∀ id, r.isKnown id = true → r'.isKnown id = true
  closed : r.Closed → r'.Closed

theorem Preserves.refl (r : Registry) : r.Preserves r := ⟨fun _ h => h, fun h => h⟩

theorem Preserves.trans (h : r.Preserves r') (h' : r'.Preserves r'') : r.Preserves r'' :=
  ⟨fun id hid => h'.known id (h.known id hid), fun hclosed => h'.closed (h.closed hclosed)⟩

theorem Preserves.foldl {α : Type} {f : Registry → α → Registry}
    (h : ∀ r a, Preserves r (f r a)) (l : List α) (r : Registry) : r.Preserves (l.foldl f r) := by
  refine List.foldlRecOn (motive := r.Preserves) l f (.refl r) fun r' hbefore a _ => ?_
  exact hbefore.trans (h r' a)

theorem Fits.mono (hknown : ∀ id, r.isKnown id = true → r'.isKnown id = true) {object : t.Object}
    (h : r.Fits t object) : r'.Fits t object := by
  cases t with
  | imageView => exact hknown _ h
  | _ => exact h

/-- Objects fit if they fitted before or are shown to fit. -/
theorem Preserves.of_get? (hknown : ∀ id, r.isKnown id = true → r'.isKnown id = true)
    (hget : ∀ (t : ObjectType) (handle : Handle t) (object : t.Object), r.Closed →
      r'.get? handle = some object → r.Fits t object ∨ r'.Fits t object) : r.Preserves r' where
  known := hknown
  closed hclosed t handle object hobject := by
    rcases hget t handle object hclosed hobject with hold | hnew
    · exact hold.mono hknown
    · exact hnew

/-- The same objects are there, whichever of them are in use. -/
theorem Preserves.of_store (hstore : ∀ t, r'.store t = r.store t)
    (htombstones : r'.tombstones = r.tombstones) : r.Preserves r' := by
  have hget {t : ObjectType} (handle : Handle t) : r'.get? handle = r.get? handle := by
    rw [get?, hstore, get?]
  refine .of_get? (fun id hid => ?_) fun t handle object hclosed hobject => ?_
  · have halive : r'.contains id = r.contains id := contains_congr (fun t handle => by rw [hget]) id
    rwa [isKnown, halive, isDestroyed, htombstones]
  · rw [hget] at hobject
    exact Or.inl (hclosed t handle object hobject)

theorem SameObjects.preserves (h : r.SameObjects r') : r.Preserves r' :=
  .of_store h.store h.tombstones

/-- A new object fits. -/
theorem IsNew.fits (ht : t ≠ .commandBuffer) {object : t.Object} (h : r.IsNew t object) :
    r.Fits t object := by
  cases t with
  | commandBuffer => exact absurd rfl ht
  | imageView => exact h
  | swapchain => exact h
  | _ => trivial

/-- A changed object fits as it did before. -/
theorem IsKept.fits (ht : t ≠ .commandBuffer) {object object' : t.Object} (h : IsKept t object object')
    (hfits : r.Fits t object) : r.Fits t object' := by
  cases t with
  | commandBuffer => exact absurd rfl ht
  | imageView =>
    show r.isKnown (ImageView.image object').erase = true
    rw [show ImageView.image object' = ImageView.image object from h]
    exact hfits
  | swapchain => exact h.2.trans (hfits.trans (congrArg List.length h.1).symm)
  | _ => trivial

theorem preserves_add (r : Registry) (handle : Handle t) {object : t.Object}
    (hfits : r.Fits t object) : r.Preserves (r.add handle object) := by
  refine .of_get? (fun id hid => isKnown_add r handle object hid)
    fun t' other found hclosed hfound => Or.inl ?_
  by_cases ht : t' = t
  · subst ht
    rw [get?_add, Option.or_eq_some_iff] at hfound
    rcases hfound with hold | ⟨-, hnew⟩
    · exact hclosed t' other found hold
    · split at hnew
      · obtain rfl := Option.some.inj hnew
        exact hfits
      · cases hnew
  · rw [get?_add_of_ne r handle object ht] at hfound
    exact hclosed t' other found hfound

theorem preserves_modify (r : Registry) (handle : Handle t) {f : t.Object → t.Object}
    (hf : ∀ object, r.get? handle = some object → r.Fits t object → r.Fits t (f object)) :
    r.Preserves (r.modify handle f) := by
  refine .of_get? (fun id hid => (isKnown_modify r handle f id).trans hid)
    fun t' other found hclosed hfound => Or.inl ?_
  by_cases ht : t' = t
  · subst ht
    rw [get?_modify] at hfound
    split at hfound
    · next heq =>
      subst heq
      obtain ⟨object, hobject, rfl⟩ := Option.map_eq_some_iff.mp hfound
      exact hf object hobject (hclosed t' other object hobject)
    · exact hclosed t' other found hfound
  · rw [get?_modify_of_ne r handle f ht] at hfound
    exact hclosed t' other found hfound

theorem preserves_remove (r : Registry) (handle : Handle t) : r.Preserves (r.remove handle) := by
  refine .of_get? (fun id hid => isKnown_remove r handle hid)
    fun t' other found hclosed hfound => Or.inl ?_
  by_cases ht : t' = t
  · subst ht
    rw [get?_remove] at hfound
    split at hfound
    · cases hfound
    · exact hclosed t' other found hfound
  · rw [get?_remove_of_ne r handle ht] at hfound
    exact hclosed t' other found hfound

theorem preserves_setStates (r : Registry) (resource : Resource) (states : RangeMap SubresourceState) :
    r.Preserves (r.setStates resource states) := by
  cases resource with
  | image handle => exact preserves_modify (t := .image) r handle fun _ _ _ => trivial
  | buffer handle => exact preserves_modify (t := .buffer) r handle fun _ _ _ => trivial

end Registry

/-! ## Changes of devices -/

namespace Device

theorem Quiet.preserves {d d' : Device} (h : d.Quiet d') : d.registry.Preserves d'.registry := by
  cases h with
  | aside hobjects => exact hobjects.preserves
  | add handle ht hnew => exact Registry.preserves_add d.registry handle (hnew.fits ht)
  | modify handle ht hkept =>
    exact Registry.preserves_modify d.registry handle fun object _ => (hkept object).fits ht

theorem Quietly.preserves {d d' : Device} (h : d.Quietly d') : d.registry.Preserves d'.registry :=
  h.keeps (P := fun d' => d.registry.Preserves d'.registry)
    (fun _ _ hquiet hbefore => hbefore.trans hquiet.preserves) (.refl d.registry)

theorem preserves_retire (r : Registry) (submission : PendingSubmission) :
    r.Preserves (retire r submission) := by
  have hunpin : r.Preserves (r.unpin submission.pinned) :=
    .of_store (fun t => by cases t <;> rfl) rfl
  have hmodify : (r.unpin submission.pinned).Preserves
      ((r.unpin submission.pinned).modify submission.commandBuffer CommandBuffer.retire) := by
    refine Registry.preserves_modify _ _ fun cb _ hfits hstatus => hfits ?_
    -- What is executable after a submission is complete was executable or pending before.
    simp only [CommandBuffer.retire] at hstatus
    split at hstatus
    · next hdone => exact Or.inr hdone.2
    · exact hstatus
  exact (hunpin.trans hmodify).trans (Registry.sameObjects_record _ _ _).preserves

theorem PlainEffect.preserves {d d' : Device} {call : Call} (h : d.PlainEffect call d') :
    d.registry.Preserves d'.registry := by
  cases h with
  | quiet hedits => exact hedits.quietly.preserves
  | destroyed => exact Registry.preserves_remove d.registry _
  | swapchainDestroyed =>
    exact (Registry.preserves_remove d.registry _).trans
      (.foldl (fun r image => Registry.preserves_remove r image) _ _)
  | waited => exact .foldl preserves_retire _ _

theorem Begins.preserves {d d' : Device} {queue : Queue} {again : Option (Handle .commandBuffer)}
    {usage : CommandBufferUsage} {recorder : Recorder} (h : d.Begins queue usage again recorder d') :
    d.registry.Preserves d'.registry := by
  have hfits (r : Registry) (cb : CommandBuffer) : r.Fits .commandBuffer (cb.begin usage) := by
    rintro (hstatus | hstatus) <;> cases hstatus
  cases h with
  | fresh =>
    exact (Registry.sameObjects_reserve d.registry .commandBuffer).preserves.trans
      (Registry.preserves_add _ _ (hfits _ _))
  | again =>
    exact Registry.preserves_modify (t := .commandBuffer) d.registry _ fun cb _ _ => hfits _ cb

theorem preserves_submitOne (d : Device) (queue : Queue) (handle : Handle .commandBuffer) :
    d.registry.Preserves (d.submitOne queue handle).state.registry := by
  rcases d.submitOne_cases queue handle with ⟨-, hs⟩ | ⟨log, -, hlog, hs⟩
  · rw [hs]
    exact .refl _
  · rw [hs]
    have happly : d.registry.Preserves ((log.replay d.registry).apply d.registry) :=
      .foldl (fun r (entry : Resource × RangeMap SubresourceState) =>
        r.preserves_setStates entry.1 entry.2) _ _
    have hsubmit : ((log.replay d.registry).apply d.registry).Preserves
        (((log.replay d.registry).apply d.registry).modify handle CommandBuffer.submit) := by
      refine Registry.preserves_modify _ _ fun cb hcb _ _ => ?_
      have hget : d.registry.get? handle = some cb := by
        rw [← hcb]
        exact (congrArg (Store.get? · handle) (apply_commandBuffers _ _)).symm
      rw [Registry.log?_of_get? hget] at hlog
      exact Option.isSome_iff_exists.mpr ⟨log, hlog⟩
    exact (happly.trans hsubmit).trans (.of_store (fun t => by cases t <;> rfl) rfl)

end Device

/-! ## Sessions -/

namespace Session

theorem Transition.preserves {s after : Session} {call : Call} (h : s.Transition call after) :
    s.device.registry.Preserves after.device.registry := by
  cases h with
  | plain _ hd => exact hd.preserves
  | begun hd => exact hd.preserves
  | ended =>
    exact Registry.preserves_modify (t := .commandBuffer) s.device.registry _ fun cb _ _ _ => rfl
  | submitted =>
    exact Device.submitAll_keeps (P := fun d => s.device.registry.Preserves d.registry)
      (fun d queue handle hbefore => hbefore.trans (d.preserves_submitOne queue handle)) (.refl _) _
  | _ => exact .refl _

/-- The objects of a session fit, and what its recordings and logs refer to is known. -/
structure Closed (s : Session) : Prop where
  registry : s.device.registry.Closed
  logs : s.AllLogs fun r log => ∀ id ∈ log.references, r.isKnown id = true

theorem Closed.isKnown_of_reaches {s : Session} (h : s.Closed) {id : ObjectId}
    (hid : s.device.registry.Reaches id) : s.device.registry.isKnown id = true := by
  rcases hid with halive | ⟨handle, view, hview, rfl⟩
  · exact Registry.isKnown_of_contains halive
  · exact h.registry .imageView handle view hview

theorem closed_start (environment : Environment) (engine : Engine) :
    (start environment engine).Closed where
  registry t handle object hget := by cases t <;> cases hget
  logs := allLogs_start environment engine

theorem Closed.step {s : Session} (h : s.Closed) (call : Call) : (s.step call).state.Closed := by
  have htransition := s.step_transition call
  have hpreserves := htransition.preserves
  refine ⟨hpreserves.closed h.registry, h.logs.transition htransition
    (fun log hlog id hid => hpreserves.known id (hlog id hid)) (fun family id hid => ?_)
    fun key command recorder _ hr id hid => ?_⟩
  · cases hid
  · rcases (recorder.record_adds s.device command).references id hid with hold | hreached
    · exact h.logs.recordings key recorder hr id hold
    · exact h.isKnown_of_reaches hreached

theorem Closed.submission {s : Session} (h : s.Closed) (queue : Queue)
    (handle : Handle .commandBuffer) :
    (s.withDevice (s.device.submitOne queue handle).state).Closed := by
  have hpreserves := s.device.preserves_submitOne queue handle
  refine ⟨hpreserves.closed h.registry, h.logs.submission queue handle fun log hlog id hid => ?_⟩
  exact hpreserves.known id (hlog id hid)

/-- Every reachable session is closed. -/
theorem Reachable.closed {s : Session} (h : s.Reachable) : s.Closed := by
  induction h with
  | start environment engine => exact closed_start environment engine
  | call _ call ih => exact ih.step call
  | submission _ queue handle ih => exact ih.submission queue handle

end Session

end VulkanValidity
