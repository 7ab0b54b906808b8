/-
  VulkanValidity.Proofs.Origins

  Where images come from.  An image is made on its own, and may get memory later, or it is made with a
  swapchain and has the memory of a position of it.  This, and the properties that the image was made with,
  is its origin.  The calls that make images and swapchains, that bind images and that destroy either of
  them are few (`Device.Remakes`), and in every other step all origins stay as they are.
-/

import VulkanValidity.Proofs.Admission
import VulkanValidity.Proofs.Swapchains

namespace VulkanValidity

namespace Registry

/-! ## Origins -/

/-- The properties of a live image and what its memory is. -/
def imageOrigin? (r : Registry) (image : Handle .image) : Option (ImageInfo × Option ImageMemory) :=
  (r.get? image).map fun found => (found.info, found.memory)

/-- The properties of a live swapchain and its images. -/
def swapchainOrigin? (r : Registry) (swapchain : Handle .swapchain) :
    Option (SwapchainInfo × List (Handle .image)) :=
  (r.get? swapchain).map fun found => (found.info, found.images)

/-- All images and swapchains are as before, but for the states of images and for what is acquired. -/
structure SameOrigins (r r' : Registry) : Prop where
  images : ∀ image, r'.imageOrigin? image = r.imageOrigin? image
  swapchains : ∀ swapchain, r'.swapchainOrigin? swapchain = r.swapchainOrigin? swapchain

section

variable {r r' : Registry}

theorem imageOrigin?_congr (h : r'.store .image = r.store .image) (image : Handle .image) :
    r'.imageOrigin? image = r.imageOrigin? image :=
  congrArg (fun s => (Store.get? s image).map fun found : Image => (found.info, found.memory)) h

theorem swapchainOrigin?_congr (h : r'.store .swapchain = r.store .swapchain)
    (swapchain : Handle .swapchain) : r'.swapchainOrigin? swapchain = r.swapchainOrigin? swapchain :=
  congrArg (fun s => (Store.get? s swapchain).map fun found : Swapchain => (found.info, found.images)) h

theorem SameOrigins.of_stores (himages : r'.store .image = r.store .image)
    (hswapchains : r'.store .swapchain = r.store .swapchain) : r.SameOrigins r' :=
  ⟨imageOrigin?_congr himages, swapchainOrigin?_congr hswapchains⟩

theorem SameOrigins.refl (r : Registry) : r.SameOrigins r := .of_stores rfl rfl

theorem SameOrigins.trans {r'' : Registry} (h : r.SameOrigins r') (h' : r'.SameOrigins r'') :
    r.SameOrigins r'' :=
  ⟨fun image => (h'.images image).trans (h.images image),
    fun swapchain => (h'.swapchains swapchain).trans (h.swapchains swapchain)⟩

/-- Acquiring and releasing images of a swapchain changes neither its properties nor its images. -/
theorem sameOrigins_modify (r : Registry) (handle : Handle .swapchain) {f : Swapchain → Swapchain}
    (hf : ∀ swapchain, (f swapchain).info = swapchain.info ∧ (f swapchain).images = swapchain.images) :
    r.SameOrigins (r.modify handle f) where
  images := imageOrigin?_congr (store_modify (by decide) r handle f)
  swapchains other := by
    rw [swapchainOrigin?, get?_modify, swapchainOrigin?]
    split
    · rw [Option.map_map]
      exact congrArg (Option.map · _) (funext fun swapchain => Prod.ext (hf swapchain).1 (hf swapchain).2)
    · rfl

theorem imageOrigin?_add (r : Registry) (handle : Handle .image) (info : ImageInfo)
    (image : Handle .image) : (r.add handle (Image.ofInfo info)).imageOrigin? image
      = (r.imageOrigin? image).or (if image = handle then some (info, none) else none) := by
  rw [imageOrigin?, get?_add, imageOrigin?]
  cases r.get? image with
  | some found => rfl
  | none =>
    rw [Option.none_or, Option.map_none, Option.none_or]
    split <;> rfl

theorem imageOrigin?_bind {handle : Handle .image} {found : Image} (hget : r.get? handle = some found)
    (binding : MemoryBinding) (image : Handle .image) :
    ((r.modify handle fun image => { image with memory := some (.bound binding) }).record
        handle.erase .bound).imageOrigin? image
      = if image = handle then some (found.info, some (.bound binding)) else r.imageOrigin? image := by
  rw [imageOrigin?, (sameObjects_record _ _ _).get?_eq, get?_modify, imageOrigin?]
  split
  · next heq => rw [heq, hget]; rfl
  · rfl

theorem imageOrigin?_remove (r : Registry) (handle image : Handle .image) :
    (r.remove handle).imageOrigin? image
      = if image = handle then none else r.imageOrigin? image := by
  rw [imageOrigin?, get?_remove, imageOrigin?]
  split <;> rfl

end

end Registry

namespace Device

section RemoveSwapchain

variable (d : Device) (handle : Handle .swapchain) (images : List (Handle .image))

theorem imageOrigin?_removeSwapchain (image : Handle .image) :
    (d.removeSwapchain handle images).registry.imageOrigin? image
      = if image ∈ images then none else d.registry.imageOrigin? image := by
  rw [Registry.imageOrigin?, d.get?_image_removeSwapchain handle images, Registry.imageOrigin?]
  split <;> rfl

theorem swapchainOrigin?_removeSwapchain (other : Handle .swapchain) :
    (d.removeSwapchain handle images).registry.swapchainOrigin? other
      = if other = handle then none else d.registry.swapchainOrigin? other := by
  rw [Registry.swapchainOrigin?, d.get?_swapchain_removeSwapchain handle images, Registry.swapchainOrigin?]
  split <;> rfl

end RemoveSwapchain

/-! ## Changes of origins -/

/-- What a step can do to the images and the swapchains of a device. -/
inductive Remakes (d : Device) : Device → Prop
  | same {d' : Device} (h : d.registry.SameOrigins d'.registry) : d.Remakes d'
  | imageCreated {info : ImageInfo} (haccepted : verdict (d.diagnose (.createImage info)) = .ok ()) :
    d.Remakes (d.insert .image (.ofInfo info)).2
  /-- Memory is bound to an image that has none. -/
  | imageBound {handle : Handle .image} {image : Image} (binding : MemoryBinding)
    (hget : d.registry.get? handle = some image) (hunbound : image.memory = none) :
    d.Remakes (d.withRegistry ((d.registry.modify handle fun image =>
      { image with memory := some (.bound binding) }).record handle.erase .bound))
  | imageDestroyed {handle : Handle .image}
    (haccepted : verdict (d.diagnose (.destroy handle.erase)) = .ok ()) :
    d.Remakes (d.withRegistry (d.registry.remove handle))
  | swapchainCreated {info : SwapchainInfo}
    (haccepted : verdict (d.diagnose (.createSwapchain info)) = .ok ()) :
    d.Remakes (d.addSwapchain info)
  | swapchainDestroyed {handle : Handle .swapchain} {swapchain : Swapchain}
    (hget : d.registry.get? handle = some swapchain) :
    d.Remakes (d.removeSwapchain handle swapchain.images)

theorem Remakes.refl (d : Device) : d.Remakes d := .same (.refl d.registry)

/-- The origin of an image after a step: it was the same before, or it comes from the step. -/
theorem Remakes.origin_cases {d d' : Device} (h : d.Remakes d') {image : Handle .image}
    {origin : ImageInfo × Option ImageMemory} (horigin : d'.registry.imageOrigin? image = some origin) :
    d.registry.imageOrigin? image = some origin
      ∨ (∃ info, verdict (d.diagnose (.createImage info)) = .ok () ∧ origin = (info, none))
      ∨ (∃ info binding, d.registry.imageOrigin? image = some (info, none)
        ∧ origin = (info, some (.bound binding)))
      ∨ ∃ info swapchain index, verdict (d.diagnose (.createSwapchain info)) = .ok ()
        ∧ origin = (info.imageInfo, some (.presented swapchain index)) := by
  cases h with
  | same hsame => exact Or.inl (hsame.images image ▸ horigin)
  | @imageCreated info haccepted =>
    have hadd := Registry.imageOrigin?_add (d.registry.reserve .image).2 (d.registry.reserve .image).1
      info image
    -- What was there under the handle of the new image would be found first.
    rcases Option.or_eq_some_iff.mp (hadd.symm.trans horigin) with hbefore | ⟨-, hnew⟩
    · exact Or.inl hbefore
    · split at hnew
      · exact Or.inr (Or.inl ⟨info, haccepted, (Option.some.inj hnew).symm⟩)
      · cases hnew
  | @imageBound handle found binding hget hunbound =>
    have hbind := (Registry.imageOrigin?_bind hget binding image).symm.trans horigin
    split at hbind
    · next heq =>
      refine Or.inr (Or.inr (Or.inl ⟨found.info, binding, ?_, (Option.some.inj hbind).symm⟩))
      rw [heq, Registry.imageOrigin?, hget, ← hunbound]
      rfl
    · exact Or.inl hbind
  | @imageDestroyed handle =>
    have hremove := (d.registry.imageOrigin?_remove handle image).symm.trans horigin
    split at hremove
    · cases hremove
    · exact Or.inl hremove
  | @swapchainCreated info haccepted =>
    -- The swapchain itself comes last, and is no image.
    rw [Registry.imageOrigin?, d.get?_image_addSwapchain] at horigin
    rcases get?_addImages_cases info (.ofSerial .swapchain d.registry.nextSerial)
      (d.registry.reserve .swapchain).2 info.imageCount image with hsame | ⟨index, hnew⟩
    · rw [hsame] at horigin
      exact Or.inl horigin
    · rw [hnew] at horigin
      exact Or.inr (Or.inr (Or.inr ⟨info, _, index, haccepted, (Option.some.inj horigin).symm⟩))
  | @swapchainDestroyed handle swapchain =>
    have hremove := (d.imageOrigin?_removeSwapchain handle swapchain.images image).symm.trans horigin
    split at hremove
    · cases hremove
    · exact Or.inl hremove

theorem remakes_guarded {α : Type} {d : Device} {diagnostics : List Diagnostic}
    {perform : Except Error (α × Device)}
    (h : ∀ value after, verdict diagnostics = .ok () → perform = .ok (value, after) → d.Remakes after) :
    d.Remakes (Outcome.guarded d diagnostics perform).state := by
  rcases Outcome.guarded_cases d diagnostics perform with
    ⟨hs, -⟩ | ⟨value, after, haccepted, hperform, hs, -⟩
  · rw [hs]
    exact .refl d
  · rw [hs]
    exact h value after haccepted hperform

theorem remakes_createImage (d : Device) (info : ImageInfo) : d.Remakes (d.createImage info).state := by
  refine remakes_guarded fun value after haccepted hperform => ?_
  obtain rfl := congrArg Prod.snd (Except.ok.inj hperform)
  exact .imageCreated haccepted

theorem remakes_bindImage (d : Device) (handle : Handle .image) (memory : Handle .deviceMemory)
    (offset : ℕ) : d.Remakes (d.bindImage handle memory offset).state := by
  refine remakes_guarded fun value after _ hperform => ?_
  obtain ⟨image, himage, hperform⟩ := bind_eq_ok.mp hperform
  obtain ⟨allocation, -, hperform⟩ := bind_eq_ok.mp hperform
  split at hperform
  · cases hperform
  · next hbound =>
    obtain rfl := congrArg Prod.snd (pure_eq_ok.mp hperform)
    exact .imageBound _ (Registry.get_eq_ok.mp himage) (Option.not_isSome_iff_eq_none.mp hbound)

theorem remakes_acquireImage (d : Device) (handle : Handle .swapchain) :
    d.Remakes (d.acquireImage handle).state := by
  refine remakes_guarded fun value after _ hperform => ?_
  obtain ⟨swapchain, -, hperform⟩ := bind_eq_ok.mp hperform
  split at hperform
  · obtain rfl := congrArg Prod.snd (pure_eq_ok.mp hperform)
    exact .same (d.registry.sameOrigins_modify handle fun _ => ⟨rfl, rfl⟩)
  · cases hperform

theorem sameOrigins_releaseImages (images : List PresentedImage) (r : Registry) :
    r.SameOrigins (releaseImages r images).1 := by
  induction images generalizing r with
  | nil => exact .refl r
  | cons image images ih =>
    rw [releaseImages]
    split
    · exact .refl r
    · have hrelease := r.sameOrigins_modify image.swapchain
        (f := fun swapchain => swapchain.release image.index) fun _ => ⟨rfl, rfl⟩
      exact hrelease.trans (ih _)

theorem remakes_present (d : Device) (images : List PresentedImage) :
    d.Remakes (d.present images).state := by
  unfold present
  simp only
  split
  · exact .refl d
  · exact .same (sameOrigins_releaseImages images d.registry)

/-- An execution changes the states of images only. -/
theorem remakes_submitOne (d : Device) (queue : Queue) (handle : Handle .commandBuffer) :
    d.Remakes (d.submitOne queue handle).state := by
  rcases d.submitOne_cases queue handle with ⟨-, hs⟩ | ⟨log, -, -, hs⟩
  · rw [hs]
    exact .refl d
  · refine .same ⟨fun image => ?_, Registry.swapchainOrigin?_congr
      (d.objects_submitOne (by decide) (by decide) (by decide) queue handle)⟩
    rw [hs]
    have himages := congrArg (Option.map fun found : Image => (found.info, found.memory))
      (d.images_execute queue handle log image)
    exact himages.trans (Option.map_map ..)

end Device

/-- A call that does not submit does one of these things to the images and the swapchains. -/
theorem Session.remakes_step (s : Session) {call : Call} (hsubmit : ∀ batches, call ≠ .submit batches) :
    s.device.Remakes (s.step call).state.device := by
  -- Most calls touch neither the images nor the swapchains.
  have helsewhere (himage : .image ∉ call.footprint) (hswapchain : .swapchain ∉ call.footprint) :
      s.device.Remakes (s.step call).state.device :=
    .same (.of_stores (s.objects_step himage) (s.objects_step hswapchain))
  cases call with
  | createImage info => exact s.device.remakes_createImage info
  | bindImage image memory offset => exact s.device.remakes_bindImage image memory offset
  | createSwapchain info =>
    show s.device.Remakes (s.device.createSwapchain info).state
    rcases s.device.createSwapchain_cases info with ⟨hs, -⟩ | ⟨haccepted, hs, -⟩
    · rw [hs]
      exact .refl s.device
    · rw [hs]
      exact .swapchainCreated haccepted
  | destroy type handle =>
    cases type with
    | image =>
      show s.device.Remakes (s.device.destroy handle).state
      rcases s.device.destroy_cases handle with ⟨hs, -⟩ | ⟨haccepted, hs, -⟩
      · rw [hs]
        exact .refl s.device
      · rw [hs]
        exact .imageDestroyed haccepted
    | swapchain =>
      show s.device.Remakes (s.device.destroySwapchain handle).state
      rcases s.device.destroySwapchain_cases handle with ⟨hs, -⟩ | ⟨swapchain, hget, hs, -⟩
      · rw [hs]
        exact .refl s.device
      · rw [hs]
        exact .swapchainDestroyed hget
    | _ => exact helsewhere (by simp [Call.footprint]) (by simp [Call.footprint])
  | acquireImage swapchain => exact s.device.remakes_acquireImage swapchain
  | present images => exact s.device.remakes_present images
  | submit batches => exact absurd rfl (hsubmit batches)
  | _ => exact helsewhere (by simp [Call.footprint]) (by simp [Call.footprint])

end VulkanValidity
