/-
  VulkanValidity.Proofs.SwapchainImages

  Swapchains and their images live and die together.  A swapchain names its images, and each of them names
  the swapchain and its own position in it (`Registry.Linked`).  The two records are made by one call, and
  removed by one call; what keeps them in step in between is that images are bound only if they have no
  memory, and a rule against destroying an image of a swapchain.
-/

import VulkanValidity.Proofs.InUse
import VulkanValidity.Proofs.Origins

namespace VulkanValidity

namespace Registry

/-! ## Links -/

/-- Live swapchains and their images refer to each other. -/
structure Linked (r : Registry) : Prop where
  /-- An image of a swapchain is alive, and was made for its position. -/
  owns : ∀ swapchain info images index image, r.swapchainOrigin? swapchain = some (info, images) →
    images[index]? = some image →
    r.imageOrigin? image = some (info.imageInfo, some (.presented swapchain index))
  /-- An image that was made for a position of a swapchain is there. -/
  belongs : ∀ image made swapchain index,
    r.imageOrigin? image = some (made, some (.presented swapchain index)) →
    ∃ info images, r.swapchainOrigin? swapchain = some (info, images) ∧ images[index]? = some image

/-- The image is not one of a swapchain. -/
def IsApart (r : Registry) (image : Handle .image) : Prop :=
  ∀ made swapchain index, r.imageOrigin? image ≠ some (made, some (.presented swapchain index))

theorem linked_empty : ({} : Registry).Linked where
  owns swapchain info images index image hswapchain := by cases hswapchain
  belongs image made swapchain index himage := by cases himage

theorem isApart_of_none {r : Registry} {image : Handle .image} (h : r.imageOrigin? image = none) :
    r.IsApart image := by
  intro made swapchain index horigin
  rw [h] at horigin
  cases horigin

/-- An image that was made on its own stays apart from the swapchains. -/
theorem isApart_of_not_presented {r : Registry} {image : Handle .image} {made : ImageInfo}
    {memory : Option ImageMemory} (h : r.imageOrigin? image = some (made, memory))
    (hmemory : ∀ swapchain index, memory ≠ some (.presented swapchain index)) : r.IsApart image := by
  intro made' swapchain index horigin
  exact hmemory swapchain index (Prod.mk.inj (Option.some.inj (h.symm.trans horigin))).2

theorem presented_inj {made made' : ImageInfo} {swapchain swapchain' : Handle .swapchain}
    {index index' : ℕ} (h : some (made, some (ImageMemory.presented swapchain index))
      = some (made', some (.presented swapchain' index'))) : swapchain = swapchain' ∧ index = index' :=
  ImageMemory.presented.inj (Option.some.inj (Prod.mk.inj (Option.some.inj h)).2)

namespace Linked

variable {r r' : Registry} (h : r.Linked)
include h

/-- No image has two positions. -/
theorem unique {swapchain swapchain' : Handle .swapchain} {info info' : SwapchainInfo}
    {images images' : List (Handle .image)} {index index' : ℕ} {image : Handle .image}
    (hswapchain : r.swapchainOrigin? swapchain = some (info, images))
    (hswapchain' : r.swapchainOrigin? swapchain' = some (info', images'))
    (himage : images[index]? = some image) (himage' : images'[index']? = some image) :
    swapchain = swapchain' ∧ index = index' :=
  presented_inj ((h.owns swapchain info images index image hswapchain himage).symm.trans
    (h.owns swapchain' info' images' index' image hswapchain' himage'))

/-- Links stay as long as swapchains do, and as long as nothing happens but to images that are not of
swapchains. -/
theorem elsewhere
    (himages : ∀ image, r'.imageOrigin? image = r.imageOrigin? image
      ∨ (r.IsApart image ∧ r'.IsApart image))
    (hswapchains : ∀ swapchain, r'.swapchainOrigin? swapchain = r.swapchainOrigin? swapchain) :
    r'.Linked where
  owns swapchain info images index image hswapchain himage := by
    rw [hswapchains] at hswapchain
    have howned := h.owns swapchain info images index image hswapchain himage
    rcases himages image with hsame | ⟨hapart, -⟩
    · rwa [hsame]
    · exact absurd howned (hapart _ _ _)
  belongs image made swapchain index himage := by
    simp only [hswapchains]
    rcases himages image with hsame | ⟨-, hapart⟩
    · exact h.belongs image made swapchain index (hsame ▸ himage)
    · exact absurd himage (hapart _ _ _)

/-- A new swapchain is linked with its images. -/
theorem hasNewSwapchain {info : SwapchainInfo} {swapchain : Handle .swapchain}
    {images : List (Handle .image)} (hnew : r.HasNewSwapchain r' info swapchain images) : r'.Linked := by
  have hown : r'.swapchainOrigin? swapchain = some (info, images) := by
    rw [swapchainOrigin?, hnew.own]
    rfl
  have hmade {index : ℕ} {image : Handle .image} (himage : images[index]? = some image) :
      r'.imageOrigin? image = some (info.imageInfo, some (.presented swapchain index)) := by
    rw [imageOrigin?, hnew.made index image himage]
    rfl
  have hother {other : Handle .swapchain} (hne : other ≠ swapchain) :
      r'.swapchainOrigin? other = r.swapchainOrigin? other := by
    rw [swapchainOrigin?, hnew.otherSwapchains other hne, swapchainOrigin?]
  have hold {image : Handle .image} (himage : image ∉ images) :
      r'.imageOrigin? image = r.imageOrigin? image := by
    rw [imageOrigin?, hnew.otherImages image himage, imageOrigin?]
  refine ⟨fun other made others index image horigin himage => ?_,
    fun image made other index horigin => ?_⟩
  · by_cases heq : other = swapchain
    · subst heq
      obtain ⟨rfl, rfl⟩ := Prod.mk.inj (Option.some.inj (horigin.symm.trans hown))
      exact hmade himage
    · -- The images of the other swapchains were alive before.
      rw [hother heq] at horigin
      have howned := h.owns other made others index image horigin himage
      rw [hold, howned]
      intro hmem
      rw [imageOrigin?, hnew.fresh image hmem] at howned
      cases howned
  · by_cases hmem : image ∈ images
    · obtain ⟨position, hposition⟩ := List.mem_iff_getElem?.mp hmem
      obtain ⟨rfl, rfl⟩ := presented_inj ((hmade hposition).symm.trans horigin)
      exact ⟨info, images, hown, hposition⟩
    · rw [hold hmem] at horigin
      obtain ⟨found, others, hfound, hindex⟩ := h.belongs image made other index horigin
      refine ⟨found, others, ?_, hindex⟩
      rw [hother, hfound]
      rintro rfl
      rw [swapchainOrigin?, hnew.unknown] at hfound
      cases hfound

/-- A swapchain goes with all its images, and with no image of another one. -/
theorem removed {swapchain : Handle .swapchain} {info : SwapchainInfo} {images : List (Handle .image)}
    (hswapchain : r.swapchainOrigin? swapchain = some (info, images))
    (himages : ∀ image, r'.imageOrigin? image
      = if image ∈ images then none else r.imageOrigin? image)
    (hswapchains : ∀ other, r'.swapchainOrigin? other
      = if other = swapchain then none else r.swapchainOrigin? other) : r'.Linked := by
  refine ⟨fun other made others index image horigin himage => ?_,
    fun image made other index horigin => ?_⟩
  · rw [hswapchains] at horigin
    split at horigin
    · cases horigin
    · next hne =>
      -- The image is not removed, for then it would have a position in both swapchains.
      have howned := h.owns other made others index image horigin himage
      rw [himages, if_neg, howned]
      intro hmem
      obtain ⟨position, hposition⟩ := List.mem_iff_getElem?.mp hmem
      exact hne (h.unique horigin hswapchain himage hposition).1
  · rw [himages] at horigin
    split at horigin
    · cases horigin
    · next hmem =>
      obtain ⟨found, others, hfound, hindex⟩ := h.belongs image made other index horigin
      refine ⟨found, others, ?_, hindex⟩
      rw [hswapchains, if_neg, hfound]
      rintro rfl
      obtain ⟨-, rfl⟩ := Prod.mk.inj (Option.some.inj (hswapchain.symm.trans hfound))
      exact hmem (List.mem_of_getElem? hindex)

end Linked

end Registry

/-! ## Steps -/

/-- Destroying an image of a swapchain on its own is not accepted. -/
theorem Standard.isApart_of_accepted {d : Device} (hengine : d.engine = engine) {handle : Handle .image}
    (h : verdict (d.diagnose (.destroy handle.erase)) = .ok ()) : d.registry.IsApart handle := by
  rw [Device.diagnose, hengine] at h
  have hcheck : SwapchainRules.destroyImage (d.context (.destroy handle.erase)) = [] :=
    check_eq_nil (reports_rule swapchainRules 5) rfl h
  cases hget : d.registry.get? handle with
  | none => exact Registry.isApart_of_none (congrArg (Option.map _) hget)
  | some image =>
    refine Registry.isApart_of_not_presented (congrArg (Option.map _) hget) fun swapchain index hmemory => ?_
    simp only [SwapchainRules.destroyImage, Device.context, ObjectId.downcast?_erase, Option.bind_some,
      hget] at hcheck
    have hapart := violationIf_eq_nil.mp hcheck
    rw [Image.isPresented, hmemory] at hapart
    cases hapart

namespace Registry.Linked

variable {d d' : Device} (h : d.registry.Linked)
include h

theorem remakes (hengine : d.engine = Standard.engine) (hagrees : d.registry.Agrees [])
    (hfits : d'.registry.nextSerial ≤ ObjectId.maxSerial + 1) (hremakes : d.Remakes d') :
    d'.registry.Linked := by
  cases hremakes with
  | same hsame => exact h.elsewhere (fun image => Or.inl (hsame.images image)) hsame.swapchains
  | @imageCreated info =>
    -- The image that is made has no memory yet.
    refine h.elsewhere (fun image => ?_) (swapchainOrigin?_congr (store_insert (by decide) d.registry _))
    have horigin := imageOrigin?_add (d.registry.reserve .image).2 (d.registry.reserve .image).1 info image
    have hreserve : (d.registry.reserve .image).2.imageOrigin? image = d.registry.imageOrigin? image := rfl
    rw [hreserve] at horigin
    cases hbefore : d.registry.imageOrigin? image with
    | some origin => exact Or.inl (by rw [hbefore] at horigin; exact horigin)
    | none =>
      rw [hbefore, Option.none_or] at horigin
      refine Or.inr ⟨isApart_of_none hbefore, ?_⟩
      split at horigin
      · exact isApart_of_not_presented horigin fun _ _ hmemory => by cases hmemory
      · exact isApart_of_none horigin
  | @imageBound handle found binding hget hunbound =>
    refine h.elsewhere (fun image => ?_) (swapchainOrigin?_congr ?_)
    · -- The image that is bound had no memory before, and has that of an allocation afterwards.
      have horigin := imageOrigin?_bind hget binding image
      split at horigin
      · next heq =>
        have hbefore : d.registry.imageOrigin? image = some (found.info, none) := by
          rw [heq, imageOrigin?, hget, ← hunbound]
          rfl
        exact Or.inr ⟨isApart_of_not_presented hbefore fun _ _ hmemory => (by cases hmemory),
          isApart_of_not_presented horigin fun _ _ hmemory => (by cases hmemory)⟩
      · exact Or.inl horigin
    · exact ((sameObjects_record _ _ _).store .swapchain).trans
        (store_modify (by decide) d.registry handle _)
  | @imageDestroyed handle haccepted =>
    refine h.elsewhere (fun image => ?_)
      (swapchainOrigin?_congr (store_remove (by decide) d.registry handle))
    have horigin := d.registry.imageOrigin?_remove handle image
    split at horigin
    · next heq => exact Or.inr ⟨heq ▸ Standard.isApart_of_accepted hengine haccepted, isApart_of_none horigin⟩
    · exact Or.inl horigin
  | swapchainCreated =>
    obtain ⟨images, hnew⟩ := Device.hasNewSwapchain hagrees hfits
    exact h.hasNewSwapchain hnew
  | @swapchainDestroyed handle swapchain hget =>
    exact h.removed (congrArg (Option.map _) hget) (d.imageOrigin?_removeSwapchain handle swapchain.images)
      (d.swapchainOrigin?_removeSwapchain handle swapchain.images)

end Registry.Linked

namespace Session

/-- On the standard engine, and as long as no handle is used twice, live swapchains and their images refer to
each other. -/
theorem Reachable.linked {s : Session} (h : s.Reachable) (hengine : s.device.engine = Standard.engine)
    (hfew : s.FewObjects) : s.device.registry.Linked := by
  refine h.keeps_few (P := fun s => s.device.registry.Linked) (fun _ => Registry.linked_empty)
    (fun s call hs hbefore hfewBefore hfew hsubmit ih => ?_)
    (fun s queue handle hs hbefore hfewBefore hfew ih => ?_) hengine hfew
  · exact ih.remakes hbefore (hs.changes.agrees_of_empty hfewBefore)
      ((hs.call call).changes.serials_fit hfew) (s.remakes_step hsubmit)
  · exact ih.remakes hbefore (hs.changes.agrees_of_empty hfewBefore)
      ((hs.submission queue handle).changes.serials_fit hfew) (s.device.remakes_submitOne queue handle)

end Session

/-! ## Destruction -/

namespace Registry

/-- The image is gone, its handle is remembered, and the feed tells of its destruction once. -/
structure Buried (r : Registry) (image : Handle .image) : Prop where
  gone : r.get? image = none
  tombstone : r.isDestroyed image.erase = true
  once : (r.changesOf image.erase).count .destroyed = 1

theorem FeedTells.buried {r : Registry} (h : r.FeedTells) {image : Handle .image}
    (hknown : r.isKnown image.erase = true) (hdead : r.contains image.erase = false) : r.Buried image := by
  have htombstone : r.isDestroyed image.erase = true := by
    rwa [isKnown, hdead, Bool.false_or] at hknown
  refine ⟨?_, htombstone, by rw [h.destroyed, if_pos htombstone]⟩
  rw [contains_erase] at hdead
  exact Option.not_isSome_iff_eq_none.mp (Bool.eq_false_iff.mp hdead)

end Registry

namespace Session

/-- What is buried stays buried. -/
theorem buried_of_mem_trail {s s' : Session} (h : s.Reachable) {calls : List Call}
    (hs' : s' ∈ s.trail calls) (hfew : s'.FewObjects) {image : Handle .image}
    (hburied : s.device.registry.Buried image) : s'.device.registry.Buried image := by
  have hchanges := changes_of_mem_trail hs'
  have htells' : s'.device.registry.FeedTells :=
    (Registry.Changes.agrees_of_empty (h.changes.trans hchanges) hfew).feedTells
  have hknown : s.device.registry.isKnown image.erase = true := by
    rw [Registry.isKnown, hburied.tombstone, Bool.or_true]
  have hdead : s.device.registry.contains image.erase = false := by
    rw [Registry.contains_erase, hburied.gone, Option.isSome_none]
  exact htells'.buried (hchanges.isKnown hknown) ((h.feedTells (hfew.of_changes hchanges)).stays_dead
    htells' hchanges.feed_extends hknown hdead)

/-- A swapchain whose destruction succeeds was alive, and all its images are buried with it. -/
theorem buried_of_destroyed {s : Session} (h : s.Reachable) (hengine : s.device.engine = Standard.engine)
    (hfew : s.FewObjects) {swapchain : Handle .swapchain}
    (hok : (s.step (.destroy .swapchain swapchain)).result = .ok .done) :
    ∃ found, s.device.registry.get? swapchain = some found ∧ ∀ image ∈ found.images,
      (s.step (.destroy .swapchain swapchain)).state.device.registry.Buried image := by
  obtain ⟨⟨⟩, hresult, -⟩ := result_onDevice.mp hok
  rcases s.device.destroySwapchain_cases swapchain with ⟨-, e, he⟩ | ⟨found, hget, hs, -⟩
  · cases he.symm.trans hresult
  have hafter : (s.step (.destroy .swapchain swapchain)).state.device.registry
      = (s.device.removeSwapchain swapchain found.images).registry := congrArg Device.registry hs
  -- Nothing is created, so that no handle is used twice afterwards either.
  have hcreated : (s.device.removeSwapchain swapchain found.images).registry.createdIds
      = s.device.registry.createdIds :=
    (foldl_keeps Registry.createdIds (fun r (image : Handle .image) => Registry.createdIds_remove r image)
      found.images _).trans (Registry.createdIds_remove s.device.registry swapchain)
  have hfewAfter : (s.step (.destroy .swapchain swapchain)).state.FewObjects := by
    rw [FewObjects, hafter, hcreated]
    exact hfew
  refine ⟨found, hget, fun image himage => ?_⟩
  obtain ⟨index, hindex⟩ := List.mem_iff_getElem?.mp himage
  have horigin := (h.linked hengine hfew).owns swapchain found.info found.images index image
    (congrArg (Option.map _) hget) hindex
  obtain ⟨object, hobject, -⟩ := Option.map_eq_some_iff.mp horigin
  refine ((h.call _).feedTells hfewAfter).buried ?_ ?_
  · exact (s.step_transition _).changes.isKnown
      (Registry.isKnown_of_contains (Registry.contains_of_get? hobject))
  · rw [hafter, Bool.eq_false_iff, Ne, s.device.contains_removeSwapchain]
    exact fun halive => halive.2 (List.mem_cons_of_mem _ (List.mem_map_of_mem himage))

end Session

/-- Swapchains and their images live and die together.  In every session that is reachable on the standard
engine with no handle used twice, the images of a live swapchain are alive, made as the swapchain says, and
each of them has the memory of its own position; a live image with the memory of a position of a swapchain is
the image at that position of a live swapchain; and no image has two positions, be it of one swapchain or of
two.  A swapchain whose destruction succeeds was alive, and its images go with it, each with one event, and do
not come back. -/
theorem swapchains_live_with_images {s : Session} (h : s.Reachable)
    (hengine : s.device.engine = Standard.engine) (hfew : s.FewObjects) :
    (∀ swapchain (found : Swapchain) (index : ℕ) image, s.device.registry.get? swapchain = some found →
      found.images[index]? = some image → ∃ object : Image, s.device.registry.get? image = some object
        ∧ object.info = found.info.imageInfo ∧ object.memory = some (.presented swapchain index))
    ∧ (∀ image (object : Image) swapchain index, s.device.registry.get? image = some object →
      object.memory = some (.presented swapchain index) → ∃ found : Swapchain,
        s.device.registry.get? swapchain = some found ∧ found.images[index]? = some image)
    ∧ (∀ (swapchain swapchain' : Handle .swapchain) (found found' : Swapchain) (index index' : ℕ) image,
      s.device.registry.get? swapchain = some found → s.device.registry.get? swapchain' = some found' →
      found.images[index]? = some image → found'.images[index']? = some image →
      swapchain = swapchain' ∧ index = index')
    ∧ ∀ swapchain, (s.step (.destroy .swapchain swapchain)).result = .ok .done →
      ∃ found : Swapchain, s.device.registry.get? swapchain = some found ∧ ∀ image ∈ found.images,
        (s.step (.destroy .swapchain swapchain)).state.device.registry.Buried image
        ∧ ∀ calls, ∀ s' ∈ (s.step (.destroy .swapchain swapchain)).state.trail calls, s'.FewObjects →
          s'.device.registry.Buried image := by
  have hlinked := h.linked hengine hfew
  refine ⟨fun swapchain found index image hget himage => ?_,
    fun image object swapchain index hget hmemory => ?_,
    fun swapchain swapchain' found found' index index' image hget hget' => ?_, fun swapchain hok => ?_⟩
  -- The first three are the two directions of the link and that it is unique; a destruction keeps it.
  · have howned := hlinked.owns swapchain found.info found.images index image
      (congrArg (Option.map _) hget) himage
    obtain ⟨object, hobject, horigin⟩ := Option.map_eq_some_iff.mp howned
    exact ⟨object, hobject, (Prod.mk.inj horigin).1, (Prod.mk.inj horigin).2⟩
  · have horigin : s.device.registry.imageOrigin? image
        = some (object.info, some (.presented swapchain index)) := by
      rw [Registry.imageOrigin?, hget, Option.map_some, hmemory]
    obtain ⟨info, images, hswapchain, himage⟩ := hlinked.belongs image object.info swapchain index horigin
    obtain ⟨found, hfound, hparts⟩ := Option.map_eq_some_iff.mp hswapchain
    exact ⟨found, hfound, (Prod.mk.inj hparts).2 ▸ himage⟩
  · exact hlinked.unique (congrArg (Option.map _) hget) (congrArg (Option.map _) hget')
  · obtain ⟨found, hget, hburied⟩ := Session.buried_of_destroyed h hengine hfew hok
    exact ⟨found, hget, fun image himage => ⟨hburied image himage, fun calls s' hs' hfew' =>
      Session.buried_of_mem_trail (h.call _) hs' hfew' (hburied image himage)⟩⟩

/-- A session with two swapchains, of two images and of one, and with an image that is of neither. -/
def twoSwapchains : Session :=
  (Session.start {} Standard.engine).run
    [.createSwapchain { imageCount := 2, width := 4, height := 4 },
      .createImage { format := .r8g8b8a8Unorm, extent := ⟨4, 4, 1⟩, usage := .transferDst },
      .createSwapchain { imageCount := 1, width := 8, height := 8 }]

/-- The second image of the first swapchain knows its position, and is buried with the swapchain. -/
theorem twoSwapchains_live_with_images :
    twoSwapchains.FewObjects
    ∧ (∃ object : Image, twoSwapchains.device.registry.get? (.ofSerial .image 3) = some object
      ∧ object.memory = some (.presented (.ofSerial .swapchain 1) 1))
    ∧ (twoSwapchains.step (.destroy .swapchain (.ofSerial .swapchain 1))).result = .ok .done
    ∧ (twoSwapchains.step (.destroy .swapchain (.ofSerial .swapchain 1))).state.device.registry.Buried
      (.ofSerial .image 3) := by
  have hreachable : twoSwapchains.Reachable := (Session.Reachable.start {} Standard.engine).run _
  have hfew : twoSwapchains.FewObjects := by
    unfold Session.FewObjects
    decide +kernel
  have hok : (twoSwapchains.step (.destroy .swapchain (.ofSerial .swapchain 1))).result = .ok .done :=
    Outcome.value?_eq_some.mp (by decide +kernel)
  obtain ⟨howns, -, -, hdestroyed⟩ := swapchains_live_with_images hreachable rfl hfew
  obtain ⟨found, hfound, hburied⟩ := hdestroyed _ hok
  have himages : (twoSwapchains.device.registry.get? (.ofSerial .swapchain 1)).map Swapchain.images
      = some [.ofSerial .image 2, .ofSerial .image 3] := by decide +kernel
  rw [hfound] at himages
  have himage : found.images[1]? = some (.ofSerial .image 3) := by
    rw [Option.some.inj himages]
    rfl
  obtain ⟨object, hobject, -, hmemory⟩ := howns _ found 1 _ hfound himage
  exact ⟨hfew, ⟨object, hobject, hmemory⟩, hok, (hburied _ (List.mem_of_getElem? himage)).1⟩

end VulkanValidity
