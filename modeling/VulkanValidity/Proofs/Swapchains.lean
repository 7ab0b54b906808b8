/-
  VulkanValidity.Proofs.Swapchains

  What creating and destroying swapchains does to a registry.  A new swapchain takes the next serial and its
  images the ones after it, so that the handles of all of them are new (`Registry.HasNewSwapchain`), and
  nothing that was there before changes.  A swapchain that is destroyed leaves with its images, and everything
  else stays.
-/

import VulkanValidity.Proofs.Families
import VulkanValidity.Proofs.Footprints
import VulkanValidity.Proofs.HandleEncoding

namespace VulkanValidity

namespace Registry

/-- A swapchain was added with its images, and everything else is as before. -/
structure HasNewSwapchain (r r' : Registry) (info : SwapchainInfo) (swapchain : Handle .swapchain)
    (images : List (Handle .image)) : Prop where
  unknown : r.get? swapchain = none
  own : r'.get? swapchain = some (.ofImages info images)
  length : images.length = info.imageCount
  fresh : ∀ image ∈ images, r.get? image = none
  made : ∀ index image, images[index]? = some image →
    r'.get? image = some (Device.swapchainImage info swapchain index)
  otherImages : ∀ image, image ∉ images → r'.get? image = r.get? image
  otherSwapchains : ∀ other, other ≠ swapchain → r'.get? other = r.get? other

/-- A handle that has not been handed out leads to nothing. -/
theorem Agrees.get?_ofSerial {r : Registry} (h : r.Agrees []) {t : ObjectType} {serial : Nat}
    (hnext : r.nextSerial ≤ serial) (hfits : serial ≤ ObjectId.maxSerial) :
    r.get? (.ofSerial t serial) = none := by
  refine Option.eq_none_iff_forall_ne_some.mpr fun object hobject => ?_
  have hcreated := h.mem_createdIds_iff.mpr (isKnown_of_contains (contains_of_get? hobject))
  have hlt := h.serial_lt (List.mem_append_left _ hcreated)
  rw [Handle.serial_ofSerial hfits] at hlt
  omega

theorem ofSerial_ne {t : ObjectType} {serial serial' : Nat} (h : serial < serial')
    (hfits : serial' ≤ ObjectId.maxSerial) : Handle.ofSerial t serial' ≠ .ofSerial t serial := by
  intro heq
  have hfits' : serial ≤ ObjectId.maxSerial := Nat.le_trans (Nat.le_of_lt h) hfits
  obtain ⟨-, hserial⟩ := (ObjectId.ofSerial_inj hfits hfits').mp (congrArg Handle.erase heq)
  omega

end Registry

namespace Device

/-! ## Adding the images -/

section AddImages

variable (info : SwapchainInfo) (swapchain : Handle .swapchain) (r : Registry)

/-- The first images of a new swapchain, and the registry after they were added. -/
def addImages (n : ℕ) : List (Handle .image) × Registry :=
  (List.range n).foldl (fun (handles, registry) index =>
    let (handle, registry) := registry.insert .image (swapchainImage info swapchain index)
    (handles ++ [handle], registry)) ([], r)

/-- The handle of the image that is added next. -/
def nextImage (n : ℕ) : Handle .image := .ofSerial .image (addImages info swapchain r n).2.nextSerial

theorem addImages_succ (n : ℕ) : addImages info swapchain r (n + 1)
    = ((addImages info swapchain r n).1 ++ [nextImage info swapchain r n],
      ((addImages info swapchain r n).2.insert .image (swapchainImage info swapchain n)).2) := by
  rw [addImages, List.range_succ, List.foldl_append]
  rfl

theorem nextSerial_addImages (n : ℕ) :
    (addImages info swapchain r n).2.nextSerial = r.nextSerial + n := by
  induction n with
  | zero => rfl
  | succ n ih =>
    rw [addImages_succ, ← Nat.add_assoc, ← ih]
    exact Registry.nextSerial_add _ _ _

theorem nextImage_eq (n : ℕ) :
    nextImage info swapchain r n = .ofSerial .image (r.nextSerial + n) := by
  rw [nextImage, nextSerial_addImages]

/-- The images have the serials from the next one on. -/
theorem handles_addImages (n : ℕ) : (addImages info swapchain r n).1
    = (List.range n).map fun index => .ofSerial .image (r.nextSerial + index) := by
  induction n with
  | zero => rfl
  | succ n ih => rw [addImages_succ, ih, nextImage_eq, List.range_succ, List.map_append]; rfl

theorem get?_addImages_succ (n : ℕ) (image : Handle .image) :
    (addImages info swapchain r (n + 1)).2.get? image
      = ((addImages info swapchain r n).2.get? image).or
        (if image = .ofSerial .image (r.nextSerial + n) then some (swapchainImage info swapchain n)
          else none) := by
  rw [addImages_succ, ← nextImage_eq info swapchain r]
  let made := (addImages info swapchain r n).2
  have hreserve := (Registry.sameObjects_reserve made .image).get?_eq image
  exact (Registry.get?_add (made.reserve .image).2 _ _ image).trans (congrArg (Option.or · _) hreserve)

/-- What is found afterwards was there before, or is one of the images. -/
theorem get?_addImages_cases (n : ℕ) (image : Handle .image) :
    (addImages info swapchain r n).2.get? image = r.get? image
      ∨ ∃ index, (addImages info swapchain r n).2.get? image
          = some (swapchainImage info swapchain index) := by
  induction n with
  | zero => exact Or.inl rfl
  | succ n ih =>
    rw [get?_addImages_succ]
    -- The last image is found only if nothing is there under its handle.
    cases hget : (addImages info swapchain r n).2.get? image with
    | some found =>
      rw [hget] at ih
      rwa [Option.some_or]
    | none =>
      rw [hget] at ih
      have hbefore : r.get? image = none := by
        rcases ih with hsame | ⟨index, hnew⟩
        · exact hsame.symm
        · cases hnew
      rw [Option.none_or, hbefore]
      split
      · exact Or.inr ⟨n, rfl⟩
      · exact Or.inl rfl

/-- The other images stay as they are. -/
theorem get?_addImages_of_not_mem {n : ℕ} {image : Handle .image}
    (h : image ∉ (addImages info swapchain r n).1) :
    (addImages info swapchain r n).2.get? image = r.get? image := by
  induction n with
  | zero => rfl
  | succ n ih =>
    rw [addImages_succ, List.mem_append, List.mem_singleton, not_or, nextImage_eq] at h
    rw [get?_addImages_succ, if_neg h.2, Option.or_none, ih h.1]

/-- Each of the images is found under its handle, if the handles are new. -/
theorem get?_addImages {n : ℕ} (hfits : r.nextSerial + n ≤ ObjectId.maxSerial + 1)
    (hfresh : ∀ index < n, r.get? (.ofSerial .image (r.nextSerial + index)) = none) {index : ℕ}
    (hindex : index < n) :
    (addImages info swapchain r n).2.get? (.ofSerial .image (r.nextSerial + index))
      = some (swapchainImage info swapchain index) := by
  induction n with
  | zero => cases hindex
  | succ n ih =>
    rw [get?_addImages_succ]
    rcases Nat.lt_succ_iff_lt_or_eq.mp hindex with hlt | rfl
    · rw [ih (by omega) (fun index hindex => hfresh index (by omega)) hlt, Option.some_or]
    · -- The handle is none of those before it.
      have hnew : Handle.ofSerial .image (r.nextSerial + index) ∉ (addImages info swapchain r index).1 := by
        rw [handles_addImages, List.mem_map]
        rintro ⟨earlier, hearlier, heq⟩
        have hlt := List.mem_range.mp hearlier
        exact Registry.ofSerial_ne (Nat.add_lt_add_left hlt _) (by omega) heq.symm
      rw [get?_addImages_of_not_mem info swapchain r hnew, hfresh index hindex, if_pos rfl,
        Option.none_or]

end AddImages

/-! ## Adding the swapchain -/

/-- The device with a new swapchain. -/
def addSwapchain (d : Device) (info : SwapchainInfo) : Device :=
  let swapchain := .ofSerial .swapchain d.registry.nextSerial
  let images := insertImages info swapchain (d.registry.reserve .swapchain).2
  d.withRegistry (images.2.add swapchain (Swapchain.ofImages info images.1))

theorem get?_image_addSwapchain (d : Device) (info : SwapchainInfo) (image : Handle .image) :
    (d.addSwapchain info).registry.get? image
      = (addImages info (.ofSerial .swapchain d.registry.nextSerial) (d.registry.reserve .swapchain).2
          info.imageCount).2.get? image :=
  Registry.get?_add_of_ne _ _ _ (by decide) image

/-- A swapchain is created if no rule is against it. -/
theorem createSwapchain_cases (d : Device) (info : SwapchainInfo) :
    ((d.createSwapchain info).state = d ∧ ∃ e, (d.createSwapchain info).result = .error e)
      ∨ (verdict (d.diagnose (.createSwapchain info)) = .ok ()
        ∧ (d.createSwapchain info).state = d.addSwapchain info
        ∧ (d.createSwapchain info).result = .ok (.ofSerial .swapchain d.registry.nextSerial)) := by
  rcases Outcome.guarded_cases d (d.diagnose (.createSwapchain info)) _ with
    h | ⟨value, after, haccepted, hperform, hs, hv⟩
  · exact Or.inl h
  · obtain ⟨rfl, rfl⟩ := Prod.mk.inj (Except.ok.inj hperform)
    exact Or.inr ⟨haccepted, hs, hv⟩

theorem nextSerial_addSwapchain (d : Device) (info : SwapchainInfo) :
    (d.addSwapchain info).registry.nextSerial = d.registry.nextSerial + 1 + info.imageCount :=
  (Registry.nextSerial_add _ _ _).trans (nextSerial_addImages info _ _ info.imageCount)

/-- A new swapchain and its images have new handles, as long as the serials fit. -/
theorem hasNewSwapchain {d : Device} (h : d.registry.Agrees []) {info : SwapchainInfo}
    (hfits : (d.addSwapchain info).registry.nextSerial ≤ ObjectId.maxSerial + 1) :
    ∃ images, d.registry.HasNewSwapchain (d.addSwapchain info).registry info
      (.ofSerial .swapchain d.registry.nextSerial) images := by
  rw [nextSerial_addSwapchain] at hfits
  let swapchain : Handle .swapchain := .ofSerial .swapchain d.registry.nextSerial
  let reserved := (d.registry.reserve .swapchain).2
  let images := addImages info swapchain reserved info.imageCount
  have hreserved := Registry.sameObjects_reserve d.registry .swapchain
  have hfresh (index : ℕ) (hindex : index < info.imageCount) :
      d.registry.get? (.ofSerial .image (reserved.nextSerial + index)) = none :=
    h.get?_ofSerial (show d.registry.nextSerial ≤ d.registry.nextSerial + 1 + index by omega)
      (show d.registry.nextSerial + 1 + index ≤ _ by omega)
  have hunknown : d.registry.get? swapchain = none := h.get?_ofSerial (Nat.le_refl _) (by omega)
  have hhandles : images.1
      = (List.range info.imageCount).map fun index => .ofSerial .image (reserved.nextSerial + index) :=
    handles_addImages info swapchain reserved info.imageCount
  -- The swapchain is added after its images, and each lookup sees one of the two additions.
  have hswapchains (other : Handle .swapchain) : (d.addSwapchain info).registry.get? other
      = (d.registry.get? other).or
        (if other = swapchain then some (Swapchain.ofImages info images.1) else none) := by
    have himages : images.2.get? other = d.registry.get? other :=
      congrArg (Store.get? · other) (store_insertImages (t := .swapchain) (by decide) info swapchain reserved)
    rw [← himages]
    exact Registry.get?_add images.2 swapchain _ other
  have himages (image : Handle .image) : (d.addSwapchain info).registry.get? image = images.2.get? image :=
    d.get?_image_addSwapchain info image
  refine ⟨images.1, hunknown, ?_, ?_, ?_, ?_, ?_, ?_⟩
  · rw [hswapchains, hunknown, if_pos rfl, Option.none_or]
  · rw [hhandles, List.length_map, List.length_range]
  · intro image himage
    rw [hhandles] at himage
    obtain ⟨index, hindex, rfl⟩ := List.mem_map.mp himage
    exact hfresh index (List.mem_range.mp hindex)
  · intro index image himage
    rw [hhandles, List.getElem?_map, Option.map_eq_some_iff] at himage
    obtain ⟨found, hfound, rfl⟩ := himage
    obtain ⟨hindex, rfl⟩ := List.getElem?_eq_some_iff.mp hfound
    rw [List.length_range] at hindex
    rw [List.getElem_range, himages]
    exact get?_addImages info swapchain reserved hfits hfresh hindex
  · intro image himage
    rw [himages, get?_addImages_of_not_mem info swapchain reserved himage]
    exact hreserved.get?_eq image
  · intro other hother
    rw [hswapchains, if_neg hother, Option.or_none]

/-! ## Removing swapchains -/

theorem get?_foldl_remove (r : Registry) (images : List (Handle .image)) (image : Handle .image) :
    (images.foldl (fun registry image => registry.remove image) r).get? image
      = if image ∈ images then none else r.get? image := by
  induction images generalizing r with
  | nil => rfl
  | cons first rest ih =>
    rw [List.foldl_cons, ih, Registry.get?_remove]
    by_cases hrest : image ∈ rest
    · rw [if_pos hrest, if_pos (List.mem_cons_of_mem _ hrest)]
    · rw [if_neg hrest]
      exact if_congr (by simp [hrest]) rfl rfl

section RemoveSwapchain

variable (d : Device) (handle : Handle .swapchain) (images : List (Handle .image))

theorem get?_image_removeSwapchain (image : Handle .image) :
    (d.removeSwapchain handle images).registry.get? image
      = if image ∈ images then none else d.registry.get? image := by
  refine (get?_foldl_remove (d.registry.remove handle) images image).trans ?_
  rw [d.registry.get?_remove_of_ne handle (by decide)]

theorem get?_swapchain_removeSwapchain (other : Handle .swapchain) :
    (d.removeSwapchain handle images).registry.get? other
      = if other = handle then none else d.registry.get? other := by
  have himages := foldl_keeps (fun r : Registry => r.get? other)
    (fun r (image : Handle .image) => r.get?_remove_of_ne image (by decide) other) images
    (d.registry.remove handle)
  exact himages.trans (d.registry.get?_remove handle other)

end RemoveSwapchain

end Device

end VulkanValidity
