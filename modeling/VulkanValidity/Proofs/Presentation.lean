/-
  VulkanValidity.Proofs.Presentation

  Presenting images, under any engine.  Images are given back one by one, each after its swapchain was looked
  up, and a swapchain that is not alive ends it (`releaseImages_cases`).  What was given back until then stays
  given back, though the call fails (`present_gives_back`).

  The standard engine rejects swapchains that are not alive beforehand.  So does every engine that has errors
  for destroyed and for unknown objects, and for these presenting is all or nothing.
-/

import VulkanValidity.Proofs.Acquisitions

namespace VulkanValidity

/-! ## Images that are given back -/

/-- The swapchain after images of it were given back, whichever of its images these are. -/
def Swapchain.without (swapchain : Swapchain) (givenBack : ℕ → Bool) : Swapchain :=
  { swapchain with acquired := swapchain.acquired.mapIdx fun index held => held && !givenBack index }

theorem Swapchain.releaseAll_eq_without (swapchain : Swapchain) (indices : List ℕ) :
    swapchain.releaseAll indices = swapchain.without fun index => decide (index ∈ indices) := by
  rw [releaseAll_eq, without]
  congr 1
  refine List.ext_getElem? fun position => ?_
  rw [getElem?_releaseAll, List.getElem?_mapIdx]
  by_cases hlisted : position ∈ indices
  · simp [hlisted]
  · simp [hlisted]

/-- Nothing changes if no image that is given back was acquired. -/
theorem Swapchain.without_acquired_eq_iff {swapchain : Swapchain} {givenBack : ℕ → Bool} :
    (swapchain.without givenBack).acquired = swapchain.acquired
      ↔ ∀ index, givenBack index = true → swapchain.isAcquired index = false := by
  constructor
  · intro hsame index hgiven
    have hindex := congrArg (fun acquired : List Bool => acquired[index]?) hsame
    simp only [without, List.getElem?_mapIdx, hgiven, Bool.not_true, Bool.and_false] at hindex
    rw [isAcquired, ← hindex]
    cases swapchain.acquired[index]? <;> rfl
  · intro hfree
    refine List.ext_getElem? fun position => ?_
    rw [without, List.getElem?_mapIdx]
    cases hposition : swapchain.acquired[position]? with
    | none => rfl
    | some held =>
      cases hgiven : givenBack position with
      | false => simp
      | true =>
        have hnot := hfree position hgiven
        rw [isAcquired, hposition] at hnot
        simp [show held = false from hnot]

/-- The registry `r'` is `r` after the listed images were given back to their swapchains.  Nothing else has
changed. -/
structure Registry.GivesBack (r : Registry) (images : List PresentedImage) (r' : Registry) : Prop where
  swapchains : ∀ swapchain : Handle .swapchain, r'.get? swapchain
    = (r.get? swapchain).map fun found : Swapchain =>
        found.without fun index => decide (⟨swapchain, index⟩ ∈ images)
  others : r' = { r with swapchains := r'.swapchains }

namespace Device

/-- Giving images back touches swapchains only. -/
theorem releaseImages_others (r : Registry) (images : List PresentedImage) :
    (releaseImages r images).1 = { r with swapchains := (releaseImages r images).1.swapchains } := by
  induction images generalizing r with
  | nil => rfl
  | cons image images ih =>
    rw [releaseImages]
    split
    · rfl
    · exact ih _

/-- Images of live swapchains are given back. -/
theorem givesBack_releaseImages {r : Registry} {images : List PresentedImage}
    (halive : ∀ image ∈ images, r.contains image.swapchain.erase = true) :
    r.GivesBack images (releaseImages r images).1 where
  swapchains swapchain := by
    rw [get?_releaseImages halive]
    refine congrArg (Option.map · (r.get? swapchain)) (funext fun found => ?_)
    rw [Swapchain.releaseAll_eq_without]
    simp only [mem_indicesOf]
  others := releaseImages_others r images

/-- Either all swapchains are alive and all images are given back, or one is not, and the images before it
are. -/
theorem releaseImages_cases (r : Registry) (images : List PresentedImage) :
    ((∀ image ∈ images, r.contains image.swapchain.erase = true) ∧ (releaseImages r images).2 = .ok ())
      ∨ ∃ before dead rest, images = before ++ dead :: rest
        ∧ (∀ image ∈ before, r.contains image.swapchain.erase = true)
        ∧ r.contains dead.swapchain.erase = false
        ∧ releaseImages r images = ((releaseImages r before).1, .error (.notFound dead.swapchain.erase)) := by
  induction images generalizing r with
  | nil => exact Or.inl ⟨fun _ himage => absurd himage List.not_mem_nil, rfl⟩
  | cons image images ih =>
    cases hget : r.get? image.swapchain with
    | none =>
      have hdead : r.contains image.swapchain.erase = false := by
        rw [Registry.contains_erase, hget]
        rfl
      have hlookup : r.get image.swapchain = .error (.notFound image.swapchain.erase) := by
        rw [Registry.get, hget]
      refine Or.inr ⟨[], image, images, rfl, fun _ himage => absurd himage List.not_mem_nil, hdead, ?_⟩
      show releaseImages r (image :: images) = (r, .error (.notFound image.swapchain.erase))
      rw [releaseImages, hlookup]
    | some found =>
      let released := r.modify image.swapchain fun swapchain => swapchain.release image.index
      have hfirst (rest : List PresentedImage) :
          releaseImages r (image :: rest) = releaseImages released rest := by
        rw [releaseImages, Registry.get_eq_ok.mpr hget]
      have hsame (id : ObjectId) : released.contains id = r.contains id :=
        Registry.contains_modify (t := .swapchain) r image.swapchain _ id
      have halive := Registry.contains_of_get? hget
      -- What is alive is so after the first image was given back as well.
      rcases ih released with ⟨hrest, hok⟩ | ⟨before, dead, rest, rfl, hbefore, hdead, hfailed⟩
      · refine Or.inl ⟨fun other hother => ?_, (congrArg Prod.snd (hfirst images)).trans hok⟩
        rcases List.mem_cons.mp hother with rfl | hother
        · exact halive
        · exact (hsame _).symm.trans (hrest other hother)
      · refine Or.inr ⟨image :: before, dead, rest, rfl, fun other hother => ?_, (hsame _).symm.trans hdead, ?_⟩
        · rcases List.mem_cons.mp hother with rfl | hother
          · exact halive
          · exact (hsame _).symm.trans (hbefore other hother)
        · rw [hfirst, hfailed, hfirst]

end Device

/-! ## Presenting -/

/-- What presenting does: it is rejected, it gives back all images, or it gives back those before the first
one whose swapchain is not alive. -/
theorem Device.present_outcomes (d : Device) (images : List PresentedImage) :
    (∃ e, verdict (d.diagnose (.present images)) = .error e ∧ (d.present images).result = .error e
        ∧ (d.present images).state = d)
      ∨ verdict (d.diagnose (.present images)) = .ok ()
        ∧ ((∀ image ∈ images, d.registry.contains image.swapchain.erase = true)
            ∧ (d.present images).result = .ok ()
            ∧ (d.present images).state = d.withRegistry (releaseImages d.registry images).1
          ∨ ∃ before dead rest, images = before ++ dead :: rest
            ∧ (∀ image ∈ before, d.registry.contains image.swapchain.erase = true)
            ∧ d.registry.contains dead.swapchain.erase = false
            ∧ (d.present images).result = .error (.notFound dead.swapchain.erase)
            ∧ (d.present images).state = d.withRegistry (releaseImages d.registry before).1) := by
  rw [present]
  cases hverdict : verdict (d.diagnose (.present images)) with
  | error e => exact Or.inl ⟨e, rfl, rfl, rfl⟩
  | ok accepted =>
    refine Or.inr ⟨rfl, ?_⟩
    rcases releaseImages_cases d.registry images with
      ⟨halive, hok⟩ | ⟨before, dead, rest, hsplit, hbefore, hdead, hfailed⟩
    · exact Or.inl ⟨halive, hok, rfl⟩
    · exact Or.inr ⟨before, dead, rest, hsplit, hbefore, hdead, congrArg Prod.snd hfailed,
        congrArg (fun released => d.withRegistry released.1) hfailed⟩

/-- Images that are given back change nothing if none of them was acquired. -/
theorem Registry.GivesBack.acquired_eq_iff {r r' : Registry} {images : List PresentedImage}
    (h : r.GivesBack images r') :
    (∀ swapchain : Handle .swapchain, (r'.get? swapchain).map Swapchain.acquired
        = (r.get? swapchain).map Swapchain.acquired)
      ↔ ∀ image ∈ images, ∀ found : Swapchain, r.get? image.swapchain = some found →
        found.isAcquired image.index = false := by
  constructor
  · intro hsame image himage found hget
    have hswapchain := hsame image.swapchain
    rw [h.swapchains, hget, Option.map_some, Option.map_some, Option.map_some, Option.some.injEq] at hswapchain
    exact Swapchain.without_acquired_eq_iff.mp hswapchain image.index (decide_eq_true himage)
  · intro hfree swapchain
    rw [h.swapchains]
    cases hget : r.get? swapchain with
    | none => rfl
    | some found =>
      rw [Option.map_some, Option.map_some, Option.map_some, Option.some.injEq]
      refine Swapchain.without_acquired_eq_iff.mpr fun index hgiven => ?_
      exact hfree _ (of_decide_eq_true hgiven) found hget

/-- What presenting gives back, under every engine.  If it succeeds, all swapchains are alive, and exactly the
named images are no longer acquired.  If it fails, either the rules have rejected it and nothing has changed,
or one of the swapchains is not alive: then exactly the images that are named before it are no longer acquired,
and so the images are acquired as before only if none of these was.  Swapchains are all that changes.  On an
engine that rejects missing objects nothing has changed whenever presenting fails. -/
theorem present_gives_back (s : Session) (images : List PresentedImage) :
    let r := s.device.registry
    let outcome := s.step (.present images)
    let r' := outcome.state.device.registry
    outcome.state = s.withDevice (s.device.withRegistry r')
    ∧ (∀ reply, outcome.result = .ok reply →
      (∀ image ∈ images, r.contains image.swapchain.erase = true) ∧ r.GivesBack images r')
    ∧ (∀ e, outcome.result = .error e →
      (verdict (s.device.diagnose (.present images)) = .error e ∧ r' = r)
      ∨ ∃ before dead rest, images = before ++ dead :: rest
        ∧ (∀ image ∈ before, r.contains image.swapchain.erase = true)
        ∧ r.contains dead.swapchain.erase = false ∧ e = .notFound dead.swapchain.erase
        ∧ r.GivesBack before r'
        ∧ ((∀ swapchain : Handle .swapchain, (r'.get? swapchain).map Swapchain.acquired
            = (r.get? swapchain).map Swapchain.acquired)
          ↔ ∀ image ∈ before, ∀ found : Swapchain, r.get? image.swapchain = some found →
            found.isAcquired image.index = false))
    ∧ (s.device.engine.Rejects .presentation ObjectRules.objectDestroyed →
      s.device.engine.Rejects .presentation ObjectRules.objectUnknown →
      ∀ e, outcome.result = .error e → outcome.state = s) := by
  intro r outcome r'
  have hstate : outcome.state = s.withDevice (s.device.present images).state := rfl
  have hresult : outcome.result = (s.device.present images).result.map fun _ => Reply.done := rfl
  have hregistry : r' = (s.device.present images).state.registry := rfl
  rcases s.device.present_outcomes images with
    ⟨e, hverdict, he, hs⟩ | ⟨haccepted, ⟨halive, hok, hs⟩ |
      ⟨before, dead, rest, hsplit, hbefore, hdead, he, hs⟩⟩
  · -- The rules reject it.
    rw [he] at hresult
    have hsame : r' = r := by rw [hregistry, hs]
    refine ⟨by rw [hsame, hstate, hs]; rfl, fun reply hreply => ?_, fun other hother => Or.inl ?_,
      fun _ _ _ _ => by rw [hstate, hs]; rfl⟩
    · cases hresult.symm.trans hreply
    · obtain rfl := Except.error.inj (hresult.symm.trans hother)
      exact ⟨hverdict, hsame⟩
  · -- All images are given back.
    rw [hok] at hresult
    have hreleased : r' = (Device.releaseImages r images).1 := by rw [hregistry, hs]; rfl
    refine ⟨by rw [hreleased, hstate, hs], fun reply _ => ⟨halive, ?_⟩, fun e he => ?_, fun _ _ e he => ?_⟩
    · rw [hreleased]
      exact Device.givesBack_releaseImages halive
    · cases hresult.symm.trans he
    · cases hresult.symm.trans he
  · -- The images before the first dead swapchain are given back.
    rw [he] at hresult
    have hreleased : r' = (Device.releaseImages r before).1 := by rw [hregistry, hs]; rfl
    have hgives : r.GivesBack before r' := hreleased ▸ Device.givesBack_releaseImages hbefore
    refine ⟨by rw [hreleased, hstate, hs], fun reply hreply => ?_, fun other hother => Or.inr ?_,
      fun hdestroyed hunknown _ _ => ?_⟩
    · cases hresult.symm.trans hreply
    · obtain rfl := Except.error.inj (hresult.symm.trans hother)
      exact ⟨before, dead, rest, hsplit, hbefore, hdead, rfl, hgives, hgives.acquired_eq_iff⟩
    · -- The dead swapchain would have been rejected.
      have hnamed : dead.swapchain.erase ∈ (Operation.present images).objects := by
        rw [hsplit]
        exact List.mem_map_of_mem (List.mem_append_right _ List.mem_cons_self)
      have halive : s.device.registry.contains dead.swapchain.erase = true :=
        Standard.contains_of_checks (hdestroyed.check_eq_nil rfl haccepted)
          (hunknown.check_eq_nil rfl haccepted) hnamed
      rw [halive] at hdead
      cases hdead

/-- Without rules, an image is given back by a present that fails: the swapchain of the second entry was never
there. -/
theorem failed_present_gives_back :
    let swapchain := Handle.ofSerial .swapchain 1
    let s := (Session.start {} ⟨[]⟩).run
      [.createSwapchain { imageCount := 1, width := 4, height := 4 }, .acquireImage swapchain]
    let outcome := s.step (.present [⟨swapchain, 0⟩, ⟨.ofSerial .swapchain 9, 0⟩])
    s.Reachable ∧ outcome.result = .error (.notFound (Handle.ofSerial .swapchain 9).erase)
    ∧ (s.device.registry.get? swapchain).map Swapchain.acquired = some [true]
    ∧ (outcome.state.device.registry.get? swapchain).map Swapchain.acquired = some [false] := by
  intro swapchain s outcome
  exact ⟨(Session.Reachable.start {} ⟨[]⟩).run _, Outcome.error?_eq_some.mp (by decide +kernel),
    by decide +kernel, by decide +kernel⟩

end VulkanValidity
