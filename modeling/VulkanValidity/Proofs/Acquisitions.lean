/-
  VulkanValidity.Proofs.Acquisitions

  The images of swapchains that are acquired.  An image is acquired when it is not, and given back by
  presenting it, so that the images that are acquired are the ones of the acquisitions so far less the ones
  that were presented (`Session.balances_run`).  A present may list an image more than once: the rules look
  at each entry alone, and the image is given back once.
-/

import Mathlib.Data.List.Dedup
import VulkanValidity.Proofs.Swapchains
import VulkanValidity.Proofs.Verdicts

namespace VulkanValidity

/-! ## Swapchains -/

namespace Swapchain

variable {swapchain : Swapchain}

theorem acquired_of_isAcquired {index : ℕ} (h : swapchain.isAcquired index = true) :
    swapchain.acquired[index]? = some true := by
  rw [isAcquired] at h
  cases hindex : swapchain.acquired[index]? with
  | none =>
    rw [hindex] at h
    cases h
  | some acquired =>
    rw [hindex] at h
    exact congrArg some h

/-- The image that is acquired next is not acquired yet. -/
theorem acquired_of_nextIndex? {index : ℕ} (h : swapchain.nextIndex? = some index) :
    swapchain.acquired[index]? = some false := by
  obtain ⟨hindex, hfree, -⟩ := List.findIdx?_eq_some_iff_getElem.mp h
  rw [Bool.not_eq_true'] at hfree
  rw [List.getElem?_eq_getElem hindex, hfree]

theorem acquiredCount_acquire {index : ℕ} (h : swapchain.acquired[index]? = some false) :
    (swapchain.acquire index).acquiredCount = swapchain.acquiredCount + 1 := by
  obtain ⟨hindex, hfree⟩ := List.getElem?_eq_some_iff.mp h
  rw [acquiredCount, acquire, List.count_set hindex, hfree]
  rfl

theorem acquiredCount_release {index : ℕ} (h : swapchain.isAcquired index = true) :
    (swapchain.release index).acquiredCount + 1 = swapchain.acquiredCount := by
  obtain ⟨hindex, hacquired⟩ := List.getElem?_eq_some_iff.mp (acquired_of_isAcquired h)
  have hpositive : 0 < swapchain.acquired.count true :=
    List.count_pos_iff.mpr (hacquired ▸ List.getElem_mem hindex)
  rw [acquiredCount, release, List.count_set hindex, hacquired]
  exact Nat.sub_add_cancel hpositive

theorem isAcquired_release_of_ne {index other : ℕ} (h : other ≠ index) :
    (swapchain.release index).isAcquired other = swapchain.isAcquired other := by
  rw [isAcquired, release, List.getElem?_set_ne (Ne.symm h), isAcquired]

/-- Gives images back one by one. -/
def releaseAll (swapchain : Swapchain) (indices : List ℕ) : Swapchain :=
  indices.foldl release swapchain

theorem releaseAll_eq (swapchain : Swapchain) (indices : List ℕ) : swapchain.releaseAll indices
    = { swapchain with acquired := (swapchain.releaseAll indices).acquired } := by
  refine List.foldlRecOn (motive := fun after : Swapchain =>
    after = { swapchain with acquired := after.acquired }) indices release rfl fun after hafter index _ => ?_
  rw [hafter]
  rfl

theorem getElem?_releaseAll (swapchain : Swapchain) (indices : List ℕ) (position : ℕ) :
    (swapchain.releaseAll indices).acquired[position]?
      = if position ∈ indices then swapchain.acquired[position]?.map fun _ => false
        else swapchain.acquired[position]? := by
  induction indices generalizing swapchain with
  | nil => rfl
  | cons index rest ih =>
    refine (ih (swapchain.release index)).trans ?_
    by_cases heq : position = index
    · subst heq
      rw [release, List.getElem?_set_self', if_pos List.mem_cons_self]
      cases swapchain.acquired[position]? <;> simp
    · rw [release, List.getElem?_set_ne (Ne.symm heq)]
      exact if_congr (by simp [heq]) rfl rfl

/-- It makes no difference how often an image is listed. -/
theorem releaseAll_dedup (swapchain : Swapchain) (indices : List ℕ) :
    swapchain.releaseAll indices.dedup = swapchain.releaseAll indices := by
  rw [releaseAll_eq swapchain indices, releaseAll_eq swapchain indices.dedup]
  congr 1
  refine List.ext_getElem? fun position => ?_
  rw [getElem?_releaseAll, getElem?_releaseAll]
  exact if_congr List.mem_dedup rfl rfl

theorem acquiredCount_releaseAll_of_nodup {indices : List ℕ} (hnodup : indices.Nodup)
    (h : ∀ index ∈ indices, swapchain.isAcquired index = true) :
    (swapchain.releaseAll indices).acquiredCount + indices.length = swapchain.acquiredCount := by
  induction indices generalizing swapchain with
  | nil => rfl
  | cons index rest ih =>
    obtain ⟨hnew, hnodup⟩ := List.nodup_cons.mp hnodup
    -- The others are still acquired after the first one was given back, for it is none of them.
    have hkept : ∀ other ∈ rest, (swapchain.release index).isAcquired other = true := by
      intro other hother
      have hne : other ≠ index := by
        rintro rfl
        exact hnew hother
      rw [isAcquired_release_of_ne hne]
      exact h other (List.mem_cons_of_mem _ hother)
    rw [← acquiredCount_release (h index List.mem_cons_self), ← ih hnodup hkept]
    rfl

/-- Images that are acquired are given back once each. -/
theorem acquiredCount_releaseAll {indices : List ℕ}
    (h : ∀ index ∈ indices, swapchain.isAcquired index = true) :
    (swapchain.releaseAll indices).acquiredCount + indices.dedup.length = swapchain.acquiredCount := by
  rw [← releaseAll_dedup]
  exact acquiredCount_releaseAll_of_nodup (List.nodup_dedup indices) fun index hindex =>
    h index (List.mem_dedup.mp hindex)

end Swapchain

/-! ## Operations -/

/-- The indices of the images of a swapchain in a list of images that are presented. -/
def indicesOf (swapchain : Handle .swapchain) (images : List PresentedImage) : List ℕ :=
  (images.filter fun image => image.swapchain == swapchain).map PresentedImage.index

theorem mem_indicesOf {swapchain : Handle .swapchain} {images : List PresentedImage} {index : ℕ} :
    index ∈ indicesOf swapchain images ↔ ⟨swapchain, index⟩ ∈ images := by
  simp only [indicesOf, List.mem_map, List.mem_filter, beq_iff_eq]
  constructor
  · rintro ⟨image, ⟨hmem, rfl⟩, rfl⟩
    exact hmem
  · exact fun hmem => ⟨_, ⟨hmem, rfl⟩, rfl⟩

/-- The number of images of a swapchain that are acquired; it is zero if the swapchain is not alive. -/
def Registry.acquiredCount (r : Registry) (swapchain : Handle .swapchain) : ℕ :=
  (r.get? swapchain).elim 0 Swapchain.acquiredCount

namespace Device

theorem acquireImage_cases (d : Device) (handle : Handle .swapchain) :
    ((d.acquireImage handle).state = d ∧ ∃ e, (d.acquireImage handle).result = .error e)
      ∨ ∃ swapchain index, d.registry.get? handle = some swapchain
        ∧ swapchain.acquired[index]? = some false
        ∧ (d.acquireImage handle).state
          = d.withRegistry (d.registry.modify handle fun swapchain => swapchain.acquire index)
        ∧ (d.acquireImage handle).result = .ok index := by
  rcases Outcome.guarded_cases d (d.diagnose (.acquireImage handle)) _ with
    h | ⟨value, after, -, hperform, hs, hv⟩
  · exact Or.inl h
  · obtain ⟨swapchain, hget, hperform⟩ := bind_eq_ok.mp hperform
    split at hperform
    · next index hindex =>
      obtain ⟨rfl, rfl⟩ := Prod.mk.inj (pure_eq_ok.mp hperform)
      exact Or.inr ⟨swapchain, index, Registry.get_eq_ok.mp hget,
        Swapchain.acquired_of_nextIndex? hindex, hs, hv⟩
    · cases hperform

/-- Every swapchain gets the images back that are presented of it. -/
theorem get?_releaseImages {images : List PresentedImage} {r : Registry}
    (halive : ∀ image ∈ images, r.contains image.swapchain.erase = true) (swapchain : Handle .swapchain) :
    (releaseImages r images).1.get? swapchain
      = (r.get? swapchain).map fun found => found.releaseAll (indicesOf swapchain images) := by
  induction images generalizing r with
  | nil => exact (Option.map_id' ..).symm
  | cons image images ih =>
    obtain ⟨found, hget⟩ := Registry.exists_get?_of_contains (halive image List.mem_cons_self)
    rw [releaseImages, Registry.get_eq_ok.mpr hget]
    refine (ih fun other hother => (Registry.contains_modify (t := .swapchain) r _ _ _).trans
      (halive other (List.mem_cons_of_mem _ hother))).trans ?_
    rw [Registry.get?_modify, indicesOf, indicesOf, List.filter_cons]
    by_cases heq : image.swapchain = swapchain
    · rw [if_pos heq.symm, if_pos (beq_iff_eq.mpr heq), Option.map_map]
      rfl
    · rw [if_neg (Ne.symm heq), if_neg (by simpa using heq)]

end Device

namespace Standard

/-- The images that are presented are acquired ones of live swapchains. -/
theorem isAcquired_of_accepted {ctx : Context} {images : List PresentedImage}
    (hoperation : ctx.operation = .present images) (h : verdict (engine.evaluate ctx) = .ok ())
    {image : PresentedImage} (himage : image ∈ images) : ∃ swapchain : Swapchain,
      ctx.registry.get? image.swapchain = some swapchain ∧ swapchain.isAcquired image.index = true := by
  have hmem : image.swapchain.erase ∈ ctx.operation.objects := by
    rw [hoperation]
    exact List.mem_map_of_mem himage
  obtain ⟨swapchain, hget⟩ := Registry.exists_get?_of_contains (contains_of_accepted h hmem)
  have hreports : engine.Reports .presentation .invalidParams SwapchainRules.presentNotAcquired :=
    reports_rule swapchainRules 3
  have hcheck := check_eq_nil hreports (by rw [hoperation]; rfl) h
  simp only [SwapchainRules.presentNotAcquired, SwapchainRules.onPresent, hoperation] at hcheck
  have hentry := List.flatMap_eq_nil_iff.mp hcheck image himage
  rw [hget] at hentry
  have hacquired := violationIf_eq_nil.mp hentry
  rw [Bool.not_eq_false'] at hacquired
  exact ⟨swapchain, hget, hacquired⟩

end Standard

namespace Device

/-- Images are given back if no rule is against it. -/
theorem present_cases {d : Device} (hengine : d.engine = Standard.engine) (images : List PresentedImage) :
    ((d.present images).state = d ∧ ∃ e, (d.present images).result = .error e)
      ∨ (verdict (Standard.engine.evaluate (d.context (.present images))) = .ok ()
        ∧ (d.present images).state = d.withRegistry (releaseImages d.registry images).1
        ∧ (d.present images).result = .ok ()) := by
  rw [present]
  cases hverdict : verdict (d.diagnose (.present images)) with
  | error e => exact Or.inl ⟨rfl, e, rfl⟩
  | ok accepted =>
    rw [diagnose, hengine] at hverdict
    refine Or.inr ⟨hverdict, rfl, ?_⟩
    exact releaseImages_ok d.registry images fun image hmem =>
      Standard.contains_of_accepted hverdict (List.mem_map_of_mem hmem)

end Device

/-! ## Balances -/

/-- Whether a call acquires an image of the swapchain. -/
def Call.acquires (swapchain : Handle .swapchain) : Call → Bool
  | .acquireImage handle => handle == swapchain
  | _ => false

/-- The indices of the images of the swapchain that a call lists to be presented. -/
def Call.presents (swapchain : Handle .swapchain) : Call → List ℕ
  | .present images => indicesOf swapchain images
  | _ => []

/-- What is acquired of a swapchain after calls that succeeded, together with what they gave back, is what was
acquired before, together with what they acquired. -/
def Balances (swapchain : Handle .swapchain) (r : Registry) (calls : List Call) (r' : Registry) : Prop :=
  r'.acquiredCount swapchain + (calls.flatMap fun call => (call.presents swapchain).dedup).length
    = r.acquiredCount swapchain + calls.countP (Call.acquires swapchain)

theorem Balances.trans {swapchain : Handle .swapchain} {r r' r'' : Registry} {calls calls' : List Call}
    (h : Balances swapchain r calls r') (h' : Balances swapchain r' calls' r'') :
    Balances swapchain r (calls ++ calls') r'' := by
  unfold Balances at h h' ⊢
  rw [List.flatMap_append, List.length_append, List.countP_append]
  omega

theorem balances_nil (swapchain : Handle .swapchain) (r : Registry) : Balances swapchain r [] r := rfl

theorem balances_singleton {swapchain : Handle .swapchain} {r r' : Registry} {call : Call} :
    Balances swapchain r [call] r' ↔
      r'.acquiredCount swapchain + (call.presents swapchain).dedup.length
        = r.acquiredCount swapchain + if call.acquires swapchain then 1 else 0 := by
  simp [Balances, List.countP_singleton]

namespace Registry

variable {r r' : Registry} {swapchain : Handle .swapchain}

theorem acquiredCount_congr (h : r'.get? swapchain = r.get? swapchain) :
    r'.acquiredCount swapchain = r.acquiredCount swapchain :=
  congrArg (Option.elim · 0 Swapchain.acquiredCount) h

theorem acquiredCount_of_get? {found : Swapchain} (h : r.get? swapchain = some found) :
    r.acquiredCount swapchain = found.acquiredCount := by
  rw [acquiredCount, h, Option.elim_some]

theorem acquiredCount_of_none (h : r.get? swapchain = none) : r.acquiredCount swapchain = 0 := by
  rw [acquiredCount, h, Option.elim_none]

end Registry

namespace Session

/-- The call, if it succeeds. -/
def succeeded (s : Session) (call : Call) : List Call :=
  if (s.step call).result.isOk then [call] else []

/-- The calls of a run that succeed. -/
def successes (s : Session) : List Call → List Call
  | [] => []
  | call :: rest => s.succeeded call ++ (s.step call).state.successes rest

theorem succeeded_of_ok {s : Session} {call : Call} {reply : Reply} (h : (s.step call).result = .ok reply) :
    s.succeeded call = [call] := by
  rw [succeeded, h]
  rfl

theorem succeeded_of_error {s : Session} {call : Call} {e : Error} (h : (s.step call).result = .error e) :
    s.succeeded call = [] := by
  rw [succeeded, h]
  rfl

variable (swapchain : Handle .swapchain)

/-- A call that neither acquires nor presents images of a swapchain is to leave it with those it has. -/
theorem balances_aside {s : Session} {call : Call} {r' : Registry}
    (hacquires : call.acquires swapchain = false) (hpresents : call.presents swapchain = [])
    (h : r'.acquiredCount swapchain = s.device.registry.acquiredCount swapchain) :
    Balances swapchain s.device.registry (s.succeeded call) r' := by
  unfold Balances succeeded
  split <;> simp [hacquires, hpresents, h]

theorem balances_acquireImage (s : Session) (handle : Handle .swapchain) :
    Balances swapchain s.device.registry (s.succeeded (.acquireImage handle))
      (s.step (.acquireImage handle)).state.device.registry := by
  show Balances swapchain _ _ (s.device.acquireImage handle).state.registry
  rcases s.device.acquireImage_cases handle with ⟨hs, e, he⟩ | ⟨found, index, hget, hfree, hs, hv⟩
  · have herror : (s.step (.acquireImage handle)).result = .error e :=
      congrArg (Except.map Reply.imageIndex) he
    rw [hs, succeeded_of_error herror]
    exact balances_nil swapchain _
  · have hreply : (s.step (.acquireImage handle)).result = .ok (.imageIndex index) :=
      congrArg (Except.map Reply.imageIndex) hv
    have hafter := Registry.get?_modify s.device.registry handle
      (fun swapchain : Swapchain => swapchain.acquire index) swapchain
    rw [hs, succeeded_of_ok hreply]
    -- One more image is acquired of the swapchain that was asked, and none of the others.
    by_cases heq : swapchain = handle
    · subst heq
      rw [if_pos rfl, hget, Option.map_some] at hafter
      refine balances_singleton.mpr ?_
      calc Registry.acquiredCount _ swapchain + 0 = (found.acquire index).acquiredCount :=
            Registry.acquiredCount_of_get? hafter
        _ = found.acquiredCount + 1 := Swapchain.acquiredCount_acquire hfree
        _ = s.device.registry.acquiredCount swapchain + 1 := by rw [Registry.acquiredCount_of_get? hget]
        _ = _ := by rw [Call.acquires, beq_self_eq_true, if_pos rfl]
    · rw [if_neg heq] at hafter
      refine balances_singleton.mpr ?_
      rw [Call.acquires, beq_false_of_ne (Ne.symm heq)]
      exact Registry.acquiredCount_congr hafter

theorem balances_present {s : Session} (hengine : s.device.engine = Standard.engine)
    (images : List PresentedImage) :
    Balances swapchain s.device.registry (s.succeeded (.present images))
      (s.step (.present images)).state.device.registry := by
  show Balances swapchain _ _ (s.device.present images).state.registry
  rcases Device.present_cases hengine images with ⟨hs, e, he⟩ | ⟨haccepted, hs, hv⟩
  · have herror : (s.step (.present images)).result = .error e :=
      congrArg (Except.map fun _ => Reply.done) he
    rw [hs, succeeded_of_error herror]
    exact balances_nil swapchain _
  · have hreply : (s.step (.present images)).result = .ok .done :=
      congrArg (Except.map fun _ => Reply.done) hv
    have hacquired (image : PresentedImage) (himage : image ∈ images) :=
      Standard.isAcquired_of_accepted rfl haccepted himage
    have halive : ∀ image ∈ images, s.device.registry.contains image.swapchain.erase = true := by
      intro image himage
      obtain ⟨found, hget, -⟩ := hacquired image himage
      exact Registry.contains_of_get? hget
    have hafter := Device.get?_releaseImages halive swapchain
    rw [hs, succeeded_of_ok hreply]
    refine balances_singleton.mpr ?_
    show Registry.acquiredCount _ swapchain + (indicesOf swapchain images).dedup.length
      = s.device.registry.acquiredCount swapchain
    cases hget : s.device.registry.get? swapchain with
    | none =>
      -- No image is presented of a swapchain that is not alive.
      have hnone : indicesOf swapchain images = [] := by
        refine List.eq_nil_iff_forall_not_mem.mpr fun index hindex => ?_
        obtain ⟨found, hfound, -⟩ := hacquired _ (mem_indicesOf.mp hindex)
        cases hget.symm.trans hfound
      rw [hget, Option.map_none] at hafter
      rw [hnone, Registry.acquiredCount_of_none hget]
      exact Registry.acquiredCount_of_none hafter
    | some found =>
      rw [hget, Option.map_some] at hafter
      rw [Registry.acquiredCount_of_get? hget]
      refine Eq.trans (congrArg (· + _) (Registry.acquiredCount_of_get? hafter))
        (Swapchain.acquiredCount_releaseAll fun index hindex => ?_)
      obtain ⟨other, hother, hindexAcquired⟩ := hacquired _ (mem_indicesOf.mp hindex)
      obtain rfl := Option.some.inj (hget.symm.trans hother)
      exact hindexAcquired

/-- No image of a new swapchain is acquired. -/
theorem acquiredCount_createSwapchain {s : Session} (hagrees : s.device.registry.Agrees [])
    {info : SwapchainInfo} (hfits : (s.step (.createSwapchain info)).state.device.registry.nextSerial
      ≤ ObjectId.maxSerial + 1) :
    (s.step (.createSwapchain info)).state.device.registry.acquiredCount swapchain
      = s.device.registry.acquiredCount swapchain := by
  have hstate : (s.step (.createSwapchain info)).state.device = (s.device.createSwapchain info).state := rfl
  rw [hstate] at hfits ⊢
  rcases s.device.createSwapchain_cases info with ⟨hs, -⟩ | ⟨-, hs, -⟩
  · rw [hs]
  · rw [hs] at hfits ⊢
    obtain ⟨images, hnew⟩ := Device.hasNewSwapchain hagrees hfits
    -- The new swapchain was not alive before, so that it counts as having no images acquired then.
    by_cases heq : swapchain = .ofSerial .swapchain s.device.registry.nextSerial
    · subst heq
      rw [Registry.acquiredCount_of_get? hnew.own, Registry.acquiredCount_of_none hnew.unknown]
      exact List.count_eq_zero.mpr (by simp [Swapchain.ofImages])
    · exact Registry.acquiredCount_congr (hnew.otherSwapchains swapchain heq)

variable {swapchain}

/-- A swapchain that stays keeps its images when another one is destroyed. -/
theorem acquiredCount_destroySwapchain {s : Session} {handle : Handle .swapchain}
    (hstays : s.device.registry.contains swapchain.erase = true →
      (s.step (.destroy .swapchain handle)).state.device.registry.contains swapchain.erase = true) :
    (s.step (.destroy .swapchain handle)).state.device.registry.acquiredCount swapchain
      = s.device.registry.acquiredCount swapchain := by
  have hstate : (s.step (.destroy .swapchain handle)).state.device
      = (s.device.destroySwapchain handle).state := rfl
  rw [hstate] at hstays ⊢
  rcases s.device.destroySwapchain_cases handle with ⟨hs, -⟩ | ⟨found, hget, hs, -⟩
  · rw [hs]
  · rw [hs] at hstays ⊢
    have hafter := s.device.get?_swapchain_removeSwapchain handle found.images swapchain
    split at hafter
    · next heq =>
      subst heq
      have halive := hstays (Registry.contains_of_get? hget)
      rw [Registry.contains_erase, hafter] at halive
      cases halive
    · exact Registry.acquiredCount_congr hafter

/-- A call balances, unless it destroys the swapchain. -/
theorem balances_step {s : Session} (hengine : s.device.engine = Standard.engine)
    (hagrees : s.device.registry.Agrees []) {call : Call}
    (hfits : (s.step call).state.device.registry.nextSerial ≤ ObjectId.maxSerial + 1)
    (hstays : s.device.registry.contains swapchain.erase = true →
      (s.step call).state.device.registry.contains swapchain.erase = true) :
    Balances swapchain s.device.registry (s.succeeded call) (s.step call).state.device.registry := by
  have helsewhere (hcall : .swapchain ∉ call.footprint) :
      (s.step call).state.device.registry.acquiredCount swapchain
        = s.device.registry.acquiredCount swapchain :=
    Registry.acquiredCount_congr (congrArg (Store.get? · swapchain) (s.objects_step hcall))
  cases call with
  | acquireImage handle => exact s.balances_acquireImage swapchain handle
  | present images => exact balances_present swapchain hengine images
  | createSwapchain info =>
    exact balances_aside swapchain rfl rfl (acquiredCount_createSwapchain swapchain hagrees hfits)
  | destroy type handle =>
    cases type with
    | swapchain => exact balances_aside swapchain rfl rfl (acquiredCount_destroySwapchain hstays)
    | _ => exact balances_aside swapchain rfl rfl (helsewhere (by simp [Call.footprint]))
  | _ => exact balances_aside swapchain rfl rfl (helsewhere (by simp [Call.footprint]))

/-- A run balances for every swapchain that is alive in the end. -/
theorem balances_run {s : Session} (h : s.Reachable) (hengine : s.device.engine = Standard.engine)
    {calls : List Call} (hfew : (s.run calls).FewObjects)
    (halive : (s.run calls).device.registry.contains swapchain.erase = true) :
    Balances swapchain s.device.registry (s.successes calls) (s.run calls).device.registry := by
  induction calls generalizing s with
  | nil => exact balances_nil swapchain _
  | cons call rest ih =>
    let after := (s.step call).state
    have hafter : after.Reachable := h.call call
    have hgoesOn := changes_of_mem_trail (after.run_mem_trail rest)
    have hstep := (s.step_transition call).changes
    have hfewAfter : after.FewObjects := hfew.of_changes hgoesOn
    refine Balances.trans (balances_step hengine (h.changes.agrees_of_empty (hfewAfter.of_changes hstep))
      (hafter.changes.serials_fit hfewAfter) fun hbefore => ?_)
      (ih hafter ((s.step_transition call).engine.trans hengine) hfew halive)
    -- A swapchain that is destroyed would not be alive in the end.
    have hknown := hstep.isKnown (Registry.isKnown_of_contains hbefore)
    exact (hafter.feedTells hfewAfter).contains_of_later ((hafter.run rest).feedTells hfew) hgoesOn hknown halive

end Session

/-! ## Entries and images -/

/-- Calls give back as many images as they list exactly if no call lists an image twice. -/
theorem length_dedup_presents_iff (swapchain : Handle .swapchain) (calls : List Call) :
    (calls.flatMap fun call => (call.presents swapchain).dedup).length
        = (calls.flatMap (Call.presents swapchain)).length
      ↔ ∀ call ∈ calls, (call.presents swapchain).Nodup := by
  have hle (call : Call) : (call.presents swapchain).dedup.length ≤ (call.presents swapchain).length :=
    (List.dedup_sublist _).length_le
  have hnodup (call : Call) : (call.presents swapchain).Nodup
      ↔ (call.presents swapchain).dedup.length = (call.presents swapchain).length := by
    rw [← List.dedup_eq_self]
    exact ⟨congrArg List.length, (List.dedup_sublist _).eq_of_length⟩
  have htotal (calls : List Call) : (calls.flatMap fun call => (call.presents swapchain).dedup).length
      ≤ (calls.flatMap (Call.presents swapchain)).length := by
    induction calls with
    | nil => exact Nat.le_refl 0
    | cons call calls ih =>
      rw [List.flatMap_cons, List.length_append, List.flatMap_cons, List.length_append]
      exact Nat.add_le_add (hle call) ih
  induction calls with
  | nil => simp
  | cons call calls ih =>
    -- Neither the call nor the others give back more than they list.
    have hcall := hle call
    have hcalls := htotal calls
    rw [List.forall_mem_cons, hnodup, List.flatMap_cons, List.length_append, List.flatMap_cons,
      List.length_append]
    constructor
    · intro hequal
      exact ⟨by omega, ih.mp (by omega)⟩
    · rintro ⟨hequal, hrest⟩
      rw [hequal, ih.mpr hrest]

/-- The images of swapchains are conserved.  After every run on the standard engine, what is acquired of a
live swapchain is an image at one of its positions that is not acquired before, and is afterwards.  As long
as no handle is used twice, the images of a live swapchain that are acquired, together with those that were
given back, are as many as were acquired in the run, where a present gives an image back once, however often
it lists it.  So there are as many as the entries of the presents account for exactly if no present lists an
image of the swapchain twice. -/
theorem swapchain_images_conserved {environment : Environment} {calls : List Call} {s : Session}
    (hs : (Session.start environment Standard.engine).run calls = s) :
    (∀ (swapchain : Handle .swapchain) (index : ℕ),
      (s.step (.acquireImage swapchain)).result = .ok (.imageIndex index) →
      ∃ found after : Swapchain, s.device.registry.get? swapchain = some found
        ∧ (s.step (.acquireImage swapchain)).state.device.registry.get? swapchain = some after
        ∧ index < found.images.length ∧ found.isAcquired index = false ∧ after.isAcquired index = true)
    ∧ (s.FewObjects → ∀ (swapchain : Handle .swapchain) (found : Swapchain),
      s.device.registry.get? swapchain = some found →
      let made := (Session.start environment Standard.engine).successes calls
      found.acquiredCount + (made.flatMap fun call => (call.presents swapchain).dedup).length
          = made.countP (Call.acquires swapchain)
        ∧ (found.acquiredCount + (made.flatMap (Call.presents swapchain)).length
            = made.countP (Call.acquires swapchain)
          ↔ ∀ call ∈ made, (call.presents swapchain).Nodup)) := by
  have hstart := Session.Reachable.start environment Standard.engine
  have hreachable : s.Reachable := hs ▸ hstart.run calls
  refine ⟨fun swapchain index hok => ?_, fun hfew swapchain found hget => ?_⟩
  · obtain ⟨acquired, hresult, hindex⟩ := Session.result_onDevice.mp hok
    obtain rfl := Reply.imageIndex.inj hindex
    rcases s.device.acquireImage_cases swapchain with ⟨-, e, he⟩ | ⟨found, index, hget, hfree, hs, hv⟩
    · cases he.symm.trans hresult
    obtain rfl := Except.ok.inj (hv.symm.trans hresult)
    obtain ⟨hposition, -⟩ := List.getElem?_eq_some_iff.mp hfree
    -- There is one mark for each image, so that the place of a mark is the place of an image.
    have hlength : found.acquired.length = found.images.length :=
      hreachable.closed.registry .swapchain swapchain found hget
    have hafter := Registry.get?_modify s.device.registry swapchain
      (fun swapchain : Swapchain => swapchain.acquire index) swapchain
    rw [if_pos rfl, hget, Option.map_some] at hafter
    refine ⟨found, found.acquire index, hget, ?_, hlength ▸ hposition, ?_, ?_⟩
    · exact (congrArg (fun d : Device => d.registry.get? swapchain) hs).trans hafter
    · rw [Swapchain.isAcquired, hfree, Option.getD_some]
    · rw [Swapchain.isAcquired, Swapchain.acquire, List.getElem?_set_self hposition, Option.getD_some]
  · subst hs
    have halive := Registry.contains_of_get? hget
    -- The balance of a run that starts with nothing acquired is the balance of the whole session.
    have hbalance : Balances swapchain _ _ _ := Session.balances_run hstart rfl hfew halive
    have hzero : (Session.start environment Standard.engine).device.registry.acquiredCount swapchain = 0 :=
      rfl
    rw [Balances, Registry.acquiredCount_of_get? hget, hzero, Nat.zero_add] at hbalance
    refine ⟨hbalance, ?_⟩
    rw [← hbalance, Nat.add_left_cancel_iff, eq_comm, length_dedup_presents_iff]

/-- Acquires two images of a swapchain, makes the first one ready, and presents images. -/
def acquireTwice (presented : List PresentedImage) : List Call :=
  [.createSwapchain { imageCount := 2, width := 4, height := 4, usage := .transferDst },
    .acquireImage (.ofSerial .swapchain 1),
    .acquireImage (.ofSerial .swapchain 1),
    .beginCommandBuffer ⟨0, 0⟩ none .multipleSubmit,
    .record 0 (.barrier { imageBarriers := [{
      image := .ofSerial .image 2, oldLayout := .undefined, newLayout := .presentSrc }] }),
    .endCommandBuffer 0,
    .submit [{ queue := ⟨0, 0⟩, commandBuffers := [.ofSerial .commandBuffer 4] }],
    .present presented]

/-- One of the images is given back, and is the next one to be acquired. -/
theorem acquireTwice_conserved :
    let s := (Session.start {} Standard.engine).run (acquireTwice [⟨.ofSerial .swapchain 1, 0⟩])
    ∃ found : Swapchain, s.device.registry.get? (.ofSerial .swapchain 1) = some found
      ∧ found.acquiredCount = 1 ∧ found.isAcquired 0 = false
      ∧ (s.step (.acquireImage (.ofSerial .swapchain 1))).result = .ok (.imageIndex 0) := by
  intro s
  obtain ⟨hacquire, hconserved⟩ := swapchain_images_conserved (s := s) rfl
  have hok : (s.step (.acquireImage (.ofSerial .swapchain 1))).result = .ok (.imageIndex 0) :=
    Outcome.value?_eq_some.mp (by decide +kernel)
  have hfew : s.FewObjects := by
    unfold Session.FewObjects
    decide +kernel
  obtain ⟨found, -, hget, -, -, hfree, -⟩ := hacquire _ 0 hok
  refine ⟨found, hget, ?_, hfree, hok⟩
  have hbalance := (hconserved hfew _ found hget).1
  have hgiven : (((Session.start {} Standard.engine).successes
      (acquireTwice [⟨.ofSerial .swapchain 1, 0⟩])).flatMap fun call =>
        (call.presents (.ofSerial .swapchain 1)).dedup).length = 1 := by decide +kernel
  have htaken : ((Session.start {} Standard.engine).successes
      (acquireTwice [⟨.ofSerial .swapchain 1, 0⟩])).countP (Call.acquires (.ofSerial .swapchain 1)) = 2 := by
    decide +kernel
  rw [hgiven, htaken] at hbalance
  exact Nat.succ.inj hbalance

/-- A present that lists an image twice succeeds, and the image is given back once: two images are acquired,
two entries are presented, and one image is still acquired. -/
theorem image_presented_twice :
    let calls := acquireTwice [⟨.ofSerial .swapchain 1, 0⟩, ⟨.ofSerial .swapchain 1, 0⟩]
    let s := (Session.start {} Standard.engine).run calls
    let made := (Session.start {} Standard.engine).successes calls
    made = calls
    ∧ (s.device.registry.get? (.ofSerial .swapchain 1)).map Swapchain.acquiredCount = some 1
    ∧ made.countP (Call.acquires (.ofSerial .swapchain 1)) = 2
    ∧ (made.flatMap (Call.presents (.ofSerial .swapchain 1))).length = 2 := by
  decide +kernel

end VulkanValidity
