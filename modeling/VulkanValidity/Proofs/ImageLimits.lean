/-
  VulkanValidity.Proofs.ImageLimits

  What the rules make sure of about images.  An image that is created on its own is well formed
  (`ImageInfo.WellFormed`).  The images of a swapchain are made from the properties of the swapchain, and
  fewer rules are about these: the images have proper extents, levels and layers (`ImageInfo.IsProper`), and
  whatever format, size and sharing mode the swapchain names.  Images keep the properties that they were made
  with, so that these are all the images there can be.
-/

import VulkanValidity.Proofs.MipLevels
import VulkanValidity.Proofs.SwapchainImages

namespace VulkanValidity

/-! ## Well-formed images -/

/-- A concurrent sharing mode names at least two families, each one exists, and none is named twice. -/
def Sharing.WellFormed (env : Environment) : Sharing → Prop
  | .exclusive => True
  | .concurrent families =>
    2 ≤ families.length ∧ families.Nodup ∧ ∀ family ∈ families, env.HasFamily family

namespace ImageInfo

/-- The extent is not empty, and the image has levels, no more than its extent has room for, and layers. -/
structure IsProper (info : ImageInfo) : Prop where
  extent : ∀ size ∈ info.extent.toList, 0 < size
  someLevels : 0 < info.mipLevels
  levelsFit : info.mipLevels ≤ info.extent.maxMipLevels
  layers : 0 < info.arrayLayers

/-- The properties of an image of which the environment can have one. -/
structure WellFormed (env : Environment) (info : ImageInfo) : Prop extends info.IsProper where
  format : info.format ≠ .undefined ∨ info.externalFormat.isSome = true
  /-- The dimensions that the type of the image has are within its limit. -/
  limits : ∀ size ∈ info.extent.toList.take (ImageRules.dimensions info.imageType),
    size ≤ env.maxImageDimension info.imageType
  sharing : info.sharing.WellFormed env

end ImageInfo

/-- The properties of a swapchain whose images are well formed. -/
structure SwapchainInfo.SuitsImages (env : Environment) (info : SwapchainInfo) : Prop where
  format : info.format ≠ .undefined
  limits : ∀ size ∈ info.dimensions, size ≤ env.maxImageDimension .dim2d
  sharing : info.sharing.WellFormed env

theorem SwapchainInfo.imageInfo_wellFormed_iff {env : Environment} {info : SwapchainInfo}
    (hproper : info.imageInfo.IsProper) : info.imageInfo.WellFormed env ↔ info.SuitsImages env := by
  constructor
  · rintro ⟨-, hformat, hlimits, hsharing⟩
    -- The images of a swapchain have no external format.
    exact ⟨hformat.resolve_right Bool.false_ne_true, hlimits, hsharing⟩
  · rintro ⟨hformat, hlimits, hsharing⟩
    exact ⟨hproper, Or.inl hformat, hlimits, hsharing⟩

theorem Image.exists_of_isPresented {image : Image} (h : image.isPresented = true) :
    ∃ swapchain index, image.memory = some (.presented swapchain index) := by
  unfold isPresented at h
  split at h
  · next swapchain index hmemory => exact ⟨swapchain, index, hmemory⟩
  · cases h

/-! ## Rules -/

namespace SharingRules

variable {env : Environment}

theorem firstBadFamily?_eq_none {count : Nat} {families : List Nat} {seen : List Nat} {index : Nat} :
    firstBadFamily? count seen index families = none
      ↔ families.Nodup ∧ ∀ family ∈ families, family < count ∧ family ∉ seen := by
  induction families generalizing seen index with
  | nil => simp [firstBadFamily?]
  | cons family rest ih =>
    rw [firstBadFamily?, List.nodup_cons, List.forall_mem_cons]
    split
    · next hcount =>
      exact ⟨fun h => (by cases h), fun h => absurd h.2.1.1 (Nat.not_lt_of_le hcount)⟩
    · next hcount =>
      split
      · next hseen =>
        exact ⟨fun h => (by cases h), fun h => absurd (List.contains_iff_mem.mp hseen) h.2.1.2⟩
      · next hseen =>
        rw [List.contains_iff_mem] at hseen
        rw [ih]
        simp only [List.mem_cons, not_or]
        constructor
        · rintro ⟨hnodup, hrest⟩
          refine ⟨⟨fun hmem => (hrest family hmem).2.1 rfl, hnodup⟩,
            ⟨Nat.lt_of_not_le hcount, hseen⟩, fun other hother => ?_⟩
          exact ⟨(hrest other hother).1, (hrest other hother).2.2⟩
        · rintro ⟨⟨hnew, hnodup⟩, -, hrest⟩
          refine ⟨hnodup, fun other hother => ⟨(hrest other hother).1, ?_, (hrest other hother).2⟩⟩
          rintro rfl
          exact hnew hother

/-- The rules about sharing modes report exactly the ones that are not well formed. -/
theorem checks_eq_nil {sharing : Sharing} :
    familyCount sharing = [] ∧ familyIndex env sharing = [] ↔ sharing.WellFormed env := by
  cases sharing with
  | exclusive => exact ⟨fun _ => trivial, fun _ => ⟨rfl, rfl⟩⟩
  | concurrent families =>
    have hcount : familyCount (.concurrent families) = [] ↔ 2 ≤ families.length := by
      rw [familyCount, violationIf_eq_nil, decide_eq_false_iff_not, Nat.not_lt]
    have hindex : familyIndex env (.concurrent families) = []
        ↔ families.Nodup ∧ ∀ family ∈ families, env.HasFamily family := by
      rw [familyIndex, Option.toList_eq_nil_iff, Option.map_eq_none_iff, firstBadFamily?_eq_none]
      simp only [List.not_mem_nil, not_false_eq_true, and_true, Environment.HasFamily]
    rw [hcount, hindex]
    exact Iff.rfl

end SharingRules

namespace Standard

variable {ctx : Context} (h : verdict (engine.evaluate ctx) = .ok ())
include h

section Images

variable {info : ImageInfo} (hoperation : ctx.operation = .createImage info)
include hoperation

theorem image_check_eq_nil {check : Context → ImageInfo → List Violation}
    (hreports : engine.Reports .resourceCreation .invalidParams (ImageRules.onCreate check)) :
    check ctx info = [] := by
  have hcheck := check_eq_nil hreports (by rw [hoperation]; rfl) h
  simpa only [ImageRules.onCreate, hoperation] using hcheck

/-- An image that the rules accept is well formed. -/
theorem wellFormed_of_accepted : info.WellFormed ctx.environment := by
  have hpositive {dimension : ℕ} {size : Extent → ℕ} (hreports : engine.Reports .resourceCreation
      .invalidParams (ImageRules.extentNonzero dimension size)) : 0 < size info.extent := by
    have hnonzero := violationIf_eq_nil.mp (image_check_eq_nil h hoperation hreports)
    exact Nat.pos_of_ne_zero (beq_eq_false_iff_ne.mp hnonzero)
  have hlimit {dimension : ℕ} {size : Extent → ℕ} (hreports : engine.Reports .resourceCreation
      .invalidParams (ImageRules.extentMax dimension size))
      (hdimension : dimension < ImageRules.dimensions info.imageType) :
      size info.extent ≤ ctx.environment.maxImageDimension info.imageType := by
    have hwithin := violationIf_eq_nil.mp (image_check_eq_nil h hoperation hreports)
    rw [decide_eq_true hdimension, Bool.true_and, decide_eq_false_iff_not] at hwithin
    exact Nat.le_of_not_lt hwithin
  have hwidth := hlimit (reports_rule imageRules 13)
  have hheight := hlimit (reports_rule imageRules 14)
  have hdepth := hlimit (reports_rule imageRules 15)
  have hformat := violationIf_eq_nil.mp (image_check_eq_nil h hoperation (reports_rule imageRules 0))
  have hsome := violationIf_eq_nil.mp (image_check_eq_nil h hoperation (reports_rule imageRules 16))
  have hmax := violationIf_eq_nil.mp (image_check_eq_nil h hoperation (reports_rule imageRules 17))
  have hlayers := violationIf_eq_nil.mp (image_check_eq_nil h hoperation (reports_rule imageRules 18))
  refine ⟨⟨?_, Nat.pos_of_ne_zero (beq_eq_false_iff_ne.mp hsome),
    Nat.le_of_not_lt (decide_eq_false_iff_not.mp hmax),
    Nat.pos_of_ne_zero (beq_eq_false_iff_ne.mp hlayers)⟩, ?_, ?_, SharingRules.checks_eq_nil.mp
      ⟨image_check_eq_nil h hoperation (reports_rule imageRules 20),
        image_check_eq_nil h hoperation (reports_rule imageRules 21)⟩⟩
  · simp only [Extent.toList, List.forall_mem_cons, List.not_mem_nil, false_implies, implies_true, and_true]
    exact ⟨hpositive (reports_rule imageRules 8), hpositive (reports_rule imageRules 9),
      hpositive (reports_rule imageRules 10)⟩
  · rw [Bool.and_eq_false_iff, beq_eq_false_iff_ne, Option.isNone_eq_false_iff] at hformat
    exact hformat
  · -- An image has its first one, two or three dimensions.
    cases htype : info.imageType with
    | dim1d =>
      rw [htype] at hwidth
      simpa [Extent.toList, ImageRules.dimensions] using hwidth Nat.one_pos
    | dim2d =>
      rw [htype] at hwidth hheight
      simpa [Extent.toList, ImageRules.dimensions] using ⟨hwidth Nat.two_pos, hheight (by decide)⟩
    | dim3d =>
      rw [htype] at hwidth hheight hdepth
      simpa [Extent.toList, ImageRules.dimensions]
        using ⟨hwidth (by decide), hheight (by decide), hdepth (by decide)⟩

end Images

/-- The images of a swapchain that the rules accept are proper. -/
theorem imageInfo_isProper_of_accepted {info : SwapchainInfo}
    (hoperation : ctx.operation = .createSwapchain info) : info.imageInfo.IsProper := by
  have hcheck {check : SwapchainInfo → List Violation} (hreports : engine.Reports .resourceCreation
      .invalidParams (SwapchainRules.onCreate check)) : check info = [] := by
    have hnone := check_eq_nil hreports (by rw [hoperation]; rfl) h
    simpa only [SwapchainRules.onCreate, hoperation] using hnone
  have hextent := violationIf_eq_nil.mp (hcheck (reports_rule swapchainRules 0))
  have hlayers := violationIf_eq_nil.mp (hcheck (reports_rule swapchainRules 1))
  have hpositive (size : ℕ) (hsize : size ∈ info.dimensions) : 0 < size := by
    refine Nat.pos_of_ne_zero fun hzero => ?_
    rw [List.contains_iff_mem.mpr (hzero ▸ hsize)] at hextent
    cases hextent
  have hsizes (size : ℕ) (hsize : size ∈ info.imageInfo.extent.toList) : 0 < size := by
    -- The extent is that of the swapchain, with a depth of one.
    rcases List.mem_append.mp (show size ∈ info.dimensions ++ [1] from hsize) with hdimension | hdepth
    · exact hpositive size hdimension
    · rw [List.mem_singleton.mp hdepth]
      exact Nat.one_pos
  have hlevels : 0 < info.imageInfo.extent.maxMipLevels :=
    (Extent.maxMipLevels_pos_iff _).mpr ⟨_, List.mem_cons_self, hsizes _ List.mem_cons_self⟩
  exact ⟨hsizes, Nat.one_pos, hlevels, Nat.pos_of_ne_zero (beq_eq_false_iff_ne.mp hlayers)⟩

end Standard

/-! ## Sessions -/

/-- What the rules make sure of about an image: it is proper, and it is well formed unless it is one of a
swapchain. -/
def FitsOrigin (env : Environment) (origin : ImageInfo × Option ImageMemory) : Prop :=
  origin.1.IsProper
    ∧ ((∀ swapchain index, origin.2 ≠ some (.presented swapchain index)) → origin.1.WellFormed env)

theorem fitsOrigin_of_wellFormed {env : Environment} {info : ImageInfo} {memory : Option ImageMemory}
    (h : info.WellFormed env) : FitsOrigin env (info, memory) :=
  ⟨h.toIsProper, fun _ => h⟩

/-- Every image of a registry keeps the limits that apply to images of its origin. -/
def Registry.ImagesFit (env : Environment) (r : Registry) : Prop :=
  ∀ image origin, r.imageOrigin? image = some origin → FitsOrigin env origin

theorem Device.Remakes.imagesFit {d d' : Device} (h : d.Remakes d') (hengine : d.engine = Standard.engine)
    (hfit : d.registry.ImagesFit d.environment) : d'.registry.ImagesFit d.environment := by
  intro image origin horigin
  rcases h.origin_cases horigin with hsame | ⟨info, haccepted, rfl⟩ | ⟨info, binding, hbefore, rfl⟩
    | ⟨info, swapchain, index, haccepted, rfl⟩
  · exact hfit image origin hsame
  · rw [diagnose, hengine] at haccepted
    exact fitsOrigin_of_wellFormed (Standard.wellFormed_of_accepted haccepted rfl)
  · -- Before it was bound the image had no memory at all.
    exact fitsOrigin_of_wellFormed ((hfit image _ hbefore).2 fun _ _ hmemory => by cases hmemory)
  · rw [diagnose, hengine] at haccepted
    exact ⟨Standard.imageInfo_isProper_of_accepted haccepted rfl, fun hapart => absurd rfl (hapart _ _)⟩

namespace Session

theorem Reachable.imagesFit {s : Session} (h : s.Reachable)
    (hengine : s.device.engine = Standard.engine) :
    s.device.registry.ImagesFit s.device.environment := by
  refine h.keeps (P := fun s => s.device.engine = Standard.engine →
      s.device.registry.ImagesFit s.device.environment)
    (fun environment engine _ image origin horigin => by cases horigin)
    (fun s call _ hsubmit ih hafter => ?_) (fun s queue handle _ ih hafter => ?_) hengine
  · have hbefore := (s.step_transition call).engine.symm.trans hafter
    have henvironment := (s.step_transition call).environment
    exact henvironment ▸ (s.remakes_step hsubmit).imagesFit hbefore (ih hbefore)
  · have hbefore := (s.device.submitOne_engine queue handle).symm.trans hafter
    have henvironment := s.device.submitOne_environment queue handle
    exact henvironment ▸ (s.device.remakes_submitOne queue handle).imagesFit hbefore (ih hbefore)

end Session

/-- The images that are alive in a session on the standard engine.  All of them have an extent without zeros,
at least one layer, and between one and as many mip levels as the extent has room for.  An image that is not
one of a swapchain is well formed, and as long as no handle is used twice all images are well formed exactly
if every live swapchain that has images names a format, an extent within the limits for 2D images, and a
well-formed sharing mode. -/
theorem images_well_formed {s : Session} (h : s.Reachable) (hengine : s.device.engine = Standard.engine) :
    (∀ (image : Handle .image) (object : Image), s.device.registry.get? image = some object →
      object.info.IsProper)
    ∧ (∀ (image : Handle .image) (object : Image), s.device.registry.get? image = some object →
      object.isPresented = false → object.info.WellFormed s.device.environment)
    ∧ (s.FewObjects →
      ((∀ (image : Handle .image) (object : Image), s.device.registry.get? image = some object →
        object.info.WellFormed s.device.environment)
      ↔ ∀ (swapchain : Handle .swapchain) (found : Swapchain), s.device.registry.get? swapchain = some found →
        found.images ≠ [] → found.info.SuitsImages s.device.environment)) := by
  have hfit {image : Handle .image} {object : Image} (hget : s.device.registry.get? image = some object) :
      FitsOrigin s.device.environment (object.info, object.memory) :=
    h.imagesFit hengine image _ (congrArg (Option.map _) hget)
  have hapart {image : Handle .image} {object : Image} (hget : s.device.registry.get? image = some object)
      (hnot : object.isPresented = false) : object.info.WellFormed s.device.environment := by
    refine (hfit hget).2 fun swapchain index hmemory => ?_
    rw [Image.isPresented, show object.memory = some _ from hmemory] at hnot
    cases hnot
  refine ⟨fun image object hget => (hfit hget).1, fun image object => hapart, fun hfew => ?_⟩
  have hlinked := h.linked hengine hfew
  constructor
  · -- The images of a swapchain have the same properties, so that the first one tells of them.
    intro hall swapchain found hget hsome
    obtain ⟨image, hfirst⟩ : ∃ image, found.images[0]? = some image :=
      ⟨_, List.getElem?_eq_getElem (List.length_pos_of_ne_nil hsome)⟩
    obtain ⟨object, hobject, horigin⟩ := Option.map_eq_some_iff.mp
      (hlinked.owns swapchain found.info found.images 0 image (congrArg (Option.map _) hget) hfirst)
    have hinfo : object.info = found.info.imageInfo := (Prod.mk.inj horigin).1
    have hwell := hall image object hobject
    rw [hinfo] at hwell
    exact (SwapchainInfo.imageInfo_wellFormed_iff hwell.toIsProper).mp hwell
  · intro hall image object hget
    cases hmemory : object.isPresented with
    | false => exact hapart hget hmemory
    | true =>
      obtain ⟨swapchain, index, hpresented⟩ := Image.exists_of_isPresented hmemory
      have horigin : s.device.registry.imageOrigin? image
          = some (object.info, some (.presented swapchain index)) := by
        rw [Registry.imageOrigin?, hget, Option.map_some, hpresented]
      obtain ⟨info, images, hswapchain, himage⟩ := hlinked.belongs image object.info swapchain index horigin
      have howned := hlinked.owns swapchain info images index image hswapchain himage
      have hinfo : object.info = info.imageInfo :=
        (Prod.mk.inj (Option.some.inj (horigin.symm.trans howned))).1
      obtain ⟨found, hfound, hparts⟩ := Option.map_eq_some_iff.mp hswapchain
      obtain ⟨rfl, rfl⟩ := Prod.mk.inj hparts
      rw [hinfo]
      refine (SwapchainInfo.imageInfo_wellFormed_iff (hinfo ▸ (hfit hget).1)).mpr
        (hall swapchain found hfound ?_)
      exact List.ne_nil_of_mem (List.mem_of_getElem? himage)

/-- A session with a swapchain without a format, and with an image of its own. -/
def formatlessSwapchain : Session :=
  (Session.start {} Standard.engine).run
    [.createSwapchain { imageCount := 1, format := .undefined, width := 4, height := 4 },
      .createImage { format := .r8g8b8a8Unorm, extent := ⟨4, 4, 1⟩, usage := .transferDst }]

/-- The image is well formed, and the image of the swapchain is not. -/
theorem formatlessSwapchain_images :
    formatlessSwapchain.FewObjects
    ∧ (∃ object : Image, formatlessSwapchain.device.registry.get? (.ofSerial .image 3) = some object
      ∧ object.info.WellFormed {})
    ∧ ¬ ∀ (image : Handle .image) (object : Image),
      formatlessSwapchain.device.registry.get? image = some object → object.info.WellFormed {} := by
  have hreachable : formatlessSwapchain.Reachable := (Session.Reachable.start {} Standard.engine).run _
  have hfew : formatlessSwapchain.FewObjects := by
    unfold Session.FewObjects
    decide +kernel
  obtain ⟨-, hapart, hiff⟩ := images_well_formed hreachable rfl
  have hown : (formatlessSwapchain.device.registry.get? (.ofSerial .image 3)).map Image.isPresented
      = some false := by decide +kernel
  obtain ⟨object, hobject, hown⟩ := Option.map_eq_some_iff.mp hown
  refine ⟨hfew, ⟨object, hobject, hapart _ object hobject hown⟩, fun hall => ?_⟩
  have hswapchain : (formatlessSwapchain.device.registry.get? (.ofSerial .swapchain 1)).map
      (fun found : Swapchain => (found.info.format, found.images.length)) = some (.undefined, 1) := by
    decide +kernel
  obtain ⟨found, hfound, hparts⟩ := Option.map_eq_some_iff.mp hswapchain
  obtain ⟨hformat, hlength⟩ := Prod.mk.inj hparts
  have hsome : found.images ≠ [] := List.ne_nil_of_length_pos (hlength ▸ Nat.one_pos)
  exact ((hiff hfew).mp hall _ found hfound hsome).format hformat

/-- The image of a swapchain without a format has neither a format nor an external one, while an image of its
own with the same properties is rejected. -/
theorem swapchain_image_formatless :
    let info : SwapchainInfo := { imageCount := 1, format := .undefined, width := 4, height := 4 }
    let s := (Session.start {} Standard.engine).run [.createSwapchain info]
    s.Reachable
    ∧ (s.device.registry.get? (.ofSerial .image 2)).map Image.info = some info.imageInfo
    ∧ ¬ info.imageInfo.WellFormed s.device.environment
    ∧ (s.step (.createImage info.imageInfo)).diagnostics.map Diagnostic.vuid
      = ["VUID-VkImageCreateInfo-pNext-01975"] := by
  intro info s
  refine ⟨(Session.Reachable.start {} Standard.engine).run _, by decide +kernel, fun hwell => ?_,
    by decide +kernel⟩
  rcases hwell.format with hformat | hexternal
  · exact hformat rfl
  · cases hexternal

end VulkanValidity
