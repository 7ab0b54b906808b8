/-
  VulkanValidity.Proofs.LinearLayouts

  Where the subresources of an image with linear tiling lie, compared with the memory that the image is
  said to need (`layout_within_requirements`).  Both are calculated from the mip levels, once by adding up
  sizes and once by adding up positions, and they agree on subresources of the first aspect.

  There are two provisos.  The size of an image is rounded up to its alignment, and where that does not
  fit 64 bits, the last multiple of the alignment stands for it, which can be less than the size.  And an
  image whose requirements are deferred is said to need what was bound to it, however little that is.
-/

import VulkanValidity.Proofs.Evolution
import VulkanValidity.Proofs.ExactSizes
import VulkanValidity.Proofs.Verdicts

namespace VulkanValidity

/-! ## Queries -/

namespace Standard

theorem reports_layoutTiling :
    engine.Reports .resourceCreation .invalidParams BindingRules.subresourceLayoutTiling :=
  reports_rule bindingRules 23

theorem reports_layoutBeforeBind :
    engine.Reports .resourceCreation .queryBeforeBind BindingRules.subresourceLayoutBeforeBind :=
  reports_rule bindingRules 22

/-- Besides the rules about objects, one rule is about a query of requirements. -/
theorem evaluate_queryImageRequirements (d : Device) (handle : Handle .image) (extended : Bool) :
    engine.evaluate (d.context (.queryImageRequirements handle extended))
      = (objectRules.take 2 ++ [bindingRules[20], bindingRules[21]]).flatMap fun rule =>
          rule.diagnostics (d.context (.queryImageRequirements handle extended)) := by
  rfl

/-- The requirements of an image can be queried if the layouts of its subresources can. -/
theorem requirements_accepted {d : Device} {handle : Handle .image} {subresource : Subresource}
    (h : verdict (engine.evaluate (d.context (.querySubresourceLayout handle subresource))) = .ok ())
    (extended : Bool) :
    verdict (engine.evaluate (d.context (.queryImageRequirements handle extended))) = .ok () := by
  -- The rules about objects look at the image alone, and the others at the same image.
  let layoutContext := d.context (.querySubresourceLayout handle subresource)
  have hdestroyed : ObjectRules.objectDestroyed layoutContext = [] :=
    check_eq_nil (reports_objectDestroyed _) rfl h
  have hunknown : ObjectRules.objectUnknown layoutContext = [] :=
    check_eq_nil (reports_objectUnknown _) rfl h
  have hbound : BindingRules.deferredBound layoutContext handle = [] :=
    check_eq_nil reports_layoutBeforeBind rfl h
  have hbefore (asked : Bool) : BindingRules.requirementsBeforeBind asked
      (d.context (.queryImageRequirements handle extended)) = [] := by
    have hsame : BindingRules.deferredBound (d.context (.queryImageRequirements handle extended)) handle
        = [] := hbound
    simp only [BindingRules.requirementsBeforeBind, Device.context] at hsame ⊢
    rw [hsame, ite_self]
  have hnone : engine.evaluate (d.context (.queryImageRequirements handle extended)) = [] := by
    rw [evaluate_queryImageRequirements, Rule.flatMap_diagnostics_eq_nil]
    intro rule hrule
    simp only [objectRules, bindingRules, List.take, List.cons_append, List.nil_append,
      List.getElem_cons_succ, List.getElem_cons_zero, List.mem_cons, List.not_mem_nil, or_false]
      at hrule
    rcases hrule with rfl | rfl | rfl | rfl
    · exact hdestroyed
    · exact hunknown
    · exact hbefore false
    · exact hbefore true
  rw [hnone]
  rfl

end Standard

namespace Device

variable {d : Device} {handle : Handle .image} {image : Image}

/-- A layout that a query gives is that of a subresource of a live image with linear tiling. -/
theorem subresourceLayout_eq_ok (hengine : d.engine = Standard.engine) {subresource : Subresource}
    {layout : SubresourceLayout} (h : (d.subresourceLayout handle subresource).result = .ok layout) :
    ∃ image, d.registry.get? handle = some image ∧ image.info.tiling = .linear
      ∧ image.info.hasSubresource subresource = true
      ∧ layout = image.info.subresourceLayout subresource
      ∧ verdict (d.diagnose (.querySubresourceLayout handle subresource)) = .ok () := by
  rcases Outcome.guarded_cases d _ _ with ⟨-, e, he⟩ | ⟨value, after, haccepted, hperform, -, hvalue⟩
  · cases he.symm.trans h
  · obtain rfl := Except.ok.inj (hvalue.symm.trans h)
    obtain ⟨image, himage, hperform⟩ := bind_eq_ok.mp hperform
    have hget := Registry.get_eq_ok.mp himage
    split at hperform
    · next hhas =>
      obtain ⟨rfl, -⟩ := Prod.mk.inj (pure_eq_ok.mp hperform)
      refine ⟨image, hget, ?_, hhas, rfl, haccepted⟩
      rw [diagnose, hengine] at haccepted
      have hcheck := Standard.check_eq_nil Standard.reports_layoutTiling rfl haccepted
      simp only [BindingRules.subresourceLayoutTiling, context, hget] at hcheck
      exact bne_eq_false_iff_eq.mp (violationIf_eq_nil.mp hcheck)
    · cases hperform

theorem imageRequirements_eq_ok {extended : Bool} (hget : d.registry.get? handle = some image)
    (haccepted : verdict (d.diagnose (.queryImageRequirements handle extended)) = .ok ()) :
    (d.imageRequirements handle extended).result = .ok (d.imageNeeds image) := by
  simp only [imageRequirements, guarded, Outcome.guarded, haccepted, Registry.get_eq_ok.mpr hget, bind,
    Except.bind, pure, Except.pure]

/-- An image whose requirements are not deferred needs the same whether it is bound or not. -/
theorem imageNeeds_of_not_deferred (h : image.info.isDeferred = false) :
    d.imageNeeds image = image.info.requirements d.environment := by
  rw [imageNeeds, h]
  cases image.binding? <;> rfl

/-- An image whose requirements are deferred needs what is bound to it. -/
theorem imageNeeds_of_deferred (h : image.info.isDeferred = true) {binding : MemoryBinding}
    (hbinding : image.binding? = some binding) :
    d.imageNeeds image = { image.info.requirements d.environment with size := binding.size } := by
  rw [imageNeeds, hbinding, h]
  rfl

theorem imageNeeds_size_of_deferred (h : image.info.isDeferred = true) {binding : MemoryBinding}
    (hbinding : image.binding? = some binding) : (d.imageNeeds image).size = binding.size := by
  rw [imageNeeds_of_deferred h hbinding]

end Device

/-! ## Layouts and requirements -/

namespace ImageInfo

variable {info : ImageInfo} {env : Environment}

/-- The exact size of the image, rounded up to its alignment in exact numbers. -/
def exactRequiredSize (info : ImageInfo) (env : Environment) : Nat :=
  DeviceSize.roundUp info.exactSize (info.memoryAlignment env)

theorem exactSize_le_exactRequiredSize (hvalid : env.isValid = true) :
    info.exactSize ≤ info.exactRequiredSize env :=
  DeviceSize.le_roundUp (env.alignment_pos hvalid (info.memoryAlignment_mem env)) _

/-- The required size is exact if it fits, and otherwise the last multiple of the alignment. -/
theorem requirements_size_of_exactSize_le (h : info.exactSize ≤ DeviceSize.max) :
    (info.requirements env).size
      = if info.exactRequiredSize env ≤ DeviceSize.max then info.exactRequiredSize env
        else DeviceSize.lastMultiple (info.memoryAlignment env) := by
  rw [requirements_size_eq, DeviceSize.saturate_of_le h, DeviceSize.alignUp_eq]
  rfl

/-- A subresource ends within the exact size of the image, if its aspect comes after fewer others than the
image has samples. -/
theorem subresourceLayout_end_le {subresource : Subresource}
    (hhas : info.hasSubresource subresource = true)
    (haspect : info.aspectPosition subresource.aspect < info.samples.count) :
    (info.subresourceLayout subresource).offset + (info.subresourceLayout subresource).size
      ≤ info.exactSize := by
  obtain ⟨hoffset, hsize⟩ := info.subresourceLayout_eq subresource
  rw [hoffset, hsize]
  exact Nat.le_trans (Nat.add_le_add (DeviceSize.saturate_le _) (DeviceSize.saturate_le _))
    (info.exactOffset_add_le_exactSize hhas haspect)

end ImageInfo

/-- Where the layout of a subresource can be queried, so can the memory that the image needs.  If the
image is not deferred and the aspect of the subresource comes after fewer others than the image has
samples, the subresource lies within the memory that the image needs, as long as the rounded size of the
image fits 64 bits.  If just the size itself does, the image is said to need the last multiple of its
alignment.  A deferred image is said to need what is bound to it. -/
theorem layout_within_requirements {s : Session} (hengine : s.device.engine = Standard.engine)
    (hvalid : s.device.environment.isValid = true) {handle : Handle .image} {subresource : Subresource}
    {layout : SubresourceLayout}
    (hlayout : (s.step (.subresourceLayout handle subresource)).result = .ok (.layout layout))
    (extended : Bool) :
    ∃ image required, s.device.registry.get? handle = some image
      ∧ (s.step (.imageRequirements handle extended)).result = .ok (.requirements required)
      ∧ (image.info.isDeferred = false →
          image.info.aspectPosition subresource.aspect < image.info.samples.count →
          (image.info.exactRequiredSize s.device.environment ≤ DeviceSize.max →
            layout.offset + layout.size ≤ required.size)
          ∧ (image.info.exactSize ≤ DeviceSize.max →
            DeviceSize.max < image.info.exactRequiredSize s.device.environment →
            layout.offset + layout.size ≤ image.info.exactSize
              ∧ required.size = DeviceSize.lastMultiple s.device.environment.linearImageAlignment))
      ∧ (image.info.isDeferred = true → ∀ binding, image.binding? = some binding →
          required.size = binding.size) := by
  obtain ⟨found, hresult, hfound⟩ := Session.result_onDevice.mp hlayout
  obtain rfl := Reply.layout.inj hfound
  obtain ⟨image, hget, hlinear, hhas, rfl, haccepted⟩ :=
    Device.subresourceLayout_eq_ok hengine hresult
  have hquery : verdict (s.device.diagnose (.queryImageRequirements handle extended)) = .ok () := by
    rw [Device.diagnose, hengine] at haccepted ⊢
    exact Standard.requirements_accepted haccepted extended
  have hrequired := Device.imageRequirements_eq_ok hget hquery
  refine ⟨image, s.device.imageNeeds image, hget, Session.result_onDevice.mpr ⟨_, hrequired, rfl⟩,
    fun hnow haspect => ?_, fun hdeferred binding => Device.imageNeeds_size_of_deferred hdeferred⟩
  rw [Device.imageNeeds_of_not_deferred hnow]
  -- The layout ends within the exact size; what the requirements make of that depends on its width.
  have hwithin := ImageInfo.subresourceLayout_end_le hhas haspect
  constructor
  · intro hfits
    have hrounded := image.info.exactSize_le_exactRequiredSize hvalid
    rw [ImageInfo.requirements_size_of_exactSize_le (Nat.le_trans hrounded hfits), if_pos hfits]
    exact Nat.le_trans hwithin hrounded
  · intro hsize hover
    rw [ImageInfo.requirements_size_of_exactSize_le hsize, if_neg (Nat.not_le_of_lt hover),
      ImageInfo.memoryAlignment, hlinear]
    exact ⟨hwithin, rfl⟩

/-- The second layer of a level begins where the first one ends. -/
example : (ImageInfo.subresourceLayout
    { format := .r8g8b8a8Unorm, extent := ⟨16, 16, 1⟩, arrayLayers := 2, usage := .transferDst }
    ⟨.color, 0, 1⟩).offset = 1024 := by decide +kernel

/-- An image with linear tiling, two mip levels and three layers. -/
def layeredImage : ImageInfo where
  format := .r8g8b8a8Unorm
  extent := ⟨16, 16, 1⟩
  mipLevels := 2
  arrayLayers := 3
  tiling := .linear
  usage := .transferDst

/-- The last layer of the last level ends where the memory ends that the image needs. -/
theorem layered_within_requirements :
    (((Session.start {} Standard.engine).run [.createImage layeredImage]).step
      (.subresourceLayout (.ofSerial .image 1) ⟨.color, 1, 2⟩)).result
        = .ok (.layout ⟨3584, 256, 32, 256, 256⟩)
    ∧ ∃ required, (((Session.start {} Standard.engine).run [.createImage layeredImage]).step
        (.imageRequirements (.ofSerial .image 1) false)).result = .ok (.requirements required)
      ∧ 3584 + 256 ≤ required.size := by
  let s := (Session.start {} Standard.engine).run [.createImage layeredImage]
  have hlayout : (s.step (.subresourceLayout (.ofSerial .image 1) ⟨.color, 1, 2⟩)).result
      = .ok (.layout ⟨3584, 256, 32, 256, 256⟩) := Outcome.value?_eq_some.mp (by decide +kernel)
  have hinfo : (s.device.registry.get? (.ofSerial .image 1)).map Image.info = some layeredImage := by
    decide +kernel
  have henvironment : s.device.environment = {} := Session.run_environment _ _
  have hvalid : s.device.environment.isValid = true := by
    rw [henvironment]
    decide
  have hfits : layeredImage.exactRequiredSize {} ≤ DeviceSize.max := by decide
  obtain ⟨image, required, hget, hrequired, hnow, -⟩ :=
    layout_within_requirements rfl hvalid hlayout false
  rw [hget] at hinfo
  obtain hinfo := Option.some.inj hinfo
  rw [hinfo, henvironment] at hnow
  exact ⟨hlayout, required, hrequired, (hnow (by decide) (by decide)).1 hfits⟩

/-- Where the layout of a subresource ends, and the size that its image is said to need. -/
def Session.endAndRequired? (s : Session) (handle : Handle .image) (subresource : Subresource) :
    Option (Nat × Nat) :=
  match (s.step (.subresourceLayout handle subresource)).value?,
    (s.step (.imageRequirements handle false)).value? with
  | some (.layout layout), some (.requirements required) =>
    some (layout.offset + layout.size, required.size)
  | _, _ => none

/-- An image for a hardware buffer, whose requirements are deferred. -/
def deferredImage : ImageInfo where
  format := .r8g8b8a8Unorm
  extent := ⟨64, 64, 1⟩
  tiling := .linear
  usage := .sampled
  handleTypes := .androidHardwareBuffer

/-- Binds the deferred image to an allocation of one byte. -/
def bindOneByte : List Call :=
  [.createImage deferredImage,
    .allocateMemory { size := 1, dedicated := some (.image (.ofSerial .image 1)) },
    .bindImage (.ofSerial .image 1) (.ofSerial .deviceMemory 2) 0]

/-- An image of `2 ^ 64 - 1` bytes. -/
def hugeImage : ImageInfo where
  format := .r8Unorm
  extent := ⟨4294967295, 641, 1⟩
  arrayLayers := 6700417
  tiling := .linear
  usage := .transferDst

/-- An image with two aspects. -/
def depthStencilImage : ImageInfo where
  format := .d24UnormS8Uint
  extent := ⟨16, 16, 1⟩
  tiling := .linear
  usage := .transferDst

/-- Three images with linear tiling whose exact sizes fit 64 bits, and each with a subresource that ends
beyond the size that the image is said to need: one is deferred, the size of one cannot be rounded up, and
one has a second aspect, for which its size has no room. -/
theorem layout_beyond_requirements :
    (deferredImage.exactSize ≤ DeviceSize.max
      ∧ ((Session.start .android Standard.engine).run bindOneByte).endAndRequired?
          (.ofSerial .image 1) ⟨.color, 0, 0⟩ = some (16384, 1))
    ∧ (hugeImage.exactSize ≤ DeviceSize.max
      ∧ ((Session.start { maxImageDimension2d := 4294967295 } Standard.engine).run
          [.createImage hugeImage]).endAndRequired? (.ofSerial .image 1) ⟨.color, 0, 6700416⟩
          = some (2 ^ 64 - 1, 2 ^ 64 - 256))
    ∧ depthStencilImage.exactSize ≤ DeviceSize.max
      ∧ ((Session.start {} Standard.engine).run [.createImage depthStencilImage]).endAndRequired?
          (.ofSerial .image 1) ⟨.stencil, 0, 0⟩ = some (2048, 1024) := by
  refine ⟨⟨?_, ?_⟩, ⟨?_, ?_⟩, ?_, ?_⟩ <;> decide +kernel

end VulkanValidity
