/-
  VulkanValidity.Proofs.HardwareBufferImports

  Importing hardware buffers for images.  An image of the shape of a buffer, which is used in no way that the
  buffer is not made for (`ImageInfo.Matches`), gets its memory from the buffer in three steps: the properties
  of the buffer tell the size of the allocation, the allocation is made for the image, and the image is bound
  to all of it.  The requirements of such an image are not known before the last step, so every rule that
  compares them with an allocation has to make an exception of it.

  All rules about allocations are gone through for the second step (`evaluate_importMemory_eq_nil`), and all
  checks on bindings for the third (`Target.TakesImport`).
-/

import VulkanValidity.Proofs.MipChains
import VulkanValidity.Proofs.Sufficiency

namespace VulkanValidity

/-! ## Images that match a buffer -/

/-- An image that takes its memory from a hardware buffer can be made from the given one. -/
structure ImageInfo.Matches (image : ImageInfo) (buffer : HardwareBufferInfo) : Prop where
  deferred : image.isDeferred = true
  format : (image.externalFormat = none ∧ image.format = buffer.format.imageFormat)
    ∨ (image.externalFormat = some buffer.format.externalFormat ∧ image.format = .undefined)
  extent : image.extent = buffer.extent
  layers : image.arrayLayers = buffer.layers
  levels : image.mipLevels = 1
    ∨ (buffer.usage.intersects .gpuMipmapComplete = true ∧ image.mipLevels = buffer.extent.maxMipLevels)
  sampled : image.usage.intersects (ImageUsage.sampled ∪ ImageUsage.inputAttachment) = true →
    buffer.usage.contains .gpuSampledImage = true
  attached :
    image.usage.intersects (ImageUsage.colorAttachment ∪ ImageUsage.depthStencilAttachment) = true →
      buffer.usage.contains .gpuFramebuffer = true
  cube : image.flags.intersects ImageCreateFlags.cubeCompatible = true →
    buffer.usage.contains .gpuCubeMap = true

/-- A buffer that matches an image has texels, as images have. -/
theorem ImageInfo.Matches.allocationSize_pos {image : ImageInfo} {buffer : HardwareBufferInfo}
    (h : image.Matches buffer) (hproper : image.IsProper) : 0 < buffer.allocationSize := by
  have hextent := hproper.extent
  rw [h.extent] at hextent
  have hwidth : 0 < buffer.width := hextent _ (.head _)
  have hheight : 0 < buffer.height := hextent _ (.tail _ (.head _))
  exact HardwareBufferInfo.allocationSize_pos hwidth hheight (h.layers ▸ hproper.layers)

/-! ## Allocations -/

/-- The properties of an allocation that imports a hardware buffer for an image. -/
def HardwareBuffer.importInfo (buffer : HardwareBuffer) (handle : Handle .image) (size type : ℕ) :
    AllocationInfo where
  size := size
  memoryType := type
  dedicated := some (.image handle)
  source := some (.hardwareBuffer buffer)

namespace MemoryRules

theorem usagePermitted_eq_nil {buffer required : HardwareBufferUsage} {handle : Handle .image}
    {image usage : ImageUsage} (h : image.intersects usage = true → buffer.contains required = true) :
    usagePermitted buffer handle image usage required = [] :=
  violationIf_eq_nil.mpr (Bool.and_eq_false_imp.mpr fun huse => (Bool.not_eq_false' _).mpr (h huse))

section

variable {d : Device} {buffer : HardwareBuffer} {handle : Handle .image} {image : Image}
  (hget : d.registry.get? handle = some image) (size type : ℕ)
include hget

/-- A rule about imports for images looks at the image. -/
theorem onImageImport_eq_nil
    {check : Context → HardwareBuffer → Handle .image → ImageInfo → List Violation}
    (h : check (d.context (.allocateMemory (buffer.importInfo handle size type))) buffer handle image.info
      = []) :
    (measured (onImageImport check)).check (d.context (.allocateMemory (buffer.importInfo handle size type)))
      = [] := by
  simp only [measured, onImageImport, onImport, onAllocate, Device.context, HardwareBuffer.importInfo, hget]
  exact h

/-- The size of the allocation is that of the hardware buffer, whatever the image needs. -/
theorem dedicatedImageSize_eq_nil :
    dedicatedImageSize (d.context (.allocateMemory (buffer.importInfo handle size type))) = [] := by
  simp only [dedicatedImageSize, onAllocate, Device.context, HardwareBuffer.importInfo, hget]
  refine violationIf_eq_nil.mpr ?_
  rw [sizeExempt, AllocationInfo.importsHardwareBuffer, Option.any_some, MemoryImport.isHardwareBuffer,
    Bool.or_true, Bool.true_or, Bool.not_true, Bool.false_and]

variable (hmatches : image.info.Matches buffer.info)
include hmatches

theorem dedicatedFormat_eq_nil :
    dedicatedFormat.check (d.context (.allocateMemory (buffer.importInfo handle size type))) = [] := by
  rw [dedicatedFormat]
  refine onImageImport_eq_nil hget size type (violationIf_eq_nil.mpr ?_)
  rcases hmatches.format with ⟨hnone, hformat⟩ | ⟨hsome, -⟩
  · rw [hnone, hformat]
    exact (Bool.not_eq_false' _).mpr (beq_self_eq_true _)
  · rw [hsome]
    exact (Bool.not_eq_false' _).mpr (beq_self_eq_true _)

theorem dedicatedExtent_eq_nil :
    dedicatedExtent.check (d.context (.allocateMemory (buffer.importInfo handle size type))) = [] := by
  rw [dedicatedExtent]
  refine onImageImport_eq_nil hget size type (violationIf_eq_nil.mpr ?_)
  rw [hmatches.extent, hmatches.layers, Bool.or_eq_false_iff]
  exact ⟨bne_self_eq_false _, bne_self_eq_false _⟩

theorem dedicatedMipLevels_eq_nil :
    dedicatedMipLevels.check (d.context (.allocateMemory (buffer.importInfo handle size type))) = [] := by
  rw [dedicatedMipLevels]
  refine onImageImport_eq_nil hget size type ?_
  rcases hmatches.levels with hone | ⟨hmip, hall⟩
  · rw [hone]
    split <;> rfl
  · rw [if_pos hmip]
    refine violationIf_eq_nil.mpr ?_
    rw [hall, hmatches.extent, bne_self_eq_false, Bool.and_false]

theorem dedicatedUsage_eq_nil :
    dedicatedUsage.check (d.context (.allocateMemory (buffer.importInfo handle size type))) = [] := by
  rw [dedicatedUsage]
  refine onImageImport_eq_nil hget size type ?_
  refine List.append_eq_nil_iff.mpr ⟨List.append_eq_nil_iff.mpr ⟨usagePermitted_eq_nil hmatches.sampled,
    usagePermitted_eq_nil hmatches.attached⟩, violationIf_eq_nil.mpr ?_⟩
  exact Bool.and_eq_false_imp.mpr fun hcube => (Bool.not_eq_false' _).mpr (hmatches.cube hcube)

end

end MemoryRules

namespace Standard

variable {d : Device}

/-- Besides the rules about objects, the rules about allocations are about the import of a hardware buffer. -/
theorem evaluate_importMemory (d : Device) (buffer : HardwareBuffer) (handle : Handle .image)
    (size type : ℕ) : engine.evaluate (d.context (.allocateMemory (buffer.importInfo handle size type)))
      = (objectRules.take 2 ++ memoryRules.take 14).flatMap fun rule =>
          rule.diagnostics (d.context (.allocateMemory (buffer.importInfo handle size type))) := by
  rfl

/-- Eight of the rules look up the size of the buffer. -/
theorem overflows_importMemory (d : Device) (buffer : HardwareBuffer) (handle : Handle .image)
    (size type : ℕ) : engine.overflows (d.context (.allocateMemory (buffer.importInfo handle size type)))
      = (List.replicate 8 (!buffer.info.sizeFits)).any id := by
  rfl

/-- The import of a hardware buffer for an image that matches it has the size of the buffer, and a memory type
that the buffer allows. -/
theorem evaluate_importMemory_eq_nil (hlives : d.registry.Lives) (hvalid : d.environment.isValid = true)
    {buffer : HardwareBuffer} (husage : buffer.info.usage.intersects .gpuAny = true) {handle : Handle .image}
    {image : Image} (hget : d.registry.get? handle = some image) (hmatches : image.info.Matches buffer.info)
    {type : ℕ} (hallowed : allowsMemoryType (buffer.properties d.environment).memoryTypeBits type = true) :
    engine.evaluate (d.context (.allocateMemory (buffer.importInfo handle
      (buffer.properties d.environment).allocationSize type))) = [] := by
  have htype : type < d.environment.memoryTypes.length := Environment.lt_of_allowsMemoryType hallowed
  have hmaskable : min type 31 = type := by
    have hlength := Environment.length_memoryTypes_le hvalid
    omega
  refine evaluate_eq_nil_of_own hlives (evaluate_importMemory d buffer handle _ type) (fun id hid => ?_) ?_
  · rw [List.mem_singleton.mp hid]
    exact Registry.contains_of_get? hget
  intro rule hrule
  simp only [memoryRules, List.take, List.mem_cons, List.not_mem_nil, or_false] at hrule
  -- Three rules are about every allocation, four about imports of hardware buffers, and four about those for
  -- an image.  The others are about file descriptors and about sizes that do not follow from a buffer.
  rcases hrule with rfl | rfl | rfl | rfl | rfl | rfl | rfl | rfl | rfl | rfl | rfl | rfl | rfl | rfl
  · exact violationIf_eq_nil.mpr (decide_eq_false (Nat.not_le_of_lt htype))
  · exact violationIf_eq_nil.mpr (Bool.and_false _)
  · refine violationIf_eq_nil.mpr ?_
    rw [AllocationInfo.not_exportsHardwareBufferForImage rfl, Bool.false_and]
  · exact violationIf_eq_nil.mpr (bne_self_eq_false _)
  · refine violationIf_eq_nil.mpr ((Bool.not_eq_false' _).mpr ?_)
    exact (congrArg _ hmaskable).trans hallowed
  · rfl
  · exact violationIf_eq_nil.mpr (by rw [husage]; rfl)
  · exact MemoryRules.dedicatedFormat_eq_nil hget _ type hmatches
  · exact MemoryRules.dedicatedExtent_eq_nil hget _ type hmatches
  · exact MemoryRules.dedicatedMipLevels_eq_nil hget _ type hmatches
  · exact MemoryRules.dedicatedUsage_eq_nil hget _ type hmatches
  · rfl
  · exact MemoryRules.dedicatedImageSize_eq_nil hget _ type
  · rfl

end Standard

/-- A hardware buffer is imported for an image that matches it, and the memory is the next object. -/
theorem Session.outcome?_importMemory {s : Session} (hengine : s.device.engine = Standard.engine)
    (hlives : s.device.registry.Lives) (hvalid : s.device.environment.isValid = true)
    {buffer : HardwareBuffer} (husage : buffer.info.usage.intersects .gpuAny = true)
    (hfits : buffer.info.sizeFits = true) {handle : Handle .image} {image : Image}
    (hget : s.device.registry.get? handle = some image) (hmatches : image.info.Matches buffer.info)
    {size type : ℕ} (hpos : 0 < size) (hsize : size = (buffer.properties s.device.environment).allocationSize)
    (hallowed : allowsMemoryType (buffer.properties s.device.environment).memoryTypeBits type = true) :
    s.outcome? (.allocateMemory (buffer.importInfo handle size type))
      = some ⟨s.withDevice (s.device.insert .deviceMemory
            (.ofInfo (buffer.importInfo handle size type) size)).2, [],
          .ok (.object (Handle.ofSerial .deviceMemory s.device.registry.nextSerial).erase)⟩ := by
  have hsilent := Standard.evaluate_importMemory_eq_nil hlives hvalid husage hget hmatches hallowed
  rw [← hsize] at hsilent
  have hown : s.device.allocationSize (buffer.importInfo handle size type) = .ok size :=
    if_neg fun hzero => Nat.ne_of_gt hpos hzero.1
  have hallocation : s.device.allocateMemory (buffer.importInfo handle size type)
      = ⟨(s.device.insert .deviceMemory (.ofInfo (buffer.importInfo handle size type) size)).2, [],
          .ok (.ofSerial .deviceMemory s.device.registry.nextSerial)⟩ := by
    refine Device.guarded_of_silent hengine hsilent ?_
    rw [hown]
    rfl
  have hrules : Standard.engine.overflows
      (s.device.context (.allocateMemory (buffer.importInfo handle size type))) = false := by
    rw [Standard.overflows_importMemory, hfits]
    rfl
  rw [outcome?_of_fits hengine rfl hrules rfl, step, hallocation]
  rfl

/-! ## Bindings -/

/-- An image whose requirements are deferred is bound to the start of memory that was imported for it. -/
structure BindingRules.Target.TakesImport (target : Target) : Prop where
  unbound : target.isBound = false
  deferred : target.isDeferred = true
  handleTypes : target.handleTypes.intersects ExternalHandleTypes.androidHardwareBuffer = true
  dedicated : target.memory.dedicated = some target.own
  source : ∃ buffer, target.memory.source = some (.hardwareBuffer buffer)
  exportTypes : target.memory.exportTypes = ∅
  start : target.offset = 0
  inside : 0 < target.memory.size

namespace BindingRules

theorem Target.TakesImport.isSilent {target : Target} (h : target.TakesImport) : target.IsSilent := by
  obtain ⟨buffer, hsource⟩ := h.source
  intro check hcheck
  simp only [checks, List.mem_cons, List.not_mem_nil, or_false] at hcheck
  rcases hcheck with rfl | rfl | rfl | rfl | rfl | rfl | rfl | rfl | rfl | rfl
  · exact violationIf_eq_nil.mpr h.unbound
  · exact violationIf_eq_nil.mpr (decide_eq_false (by rw [h.start]; exact Nat.not_le_of_lt h.inside))
  -- Nothing is known yet that the memory type or the size could disagree with.
  · exact violationIf_eq_nil.mpr (by rw [h.deferred]; rfl)
  · exact violationIf_eq_nil.mpr (by rw [h.start, Nat.zero_mod]; rfl)
  · exact violationIf_eq_nil.mpr (by rw [h.deferred]; rfl)
  · exact violationIf_eq_nil.mpr (by rw [h.dedicated, bne_self_eq_false, Bool.and_false])
  · rw [dedicatedMismatch, h.dedicated]
    simp only [if_true, h.start, bne_self_eq_false, violationIf, Bool.false_eq_true, if_false]
  · exact violationIf_eq_nil.mpr (by rw [h.handleTypes, Bool.not_true, Bool.and_false])
  · rw [importHandleType, hsource]
  · exact violationIf_eq_nil.mpr (by rw [h.exportTypes]; rfl)

theorem Target.TakesImport.not_overflows {target : Target} (h : target.TakesImport) :
    memoryTypeOverflows target = false := by
  rw [memoryTypeOverflows, h.deferred]
  rfl

end BindingRules

/-- Memory that was imported from a hardware buffer for an image. -/
structure DeviceMemory.IsImportFor (memory : DeviceMemory) (handle : Handle .image) : Prop where
  dedicated : memory.dedicated = some (.image handle)
  source : ∃ buffer, memory.source = some (.hardwareBuffer buffer)
  exportTypes : memory.exportTypes = ∅
  size : 0 < memory.size

namespace Session

/-- The session after memory is bound to an image. -/
def withBinding (s : Session) (handle : Handle .image) (binding : MemoryBinding) : Session :=
  s.withDevice (s.device.withRegistry ((s.device.registry.modify handle fun image =>
    { image with memory := some (.bound binding) }).record handle.erase .bound))

/-- Both queries of the requirements of an image are rejected. -/
def RejectsRequirements (s : Session) (handle : Handle .image) : Prop :=
  ∀ extended, ∃ rejected e, s.outcome? (.imageRequirements handle extended) = some rejected
    ∧ rejected.result = .error e

variable {s : Session} {handle : Handle .image} {image : Image}

theorem get?_withBinding (hget : s.device.registry.get? handle = some image) (binding : MemoryBinding) :
    (s.withBinding handle binding).device.registry.get? handle
      = some { image with memory := some (.bound binding) } := by
  show (s.device.registry.modify handle _).get? handle = _
  rw [Registry.get?_modify, if_pos rfl, hget, Option.map_some]

theorem fewObjects_withBinding (hfew : s.FewObjects) (binding : MemoryBinding) :
    (s.withBinding handle binding).FewObjects := by
  have hcreated : (s.withBinding handle binding).device.registry.createdIds
      = s.device.registry.createdIds :=
    (Registry.createdIds_record _ _ (by decide)).trans (Registry.createdIds_modify _ _ _)
  exact Nat.le_trans (Nat.le_of_eq (congrArg List.length hcreated)) hfew

variable (hengine : s.device.engine = Standard.engine) (hget : s.device.registry.get? handle = some image)
  (hdeferred : image.info.isDeferred = true)
include hengine hget hdeferred

/-- Nothing is known of the requirements of a deferred image as long as no memory is bound to it. -/
theorem rejectsRequirements (hunbound : image.isBound = false) : s.RejectsRequirements handle := by
  intro extended
  obtain ⟨e, he⟩ := imageRequirements_before_bind hengine hget hdeferred hunbound extended
  exact ⟨_, e, outcome?_of_fits hengine rfl rfl rfl, he⟩

/-- A deferred image is bound to all of the memory that was imported for it. -/
theorem outcome?_bindImport (hlives : s.device.registry.Lives) (hunbound : image.isBound = false)
    {memory : Handle .deviceMemory} {allocation : DeviceMemory}
    (hmemory : s.device.registry.get? memory = some allocation) (himport : allocation.IsImportFor handle) :
    s.outcome? (.bindImage handle memory 0)
      = some ⟨s.withBinding handle ⟨memory, 0, allocation.size⟩, [], .ok .done⟩ := by
  obtain ⟨target, htarget, htakes⟩ : ∃ target, BindingRules.imageTarget?
      (s.device.context (.bindImage handle memory 0)) = some target ∧ target.TakesImport := by
    simp only [BindingRules.imageTarget?, Device.context, hget, hmemory, Option.some.injEq, exists_eq_left']
    exact ⟨hunbound, hdeferred, hdeferred, himport.dedicated, himport.source, himport.exportTypes, rfl,
      himport.size⟩
  have hsilent : Standard.engine.evaluate (s.device.context (.bindImage handle memory 0)) = [] := by
    refine Standard.evaluate_eq_nil_of_own hlives
      (Standard.evaluate_bindOperation s.device (.image handle) memory 0) (fun id hid => ?_)
      (Standard.bindingRules_silent (fun found hfound => ?_) fun found hfound => (by cases hfound))
    · rcases List.mem_pair.mp hid with rfl | rfl
      · exact Registry.contains_of_get? hget
      · exact Registry.contains_of_get? hmemory
    · obtain rfl := Option.some.inj (htarget.symm.trans hfound)
      exact htakes.isSilent
  -- The memory type is not looked up in a mask.
  have hrules : Standard.engine.overflows (s.device.context (.bindImage handle memory 0)) = false := by
    refine (Standard.overflows_bindOperation s.device (.image handle) memory 0).trans ?_
    rw [Resource.bindOperation, htarget, Option.any_some, htakes.not_overflows]
    rfl
  have hsize : s.device.imageBindingSize image allocation 0 = allocation.size := if_pos hdeferred
  have hbind : s.device.bindImage handle memory 0
      = ⟨(s.withBinding handle ⟨memory, 0, allocation.size⟩).device, [], .ok ()⟩ := by
    refine Device.guarded_of_silent hengine hsilent ?_
    rw [Registry.get_eq_ok.mpr hget, Registry.get_eq_ok.mpr hmemory]
    simp only [hsize, hunbound, bind, Except.bind, pure, Except.pure, Bool.false_eq_true, if_false]
    rfl
  rw [outcome?_of_fits hengine rfl hrules rfl, step, hbind]
  rfl

/-- A deferred image is bound to the memory that was imported for it, and is said to need all of it from then
on. -/
theorem exists_bindImport (h : s.Reachable) (hfew : s.FewObjects) (hunbound : image.isBound = false)
    {memory : Handle .deviceMemory} {allocation : DeviceMemory}
    (hmemory : s.device.registry.get? memory = some allocation) (himport : allocation.IsImportFor handle) :
    ∃ bound, s.outcome? (.bindImage handle memory 0) = some ⟨bound, [], .ok .done⟩
      ∧ ∀ extended, bound.outcome? (.imageRequirements handle extended)
        = some ⟨bound, [], .ok (.requirements
          { image.info.requirements s.device.environment with size := allocation.size })⟩ := by
  have hbinding := outcome?_bindImport hengine hget hdeferred (h.changes.agrees_of_empty hfew).toLives
    hunbound hmemory himport
  let binding : MemoryBinding := ⟨memory, 0, allocation.size⟩
  have hbound : (s.withBinding handle binding).Reachable := h.of_outcome? hbinding
  have hlives := (hbound.changes.agrees_of_empty (fewObjects_withBinding hfew binding)).toLives
  let after : Image := { image with memory := some (.bound binding) }
  have hafter : (s.withBinding handle binding).device.registry.get? handle = some after :=
    get?_withBinding hget binding
  have hstill : after.info.isDeferred = true := hdeferred
  refine ⟨_, hbinding, fun extended => ?_⟩
  rw [outcome?_imageRequirements (s := s.withBinding handle binding) hengine hlives hafter
    (Bool.and_false _) extended, Device.imageNeeds_of_deferred hstill rfl]
  rfl

end Session

/-! ## Imports -/

/-- A hardware buffer is imported for an image that matches it, the image is bound to the import, and its
requirements are known from then on. -/
theorem Session.exists_import {s : Session} (h : s.Reachable) (hengine : s.device.engine = Standard.engine)
    (hroom : s.device.registry.createdIds.length < ObjectId.maxSerial)
    (hvalid : s.device.environment.isValid = true) {buffer : HardwareBuffer}
    (husage : buffer.info.usage.intersects .gpuAny = true) (hfits : buffer.info.sizeFits = true)
    {handle : Handle .image} {image : Image} (hget : s.device.registry.get? handle = some image)
    (hunbound : image.isBound = false) (hmatches : image.info.Matches buffer.info) {size type : ℕ}
    (hpos : 0 < size) (hsize : size = (buffer.properties s.device.environment).allocationSize)
    (hallowed : allowsMemoryType (buffer.properties s.device.environment).memoryTypeBits type = true) :
    ∃ (memory : Handle .deviceMemory) (allocated bound : Session),
      s.outcome? (.allocateMemory (buffer.importInfo handle size type))
        = some ⟨allocated, [], .ok (.object memory.erase)⟩
      ∧ allocated.RejectsRequirements handle
      ∧ allocated.outcome? (.bindImage handle memory 0) = some ⟨bound, [], .ok .done⟩
      ∧ ∀ extended, bound.outcome? (.imageRequirements handle extended)
        = some ⟨bound, [], .ok (.requirements
          { image.info.requirements s.device.environment with size := size })⟩ := by
  have hagrees := h.changes.agrees_of_empty (Nat.le_of_lt hroom)
  have hallocation := outcome?_importMemory hengine hagrees.toLives hvalid husage hfits hget hmatches hpos
    hsize hallowed
  let allocation : DeviceMemory := .ofInfo (buffer.importInfo handle size type) size
  let allocated := s.withDevice (s.device.insert .deviceMemory allocation).2
  have hallocated : allocated.Reachable := h.of_outcome? hallocation
  have hfew : allocated.FewObjects := fewObjects_insert (t := .deviceMemory) hroom allocation
  have hmemory := s.device.get?_insert_new (t := .deviceMemory) hagrees hroom allocation
  have himport : allocation.IsImportFor handle := ⟨rfl, ⟨buffer, rfl⟩, rfl, hpos⟩
  -- The image is as before the allocation.
  have hsame : allocated.device.registry.get? handle = some image := hget
  obtain ⟨bound, hbinding, hneeds⟩ := exists_bindImport (s := allocated) hengine hsame hmatches.deferred
    hallocated hfew hunbound hmemory himport
  exact ⟨_, allocated, bound, hallocation,
    rejectsRequirements (s := allocated) hengine hsame hmatches.deferred hunbound, hbinding, hneeds⟩

/-- A hardware buffer is imported for an image that matches it.  Its properties tell the size of the
allocation and the memory types that it can have.  The allocation is made and the image is bound to it without
a diagnostic; and the requirements of the image, for which all queries were rejected before, have the size of
the buffer from then on. -/
theorem matching_buffer_imported {s : Session} (h : s.Reachable) (hengine : s.device.engine = Standard.engine)
    (hroom : s.device.registry.createdIds.length < ObjectId.maxSerial)
    (hvalid : s.device.environment.isValid = true) {buffer : HardwareBuffer}
    (husage : buffer.info.usage.intersects .gpuAny = true) (hfits : buffer.info.sizeFits = true)
    {handle : Handle .image} {image : Image} (hget : s.device.registry.get? handle = some image)
    (hunbound : image.isBound = false) (hmatches : image.info.Matches buffer.info) :
    ∃ known properties, s.outcome? (.hardwareBufferProperties buffer)
        = some ⟨known, [], .ok (.properties properties)⟩
      ∧ s.RejectsRequirements handle
      ∧ ∀ type, allowsMemoryType properties.memoryTypeBits type = true →
        ∃ (memory : Handle .deviceMemory) (allocated bound : Session),
          s.outcome? (.allocateMemory (buffer.importInfo handle properties.allocationSize type))
            = some ⟨allocated, [], .ok (.object memory.erase)⟩
          ∧ allocated.RejectsRequirements handle
          ∧ allocated.outcome? (.bindImage handle memory 0) = some ⟨bound, [], .ok .done⟩
          ∧ ∀ extended, bound.outcome? (.imageRequirements handle extended)
            = some ⟨bound, [], .ok (.requirements
              { image.info.requirements s.device.environment with size := properties.allocationSize })⟩ := by
  have hproper : image.info.IsProper := (h.imagesFit hengine handle _ (congrArg (Option.map _) hget)).1
  have hproperties := Session.outcome?_hardwareBufferProperties hengine husage
  rw [if_pos hfits] at hproperties
  exact ⟨_, _, hproperties, Session.rejectsRequirements hengine hget hmatches.deferred hunbound,
    fun type hallowed => Session.exists_import h hengine hroom hvalid husage hfits hget hunbound hmatches
      (hmatches.allocationSize_pos hproper) rfl hallowed⟩

/-- A buffer of subsampled color, as cameras fill them. -/
def cameraBuffer : HardwareBuffer where
  id := 1
  info := { width := 64, height := 48, format := .y8cb8cr8_420, usage := .gpuSampledImage }

/-- An image of the external format of the camera buffer. -/
def cameraImage : ImageInfo where
  externalFormat := some cameraBuffer.info.format.externalFormat
  extent := ⟨64, 48, 1⟩
  usage := .sampled
  handleTypes := .androidHardwareBuffer

/-- A session with the camera buffer and the image. -/
def cameraSession : Session :=
  hardwareBufferSession.run
    [.allocateHardwareBuffer cameraBuffer.info, .hardwareBufferProperties cameraBuffer,
      .createImage cameraImage]

/-- The image is bound to the two pages of the camera buffer. -/
theorem cameraBuffer_imported :
    cameraImage.Matches cameraBuffer.info ∧ cameraBuffer.info.sizeFits = true
    ∧ (cameraSession.device.registry.get? (.ofSerial .image 1)).map Image.info = some cameraImage
    ∧ ∃ (memory : Handle .deviceMemory) (allocated bound : Session) (required : MemoryRequirements),
      cameraSession.outcome? (.allocateMemory (cameraBuffer.importInfo (.ofSerial .image 1) 8192 0))
        = some ⟨allocated, [], .ok (.object memory.erase)⟩
      ∧ allocated.outcome? (.bindImage (.ofSerial .image 1) memory 0) = some ⟨bound, [], .ok .done⟩
      ∧ (∀ extended, bound.outcome? (.imageRequirements (.ofSerial .image 1) extended)
        = some ⟨bound, [], .ok (.requirements required)⟩)
      ∧ required.size = 8192 := by
  have hmatches : cameraImage.Matches cameraBuffer.info :=
    ⟨by decide, .inr ⟨rfl, rfl⟩, rfl, rfl, .inl rfl, fun _ => by decide, by decide, by decide⟩
  have hreachable : cameraSession.Reachable := (Session.Reachable.start .android Standard.engine).run _
  have henvironment : cameraSession.device.environment = .android := Session.run_environment _ _
  have hvalid : cameraSession.device.environment.isValid = true := by
    rw [henvironment]
    decide
  have hinfo : (cameraSession.device.registry.get? (.ofSerial .image 1)).map Image.info
      = some cameraImage := by decide +kernel
  have hunbound : (cameraSession.device.registry.get? (.ofSerial .image 1)).map Image.isBound
      = some false := by decide +kernel
  obtain ⟨image, hget, himage⟩ := Option.map_eq_some_iff.mp hinfo
  rw [hget, Option.map_some, Option.some.injEq] at hunbound
  obtain ⟨known, properties, hproperties, -, himports⟩ := matching_buffer_imported hreachable rfl
    (by decide +kernel) hvalid (by decide) (by decide) hget hunbound (himage ▸ hmatches)
  have hreported : (cameraSession.outcome? (.hardwareBufferProperties cameraBuffer)).bind Outcome.value?
      = some (.properties ⟨8192, 1, .undefined, 0x1023⟩) := by decide +kernel
  rw [hproperties] at hreported
  obtain rfl := Reply.properties.inj (Option.some.inj hreported)
  obtain ⟨memory, allocated, bound, hallocation, -, hbinding, hneeds⟩ := himports 0 (by decide)
  exact ⟨hmatches, by decide, hinfo, memory, allocated, bound, _, hallocation, hbinding, hneeds, rfl⟩

end VulkanValidity
