/-
  VulkanValidity.Proofs.ExactSizes

  The sizes and positions of images and their subresources in exact numbers.  The library calculates them
  with numbers that stop at 64 bits, and what it gets is the exact number, cut off once: for the layers
  and mip levels of an image (`ImageInfo.layerSize_eq`, `ImageInfo.chainSize_eq`), for the memory that it
  needs (`ImageInfo.requirements_size_eq`), and for the position of a subresource
  (`ImageInfo.subresourceLayout_eq`).

  In exact numbers the subresources of the aspect at position `p` end within the first `p + 1` mip chains.
-/

import VulkanValidity.Proofs.DeviceSize
import VulkanValidity.Requirements

namespace VulkanValidity

/-! ## Alignments -/

theorem Environment.alignment_pos {env : Environment} (h : env.isValid = true) {alignment : Nat}
    (halignment : alignment ∈ env.alignments) : 0 < alignment := by
  simp only [isValid, Bool.and_eq_true, List.all_eq_true] at h
  have hpower := h.2 alignment halignment
  simp only [isPowerOfTwo, Bool.and_eq_true, bne_iff_ne] at hpower
  exact Nat.pos_of_ne_zero hpower.1

theorem Environment.bufferAlignment_mem (env : Environment) : env.bufferAlignment ∈ env.alignments := by
  simp [alignments]

namespace ImageInfo

variable (info : ImageInfo)

theorem memoryAlignment_mem (env : Environment) : info.memoryAlignment env ∈ env.alignments := by
  rw [memoryAlignment]
  cases info.tiling <;> simp [Environment.alignments]

/-! ## Sizes -/

/-- The exact number of bytes of one array layer of a mip level. -/
def exactLayerSize (level : Nat) : Nat := info.texelSize * (info.extent.mipLevel level).volume

/-- The exact number of bytes of one layer of the first `levels` mip levels together. -/
def exactLayerChainSize (levels : Nat) : Nat :=
  ((List.range levels).map info.exactLayerSize).sum

/-- The exact number of bytes of all layers of the first `levels` mip levels. -/
def exactChainSize (levels : Nat) : Nat := info.exactLayerChainSize levels * info.arrayLayers

/-- The exact number of bytes of all samples of all mip levels. -/
def exactSize : Nat := info.exactChainSize info.mipLevels * info.samples.count

theorem texelSize_le_max : info.texelSize ≤ DeviceSize.max := by
  have hsixteen : info.texelSize ≤ 16 := by
    rw [texelSize]
    cases info.format <;> decide
  exact Nat.le_trans hsixteen (by decide)

theorem layerSize_eq (level : Nat) :
    info.layerSize level = DeviceSize.saturate (info.exactLayerSize level) := by
  have hvolume : (info.extent.mipLevel level).toList.prod = (info.extent.mipLevel level).volume := by
    simp only [Extent.toList, Extent.volume, List.prod_cons, List.prod_nil, Nat.mul_one, Nat.mul_assoc]
  rw [layerSize, ← DeviceSize.saturate_of_le info.texelSize_le_max, DeviceSize.foldl_mul_saturate,
    hvolume, exactLayerSize]

theorem layerChainSize_eq (levels : Nat) :
    info.layerChainSize levels = DeviceSize.saturate (info.exactLayerChainSize levels) := by
  have hmap : (List.range levels).map info.layerSize
      = ((List.range levels).map info.exactLayerSize).map DeviceSize.saturate := by
    rw [List.map_map]
    exact List.map_congr_left fun level _ => info.layerSize_eq level
  have hfold := DeviceSize.foldl_add_saturate ((List.range levels).map info.exactLayerSize) 0
  rw [Nat.zero_add] at hfold
  rw [layerChainSize, hmap]
  exact hfold

theorem chainSize_eq (levels : Nat) :
    info.chainSize levels = DeviceSize.saturate (info.exactChainSize levels) := by
  rw [chainSize, layerChainSize_eq, DeviceSize.mul_saturate, exactChainSize]

/-- An image needs its exact size, cut off and rounded up. -/
theorem requirements_size_eq (env : Environment) :
    (info.requirements env).size
      = DeviceSize.alignUp (DeviceSize.saturate info.exactSize) (info.memoryAlignment env) := by
  rw [requirements, chainSize_eq, DeviceSize.mul_saturate, exactSize]

/-! ## Subresources -/

/-- The position of an aspect among those of the image. -/
def aspectPosition (aspect : ImageAspect) : Nat :=
  (info.aspects.toList.findIdx? (· = aspect)).getD 0

/-- The exact position of a subresource in the memory of the image. -/
def exactOffset (subresource : Subresource) : Nat :=
  info.aspectPosition subresource.aspect * info.exactChainSize info.mipLevels
    + info.exactChainSize subresource.mipLevel
    + subresource.arrayLayer * info.exactLayerSize subresource.mipLevel

/-- A subresource lies at its exact position and has its exact size, both of them cut off. -/
theorem subresourceLayout_eq (subresource : Subresource) :
    (info.subresourceLayout subresource).offset = DeviceSize.saturate (info.exactOffset subresource)
      ∧ (info.subresourceLayout subresource).size
        = DeviceSize.saturate (info.exactLayerSize subresource.mipLevel) := by
  refine ⟨?_, info.layerSize_eq _⟩
  simp only [subresourceLayout, chainSize_eq, layerSize_eq, DeviceSize.mul_saturate_right,
    DeviceSize.add_saturate]
  rfl

/-! ## The order of subresources -/

theorem exactLayerChainSize_succ (level : Nat) :
    info.exactLayerChainSize (level + 1)
      = info.exactLayerChainSize level + info.exactLayerSize level := by
  rw [exactLayerChainSize, exactLayerChainSize, List.range_succ, List.map_append, List.sum_append,
    List.map_singleton, List.sum_singleton]

/-- The layers of a level come after those of the levels before it. -/
theorem exactChainSize_succ (level : Nat) :
    info.exactChainSize (level + 1)
      = info.exactChainSize level + info.arrayLayers * info.exactLayerSize level := by
  rw [exactChainSize, exactChainSize, exactLayerChainSize_succ, Nat.add_mul,
    Nat.mul_comm info.arrayLayers]

theorem exactLayerChainSize_mono {levels more : Nat} (h : levels ≤ more) :
    info.exactLayerChainSize levels ≤ info.exactLayerChainSize more := by
  induction h with
  | refl => exact Nat.le_refl _
  | step _ ih =>
    rw [exactLayerChainSize_succ]
    exact Nat.le_add_right_of_le ih

/-- A layer of a mip level ends within the chain of the levels up to it. -/
theorem exactChainSize_add_le {level layer levels : Nat} (hlevel : level < levels)
    (hlayer : layer < info.arrayLayers) :
    info.exactChainSize level + layer * info.exactLayerSize level + info.exactLayerSize level
      ≤ info.exactChainSize levels := by
  have hlayers : (layer + 1) * info.exactLayerSize level
      ≤ info.arrayLayers * info.exactLayerSize level := Nat.mul_le_mul_right _ hlayer
  calc info.exactChainSize level + layer * info.exactLayerSize level + info.exactLayerSize level
      = info.exactChainSize level + (layer + 1) * info.exactLayerSize level := by
        rw [Nat.succ_mul, Nat.add_assoc]
    _ ≤ info.exactChainSize level + info.arrayLayers * info.exactLayerSize level :=
        Nat.add_le_add_left hlayers _
    _ = info.exactChainSize (level + 1) := (info.exactChainSize_succ level).symm
    _ ≤ info.exactChainSize levels :=
        Nat.mul_le_mul_right _ (info.exactLayerChainSize_mono hlevel)

/-- A subresource ends within the mip chains of its aspect and of those before it. -/
theorem exactOffset_add_le {subresource : Subresource} (h : info.hasSubresource subresource = true) :
    info.exactOffset subresource + info.exactLayerSize subresource.mipLevel
      ≤ (info.aspectPosition subresource.aspect + 1) * info.exactChainSize info.mipLevels := by
  simp only [hasSubresource, Bool.and_eq_true, decide_eq_true_eq] at h
  have hwithin := info.exactChainSize_add_le h.1.1 h.1.2
  rw [exactOffset, Nat.succ_mul]
  omega

/-- A subresource whose aspect comes after fewer others than the image has samples ends within the exact
size of the image. -/
theorem exactOffset_add_le_exactSize {subresource : Subresource}
    (h : info.hasSubresource subresource = true)
    (haspect : info.aspectPosition subresource.aspect < info.samples.count) :
    info.exactOffset subresource + info.exactLayerSize subresource.mipLevel ≤ info.exactSize := by
  have hchains : (info.aspectPosition subresource.aspect + 1) * info.exactChainSize info.mipLevels
      ≤ info.samples.count * info.exactChainSize info.mipLevels := Nat.mul_le_mul_right _ haspect
  rw [exactSize, Nat.mul_comm (info.exactChainSize info.mipLevels)]
  exact Nat.le_trans (info.exactOffset_add_le h) hchains

end ImageInfo

end VulkanValidity
