/-
  VulkanValidity.Proofs.MipChains

  Whether a hardware buffer with a complete mip chain has room for it.  The size of such a buffer is its first
  level and a third more, for a level has a quarter of the texels of the one before it.  That is so as long as
  both dimensions are halved; a dimension of one texel stays, and from there on levels have half of the texels
  of the one before.

  With three times the texels of the chain on one side and four times those of the first level on the other,
  a halved level leaves over what was lost to rounding, and the levels that are only halved in one dimension
  need as much as the first of them has.  The third is enough if no level is of that kind
  (`three_mul_chainTexels_lt`), or if the smaller dimension is no power of two, for then it is odd on the way
  down and more than one (`three_mul_chainTexels_le`).  Twice the first level always is
  (`chainTexels_lt`).
-/

import Mathlib.Algebra.BigOperators.Ring.List
import Mathlib.Tactic.Ring
import VulkanValidity.Proofs.Boundaries
import VulkanValidity.Proofs.HardwareBufferSizes
import VulkanValidity.Proofs.MipLevels

namespace VulkanValidity

/-! ## Texels of mip chains -/

/-- The texels of a mip level of a layer. -/
def levelTexels (width height level : Nat) : Nat := max (width >>> level) 1 * max (height >>> level) 1

/-- The texels of the first `levels` mip levels of a layer. -/
def chainTexels (width height levels : Nat) : Nat :=
  ((List.range levels).map (levelTexels width height)).sum

/-- The levels after the first one are the chain of half the dimensions. -/
theorem chainTexels_succ (width height levels : Nat) : chainTexels width height (levels + 1)
    = max width 1 * max height 1 + chainTexels (width / 2) (height / 2) levels := by
  have hnext : levelTexels width height ∘ Nat.succ = levelTexels (width / 2) (height / 2) := by
    funext level
    simp only [Function.comp_apply, levelTexels, Nat.succ_eq_add_one, Nat.shiftRight_succ_inside]
  rw [chainTexels, List.range_succ_eq_map, List.map_cons, List.sum_cons, List.map_map, hnext]
  rfl

theorem chainTexels_comm (width height levels : Nat) :
    chainTexels width height levels = chainTexels height width levels := by
  have hlevel : levelTexels width height = levelTexels height width := by
    funext level
    exact Nat.mul_comm _ _
  rw [chainTexels, hlevel, chainTexels]

/-- A quarter of the texels of a level has room for the next one, if both dimensions are halved. -/
theorem four_mul_halves_le (width height : Nat) :
    4 * (width / 2 * (height / 2)) ≤ width * height := by
  have hhalves : 2 * (width / 2) * (2 * (height / 2)) ≤ width * height :=
    Nat.mul_le_mul (Nat.mul_div_le width 2) (Nat.mul_div_le height 2)
  calc 4 * (width / 2 * (height / 2)) = 2 * (width / 2) * (2 * (height / 2)) := by ring
    _ ≤ width * height := hhalves

section Chains

variable {n width height : Nat}

/-- A third more than the first level is enough for levels that are halved in both dimensions. -/
theorem three_mul_chainTexels_lt (hwidth : 2 ^ n ≤ width) (hheight : 2 ^ n ≤ height) :
    3 * chainTexels width height (n + 1) < 4 * (width * height) := by
  -- The levels after the first one are the chain of other dimensions, so the induction is for all of them.
  induction n generalizing width height with
  | zero =>
    have htexels : 0 < width * height := Nat.mul_pos hwidth hheight
    have hrest : chainTexels (width / 2) (height / 2) 0 = 0 := rfl
    rw [chainTexels_succ, hrest, Nat.max_eq_left (by omega), Nat.max_eq_left (by omega)]
    omega
  | succ n ih =>
    have hpow := Nat.two_pow_pos n
    have hnext : 3 * chainTexels (width / 2) (height / 2) (n + 1) < 4 * (width / 2 * (height / 2)) :=
      ih (by omega) (by omega)
    have hquarter := four_mul_halves_le width height
    rw [chainTexels_succ, Nat.max_eq_left (by omega), Nat.max_eq_left (by omega)]
    omega

/-- Twice the first level is enough for all levels with more than one texel in the first dimension. -/
theorem chainTexels_lt (hwidth : 2 ^ n ≤ width) :
    chainTexels width height (n + 1) < 2 * (width * max height 1) := by
  induction n generalizing width height with
  | zero =>
    have htexels : 0 < width * max height 1 := Nat.mul_pos hwidth (by omega)
    have hrest : chainTexels (width / 2) (height / 2) 0 = 0 := rfl
    rw [chainTexels_succ, hrest, Nat.max_eq_left (by omega)]
    omega
  | succ n ih =>
    have hpow := Nat.two_pow_pos n
    have hnext : chainTexels (width / 2) (height / 2) (n + 1) < 2 * (width / 2 * max (height / 2) 1) :=
      ih (by omega)
    have hhalf : 2 * (width / 2) * max (height / 2) 1 ≤ width * max height 1 :=
      Nat.mul_le_mul (Nat.mul_div_le width 2) (by omega)
    rw [Nat.mul_assoc] at hhalf
    rw [chainTexels_succ, Nat.max_eq_left (by omega)]
    omega

/-- What is needed beyond a third more is no larger than half a row of the first level. -/
theorem three_mul_chainTexels_le_add (hwidth : 2 ^ n ≤ width) :
    3 * chainTexels width height (n + 1) ≤ 4 * (width * max height 1) + 2 * width := by
  induction n generalizing width height with
  | zero =>
    have hrest : chainTexels (width / 2) (height / 2) 0 = 0 := rfl
    rw [chainTexels_succ, hrest, Nat.max_eq_left (by omega)]
    omega
  | succ n ih =>
    have hpow := Nat.two_pow_pos n
    have hnext : 3 * chainTexels (width / 2) (height / 2) (n + 1)
        ≤ 4 * (width / 2 * max (height / 2) 1) + 2 * (width / 2) := ih (by omega)
    rw [chainTexels_succ, Nat.max_eq_left (by omega)]
    rcases Nat.lt_or_ge height 2 with hrow | hrows
    · -- A single row stays one.
      rw [Nat.max_eq_right (by omega)] at hnext ⊢
      omega
    · have hquarter := four_mul_halves_le width height
      rw [Nat.max_eq_left (by omega)] at hnext ⊢
      omega

/-- A third more than the first level is enough if the second dimension is no power of two.  Halved again and
again it is odd at last, but more than one; the row that is lost there leaves over what the levels of single
rows need. -/
theorem three_mul_chainTexels_le (hwidth : 2 ^ n ≤ width) (hheight : 0 < height)
    (hpower : ∀ k, height ≠ 2 ^ k) : 3 * chainTexels width height (n + 1) ≤ 4 * (width * height) := by
  induction n generalizing width height with
  | zero =>
    have hrest : chainTexels (width / 2) (height / 2) 0 = 0 := rfl
    rw [chainTexels_succ, hrest, Nat.max_eq_left (by omega), Nat.max_eq_left (by omega)]
    omega
  | succ n ih =>
    have hpow := Nat.two_pow_pos n
    have hone : height ≠ 1 := hpower 0
    rw [chainTexels_succ, Nat.max_eq_left (by omega), Nat.max_eq_left (by omega)]
    rcases Nat.mod_two_eq_zero_or_one height with heven | hodd
    · -- Half of an even dimension that is no power of two is none either.
      have hnext : 3 * chainTexels (width / 2) (height / 2) (n + 1) ≤ 4 * (width / 2 * (height / 2)) :=
        ih (by omega) (by omega) fun k hk => hpower (k + 1) (by omega)
      have hquarter := four_mul_halves_le width height
      omega
    · -- The row that halving loses has room for what the next levels need beyond a third more.
      have hnext : 3 * chainTexels (width / 2) (height / 2) (n + 1)
          ≤ 4 * (width / 2 * max (height / 2) 1) + 2 * (width / 2) :=
        three_mul_chainTexels_le_add (by omega)
      rw [Nat.max_eq_left (by omega)] at hnext
      have hrows : 2 * (width / 2) * (2 * (height / 2) + 1) ≤ width * height :=
        Nat.mul_le_mul (Nat.mul_div_le width 2) (by omega)
      have hsplit : 2 * (width / 2) * (2 * (height / 2) + 1)
          = 4 * (width / 2 * (height / 2)) + 2 * (width / 2) := by ring
      omega

end Chains

/-! ## Sizes of mip chains -/

theorem HardwareBufferUsage.intersects_union (a b c : HardwareBufferUsage) :
    a.intersects (b ∪ c) = (a.intersects b || a.intersects c) := by
  have hbits : (b ∪ c).bits = b.bits ||| c.bits := rfl
  rw [Bool.eq_iff_iff, Bool.or_eq_true, intersects, intersects, intersects, hbits, Nat.and_or_distrib_left,
    bne_iff_ne, bne_iff_ne, bne_iff_ne, ne_eq, Nat.or_eq_zero_iff, not_and_or]

namespace HardwareBufferInfo

variable {info : HardwareBufferInfo}

/-- The extent of the images that import the buffer. -/
def extent (info : HardwareBufferInfo) : Extent := ⟨info.width, info.height, 1⟩

/-- The exact number of bytes of all mip levels of an image that imports the buffer. -/
def mipChainSize (info : HardwareBufferInfo) : Nat :=
  ((List.range info.extent.maxMipLevels).map fun level =>
    (info.extent.mipLevel level).volume * info.layers * info.format.imageFormat.blockSize).sum

/-- One of the dimensions has as many bits as there are levels. -/
theorem exists_maxMipLevels (hwidth : 0 < info.width) : ∃ n, info.extent.maxMipLevels = n + 1
    ∧ (2 ^ n ≤ info.width ∨ 2 ^ n ≤ info.height) := by
  have hpos : 0 < info.extent.maxMipLevels :=
    (Extent.maxMipLevels_pos_iff _).mpr ⟨info.width, List.mem_cons_self, hwidth⟩
  refine ⟨info.extent.maxMipLevels - 1, by omega, ?_⟩
  obtain ⟨size, hsize, hbits⟩ := (info.extent.lt_maxMipLevels_iff _).mp (Nat.sub_one_lt_of_lt hpos)
  simp only [Extent.toList, extent, List.mem_cons, List.not_mem_nil, or_false] at hsize
  -- The width has at least the one bit of the depth.
  rcases hsize with rfl | rfl | rfl
  · exact Or.inl hbits
  · exact Or.inr hbits
  · exact Or.inl (Nat.le_trans hbits hwidth)

/-- The whole chain has no more than a third more texels than its first level, if the dimensions have the same
number of bits or the smaller one is no power of two. -/
theorem three_mul_chainTexels_maxMipLevels_le (hwidth : 0 < info.width) (hheight : 0 < info.height)
    (hshape : info.width.log2 = info.height.log2 ∨ ∀ k, min info.width info.height ≠ 2 ^ k) :
    3 * chainTexels info.width info.height info.extent.maxMipLevels ≤ 4 * (info.width * info.height) := by
  obtain ⟨n, hlevels, hlarge⟩ := exists_maxMipLevels hwidth
  rw [hlevels]
  rcases hshape with hbits | hpower
  · rw [← Nat.le_log2 hwidth.ne', ← Nat.le_log2 hheight.ne', hbits, or_self] at hlarge
    exact (three_mul_chainTexels_lt ((Nat.le_log2 hwidth.ne').mp (hbits ▸ hlarge))
      ((Nat.le_log2 hheight.ne').mp hlarge)).le
  · rcases Nat.le_total info.width info.height with hle | hle
    · rw [Nat.min_eq_left hle] at hpower
      rw [chainTexels_comm, Nat.mul_comm info.width]
      exact three_mul_chainTexels_le (by omega) hwidth hpower
    · rw [Nat.min_eq_right hle] at hpower
      exact three_mul_chainTexels_le (by omega) hheight hpower

/-- The whole chain has less than twice the texels of its first level. -/
theorem chainTexels_maxMipLevels_lt (hwidth : 0 < info.width) (hheight : 0 < info.height) :
    chainTexels info.width info.height info.extent.maxMipLevels < 2 * (info.width * info.height) := by
  obtain ⟨n, hlevels, hlarge⟩ := exists_maxMipLevels hwidth
  rw [hlevels]
  rcases hlarge with hlarge | hlarge
  · have hchain : chainTexels info.width info.height (n + 1) < 2 * (info.width * max info.height 1) :=
      chainTexels_lt hlarge
    rwa [Nat.max_eq_left hheight] at hchain
  · have hchain : chainTexels info.height info.width (n + 1) < 2 * (info.height * max info.width 1) :=
      chainTexels_lt hlarge
    rwa [Nat.max_eq_left hwidth, chainTexels_comm, Nat.mul_comm info.height] at hchain

/-- Every layer has the bytes of the texels of its chain. -/
theorem mipChainSize_eq (hwidth : info.width < 2 ^ 32) (hheight : info.height < 2 ^ 32) :
    info.mipChainSize = chainTexels info.width info.height info.extent.maxMipLevels
      * (info.layers * info.format.imageFormat.blockSize) := by
  have hlevels : info.extent.maxMipLevels ≤ 32 := by
    rw [Extent.maxMipLevels_le_iff]
    simpa [Extent.toList, extent] using ⟨hwidth, hheight⟩
  have hvolume (level : ℕ) (hlevel : level ∈ List.range info.extent.maxMipLevels) :
      (info.extent.mipLevel level).volume * info.layers * info.format.imageFormat.blockSize
        = levelTexels info.width info.height level
          * (info.layers * info.format.imageFormat.blockSize) := by
    -- So few levels are halved without a limit, and the depth is one all along.
    have hhalvings : min level 31 = level := by
      rw [List.mem_range] at hlevel
      omega
    have hdepth : max (1 >>> level) 1 = 1 := Nat.max_eq_right (Nat.shiftRight_le 1 level)
    simp only [Extent.volume, Extent.mipLevel, extent, hhalvings, hdepth, Nat.mul_one, Nat.mul_assoc,
      levelTexels]
  rw [mipChainSize, List.map_congr_left hvolume, List.sum_map_mul_right, chainTexels]

section

variable (hformat : info.format.imageFormat ≠ .undefined)
include hformat

/-- The texels of a buffer with an image format have the size of that format. -/
theorem baseSize_of_imageFormat : info.baseSize
    = info.width * info.height * (info.layers * info.format.imageFormat.blockSize) := by
  have hdouble : info.format.doubleTexelSize = 2 * info.format.imageFormat.blockSize := by
    revert hformat
    cases info.format <;> decide
  have hexact : info.doubledSize
      = 2 * (info.width * info.height * (info.layers * info.format.imageFormat.blockSize)) := by
    rw [doubledSize, hdouble, texels]
    ring
  rw [baseSize_eq, hexact]
  omega

theorem blockSize_pos : 0 < info.format.imageFormat.blockSize := by
  revert hformat
  cases info.format <;> decide

end

section

variable (hmip : info.usage.intersects .gpuMipmapComplete = true)
include hmip

/-- The bytes of the buffer are the least number that is no less than four thirds of its first level. -/
theorem byteSize_le_iff {n : ℕ} : info.byteSize ≤ n ↔ 4 * info.baseSize ≤ 3 * n := by
  rw [byteSize, if_pos hmip]
  omega

/-- The size of a buffer with a mip chain is at least some number of bytes exactly if four thirds of its first
level reach into the last page of these bytes. -/
theorem le_allocationSize_iff {n : ℕ} : n ≤ info.allocationSize
    ↔ ∀ page, pageSize ∣ page → page < n → 3 * page < 4 * info.baseSize := by
  constructor
  · intro hroom page hdvd hpage
    by_contra hnot
    have hbytes : info.byteSize ≤ page := (byteSize_le_iff hmip).mpr (by omega)
    have hpages := info.allocationSize_le hdvd hbytes
    omega
  · intro hlast
    by_contra hnot
    have hbytes := (byteSize_le_iff hmip).mp info.byteSize_le_allocationSize
    have hpage := hlast _ info.pageSize_dvd_allocationSize (by omega)
    omega

end

/-- A mip chain has room if it has no more than a third more texels than its first level. -/
theorem mipChainSize_le_of_texels (hformat : info.format.imageFormat ≠ .undefined)
    (hmip : info.usage.intersects .gpuMipmapComplete = true) (hwidth : info.width < 2 ^ 32)
    (hheight : info.height < 2 ^ 32)
    (htexels : 3 * chainTexels info.width info.height info.extent.maxMipLevels
      ≤ 4 * (info.width * info.height)) : info.mipChainSize ≤ info.allocationSize := by
  have hchain : 3 * info.mipChainSize ≤ 4 * info.baseSize := by
    rw [mipChainSize_eq hwidth hheight, baseSize_of_imageFormat hformat, ← Nat.mul_assoc 3,
      ← Nat.mul_assoc 4]
    exact Nat.mul_le_mul_right _ htexels
  have hbytes := (byteSize_le_iff hmip).mp info.byteSize_le_allocationSize
  omega

/-- The bytes of the chain are less than twice those of the first level, which are some of them. -/
theorem baseSize_le_mipChainSize (hvalid : info.isValid = true)
    (hformat : info.format.imageFormat ≠ .undefined) (hwidth : info.width < 2 ^ 32)
    (hheight : info.height < 2 ^ 32) :
    info.baseSize ≤ info.mipChainSize ∧ info.mipChainSize < 2 * info.baseSize := by
  obtain ⟨hwidth0, hheight0, hlayers0⟩ := dimensions_pos hvalid
  have htexel : 0 < info.layers * info.format.imageFormat.blockSize :=
    Nat.mul_pos hlayers0 (blockSize_pos hformat)
  rw [mipChainSize_eq hwidth hheight, baseSize_of_imageFormat hformat, ← Nat.mul_assoc 2]
  constructor
  · obtain ⟨n, hlevels, -⟩ := exists_maxMipLevels hwidth0
    have hfirst : info.width * info.height ≤ chainTexels info.width info.height (n + 1) := by
      rw [chainTexels_succ, Nat.max_eq_left (by omega), Nat.max_eq_left (by omega)]
      exact Nat.le_add_right _ _
    rw [hlevels]
    exact Nat.mul_le_mul_right _ hfirst
  · exact Nat.mul_lt_mul_of_pos_right (chainTexels_maxMipLevels_lt hwidth0 hheight0) htexel

/-- The size of a buffer with a mip chain fits 64 bits if the bytes of the chain fit 63. -/
theorem sizeFits_of_mipChainSize (hvalid : info.isValid = true)
    (hformat : info.format.imageFormat ≠ .undefined) (hwidth : info.width < 2 ^ 32)
    (hheight : info.height < 2 ^ 32) (hchain : info.mipChainSize < 2 ^ 63) : info.sizeFits = true := by
  have hmax : DeviceSize.max = 18446744073709551615 := rfl
  have hbase := (baseSize_le_mipChainSize hvalid hformat hwidth hheight).1
  rw [baseSize_eq] at hbase
  rw [sizeFits_iff]
  omega

end HardwareBufferInfo

/-- Whether a mip chain has room in a hardware buffer that was allocated for one, if the sizes fit 63 bits.
It has exactly if four thirds of the first level reach into the last page of the chain.  That is so if the
dimensions have the same number of bits, or if the smaller one is no power of two.  No chain is as large as
twice the first level. -/
theorem mip_chain_has_room {s : Session} (hengine : s.device.engine = Standard.engine)
    {info : HardwareBufferInfo} {buffer : HardwareBuffer}
    (haccepted : (s.step (.allocateHardwareBuffer info)).result = .ok (.hardwareBuffer buffer))
    (hmip : info.usage.intersects .gpuMipmapComplete = true)
    (hformat : info.format.imageFormat ≠ .undefined) (hwidth : info.width < 2 ^ 32)
    (hheight : info.height < 2 ^ 32) (hchain : info.mipChainSize < 2 ^ 63) :
    ∃ known properties, (s.step (.allocateHardwareBuffer info)).state.outcome?
        (.hardwareBufferProperties buffer) = some ⟨known, [], .ok (.properties properties)⟩
      ∧ (info.mipChainSize ≤ properties.allocationSize
        ↔ ∀ page, HardwareBufferInfo.pageSize ∣ page → page < info.mipChainSize →
          3 * page < 4 * info.baseSize)
      ∧ ((info.width.log2 = info.height.log2 ∨ ∀ k, min info.width info.height ≠ 2 ^ k) →
        info.mipChainSize ≤ properties.allocationSize)
      ∧ info.mipChainSize < 2 * info.baseSize := by
  obtain ⟨rfl, hvalid, hdevice⟩ := Session.allocateHardwareBuffer_ok haccepted
  have husage : buffer.info.usage.intersects .gpuAny = true := by
    rw [HardwareBufferUsage.gpuAny, HardwareBufferUsage.intersects_union, hmip, Bool.or_true]
  have hproperties := Session.outcome?_hardwareBufferProperties
    (s := (s.step (.allocateHardwareBuffer buffer.info)).state) (by rw [hdevice]; exact hengine) husage
  have hfits := HardwareBufferInfo.sizeFits_of_mipChainSize hvalid hformat hwidth hheight hchain
  rw [if_pos hfits] at hproperties
  obtain ⟨hwidth0, hheight0, -⟩ := HardwareBufferInfo.dimensions_pos hvalid
  refine ⟨_, _, hproperties, HardwareBufferInfo.le_allocationSize_iff hmip, fun hshape => ?_,
    (HardwareBufferInfo.baseSize_le_mipChainSize hvalid hformat hwidth hheight).2⟩
  exact HardwareBufferInfo.mipChainSize_le_of_texels hformat hmip hwidth hheight
    (HardwareBufferInfo.three_mul_chainTexels_maxMipLevels_le hwidth0 hheight0 hshape)

/-- The third more that a buffer of three rows has is all but used up. -/
theorem threeRows_have_room :
    let info : HardwareBufferInfo :=
      { width := 4096, height := 3, usage := .gpuSampledImage ∪ .gpuMipmapComplete }
    ∃ buffer, (hardwareBufferSession.step (.allocateHardwareBuffer info)).result
        = .ok (.hardwareBuffer buffer)
      ∧ info.mipChainSize = 65532
      ∧ ∃ known properties, (hardwareBufferSession.run [.allocateHardwareBuffer info]).outcome?
          (.hardwareBufferProperties buffer) = some ⟨known, [], .ok (.properties properties)⟩
        ∧ info.mipChainSize ≤ properties.allocationSize := by
  intro info
  have haccepted : (hardwareBufferSession.step (.allocateHardwareBuffer info)).result
      = .ok (.hardwareBuffer ⟨1, info⟩) := Outcome.value?_eq_some.mp (by decide +kernel)
  have hpower (k : ℕ) : min info.width info.height ≠ 2 ^ k := by
    have hrows : min info.width info.height = 3 := by decide
    cases k <;> omega
  obtain ⟨known, properties, hknown, -, hroom, -⟩ := mip_chain_has_room rfl haccepted (by decide)
    (by decide) (by decide) (by decide) (by decide +kernel)
  exact ⟨⟨1, info⟩, haccepted, by decide +kernel, known, properties, hknown, hroom (.inr hpower)⟩

/-- A buffer of a single row has no room for its mip chain, though an image with all 13 levels imports it and
is bound to it without a diagnostic. -/
theorem singleRow_has_no_room :
    let info : HardwareBufferInfo :=
      { width := 4096, height := 1, usage := .gpuSampledImage ∪ .gpuMipmapComplete }
    let buffer : HardwareBuffer := ⟨1, info⟩
    let image : ImageInfo :=
      { format := .r8g8b8a8Unorm, extent := info.extent, mipLevels := 13, usage := .sampled
        handleTypes := .androidHardwareBuffer }
    let calls : List Call :=
      [.allocateHardwareBuffer info, .hardwareBufferProperties buffer, .createImage image,
        .allocateMemory { size := 24576, dedicated := some (.image (.ofSerial .image 1))
                          source := some (.hardwareBuffer buffer) },
        .bindImage (.ofSerial .image 1) (.ofSerial .deviceMemory 2) 0]
    info.extent.maxMipLevels = 13
      ∧ info.mipChainSize = 32764
      ∧ (buffer.properties hardwareBufferSession.device.environment).allocationSize = 24576
      ∧ hardwareBufferSession.diagnostics calls = []
      ∧ hardwareBufferSession.succeeds calls = true := by
  decide +kernel

end VulkanValidity
