/-
  VulkanValidity.Proofs.SubresourceLayouts

  The layouts of the subresources of an image share out one run of bytes.  In the order of aspects, mip levels
  and array layers each subresource begins where the one before it ends, so that none is empty, no two have a
  byte in common, and there are no gaps (`ImageInfo.SharesOut`).  This is so as long as the last of them ends
  below `2 ^ 64`; from there on positions are cut off.

  The layouts are calculated in closed form from partial sums over the mip levels.  The proof follows the
  listing of the subresources instead: a list of pieces fills what its parts fill one after the other
  (`Interval.Fills.flatMap_range`), once for the layers of a level, once for the levels of an aspect, and once
  for the aspects.
-/

import Mathlib.Data.List.Pairwise
import VulkanValidity.Proofs.SubresourceNumbers
import VulkanValidity.Proofs.Sufficiency

namespace VulkanValidity

/-! ## Intervals that follow one another -/

namespace Interval

/-- The intervals fill the numbers from `lo` to `hi` in their order: none is empty, and each one starts where
the one before it stops. -/
def Fills : Nat → List Interval → Nat → Prop
  | lo, [], hi => lo = hi
  | lo, r :: rest, hi => r.start = lo ∧ lo < r.stop ∧ Fills r.stop rest hi

namespace Fills

variable {lo mid hi : Nat} {l m : List Interval}

theorem append (hl : Fills lo l mid) (hm : Fills mid m hi) : Fills lo (l ++ m) hi := by
  induction l generalizing lo with
  | nil =>
    obtain rfl : lo = mid := hl
    exact hm
  | cons r l ih => exact ⟨hl.1, hl.2.1, ih hl.2.2⟩

/-- Parts that fill the numbers between one bound and the next fill all numbers between the first bound and
the last. -/
theorem flatMap_range (bound : Nat → Nat) {part : Nat → List Interval} {n : Nat} (hlo : bound 0 = lo)
    (hhi : bound n = hi) (h : ∀ i < n, Fills (bound i) (part i) (bound (i + 1))) :
    Fills lo ((List.range n).flatMap part) hi := by
  subst hlo hhi
  induction n with
  | zero => rfl
  | succ n ih =>
    rw [List.range_succ, List.flatMap_append, List.flatMap_singleton]
    exact (ih fun i hi => h i (Nat.lt_succ_of_lt hi)).append (h n (Nat.lt_succ_self n))

/-- Intervals between one bound and the next fill all numbers between the first bound and the last. -/
theorem map_range (bound : Nat → Nat) {n : Nat} (hlo : bound 0 = lo) (hhi : bound n = hi)
    (h : ∀ i < n, bound i < bound (i + 1)) :
    Fills lo ((List.range n).map fun i => ⟨bound i, bound (i + 1)⟩) hi := by
  rw [List.map_eq_flatMap]
  exact flatMap_range bound hlo hhi fun i hi => ⟨rfl, h i hi, rfl⟩

theorem le (h : Fills lo l hi) : lo ≤ hi := by
  induction l generalizing lo with
  | nil => exact Nat.le_of_eq h
  | cons r l ih => exact Nat.le_trans (Nat.le_of_lt h.2.1) (ih h.2.2)

/-- No interval is empty, and all of them lie in the range. -/
theorem bounds (h : Fills lo l hi) : ∀ r ∈ l, lo ≤ r.start ∧ r.start < r.stop ∧ r.stop ≤ hi := by
  induction l generalizing lo with
  | nil => exact fun _ hr => absurd hr List.not_mem_nil
  | cons r l ih =>
    obtain ⟨rfl, hlt, hrest⟩ := h
    refine List.forall_mem_cons.mpr ⟨⟨Nat.le_refl _, hlt, hrest.le⟩, fun s hs => ?_⟩
    obtain ⟨hstart, hsome⟩ := ih hrest s hs
    exact ⟨by omega, hsome⟩

/-- Each interval stops before the start of all that come after it. -/
theorem increasing (h : Fills lo l hi) : Increasing l := by
  induction l generalizing lo with
  | nil => exact List.Pairwise.nil
  | cons r l ih => exact List.pairwise_cons.mpr ⟨fun s hs => (h.2.2.bounds s hs).1, ih h.2.2⟩

/-- The numbers in intervals that fill a range are those of the range. -/
theorem contains_iff (h : Fills lo l hi) {i : Nat} :
    (∃ r ∈ l, r.contains i = true) ↔ lo ≤ i ∧ i < hi := by
  induction l generalizing lo with
  | nil =>
    obtain rfl : lo = hi := h
    simp only [List.not_mem_nil, false_and, exists_false, false_iff]
    omega
  | cons r l ih =>
    obtain ⟨rfl, hlt, hrest⟩ := h
    have hle := hrest.le
    rw [List.exists_mem_cons_iff, ih hrest, Interval.contains_iff]
    omega

/-- Things whose intervals fill a range, one after the other, share no number. -/
theorem not_shared {ι : Type} {things : List ι} {interval : ι → Interval}
    (h : Fills lo (things.map interval) hi) {a b : ι} (ha : a ∈ things) (hb : b ∈ things) (hne : a ≠ b)
    (i : Nat) : ¬ ((interval a).contains i = true ∧ (interval b).contains i = true) := by
  have hsymm : Std.Symm fun a b =>
      ¬ ((interval a).contains i = true ∧ (interval b).contains i = true) :=
    ⟨fun _ _ hnot hboth => hnot hboth.symm⟩
  have hpairs : things.Pairwise fun a b =>
      ¬ ((interval a).contains i = true ∧ (interval b).contains i = true) := by
    refine (List.pairwise_map.mp h.increasing.apart).imp fun hnext hboth => ?_
    rw [hnext i hboth.1] at hboth
    cases hboth.2
  exact hpairs.forall ha hb hne

end Fills

end Interval

/-! ## Subresources in their order -/

namespace ImageInfo

variable (info : ImageInfo)

/-- The subresources of an image in the order in which they lie in memory. -/
def subresources : List Subresource :=
  info.aspectList.flatMap fun aspect =>
    (List.range info.mipLevels).flatMap fun level =>
      (List.range info.arrayLayers).map fun layer => ⟨aspect, level, layer⟩

theorem toList_aspects : info.aspects.toList = info.aspectList := by
  rw [aspects]
  rcases info.aspectList_cases with h | h | h | h <;> rw [h] <;> rfl

theorem mem_aspectList {aspect : ImageAspect} :
    aspect ∈ info.aspectList ↔ info.aspects.intersects aspect.flag = true := by
  have hany : aspect ∈ [ImageAspect.color, .depth, .stencil] := by cases aspect <;> decide
  rw [← toList_aspects, ImageAspects.toList, List.mem_filter]
  exact and_iff_right hany

/-- The list has all subresources of the image. -/
theorem mem_subresources {subresource : Subresource} :
    subresource ∈ info.subresources ↔ info.hasSubresource subresource = true := by
  simp only [subresources, List.mem_flatMap, List.mem_map, List.mem_range, hasSubresource,
    Bool.and_eq_true, decide_eq_true_eq, ← mem_aspectList]
  constructor
  · rintro ⟨aspect, haspect, level, hlevel, layer, hlayer, rfl⟩
    exact ⟨⟨hlevel, hlayer⟩, haspect⟩
  · rintro ⟨⟨hlevel, hlayer⟩, haspect⟩
    exact ⟨_, haspect, _, hlevel, _, hlayer, rfl⟩

/-- The aspects of an image in order have the positions from zero on. -/
theorem map_aspectPosition :
    info.aspectList.map info.aspectPosition = List.range info.aspectList.length := by
  have hposition : info.aspectPosition
      = fun aspect => (info.aspectList.findIdx? (· = aspect)).getD 0 := by
    funext aspect
    rw [aspectPosition, toList_aspects]
  rw [hposition]
  rcases info.aspectList_cases with h | h | h | h <;> rw [h] <;> rfl

/-- The bytes at the exact position of a subresource. -/
def exactBytes (subresource : Subresource) : Interval :=
  ⟨info.exactOffset subresource,
    info.exactOffset subresource + info.exactLayerSize subresource.mipLevel⟩

/-- The exact position of a layer, by the position of its aspect. -/
def layerStart (position level layer : Nat) : Nat :=
  position * info.exactChainSize info.mipLevels + info.exactChainSize level
    + layer * info.exactLayerSize level

/-- A layer ends where the next one of its level begins. -/
theorem layerStart_succ (position level layer : Nat) : info.layerStart position level (layer + 1)
    = info.layerStart position level layer + info.exactLayerSize level := by
  rw [layerStart, layerStart, Nat.succ_mul, Nat.add_assoc, Nat.add_assoc, Nat.add_assoc]

/-- The last layer of a level ends where the first one of the next level begins. -/
theorem layerStart_arrayLayers (position level : Nat) :
    info.layerStart position level info.arrayLayers = info.layerStart position (level + 1) 0 := by
  rw [layerStart, layerStart, exactChainSize_succ, Nat.zero_mul, Nat.add_zero, Nat.add_assoc]

/-- The first layer of an aspect begins after the mip chains of the aspects before it. -/
theorem layerStart_zero (position : Nat) :
    info.layerStart position 0 0 = position * info.exactChainSize info.mipLevels := by
  have hzero : info.exactChainSize 0 = 0 := Nat.zero_mul _
  rw [layerStart, hzero, Nat.zero_mul, Nat.add_zero]

/-- The last level of an aspect ends where the first one of the next aspect begins. -/
theorem layerStart_mipLevels (position : Nat) :
    info.layerStart position info.mipLevels 0 = (position + 1) * info.exactChainSize info.mipLevels := by
  rw [layerStart, Nat.succ_mul, Nat.zero_mul, Nat.add_zero]

theorem map_exactBytes : info.subresources.map info.exactBytes
    = (List.range info.aspectList.length).flatMap fun position =>
        (List.range info.mipLevels).flatMap fun level =>
          (List.range info.arrayLayers).map fun layer =>
            ⟨info.layerStart position level layer, info.layerStart position level (layer + 1)⟩ := by
  rw [← map_aspectPosition, List.flatMap_map, subresources]
  simp only [List.map_flatMap, List.map_map, layerStart_succ]
  rfl

/-- The exact number of bytes of the mip chains of all aspects. -/
def exactAspectsSize : Nat := info.aspectList.length * info.exactChainSize info.mipLevels

/-- In exact numbers the subresources fill the mip chains of all aspects. -/
theorem fills_exactBytes :
    Interval.Fills 0 (info.subresources.map info.exactBytes) info.exactAspectsSize := by
  rw [map_exactBytes]
  -- From the outside in: aspects, their levels, and the layers of those.
  refine .flatMap_range (fun position => position * info.exactChainSize info.mipLevels)
    (Nat.zero_mul _) rfl fun position _ => ?_
  refine .flatMap_range (fun level => info.layerStart position level 0)
    (info.layerStart_zero position) (info.layerStart_mipLevels position) fun level _ => ?_
  refine .map_range (info.layerStart position level) rfl
    (info.layerStart_arrayLayers position level) fun layer _ => ?_
  rw [layerStart_succ]
  exact Nat.lt_add_of_pos_right (info.exactLayerSize_pos level)

end ImageInfo

/-! ## Layouts -/

namespace SubresourceLayout

/-- The bytes of a subresource. -/
def bytes (layout : SubresourceLayout) : Interval := ⟨layout.offset, layout.offset + layout.size⟩

/-- The layout is that of one layer of a level: slices without gaps, made of rows, made of texels. -/
structure IsPacked (layout : SubresourceLayout) (level : Extent) (texelSize : Nat) : Prop where
  size : layout.size = layout.arrayPitch
  array : layout.arrayPitch = layout.depthPitch * level.depth
  depth : layout.depthPitch = layout.rowPitch * level.height
  row : layout.rowPitch = level.width * texelSize

end SubresourceLayout

namespace ImageInfo

/-- The subresources of an image share out the bytes below `total`.  In their order they fill these bytes, so
that no two subresources have a byte in common, and every byte belongs to one. -/
structure SharesOut (info : ImageInfo) (total : Nat) : Prop where
  inOrder : Interval.Fills 0
    (info.subresources.map fun subresource => (info.subresourceLayout subresource).bytes) total
  apart : ∀ a b, info.hasSubresource a = true → info.hasSubresource b = true → a ≠ b →
    ∀ i, ¬ ((info.subresourceLayout a).bytes.contains i = true
      ∧ (info.subresourceLayout b).bytes.contains i = true)
  covered : ∀ i, (∃ subresource, info.hasSubresource subresource = true
    ∧ (info.subresourceLayout subresource).bytes.contains i = true) ↔ i < total
  packed : ∀ subresource, info.hasSubresource subresource = true →
    (info.subresourceLayout subresource).IsPacked (info.extent.mipLevel subresource.mipLevel) info.texelSize

variable {info : ImageInfo}

/-- The rows and slices of a level have their exact sizes if its layers have. -/
theorem isPacked_subresourceLayout {subresource : Subresource}
    (h : info.exactLayerSize subresource.mipLevel ≤ DeviceSize.max) :
    (info.subresourceLayout subresource).IsPacked (info.extent.mipLevel subresource.mipLevel)
      info.texelSize := by
  let level := info.extent.mipLevel subresource.mipLevel
  have hpos (n : ℕ) : 0 < max n 1 := Nat.lt_of_lt_of_le Nat.one_pos (Nat.le_max_right n 1)
  have hsize : info.exactLayerSize subresource.mipLevel
      = level.width * info.texelSize * level.height * level.depth := by
    show info.texelSize * (level.width * level.height * level.depth) = _
    ac_rfl
  have hslice : level.width * info.texelSize * level.height ≤ DeviceSize.max :=
    Nat.le_trans (Nat.le_mul_of_pos_right _ (hpos _)) (hsize ▸ h)
  have hrow : level.width * info.texelSize ≤ DeviceSize.max :=
    Nat.le_trans (Nat.le_mul_of_pos_right _ (hpos _)) hslice
  have hrowPitch : (info.subresourceLayout subresource).rowPitch = level.width * info.texelSize :=
    DeviceSize.saturate_of_le hrow
  have hdepthPitch : (info.subresourceLayout subresource).depthPitch
      = level.width * info.texelSize * level.height := by
    rw [← DeviceSize.saturate_of_le hslice, ← hrowPitch]
    rfl
  have harrayPitch : (info.subresourceLayout subresource).arrayPitch
      = info.exactLayerSize subresource.mipLevel := by
    rw [← DeviceSize.saturate_of_le h]
    exact info.layerSize_eq _
  exact ⟨rfl, by rw [harrayPitch, hsize, hdepthPitch], by rw [hdepthPitch, hrowPitch], hrowPitch⟩

/-- The subresources share out the mip chains of all aspects, if these end below `2 ^ 64`. -/
theorem sharesOut (h : info.exactAspectsSize ≤ DeviceSize.max) : info.SharesOut info.exactAspectsSize := by
  have hexact := info.fills_exactBytes
  -- All of these numbers fit 64 bits, so what is reported is exact.
  have hend (subresource : Subresource) (hmem : subresource ∈ info.subresources) :
      info.exactOffset subresource + info.exactLayerSize subresource.mipLevel ≤ DeviceSize.max :=
    Nat.le_trans (hexact.bounds _ (List.mem_map_of_mem hmem)).2.2 h
  have hbytes (subresource : Subresource) (hmem : subresource ∈ info.subresources) :
      (info.subresourceLayout subresource).bytes = info.exactBytes subresource := by
    obtain ⟨hoffset, hsize⟩ := info.subresourceLayout_eq subresource
    have hstop := hend subresource hmem
    rw [SubresourceLayout.bytes, hoffset, hsize, DeviceSize.saturate_of_le (by omega),
      DeviceSize.saturate_of_le (by omega), exactBytes]
  have hfills : Interval.Fills 0
      (info.subresources.map fun subresource => (info.subresourceLayout subresource).bytes)
      info.exactAspectsSize := by
    rw [List.map_congr_left hbytes]
    exact hexact
  refine ⟨hfills, fun a b ha hb hne => ?_, fun i => ?_, fun subresource hhas => ?_⟩
  · exact hfills.not_shared (info.mem_subresources.mpr ha) (info.mem_subresources.mpr hb) hne
  · have hcontains := hfills.contains_iff (i := i)
    simpa only [List.mem_map, exists_exists_and_eq_and, mem_subresources, Nat.zero_le, true_and]
      using hcontains
  · have hstop := hend subresource (info.mem_subresources.mpr hhas)
    exact isPacked_subresourceLayout (by omega)

theorem IsProper.exactAspectsSize_pos (h : info.IsProper) : 0 < info.exactAspectsSize := by
  have hsize : 0 < info.exactChainSize info.mipLevels := Nat.pos_of_mul_pos_right (exactSize_pos h)
  exact Nat.mul_pos info.aspectList_length_pos hsize

end ImageInfo

/-! ## Queries -/

/-- Besides the rules about objects, two rules are about a query of a layout. -/
theorem Standard.evaluate_querySubresourceLayout (d : Device) (handle : Handle .image)
    (subresource : Subresource) : engine.evaluate (d.context (.querySubresourceLayout handle subresource))
      = (objectRules.take 2 ++ [bindingRules[22], bindingRules[23]]).flatMap fun rule =>
          rule.diagnostics (d.context (.querySubresourceLayout handle subresource)) := by
  rfl

/-- The layout of a subresource of a live image with linear tiling can be queried, unless the image waits for
a binding. -/
theorem Session.outcome?_subresourceLayout {s : Session} (hengine : s.device.engine = Standard.engine)
    (hlives : s.device.registry.Lives) {handle : Handle .image} {image : Image}
    (hget : s.device.registry.get? handle = some image) (hlinear : image.info.tiling = .linear)
    (hready : (image.info.isDeferred && !image.isBound) = false) {subresource : Subresource}
    (hhas : image.info.hasSubresource subresource = true) :
    s.outcome? (.subresourceLayout handle subresource)
      = some ⟨s, [], .ok (.layout (image.info.subresourceLayout subresource))⟩ := by
  have hbound : BindingRules.subresourceLayoutBeforeBind
      (s.device.context (.querySubresourceLayout handle subresource)) = [] := by
    simp only [BindingRules.subresourceLayoutBeforeBind, BindingRules.deferredBound, Device.context, hget]
    exact violationIf_eq_nil.mpr hready
  have htiling : BindingRules.subresourceLayoutTiling
      (s.device.context (.querySubresourceLayout handle subresource)) = [] := by
    simp only [BindingRules.subresourceLayoutTiling, Device.context, hget, hlinear]
    rfl
  have hsilent : Standard.engine.evaluate
      (s.device.context (.querySubresourceLayout handle subresource)) = [] := by
    refine Standard.evaluate_eq_nil_of_own hlives
      (Standard.evaluate_querySubresourceLayout s.device handle subresource) (fun id hid => ?_)
      fun rule hrule => ?_
    · rw [List.mem_singleton.mp hid]
      exact Registry.contains_of_get? hget
    · rcases List.mem_pair.mp hrule with rfl | rfl
      · exact hbound
      · exact htiling
  have hquery : s.device.subresourceLayout handle subresource
      = ⟨s.device, [], .ok (image.info.subresourceLayout subresource)⟩ := by
    refine Device.guarded_of_silent hengine hsilent ?_
    rw [Registry.get_eq_ok.mpr hget]
    exact if_pos hhas
  rw [outcome?_of_fits hengine rfl rfl rfl, step, hquery]
  rfl

/-- The subresources of a live image share out the mip chains of its aspects, if these end below `2 ^ 64`.
For an image with linear tiling, unless it waits for a binding, this is what the queries give. -/
theorem subresources_share_out {s : Session} (h : s.Reachable) (hengine : s.device.engine = Standard.engine)
    {handle : Handle .image} {image : Image} (hget : s.device.registry.get? handle = some image)
    (hfits : image.info.exactAspectsSize < 2 ^ 64) :
    0 < image.info.exactAspectsSize ∧ image.info.SharesOut image.info.exactAspectsSize
    ∧ (s.FewObjects → image.info.tiling = .linear → (image.info.isDeferred && !image.isBound) = false →
      ∀ subresource, image.info.hasSubresource subresource = true →
        s.outcome? (.subresourceLayout handle subresource)
          = some ⟨s, [], .ok (.layout (image.info.subresourceLayout subresource))⟩) := by
  have hproper : image.info.IsProper := (h.imagesFit hengine handle _ (congrArg (Option.map _) hget)).1
  refine ⟨hproper.exactAspectsSize_pos, ImageInfo.sharesOut (Nat.le_of_lt_succ hfits),
    fun hfew hlinear hready subresource hhas => ?_⟩
  have hlives := (h.changes.agrees_of_empty hfew).toLives
  exact Session.outcome?_subresourceLayout hengine hlives hget hlinear hready hhas

/-- An image with linear tiling, two aspects, three levels and two layers. -/
def stencilChainImage : ImageInfo where
  format := .d24UnormS8Uint
  extent := ⟨6, 5, 1⟩
  mipLevels := 3
  arrayLayers := 2
  tiling := .linear
  usage := .transferDst

/-- The first layer of the second level of the stencil aspect is the ninth of twelve subresources.  It begins
after the 296 bytes of the depth aspect and the 240 of the first level. -/
theorem stencilChain_shares_out :
    ∃ image, ((Session.start {} Standard.engine).run [.createImage stencilChainImage]).device.registry.get?
        (.ofSerial .image 1) = some image
      ∧ image.info = stencilChainImage
      ∧ stencilChainImage.SharesOut 592
      ∧ stencilChainImage.subresources[8]? = some ⟨.stencil, 1, 0⟩
      ∧ (stencilChainImage.subresourceLayout ⟨.stencil, 1, 0⟩).bytes = ⟨536, 560⟩ := by
  let s := (Session.start {} Standard.engine).run [.createImage stencilChainImage]
  have hreachable : s.Reachable := (Session.Reachable.start {} Standard.engine).run _
  have hinfo : (s.device.registry.get? (.ofSerial .image 1)).map Image.info = some stencilChainImage := by
    decide +kernel
  obtain ⟨image, hget, hinfo⟩ := Option.map_eq_some_iff.mp hinfo
  have hsize : stencilChainImage.exactAspectsSize = 592 := by decide
  obtain ⟨-, hshares, -⟩ := subresources_share_out hreachable rfl hget (by rw [hinfo, hsize]; decide)
  rw [hinfo, hsize] at hshares
  exact ⟨image, hget, hinfo, hshares, by decide, by decide⟩

end VulkanValidity
