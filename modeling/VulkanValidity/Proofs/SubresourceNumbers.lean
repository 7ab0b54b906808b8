/-
  VulkanValidity.Proofs.SubresourceNumbers

  The numbers of the subresources of an image.  Every aspect, mip level and tracked layer has a number
  of its own (`ImageInfo.levelIndex_add_inj`), and these are the numbers below the tracked size
  (`ImageInfo.covers_wholeRange`).  The runs of a range are the shortest way to write the numbers that it
  covers: none is empty, and no two of them touch (`ImageInfo.indexRanges_apart`).  Hence the range of the
  whole image is one run.
-/

import VulkanValidity.Proofs.Coverage
import VulkanValidity.Proofs.Flags
import VulkanValidity.Proofs.ImageLimits
import VulkanValidity.Proofs.TrackedStates

namespace VulkanValidity

/-! ## Joined intervals -/

namespace Interval

/-- None of the intervals is empty, and each one stops before the start of all that come after it, with at
least one number in between. -/
structure Separated (l : List Interval) : Prop where
  someNumber : ∀ r ∈ l, r.start < r.stop
  gaps : l.Pairwise fun r s => r.stop < s.start

theorem Separated.nil : Separated [] := ⟨fun _ h => absurd h List.not_mem_nil, List.Pairwise.nil⟩

theorem separated_cons {r : Interval} {l : List Interval} :
    Separated (r :: l) ↔ r.start < r.stop ∧ (∀ s ∈ l, r.stop < s.start) ∧ Separated l := by
  constructor
  · rintro ⟨hsome, hgaps⟩
    obtain ⟨hr, hl⟩ := List.forall_mem_cons.mp hsome
    obtain ⟨hgap, hrest⟩ := List.pairwise_cons.mp hgaps
    exact ⟨hr, hgap, hl, hrest⟩
  · rintro ⟨hr, hgap, hl, hrest⟩
    exact ⟨List.forall_mem_cons.mpr ⟨hr, hl⟩, List.pairwise_cons.mpr ⟨hgap, hrest⟩⟩

/-- Joining intervals that follow one another leaves a gap between any two. -/
theorem Increasing.separated_coalesce {l : List Interval} (h : Increasing l)
    (hsome : ∀ r ∈ l, r.start < r.stop) : Separated (coalesce l) := by
  induction l with
  | nil => exact Separated.nil
  | cons r l ih =>
    obtain ⟨hnext, hl⟩ := List.pairwise_cons.mp h
    obtain ⟨hr, hsome⟩ := List.forall_mem_cons.mp hsome
    have hjoined := ih hl hsome
    -- What comes out of the rest starts where one of its intervals does.
    have hafter (s : Interval) (hs : s ∈ coalesce l) : r.stop ≤ s.start := by
      obtain ⟨q, hq, hqs⟩ := mem_coalesce_start hs
      exact hqs ▸ hnext q hq
    rw [coalesce]
    cases hc : coalesce l with
    | nil => exact separated_cons.mpr ⟨hr, fun _ hs => absurd hs List.not_mem_nil, Separated.nil⟩
    | cons t others =>
      rw [hc] at hjoined hafter
      obtain ⟨ht, hgap, hothers⟩ := separated_cons.mp hjoined
      have hrt := hafter t List.mem_cons_self
      simp only
      split
      · next htouch => exact separated_cons.mpr ⟨show r.start < t.stop by omega, hgap, hothers⟩
      · next hapart =>
        refine separated_cons.mpr ⟨hr, fun s hs => ?_, hjoined⟩
        rcases List.mem_cons.mp hs with rfl | hs
        · omega
        · have hts := hgap s hs
          omega

/-- Separated intervals that hold the numbers below `n`, and no others, are a single one. -/
theorem Separated.eq_singleton {l : List Interval} (h : Separated l) {n : Nat} (hn : 0 < n)
    (hall : ∀ i, (∃ r ∈ l, r.contains i = true) ↔ i < n) : l = [⟨0, n⟩] := by
  cases l with
  | nil =>
    obtain ⟨r, hr, -⟩ := (hall 0).mpr hn
    cases hr
  | cons r rest =>
    obtain ⟨hr, hgap, hrest⟩ := separated_cons.mp h
    have hlast : r.stop - 1 < n :=
      (hall _).mp ⟨r, List.mem_cons_self, contains_iff.mpr ⟨by omega, by omega⟩⟩
    -- The gap after the first interval, if there is another one, starts at a number that is not held.
    have hstop : ¬ r.stop < n := fun hlt => by
      obtain ⟨s, hs, hcontains⟩ := (hall r.stop).mpr hlt
      rw [contains_iff] at hcontains
      rcases List.mem_cons.mp hs with rfl | hs
      · omega
      · have := hgap s hs
        omega
    have hstart : r.start = 0 := by
      obtain ⟨s, hs, hcontains⟩ := (hall 0).mpr hn
      rw [contains_iff] at hcontains
      rcases List.mem_cons.mp hs with rfl | hs
      · omega
      · have := hgap s hs
        omega
    have hnone : rest = [] := List.eq_nil_iff_forall_not_mem.mpr fun s hs => by
      have hs' := hrest.someNumber s hs
      have hlt : s.start < n :=
        (hall _).mp ⟨s, List.mem_cons_of_mem r hs, contains_iff.mpr ⟨Nat.le_refl _, hs'⟩⟩
      have := hgap s hs
      omega
    rw [hnone, ← hstart, show n = r.stop by omega]

end Interval

/-! ## The runs of a range -/

namespace ImageInfo

variable (info : ImageInfo) (range : SubresourceRange)

/-- The aspects that images have. -/
theorem aspectList_cases : info.aspectList = [.color] ∨ info.aspectList = [.depth]
    ∨ info.aspectList = [.stencil] ∨ info.aspectList = [.depth, .stencil] := by
  rw [aspectList]
  cases info.format <;> decide

theorem aspectList_length_pos : 0 < info.aspectList.length := by
  rcases info.aspectList_cases with h | h | h | h <;> rw [h] <;> decide

/-- A set of aspects has one in common with an image if it selects one of its aspects. -/
theorem intersects_aspects {set : ImageAspects} : set.intersects info.aspects = true
    ↔ ∃ aspect ∈ info.aspectList, set.intersects aspect.flag = true := by
  -- The aspects are joined to a set that is empty at first.
  have hfold (aspects : List ImageAspect) (before : ImageAspects) :
      set.intersects (aspects.foldl (fun joined aspect => joined ∪ aspect.flag) before) = true
        ↔ set.intersects before = true ∨ ∃ aspect ∈ aspects, set.intersects aspect.flag = true := by
    induction aspects generalizing before with
    | nil => simp
    | cons aspect aspects ih =>
      rw [List.foldl_cons, ih, Flags.intersects_union, or_assoc]
      simp only [List.mem_cons, exists_eq_or_imp]
  rw [aspects, hfold, Flags.intersects_empty, or_iff_right Bool.false_ne_true]

/-- The aspects of an image select each one of them. -/
theorem aspects_intersects {aspect : ImageAspect} (h : aspect ∈ info.aspectList) :
    info.aspects.intersects aspect.flag = true := by
  rw [Flags.intersects_comm, intersects_aspects]
  exact ⟨aspect, h, by cases aspect <;> decide⟩

/-- No two subresources have the same number. -/
theorem levelIndex_add_inj {p p' m m' l l' : Nat} (hm : m < info.mipLevels) (hm' : m' < info.mipLevels)
    (hl : l < info.trackedLayers) (hl' : l' < info.trackedLayers)
    (h : info.levelIndex p m + l = info.levelIndex p' m' + l') : p = p' ∧ m = m' ∧ l = l' := by
  -- Of two levels one would end before the other one starts.
  have hlevel : ¬ (p < p' ∨ p = p' ∧ m < m') := fun hbefore => by
    have := info.levelIndex_add_le m' hm hbefore
    omega
  have hlevel' : ¬ (p' < p ∨ p' = p ∧ m' < m) := fun hbefore => by
    have := info.levelIndex_add_le m hm' hbefore
    omega
  obtain ⟨rfl, rfl⟩ : p = p' ∧ m = m' := by omega
  exact ⟨rfl, rfl, by omega⟩

theorem indexRanges_apart : Interval.Separated (info.indexRanges range) := by
  rw [indexRanges]
  split
  · exact Interval.Separated.nil
  · next hempty =>
    have hsome : (info.coveredLayers range).start < (info.coveredLayers range).stop := by
      simpa [Interval.isEmpty] using hempty
    refine Interval.Increasing.separated_coalesce ?_ fun r hr => ?_
    · exact info.levelRuns_increasing range
    · obtain ⟨position, -, hr⟩ := List.mem_flatMap.mp hr
      obtain ⟨level, -, rfl⟩ := List.mem_map.mp hr
      simp only [Interval.shift]
      omega

variable {info range} in
/-- A range has runs if it covers anything. -/
theorem indexRanges_ne_nil : info.indexRanges range ≠ [] ↔ ∃ i, info.Covers range i := by
  constructor
  · intro hsome
    obtain ⟨run, hrun⟩ := List.exists_mem_of_ne_nil _ hsome
    have hlt := (info.indexRanges_apart range).someNumber run hrun
    refine ⟨run.start, (info.any_contains_indexRanges range _).mp (List.any_eq_true.mpr ⟨run, hrun, ?_⟩)⟩
    exact Interval.contains_iff.mpr ⟨Nat.le_refl _, hlt⟩
  · rintro ⟨i, hi⟩ hnil
    have hany := (info.any_contains_indexRanges range i).mpr hi
    rw [hnil] at hany
    cases hany

/-- Every number below the tracked size is that of a subresource of the image. -/
theorem exists_levelIndex {i : Nat} (h : i < info.trackedSize) :
    ∃ position level layer, position < info.aspectList.length ∧ level < info.mipLevels
      ∧ layer < info.trackedLayers ∧ i = info.levelIndex position level + layer := by
  have hlayers : 0 < info.trackedLayers := Nat.pos_of_lt_mul_left h
  have hrow : i / info.trackedLayers < info.aspectList.length * info.mipLevels :=
    Nat.div_lt_of_lt_mul (Nat.mul_comm _ _ ▸ h)
  have hlevels : 0 < info.mipLevels := Nat.pos_of_lt_mul_left hrow
  refine ⟨i / info.trackedLayers / info.mipLevels, i / info.trackedLayers % info.mipLevels,
    i % info.trackedLayers, Nat.div_lt_of_lt_mul (Nat.mul_comm _ _ ▸ hrow), Nat.mod_lt _ hlevels,
    Nat.mod_lt _ hlayers, ?_⟩
  rw [levelIndex, Nat.div_add_mod', Nat.div_add_mod']

theorem covers_wholeRange {i : Nat} : info.Covers info.wholeRange i ↔ i < info.trackedSize := by
  refine ⟨Covers.lt_trackedSize, fun h => ?_⟩
  obtain ⟨position, level, layer, hposition, hlevel, hlayer, rfl⟩ := info.exists_levelIndex h
  have haspect := List.getElem?_eq_getElem hposition
  refine ⟨position, _, level, layer, haspect, info.aspects_intersects (List.mem_of_getElem? haspect),
    ⟨hlevel, Interval.contains_iff.mpr ⟨Nat.zero_le _, hlevel⟩⟩, ⟨hlayer, ?_⟩, rfl⟩
  by_cases htype : info.imageType = .dim3d
  · exact Or.inl htype
  · rw [trackedLayers, if_neg htype] at hlayer
    exact Or.inr (Interval.contains_iff.mpr ⟨Nat.zero_le _, hlayer⟩)

variable {info range}

theorem IsProper.trackedSize_pos (h : info.IsProper) : 0 < info.trackedSize := by
  have hlayers : 0 < info.trackedLayers := by
    rw [trackedLayers]
    split
    · exact Nat.one_pos
    · exact h.layers
  exact Nat.mul_pos (Nat.mul_pos info.aspectList_length_pos h.someLevels) hlayers

/-- The whole image is one run. -/
theorem IsProper.indexRanges_wholeRange (h : info.IsProper) :
    info.indexRanges info.wholeRange = [⟨0, info.trackedSize⟩] := by
  refine (info.indexRanges_apart info.wholeRange).eq_singleton h.trackedSize_pos fun i => ?_
  rw [← info.covers_wholeRange, ← info.any_contains_indexRanges, List.any_eq_true]

end ImageInfo

/-! ## The images of a session -/

/-- The numbers of the subresources of an image that is alive in a session on the standard engine, with what
ranges select of them.  Whatever aspects, levels and layers a range names, also such that the image does not
have, the numbers in its runs are those of the aspects, levels and layers of the image that it selects, where
a 3D image has a single layer, which every range selects.  No run is empty, there is a gap between any two,
and all of them are among the subresources that have a state.  Each of these has a number of its own, and they
are the one run of the range of the whole image. -/
theorem indexRanges_exact {s : Session} (h : s.Reachable) (hengine : s.device.engine = Standard.engine)
    {handle : Handle .image} {image : Image} (hget : s.device.registry.get? handle = some image) :
    let info := image.info
    let layers := if info.imageType = .dim3d then 1 else info.arrayLayers
    let number := fun a m l => (a * info.mipLevels + m) * layers + l
    let size := info.aspectList.length * info.mipLevels * layers
    (∀ range : SubresourceRange,
      (∀ i, (∃ run ∈ info.indexRanges range, run.start ≤ i ∧ i < run.stop)
        ↔ ∃ a aspect m l, info.aspectList[a]? = some aspect
          ∧ range.aspects.intersects aspect.flag = true
          ∧ (m < info.mipLevels ∧ range.mipLevels.start ≤ m ∧ m < range.mipLevels.stop)
          ∧ (l < layers ∧ (info.imageType = .dim3d
            ∨ range.arrayLayers.start ≤ l ∧ l < range.arrayLayers.stop))
          ∧ i = number a m l)
      ∧ (∀ run ∈ info.indexRanges range, run.start < run.stop ∧ run.stop ≤ size)
      ∧ (info.indexRanges range).Pairwise fun run next => run.stop < next.start)
    ∧ (∀ i, (image.states.get? i).isSome = true ↔ i < size)
    ∧ (∀ a a' m m' l l', m < info.mipLevels → m' < info.mipLevels → l < layers → l' < layers →
      number a m l = number a' m' l' → a = a' ∧ m = m' ∧ l = l')
    ∧ info.indexRanges info.wholeRange = [⟨0, size⟩] := by
  intro info layers number size
  have hproper : info.IsProper := (h.imagesFit hengine handle _ (congrArg (Option.map _) hget)).1
  refine ⟨fun range => ⟨fun i => ?_, fun run hrun => ?_, (info.indexRanges_apart range).gaps⟩,
    fun i => ?_, fun a a' m m' l l' => info.levelIndex_add_inj, hproper.indexRanges_wholeRange⟩
  · have hcovers := info.any_contains_indexRanges range i
    simp only [List.any_eq_true, Interval.contains_iff, ImageInfo.Covers] at hcovers
    exact hcovers
  · have hsome := (info.indexRanges_apart range).someNumber run hrun
    -- The last number of the run is that of a subresource.
    have hlast : info.Covers range (run.stop - 1) := by
      refine (info.any_contains_indexRanges range _).mp (List.any_eq_true.mpr ⟨run, hrun, ?_⟩)
      exact Interval.contains_iff.mpr ⟨by omega, by omega⟩
    have hlt : run.stop - 1 < size := hlast.lt_trackedSize
    exact ⟨hsome, by omega⟩
  · -- The image was made with a state for each subresource, and it lost none of them.
    have ht : s.device.registry.tracked? (.image handle)
        = some ⟨info.sharing, (Image.ofInfo info).states, image.states⟩ :=
      congrArg (Option.map _) hget
    have hdomain : (image.states.get? i).isSome = ((Image.ofInfo info).states.get? i).isSome :=
      h.tracked_domain ht i
    have hinitial : (Image.ofInfo info).states.get? i
        = if i < size then some _ else none := RangeMap.get?_replicate _ _ i
    rw [hdomain, hinitial]
    split <;> simp [*]

/-- A depth-stencil image of three levels and two layers, and a 3D image of two levels. -/
def numberedImages : Session :=
  (Session.start {} Standard.engine).run
    [.createImage {
        format := .d24UnormS8Uint, extent := ⟨8, 8, 1⟩, mipLevels := 3, arrayLayers := 2
        usage := .transferDst },
      .createImage {
        imageType := .dim3d, format := .r8g8b8a8Unorm, extent := ⟨8, 8, 8⟩, mipLevels := 2
        usage := .transferDst }]

/-- Two levels of the two aspects are two runs, and of the 3D image the second level is selected with layers
that stop before they start. -/
theorem numberedImages_exact :
    numberedImages.Reachable ∧ numberedImages.device.engine = Standard.engine
    ∧ (∃ image : Image, numberedImages.device.registry.get? (.ofSerial .image 1) = some image
      ∧ image.info.indexRanges ⟨ImageAspects.depth ∪ ImageAspects.stencil, ⟨1, 5⟩, ⟨0, 9⟩⟩
        = [⟨2, 6⟩, ⟨8, 12⟩]
      ∧ image.info.indexRanges image.info.wholeRange = [⟨0, 12⟩]
      ∧ (∀ i, (image.states.get? i).isSome = true ↔ i < 12)
      ∧ ∀ range, ∀ run ∈ image.info.indexRanges range, run.start < run.stop ∧ run.stop ≤ 12)
    ∧ ∃ image : Image, numberedImages.device.registry.get? (.ofSerial .image 2) = some image
      ∧ image.info.indexRanges ⟨.color, ⟨1, 9⟩, ⟨7, 3⟩⟩ = [⟨1, 2⟩]
      ∧ image.info.indexRanges image.info.wholeRange = [⟨0, 2⟩] := by
  have hreachable : numberedImages.Reachable := (Session.Reachable.start {} Standard.engine).run _
  have hengine : numberedImages.device.engine = Standard.engine :=
    Session.run_engine (.start {} Standard.engine) _
  refine ⟨hreachable, hengine, ?_, ?_⟩
  · have hruns : (numberedImages.device.registry.get? (.ofSerial .image 1)).map (fun image : Image =>
        (image.info.indexRanges ⟨ImageAspects.depth ∪ ImageAspects.stencil, ⟨1, 5⟩, ⟨0, 9⟩⟩,
          image.info.aspectList.length * image.info.mipLevels
            * if image.info.imageType = .dim3d then 1 else image.info.arrayLayers))
        = some ([⟨2, 6⟩, ⟨8, 12⟩], 12) := by
      decide +kernel
    obtain ⟨image, hget, hvalues⟩ := Option.map_eq_some_iff.mp hruns
    obtain ⟨hruns, hsize⟩ := Prod.mk.inj hvalues
    obtain ⟨hranges, hstates, -, hwhole⟩ := indexRanges_exact hreachable hengine hget
    rw [hsize] at hwhole
    refine ⟨image, hget, hruns, hwhole, fun i => hsize ▸ hstates i, fun range => ?_⟩
    exact hsize ▸ (hranges range).2.1
  · have hruns : (numberedImages.device.registry.get? (.ofSerial .image 2)).map (fun image : Image =>
        (image.info.indexRanges ⟨.color, ⟨1, 9⟩, ⟨7, 3⟩⟩,
          image.info.aspectList.length * image.info.mipLevels
            * if image.info.imageType = .dim3d then 1 else image.info.arrayLayers))
        = some ([⟨1, 2⟩], 2) := by
      decide +kernel
    obtain ⟨image, hget, hvalues⟩ := Option.map_eq_some_iff.mp hruns
    obtain ⟨hruns, hsize⟩ := Prod.mk.inj hvalues
    have hwhole := (indexRanges_exact hreachable hengine hget).2.2.2
    rw [hsize] at hwhole
    exact ⟨image, hget, hruns, hwhole⟩

end VulkanValidity
