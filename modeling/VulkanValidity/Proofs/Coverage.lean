/-
  VulkanValidity.Proofs.Coverage

  Which subresources a range of an image covers.  `ImageInfo.Covers` says it one subresource at a time,
  by aspect, mip level and layer; the runs of numbers that the checks go through, joined where they touch,
  hold the numbers of these subresources and no others (`any_contains_indexRanges`).
-/

import VulkanValidity.Proofs.IndexRanges

namespace VulkanValidity

namespace Interval

/-- Joining intervals that touch neither adds nor drops a number. An interval that stops before it starts
could be joined to one that it does not reach, so that there must be none. -/
theorem any_contains_coalesce {l : List Interval} (h : ∀ r ∈ l, r.start ≤ r.stop) (i : Nat) :
    (coalesce l).any (·.contains i) = l.any (·.contains i)
      ∧ ∀ r ∈ coalesce l, r.start ≤ r.stop := by
  induction l with
  | nil => exact ⟨rfl, h⟩
  | cons r l ih =>
    have hr := h r List.mem_cons_self
    obtain ⟨hany, hproper⟩ := ih fun s hs => h s (List.mem_cons_of_mem r hs)
    -- The interval is joined with the first one of the rest, or put before it.
    rw [coalesce, List.any_cons, ← hany]
    cases hl : coalesce l with
    | nil =>
      refine ⟨rfl, fun s hs => ?_⟩
      rw [List.mem_singleton.mp hs]
      exact hr
    | cons t others =>
      rw [hl] at hproper
      have ht := hproper t List.mem_cons_self
      simp only
      split
      · next htouch =>
        have hjoined : contains ⟨r.start, t.stop⟩ i = (r.contains i || t.contains i) := by
          rw [Bool.eq_iff_iff, Bool.or_eq_true, contains_iff, contains_iff, contains_iff]
          show r.start ≤ i ∧ i < t.stop ↔ _
          omega
        rw [List.any_cons, List.any_cons, hjoined, Bool.or_assoc]
        refine ⟨rfl, fun s hs => ?_⟩
        rcases List.mem_cons.mp hs with rfl | hs
        · show r.start ≤ t.stop
          omega
        · exact hproper s (List.mem_cons_of_mem t hs)
      · refine ⟨rfl, fun s hs => ?_⟩
        rcases List.mem_cons.mp hs with rfl | hs
        · exact hr
        · exact hproper s hs

end Interval

namespace ImageInfo

/-- A range covers the subresource with number `i`: it selects its aspect, its mip level and its layer. The
one tracked layer of a mip level of a 3D image is covered whatever layers the range names. -/
def Covers (info : ImageInfo) (range : SubresourceRange) (i : Nat) : Prop :=
  ∃ position aspect level layer, info.aspectList[position]? = some aspect
    ∧ range.aspects.intersects aspect.flag = true
    ∧ (level < info.mipLevels ∧ range.mipLevels.contains level = true)
    ∧ (layer < info.trackedLayers
      ∧ (info.imageType = .dim3d ∨ range.arrayLayers.contains layer = true))
    ∧ i = info.levelIndex position level + layer

variable (info : ImageInfo) (range : SubresourceRange)

theorem mem_coveredAspects {position : Nat} :
    position ∈ info.coveredAspects range ↔ ∃ aspect, info.aspectList[position]? = some aspect
      ∧ range.aspects.intersects aspect.flag = true := by
  rw [coveredAspects, List.mem_map]
  constructor
  · rintro ⟨⟨aspect, p⟩, hmem, rfl⟩
    obtain ⟨hmem, hselected⟩ := List.mem_filter.mp hmem
    exact ⟨aspect, List.mem_zipIdx_iff_getElem?.mp hmem, hselected⟩
  · rintro ⟨aspect, hget, hselected⟩
    have hmem : (aspect, position) ∈ info.aspectList.zipIdx := List.mem_zipIdx_iff_getElem?.mpr hget
    exact ⟨(aspect, position), List.mem_filter.mpr ⟨hmem, hselected⟩, rfl⟩

theorem mem_coveredLevels {level : Nat} :
    level ∈ (info.coveredLevels range).toList
      ↔ level < info.mipLevels ∧ range.mipLevels.contains level = true := by
  rw [Interval.toList, List.mem_range'_1, Interval.contains_iff]
  simp only [coveredLevels, Interval.clampTo, Interval.length]
  omega

theorem contains_coveredLayers {layer : Nat} :
    (info.coveredLayers range).contains layer = true
      ↔ layer < info.trackedLayers
        ∧ (info.imageType = .dim3d ∨ range.arrayLayers.contains layer = true) := by
  rw [Interval.contains_iff, coveredLayers]
  split
  · next h => simp [trackedLayers, h]
  · next h =>
    rw [Interval.contains_iff]
    simp only [Interval.clampTo, h, false_or]
    omega

/-- The runs of a range hold the numbers of the subresources that it covers. -/
theorem any_contains_indexRanges (i : Nat) :
    (info.indexRanges range).any (·.contains i) = true ↔ info.Covers range i := by
  have hlayers {layer : Nat} (h : (info.coveredLayers range).contains layer = true) :
      (info.coveredLayers range).isEmpty = false := by
    rw [Interval.contains_iff] at h
    rw [Interval.isEmpty, decide_eq_false_iff_not]
    omega
  rw [indexRanges]
  split
  · next hempty =>
    -- No layer is left, so that the range covers nothing.
    refine ⟨fun h => by simp at h, ?_⟩
    rintro ⟨position, aspect, level, layer, -, -, -, hlayer, -⟩
    rw [hlayers ((info.contains_coveredLayers range).mpr hlayer)] at hempty
    cases hempty
  · next hempty =>
    rw [(Interval.any_contains_coalesce (fun r hr => ?_) i).1]
    · simp only [List.any_eq_true, List.mem_flatMap, List.mem_map]
      constructor
      · rintro ⟨r, ⟨position, hposition, level, hlevel, rfl⟩, hi⟩
        obtain ⟨aspect, haspect⟩ := (info.mem_coveredAspects range).mp hposition
        -- The layer is what is left of the number after the start of the level.
        have hlayer : (info.coveredLayers range).contains (i - info.levelIndex position level) = true
            ∧ i = info.levelIndex position level + (i - info.levelIndex position level) := by
          rw [Interval.contains_iff] at hi ⊢
          simp only [Interval.shift] at hi
          omega
        exact ⟨position, aspect, level, _, haspect.1, haspect.2, (info.mem_coveredLevels range).mp hlevel,
          (info.contains_coveredLayers range).mp hlayer.1, hlayer.2⟩
      · rintro ⟨position, aspect, level, layer, hget, hselected, hlevel, hlayer, rfl⟩
        have hcontains := (info.contains_coveredLayers range).mpr hlayer
        refine ⟨_, ⟨position, (info.mem_coveredAspects range).mpr ⟨aspect, hget, hselected⟩, level,
          (info.mem_coveredLevels range).mpr hlevel, rfl⟩, ?_⟩
        rw [Interval.contains_iff] at hcontains ⊢
        simp only [Interval.shift]
        omega
    · obtain ⟨position, -, hr⟩ := List.mem_flatMap.mp hr
      obtain ⟨level, -, rfl⟩ := List.mem_map.mp hr
      have hproper : ¬ (info.coveredLayers range).stop ≤ (info.coveredLayers range).start := by
        simpa [Interval.isEmpty] using hempty
      simp only [Interval.shift]
      omega

instance (i : Nat) : Decidable (info.Covers range i) :=
  decidable_of_iff _ (info.any_contains_indexRanges range i)

/-- What a range covers is among the subresources that are tracked. -/
theorem Covers.lt_trackedSize {info : ImageInfo} {range : SubresourceRange} {i : Nat}
    (h : info.Covers range i) : i < info.trackedSize := by
  obtain ⟨position, aspect, level, layer, hget, -, ⟨hlevel, -⟩, ⟨hlayer, -⟩, rfl⟩ := h
  have hposition : position < info.aspectList.length := (List.getElem?_eq_some_iff.mp hget).1
  have hend : info.levelIndex position level + info.trackedLayers ≤
      info.levelIndex info.aspectList.length 0 :=
    info.levelIndex_add_le 0 hlevel (Or.inl hposition)
  have hsize : info.levelIndex info.aspectList.length 0 = info.trackedSize := by
    rw [levelIndex, Nat.add_zero, trackedSize]
  omega

end ImageInfo

end VulkanValidity
