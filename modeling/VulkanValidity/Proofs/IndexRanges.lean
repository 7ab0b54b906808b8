/-
  VulkanValidity.Proofs.IndexRanges

  The runs of subresource numbers that a range of an image covers follow one another: each stops
  before the next one starts.  The numbers of a mip level of an aspect lie between its first tracked
  layer and the first tracked layer of the next level, and joining runs that touch keeps the order.
-/

import VulkanValidity.Image
import VulkanValidity.Proofs.RangeMap

namespace VulkanValidity

namespace Interval

/-- Each interval stops at or before the start of all that come after it. -/
def Increasing (l : List Interval) : Prop := l.Pairwise fun r s => r.stop ≤ s.start

theorem mem_coalesce_start {l : List Interval} {s : Interval} (h : s ∈ coalesce l) :
    ∃ r ∈ l, r.start = s.start := by
  induction l generalizing s with
  | nil => cases h
  | cons r l ih =>
    rw [coalesce] at h
    cases hl : coalesce l with
    | nil =>
      rw [hl] at h
      obtain rfl := List.mem_singleton.mp h
      exact ⟨s, List.mem_cons_self, rfl⟩
    | cons t others =>
      rw [hl] at h ih
      simp only at h
      split at h
      · -- Joining keeps the start of the first of the two intervals.
        rcases List.mem_cons.mp h with rfl | hs
        · exact ⟨r, List.mem_cons_self, rfl⟩
        · obtain ⟨q, hq, hqs⟩ := ih (List.mem_cons_of_mem t hs)
          exact ⟨q, List.mem_cons_of_mem r hq, hqs⟩
      · rcases List.mem_cons.mp h with rfl | hs
        · exact ⟨s, List.mem_cons_self, rfl⟩
        · obtain ⟨q, hq, hqs⟩ := ih hs
          exact ⟨q, List.mem_cons_of_mem r hq, hqs⟩

theorem increasing_coalesce {l : List Interval} (h : Increasing l) : Increasing (coalesce l) := by
  induction l with
  | nil => exact List.Pairwise.nil
  | cons r l ih =>
    obtain ⟨hr, hl⟩ := List.pairwise_cons.mp h
    have hr' : ∀ s ∈ coalesce l, r.stop ≤ s.start := by
      intro s hs
      obtain ⟨q, hq, hqs⟩ := mem_coalesce_start hs
      exact hqs ▸ hr q hq
    have hl' := ih hl
    rw [coalesce]
    cases hc : coalesce l with
    | nil => exact List.pairwise_singleton _ _
    | cons t others =>
      rw [hc] at hl' hr'
      simp only
      split
      · obtain ⟨ht, ho⟩ := List.pairwise_cons.mp hl'
        exact List.pairwise_cons.mpr ⟨ht, ho⟩
      · exact List.pairwise_cons.mpr ⟨hr', hl'⟩

/-- Intervals that follow one another share no number. -/
theorem Increasing.apart {l : List Interval} (h : Increasing l) : Apart l := by
  refine h.imp fun {r s} hrs i hi => ?_
  rw [Bool.eq_false_iff, ne_eq, contains_iff]
  rw [contains_iff] at hi
  omega

/-- What lies inside of intervals that follow one another is in order. -/
theorem Increasing.exists_ordered {α : Type} {ranges : List Interval} (h : Increasing ranges)
    {m : RangeMap α} (hm : m.Canonical) {lo : Nat} (hlo : ∀ r ∈ ranges, lo ≤ r.start) :
    ∃ hi, RangeMap.Ordered lo (ranges.flatMap m.within) hi := by
  obtain ⟨last, hordered⟩ := hm.ordered
  induction ranges generalizing lo with
  | nil => exact ⟨lo, Nat.le_refl lo⟩
  | cons r ranges ih =>
    obtain ⟨hr, hranges⟩ := List.pairwise_cons.mp h
    have hrlo := hlo r List.mem_cons_self
    rw [List.flatMap_cons]
    rcases Nat.le_total r.start r.stop with hle | hge
    · obtain ⟨hi, hrest⟩ := ih hranges hr
      have hwithin := RangeMap.ordered_within hordered hle
      exact ⟨hi, (hwithin.mono hrlo (Nat.le_refl _)).append hrest⟩
    · -- Nothing lies inside of an empty interval.
      have hnil : m.within r = [] := by
        refine List.filterMap_eq_nil_iff.mpr fun s _ => if_pos (Interval.isEmpty_iff.mpr ?_)
        simp only [Interval.inter]
        omega
      rw [hnil, List.nil_append]
      exact ih hranges fun s hs => hlo s (List.mem_cons_of_mem r hs)

end Interval

namespace ImageInfo

variable (info : ImageInfo) (range : SubresourceRange)

theorem coveredAspects_increasing : (info.coveredAspects range).Pairwise (· < ·) := by
  have hall : (info.aspectList.zipIdx.map Prod.snd).Pairwise (· < ·) := by
    rw [List.zipIdx_map_snd]
    exact List.pairwise_lt_range'
  exact hall.sublist (List.filter_sublist.map Prod.snd)

theorem coveredLevels_increasing : (info.coveredLevels range).toList.Pairwise (· < ·) :=
  List.pairwise_lt_range'

theorem mem_coveredLevels_lt {level : Nat} (h : level ∈ (info.coveredLevels range).toList) :
    level < info.mipLevels := by
  obtain ⟨k, hk, rfl⟩ := List.mem_range'.mp h
  simp only [coveredLevels, Interval.clampTo, Interval.length] at hk ⊢
  omega

theorem coveredLayers_stop_le : (info.coveredLayers range).stop ≤ info.trackedLayers := by
  unfold coveredLayers trackedLayers
  split
  · exact Nat.le_refl _
  · exact Nat.min_le_right _ _

/-- A level that comes later, in the same aspect or in a later one, starts after the tracked layers of
the level before. -/
theorem levelIndex_add_le {p p' m : Nat} (m' : Nat) (hm : m < info.mipLevels)
    (h : p < p' ∨ (p = p' ∧ m < m')) :
    info.levelIndex p m + info.trackedLayers ≤ info.levelIndex p' m' := by
  have hlt : p * info.mipLevels + m + 1 ≤ p' * info.mipLevels + m' := by
    rcases h with hp | ⟨rfl, hmm⟩
    · have : (p + 1) * info.mipLevels ≤ p' * info.mipLevels := Nat.mul_le_mul_right _ hp
      rw [Nat.succ_mul] at this
      omega
    · omega
  calc info.levelIndex p m + info.trackedLayers
      = (p * info.mipLevels + m + 1) * info.trackedLayers := by rw [levelIndex, Nat.succ_mul]
    _ ≤ info.levelIndex p' m' := Nat.mul_le_mul_right _ hlt

/-- The runs of the levels that a range covers follow one another. -/
theorem levelRuns_increasing :
    Interval.Increasing ((info.coveredAspects range).flatMap fun position =>
      (info.coveredLevels range).toList.map fun level =>
        (info.coveredLayers range).shift (info.levelIndex position level)) := by
  have hstop := info.coveredLayers_stop_le range
  refine List.pairwise_flatMap.mpr ⟨fun p _ => ?_, ?_⟩
  · -- Two levels of one aspect.
    refine List.pairwise_map.mpr ((info.coveredLevels_increasing range).imp_of_mem ?_)
    intro m m' hm _ hlt
    have := info.levelIndex_add_le (p := p) m' (info.mem_coveredLevels_lt range hm)
      (Or.inr ⟨rfl, hlt⟩)
    simp only [Interval.shift]
    omega
  · -- Levels of two aspects.
    refine (info.coveredAspects_increasing range).imp fun {p p'} hlt => ?_
    intro r hr s hs
    obtain ⟨m, hm, rfl⟩ := List.mem_map.mp hr
    obtain ⟨m', hm', rfl⟩ := List.mem_map.mp hs
    have := info.levelIndex_add_le (p := p) m' (info.mem_coveredLevels_lt range hm)
      (Or.inl hlt)
    simp only [Interval.shift]
    omega

/-- The runs that a range covers follow one another. -/
theorem indexRanges_increasing : Interval.Increasing (info.indexRanges range) := by
  rw [indexRanges]
  split
  · exact List.Pairwise.nil
  · exact Interval.increasing_coalesce (info.levelRuns_increasing range)

end ImageInfo

end VulkanValidity
