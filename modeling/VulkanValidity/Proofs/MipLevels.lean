/-
  VulkanValidity.Proofs.MipLevels

  The extents of mip levels, for extents whose components have 32 bits.  A level halves every component once
  per level.  The number of halvings is limited to 31, as shifts of 32 bits are, but so many leave no more than
  one texel anyway (`Extent.halved_eq`), so that levels are exact quotients whatever their number.

  The length of the longest chain is the number of bits of the joined components, which is that of the largest
  one: it is at most `levels` exactly if every component has at most `levels` bits
  (`Extent.maxMipLevels_le_iff`).  What there is to say about it is read off that, for a level has a single
  texel exactly if every component has at most one bit more than there were halvings.
-/

import Mathlib.Algebra.Ring.Nat
import Mathlib.Order.Bounds.Defs
import VulkanValidity.Image

namespace VulkanValidity

namespace Extent

variable {e : Extent}

/-! ## Levels -/

/-- The limit of the number of halvings makes no difference to 32 bits: 31 halvings leave at most one bit. -/
theorem halved_eq {n : Nat} (h : n < 2 ^ 32) (level : Nat) :
    max (n >>> min level 31) 1 = max 1 (n / 2 ^ level) := by
  rw [Nat.shiftRight_eq_div_pow, Nat.max_comm]
  rcases Nat.le_total level 31 with hle | hge
  · rw [Nat.min_eq_left hle]
  · have hbit : n / 2 ^ 31 ≤ 1 := by omega
    have hless : n / 2 ^ level ≤ n / 2 ^ 31 :=
      Nat.div_le_div_left (Nat.pow_le_pow_right Nat.two_pos hge) (Nat.two_pow_pos 31)
    rw [Nat.min_eq_right hge]
    omega

/-- A component that has reached one texel stays there, so that it makes no difference at which level it was
kept from vanishing. -/
theorem halved_halved (n a b : Nat) : max 1 (max 1 (n / 2 ^ a) / 2 ^ b) = max 1 (n / 2 ^ (a + b)) := by
  rw [Nat.pow_add, ← Nat.div_div_eq_div_mul]
  rcases Nat.eq_zero_or_pos (n / 2 ^ a) with hgone | hpos
  · have hone : 1 / 2 ^ b ≤ 1 := Nat.div_le_self 1 _
    rw [hgone, Nat.zero_div, Nat.max_eq_left (Nat.zero_le 1), Nat.max_eq_left hone]
  · rw [Nat.max_eq_right (show 1 ≤ n / 2 ^ a from hpos)]

theorem toList_inj {e' : Extent} : e.toList = e'.toList ↔ e = e' := by
  obtain ⟨width, height, depth⟩ := e
  obtain ⟨width', height', depth'⟩ := e'
  simp [toList]

section Levels

variable (h : ∀ n ∈ e.toList, n < 2 ^ 32)
include h

theorem toList_mipLevel (level : Nat) :
    (e.mipLevel level).toList = e.toList.map fun n => max 1 (n / 2 ^ level) := by
  have hhalved (n : Nat) (hn : n ∈ e.toList) : max (n >>> min level 31) 1 = max 1 (n / 2 ^ level) :=
    halved_eq (h n hn) level
  exact List.map_congr_left hhalved

theorem lt_of_mem_mipLevel (level : Nat) : ∀ n ∈ (e.mipLevel level).toList, n < 2 ^ 32 := by
  intro n hn
  rw [toList_mipLevel h] at hn
  obtain ⟨m, hm, rfl⟩ := List.mem_map.mp hn
  have hless : m / 2 ^ level ≤ m := Nat.div_le_self m _
  have hm32 := h m hm
  omega

theorem mipLevel_mipLevel (a b : Nat) : (e.mipLevel a).mipLevel b = e.mipLevel (a + b) := by
  have hcomp : (fun n => max 1 (n / 2 ^ b)) ∘ (fun n => max 1 (n / 2 ^ a))
      = fun n => max 1 (n / 2 ^ (a + b)) := by
    funext n
    exact halved_halved n a b
  rw [← toList_inj, toList_mipLevel (lt_of_mem_mipLevel h a), toList_mipLevel h, toList_mipLevel h,
    List.map_map, hcomp]

end Levels

/-! ## Chains -/

/-- The joined components have at most some number of bits if each of them does. -/
theorem joined_lt_iff (e : Extent) (bits : Nat) :
    e.width ||| e.height ||| e.depth < 2 ^ bits ↔ ∀ n ∈ e.toList, n < 2 ^ bits := by
  simp only [toList, List.forall_mem_cons, List.not_mem_nil, false_implies, implies_true, and_true]
  constructor
  · intro hjoined
    have hinner : e.width ||| e.height ≤ e.width ||| e.height ||| e.depth := Nat.left_le_or
    have hwidth : e.width ≤ e.width ||| e.height := Nat.left_le_or
    have hheight : e.height ≤ e.width ||| e.height := Nat.right_le_or
    have hdepth : e.depth ≤ e.width ||| e.height ||| e.depth := Nat.right_le_or
    omega
  · rintro ⟨hwidth, hheight, hdepth⟩
    exact Nat.or_lt_two_pow (Nat.or_lt_two_pow hwidth hheight) hdepth

/-- The longest chain has at most as many levels as the components have bits. -/
theorem maxMipLevels_le_iff (e : Extent) (levels : Nat) :
    e.maxMipLevels ≤ levels ↔ ∀ n ∈ e.toList, n < 2 ^ levels := by
  rw [← joined_lt_iff, maxMipLevels]
  split
  · next hnone =>
    rw [hnone]
    exact iff_of_true (Nat.zero_le levels) (Nat.two_pow_pos levels)
  · next hsome => rw [Nat.add_one_le_iff, Nat.log2_lt hsome]

/-- Some component has more bits than there are levels in a shorter chain. -/
theorem lt_maxMipLevels_iff (e : Extent) (levels : Nat) :
    levels < e.maxMipLevels ↔ ∃ n ∈ e.toList, 2 ^ levels ≤ n := by
  rw [← Nat.not_le, maxMipLevels_le_iff]
  simp only [Classical.not_forall, Nat.not_lt, exists_prop]

theorem maxMipLevels_pos_iff (e : Extent) : 0 < e.maxMipLevels ↔ ∃ n ∈ e.toList, 0 < n :=
  e.lt_maxMipLevels_iff 0

section Chains

variable (h : ∀ n ∈ e.toList, n < 2 ^ 32)
include h

/-- The levels are the bits of 32 that are not leading zeros of the joined components. -/
theorem maxMipLevels_eq_sub_clz :
    e.maxMipLevels = 32 - (BitVec.ofNat 32 (e.width ||| e.height ||| e.depth)).clz.toNat := by
  let joined := BitVec.ofNat 32 (e.width ||| e.height ||| e.depth)
  have hjoined : joined.toNat = e.width ||| e.height ||| e.depth := by
    rw [BitVec.toNat_ofNat]
    exact Nat.mod_eq_of_lt ((e.joined_lt_iff 32).mpr h)
  have hle : e.maxMipLevels ≤ 32 - joined.clz.toNat := by
    rw [maxMipLevels_le_iff, ← joined_lt_iff, ← hjoined]
    exact BitVec.toNat_lt_two_pow_sub_clz
  refine Nat.le_antisymm hle (Nat.le_of_not_lt fun (hshort : e.maxMipLevels < 32 - joined.clz.toNat) => ?_)
  -- A shorter chain would have no room for the bit after the leading zeros.
  have hsmall : joined.toNat < 2 ^ e.maxMipLevels := by
    rw [hjoined, joined_lt_iff]
    exact (e.maxMipLevels_le_iff _).mp (Nat.le_refl _)
  have hne : joined ≠ 0#32 := by
    intro hzero
    have hclz : joined.clz.toNat = 32 := by rw [BitVec.clz_eq_iff_eq_zero.mpr hzero]; rfl
    omega
  have hbit := BitVec.two_pow_sub_clz_le_toNat_of_ne_zero (by decide) hne
  have hpow : 2 ^ e.maxMipLevels ≤ 2 ^ (32 - 1 - joined.clz.toNat) :=
    Nat.pow_le_pow_right Nat.two_pos (by omega)
  omega

/-- A level has a single texel exactly from the end of the longest chain on. -/
theorem mipLevel_eq_single_iff (level : Nat) :
    e.mipLevel level = ⟨1, 1, 1⟩ ↔ e.maxMipLevels ≤ level + 1 := by
  have hone (n : Nat) : max 1 (n / 2 ^ level) = 1 ↔ n < 2 ^ (level + 1) := by
    have hdiv : n / 2 ^ level < 2 ↔ n < 2 * 2 ^ level := Nat.div_lt_iff_lt_mul (Nat.two_pow_pos level)
    rw [Nat.pow_succ']
    omega
  rw [← toList_inj, toList_mipLevel h, maxMipLevels_le_iff]
  simp only [toList, List.map_cons, List.map_nil, List.cons.injEq, and_true, List.forall_mem_cons,
    List.not_mem_nil, false_implies, implies_true, hone]

end Chains

end Extent

/-- Mip levels are exact.  Each component of a level is the quotient by a power of two, or one if there is
nothing left; levels of levels are levels; and the longest chain of an extent that is not empty is the shortest
one that ends with a single texel. -/
theorem mip_levels_exact {e : Extent} (h : ∀ n ∈ e.toList, n < 2 ^ 32) (a b : Nat) :
    (e.mipLevel a).toList = e.toList.map (fun n => max 1 (n / 2 ^ a))
    ∧ (e.mipLevel a).mipLevel b = e.mipLevel (a + b)
    ∧ e.maxMipLevels = 32 - (BitVec.ofNat 32 (e.width ||| e.height ||| e.depth)).clz.toNat
    ∧ ((∀ n ∈ e.toList, 0 < n) →
      IsLeast {levels | 1 ≤ levels ∧ e.mipLevel (levels - 1) = ⟨1, 1, 1⟩} e.maxMipLevels
      ∧ 1 ≤ e.maxMipLevels ∧ e.maxMipLevels ≤ 32
      ∧ ∀ level < e.maxMipLevels - 1, ∃ n ∈ (e.mipLevel level).toList, 1 < n) := by
  refine ⟨Extent.toList_mipLevel h a, Extent.mipLevel_mipLevel h a b, Extent.maxMipLevels_eq_sub_clz h,
    fun hpositive => ?_⟩
  have hwidth : e.width ∈ e.toList := List.mem_cons_self
  have hpos : 1 ≤ e.maxMipLevels := e.maxMipLevels_pos_iff.mpr ⟨e.width, hwidth, hpositive _ hwidth⟩
  have hsingle (levels : Nat) (hlevels : 1 ≤ levels) :
      e.mipLevel (levels - 1) = ⟨1, 1, 1⟩ ↔ e.maxMipLevels ≤ levels := by
    rw [Extent.mipLevel_eq_single_iff h, Nat.sub_add_cancel hlevels]
  refine ⟨⟨⟨hpos, (hsingle _ hpos).mpr (Nat.le_refl _)⟩, ?_⟩, hpos, ?_, ?_⟩
  · rintro levels ⟨hlevels, hend⟩
    exact (hsingle levels hlevels).mp hend
  · exact (e.maxMipLevels_le_iff 32).mpr h
  · intro level hlevel
    -- The component with the most bits has two left here.
    obtain ⟨n, hn, hlarge⟩ := (e.lt_maxMipLevels_iff (level + 1)).mp (by omega)
    have htwo : 2 ≤ n / 2 ^ level := by
      rw [Nat.le_div_iff_mul_le (Nat.two_pow_pos level), ← Nat.pow_succ']
      exact hlarge
    refine ⟨max 1 (n / 2 ^ level), ?_, by omega⟩
    rw [Extent.toList_mipLevel h]
    exact List.mem_map_of_mem hn

/-- An extent with a component of all 32 bits has 32 levels, the last one of a single texel. -/
theorem widest_mip_levels :
    let e : Extent := ⟨4294967295, 2147483648, 100⟩
    (∀ n ∈ e.toList, n < 2 ^ 32) ∧ (∀ n ∈ e.toList, 0 < n) ∧ e.maxMipLevels = 32
    ∧ (e.mipLevel 20).mipLevel 30 = e.mipLevel 50
    ∧ IsLeast {levels | 1 ≤ levels ∧ e.mipLevel (levels - 1) = ⟨1, 1, 1⟩} 32
    ∧ ∃ n ∈ (e.mipLevel 30).toList, 1 < n := by
  intro e
  have hfits : ∀ n ∈ e.toList, n < 2 ^ 32 := by decide
  have hpositive : ∀ n ∈ e.toList, 0 < n := by decide
  have hlevels : e.maxMipLevels = 32 := by decide +kernel
  obtain ⟨-, hagain, -, hchain⟩ := mip_levels_exact hfits 20 30
  obtain ⟨hleast, -, -, hlarger⟩ := hchain hpositive
  rw [hlevels] at hleast hlarger
  exact ⟨hfits, hpositive, hlevels, hagain, hleast, hlarger 30 (by decide)⟩

end VulkanValidity
