/-
  VulkanValidity.Proofs.Flags

  Flag sets that have flags in common.
-/

import VulkanValidity.Flags

namespace VulkanValidity.Flags

variable {k : FlagKind}

theorem intersects_comm (a b : Flags k) : a.intersects b = b.intersects a := by
  rw [intersects, intersects, Nat.and_comm]

theorem intersects_empty (a : Flags k) : a.intersects ∅ = false := by
  rw [intersects, show (∅ : Flags k).bits = 0 from rfl, Nat.and_zero]
  rfl

/-- A set has something in common with a union if it has with one of the two parts. -/
theorem intersects_union {a b c : Flags k} :
    a.intersects (b ∪ c) = true ↔ a.intersects b = true ∨ a.intersects c = true := by
  have hbits : a.bits &&& (b ∪ c).bits = (a.bits &&& b.bits) ||| (a.bits &&& c.bits) :=
    Nat.and_or_distrib_left a.bits b.bits c.bits
  simp only [intersects, hbits, bne_iff_ne, ne_eq, Nat.or_eq_zero_iff]
  exact Decidable.not_and_iff_or_not

/-- Nothing is required of a set to have all flags of the empty one. -/
theorem contains_empty (a : Flags k) : a.contains ∅ = true := by
  rw [contains, show (∅ : Flags k).bits = 0 from rfl, Nat.and_zero]
  rfl

end VulkanValidity.Flags
