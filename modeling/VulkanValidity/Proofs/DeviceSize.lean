/-
  VulkanValidity.Proofs.DeviceSize

  Calculating with numbers that stop at 64 bits.  A result that is cut off stays cut off, whatever is
  added to it or multiplied with it, so that a whole calculation gives what cutting off its exact result
  once would give: sums and products commute with `saturate`.

  Rounding up to an alignment is the exception.  Where the rounded size does not fit, the result is the
  largest multiple that does, which can be less than the size.
-/

import Mathlib.Algebra.Ring.Nat
import VulkanValidity.DeviceSize

namespace VulkanValidity.DeviceSize

/-! ## Cutting off -/

theorem fits_iff {n : Nat} : fits n = true ↔ n ≤ max := decide_eq_true_iff

theorem saturate_le (n : Nat) : saturate n ≤ n := Nat.min_le_left n max

theorem saturate_of_le {n : Nat} (h : n ≤ max) : saturate n = n := Nat.min_eq_left h

/-! ## Sums -/

theorem add_saturate (a b : Nat) : add (saturate a) (saturate b) = saturate (a + b) := by
  simp only [add, saturate]
  omega

/-- Adding up with every step cut off gives the sum, cut off once. -/
theorem foldl_add_saturate (l : List Nat) (a : Nat) :
    (l.map saturate).foldl add (saturate a) = saturate (a + l.sum) := by
  induction l generalizing a with
  | nil => rfl
  | cons b l ih => rw [List.map_cons, List.foldl_cons, add_saturate, ih, List.sum_cons, Nat.add_assoc]

/-! ## Products -/

theorem mul_saturate (a b : Nat) : mul (saturate a) b = saturate (a * b) := by
  rw [mul]
  rcases Nat.le_total a max with ha | ha
  · rw [saturate_of_le ha]
  · rcases b.eq_zero_or_pos with rfl | hb
    · rw [Nat.mul_zero, Nat.mul_zero]
    · -- The factor that is cut off is the largest number, and so is every multiple of it.
      have hmax : saturate a = max := Nat.min_eq_right ha
      have hcut : max ≤ max * b := Nat.le_mul_of_pos_right max hb
      have hexact : max ≤ a * b := Nat.le_trans ha (Nat.le_mul_of_pos_right a hb)
      rw [hmax, saturate, saturate, Nat.min_eq_right hcut, Nat.min_eq_right hexact]

theorem mul_saturate_right (a b : Nat) : mul a (saturate b) = saturate (a * b) := by
  rw [mul, Nat.mul_comm a, Nat.mul_comm a]
  exact mul_saturate b a

/-- Multiplying with every step cut off gives the product, cut off once. -/
theorem foldl_mul_saturate (l : List Nat) (a : Nat) :
    l.foldl mul (saturate a) = saturate (a * l.prod) := by
  induction l generalizing a with
  | nil => rw [List.foldl_nil, List.prod_nil, Nat.mul_one]
  | cons b l ih => rw [List.foldl_cons, mul_saturate, ih, List.prod_cons, Nat.mul_assoc]

/-! ## Rounding up -/

/-- The least multiple of `alignment` that is at least `size`, whether it fits 64 bits or not. -/
def roundUp (size alignment : Nat) : Nat := (size + (alignment - 1)) / alignment * alignment

/-- The largest multiple of `alignment` that fits 64 bits. -/
def lastMultiple (alignment : Nat) : Nat := max / alignment * alignment

theorem alignUp_eq (size alignment : Nat) :
    alignUp size alignment
      = if roundUp size alignment ≤ max then roundUp size alignment else lastMultiple alignment :=
  rfl

theorem le_roundUp {alignment : Nat} (h : 0 < alignment) (size : Nat) :
    size ≤ roundUp size alignment := by
  have hquotient := Nat.div_add_mod (size + (alignment - 1)) alignment
  have hrest := Nat.mod_lt (size + (alignment - 1)) h
  rw [roundUp, Nat.mul_comm]
  omega

theorem lastMultiple_le_max (alignment : Nat) : lastMultiple alignment ≤ max :=
  Nat.div_mul_le_self max alignment

theorem alignUp_le_max (size alignment : Nat) : alignUp size alignment ≤ max := by
  rw [alignUp_eq]
  split
  · assumption
  · exact lastMultiple_le_max alignment

theorem dvd_roundUp (size alignment : Nat) : alignment ∣ roundUp size alignment :=
  Nat.dvd_mul_left alignment _

theorem roundUp_le {alignment size n : Nat} (h : 0 < alignment) (hdvd : alignment ∣ n)
    (hsize : size ≤ n) : roundUp size alignment ≤ n := by
  obtain ⟨k, rfl⟩ := hdvd
  have hquotient : (size + (alignment - 1)) / alignment < k + 1 := by
    refine Nat.div_lt_of_lt_mul ?_
    rw [Nat.mul_succ]
    omega
  rw [roundUp, Nat.mul_comm alignment k]
  exact Nat.mul_le_mul_right alignment (Nat.le_of_lt_succ hquotient)

theorem dvd_lastMultiple (alignment : Nat) : alignment ∣ lastMultiple alignment :=
  Nat.dvd_mul_left alignment _

theorem le_lastMultiple {alignment n : Nat} (hdvd : alignment ∣ n) (hmax : n ≤ max) :
    n ≤ lastMultiple alignment := by
  rw [lastMultiple, ← Nat.div_mul_cancel hdvd]
  exact Nat.mul_le_mul_right alignment (Nat.div_le_div_right hmax)

/-- What rounding up to 64 bits gives: the least multiple of the alignment that has room for the size, or, if
no 64-bit number is one, the largest multiple at all. -/
structure Rounds (size alignment rounded : Nat) : Prop where
  dvd : alignment ∣ rounded
  le_max : rounded ≤ max
  least : ∀ n ≤ max, alignment ∣ n → size ≤ n → size ≤ rounded ∧ rounded ≤ n
  last : (∀ n ≤ max, alignment ∣ n → n < size) → ∀ n ≤ max, alignment ∣ n → n ≤ rounded

theorem rounds_alignUp {alignment : Nat} (h : 0 < alignment) (size : Nat) :
    Rounds size alignment (alignUp size alignment) := by
  have hsize := le_roundUp h size
  refine ⟨?_, alignUp_le_max size alignment, fun n hmax hdvd hn => ?_, fun hnone n hmax hdvd => ?_⟩
  · rw [alignUp_eq]
    split
    · exact dvd_roundUp size alignment
    · exact dvd_lastMultiple alignment
  · have hle := roundUp_le h hdvd hn
    rw [alignUp_eq, if_pos (Nat.le_trans hle hmax)]
    exact ⟨hsize, hle⟩
  · -- The rounded size does not fit, or it would be a multiple with enough room.
    have hover : ¬ roundUp size alignment ≤ max := fun hfits =>
      Nat.not_lt_of_le hsize (hnone _ hfits (dvd_roundUp size alignment))
    rw [alignUp_eq, if_neg hover]
    exact le_lastMultiple hdvd hmax

namespace Rounds

variable {size alignment rounded : Nat}

/-- A size may be cut off before it is rounded. -/
theorem of_saturate (h : Rounds (saturate size) alignment rounded) : Rounds size alignment rounded := by
  rcases Nat.le_total size max with hfits | hover
  · rwa [saturate_of_le hfits] at h
  · have hcut : saturate size = max := Nat.min_eq_right hover
    rw [hcut] at h
    refine ⟨h.dvd, h.le_max, fun n hmax hdvd hn => ?_, fun _ n hmax hdvd => ?_⟩
    · -- There is room for the size only if it is the largest number itself.
      have hroom := h.least n hmax hdvd (Nat.le_trans hover hn)
      omega
    · by_cases hroom : ∃ m ≤ max, alignment ∣ m ∧ max ≤ m
      · obtain ⟨m, hmmax, hmdvd, hm⟩ := hroom
        have hlargest := (h.least m hmmax hmdvd hm).1
        omega
      · refine h.last (fun m hmmax hmdvd => Nat.lt_of_not_le fun hm => ?_) n hmax hdvd
        exact hroom ⟨m, hmmax, hmdvd, hm⟩

/-- Rounding to a divisor first makes no difference. -/
theorem trans {divisor first : Nat} (hfirst : Rounds size divisor first)
    (h : Rounds first alignment rounded) (hdivides : divisor ∣ alignment) :
    Rounds size alignment rounded := by
  refine ⟨h.dvd, h.le_max, fun n hmax hdvd hn => ?_, fun hnone n hmax hdvd => ?_⟩
  · obtain ⟨hsize, hle⟩ := hfirst.least n hmax (Nat.dvd_trans hdivides hdvd) hn
    obtain ⟨hroom, hleast⟩ := h.least n hmax hdvd hle
    exact ⟨Nat.le_trans hsize hroom, hleast⟩
  · by_cases hroom : ∃ m ≤ max, alignment ∣ m ∧ first ≤ m
    · -- Then the size was cut off when it was rounded first, to the last multiple of the divisor.
      obtain ⟨m, hmmax, hmdvd, hm⟩ := hroom
      have hlast : first < size := Nat.lt_of_le_of_lt hm (hnone m hmmax hmdvd)
      have hcut := hfirst.last (fun k hkmax hkdvd => Nat.lt_of_not_le fun hk => by
        have hfits := (hfirst.least k hkmax hkdvd hk).1
        omega) n hmax (Nat.dvd_trans hdivides hdvd)
      exact Nat.le_trans hcut (h.least m hmmax hmdvd hm).1
    · refine h.last (fun m hmmax hmdvd => Nat.lt_of_not_le fun hm => ?_) n hmax hdvd
      exact hroom ⟨m, hmmax, hmdvd, hm⟩

/-- Rounding a multiple changes nothing. -/
theorem eq_of_dvd (h : Rounds size alignment rounded) (hmax : size ≤ max) (hdvd : alignment ∣ size) :
    rounded = size := by
  obtain ⟨hroom, hleast⟩ := h.least size hmax hdvd (Nat.le_refl size)
  exact Nat.le_antisymm hleast hroom

end Rounds

end VulkanValidity.DeviceSize
