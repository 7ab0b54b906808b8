/-
  VulkanValidity.Proofs.HandleEncoding

  How handles hold the type and the serial of an object.  A raw handle is the serial times 256, plus the tag
  (`ObjectId.raw_eq`), so that a handle is known from both parts (`ObjectId.eq_iff`), and the order of raw
  handles is that of the serials and then of the tags (`ObjectId.compare_eq_then`).

  Handles are numbers of 64 bits.  They are read with a shift and a mask, and written with a product that is cut
  off where it does not fit and an or.  The limit of the serials is what makes this the same: the largest serial
  leaves the low eight bits free, and nothing is cut off (`ObjectId.raw_ofSerial_eq_or`).  In the other direction
  the serial of every number of 64 bits is within the limit, so that a known tag makes it the handle of an object
  (`ObjectId.ofSerial_serial`).
-/

import VulkanValidity.Handle
import VulkanValidity.Proofs.DeviceSize

namespace VulkanValidity

namespace ObjectId

variable {id other : ObjectId}

/-! ## The parts of a handle -/

theorem tag_lt (id : ObjectId) : id.tag < tagFactor := Nat.mod_lt _ (by decide)

theorem raw_eq (id : ObjectId) : id.raw = id.serial * tagFactor + id.tag :=
  (Nat.div_add_mod' id.raw tagFactor).symm

/-- A handle is known from its serial and its tag. -/
theorem eq_iff : id = other ↔ id.serial = other.serial ∧ id.tag = other.tag := by
  constructor
  · rintro rfl
    exact ⟨rfl, rfl⟩
  · rintro ⟨hserial, htag⟩
    have hraw : id.raw = other.raw := by rw [raw_eq, raw_eq other, hserial, htag]
    cases id
    cases other
    exact congrArg mk hraw

theorem raw_lt_iff :
    id.raw < other.raw ↔ id.serial < other.serial ∨ id.serial = other.serial ∧ id.tag < other.tag := by
  have hid := id.raw_eq
  have hother := other.raw_eq
  have htag := id.tag_lt
  have htag' := other.tag_lt
  simp only [tagFactor] at hid hother htag htag'
  omega

/-- Handles are ordered by their serials, and those of one serial by their tags. -/
theorem compare_eq_then (id other : ObjectId) :
    compare id other = (compare id.serial other.serial).then (compare id.tag other.tag) := by
  show compare id.raw other.raw = _
  rcases Nat.lt_trichotomy id.serial other.serial with hbefore | heq | hafter
  · rw [Nat.compare_eq_lt.mpr hbefore, Nat.compare_eq_lt.mpr (raw_lt_iff.mpr (.inl hbefore))]
    rfl
  · -- Of handles of one serial the tags decide.
    have hlt : id.raw < other.raw ↔ id.tag < other.tag := by simp [raw_lt_iff, heq]
    have hgt : other.raw < id.raw ↔ other.tag < id.tag := by simp [raw_lt_iff, heq]
    rw [Nat.compare_eq_eq.mpr heq, Ordering.eq_then]
    simp only [Nat.compare_eq_ite_lt, hlt, hgt]
  · rw [Nat.compare_eq_gt.mpr hafter, Nat.compare_eq_gt.mpr (raw_lt_iff.mpr (.inl hafter))]
    rfl

/-! ## Handles of objects -/

theorem downcast?_eq_none {t : ObjectType} : id.downcast? t = none ↔ id.type? ≠ some t := by
  by_cases htype : id.isOf t = true
  · rw [downcast?, dif_pos htype]
    exact iff_of_false (Option.some_ne_none _) fun hne => hne (beq_iff_eq.mp htype)
  · rw [downcast?, dif_neg htype]
    exact iff_of_true rfl fun heq => htype (beq_iff_eq.mpr heq)

theorem downcast?_ofSerial_of_ne {type t : ObjectType} (h : t ≠ type) (serial : Nat) :
    (ofSerial type serial).downcast? t = none := by
  rw [downcast?_eq_none, type?_ofSerial]
  exact fun htype => h (Option.some.inj htype).symm

section Pairs

variable {type type' : ObjectType} {serial serial' : Nat} (h : serial ≤ maxSerial) (h' : serial' ≤ maxSerial)
include h h'

theorem ofSerial_inj : ofSerial type serial = ofSerial type' serial' ↔ type = type' ∧ serial = serial' := by
  rw [eq_iff, serial_ofSerial_of_le type h, serial_ofSerial_of_le type' h', tag_ofSerial, tag_ofSerial,
    ObjectType.tag_inj, and_comm]

theorem compare_ofSerial :
    compare (ofSerial type serial) (ofSerial type' serial')
      = (compare serial serial').then (compare type.tag type'.tag) := by
  rw [compare_eq_then, serial_ofSerial_of_le type h, serial_ofSerial_of_le type' h', tag_ofSerial, tag_ofSerial]

end Pairs

/-! ## Handles in 64 bits -/

theorem serial_eq_shiftRight (id : ObjectId) : id.serial = id.raw >>> 8 :=
  (Nat.shiftRight_eq_div_pow id.raw 8).symm

theorem tag_eq_and (id : ObjectId) : id.tag = id.raw &&& 0xff :=
  (Nat.and_two_pow_sub_one_eq_mod id.raw 8).symm

theorem maxSerial_eq : maxSerial = 2 ^ 56 - 1 := by decide

/-- The limit of the serials is the limit of the raw handles: the tag makes no difference. -/
theorem serial_le_iff : id.serial ≤ maxSerial ↔ id.raw < 2 ^ 64 := by
  have hraw := id.raw_eq
  have htag := id.tag_lt
  rw [maxSerial_eq]
  simp only [tagFactor] at hraw htag
  omega

section OfSerial

variable (type : ObjectType) (serial : Nat)

theorem raw_ofSerial_lt : (ofSerial type serial).raw < 2 ^ 64 := by
  rw [← serial_le_iff, serial_ofSerial]
  exact Nat.min_le_right serial maxSerial

/-- Multiplying a serial within the limit cuts nothing off, and the tag fits into the bits that are free. -/
theorem raw_ofSerial_eq_or :
    (ofSerial type serial).raw = DeviceSize.mul (min serial maxSerial) tagFactor ||| type.tag := by
  -- The product is at most the handle, which is a number of 64 bits.
  have hfits : min serial maxSerial * tagFactor ≤ DeviceSize.max :=
    Nat.le_trans (Nat.le_add_right _ type.tag) (Nat.le_pred_of_lt (raw_ofSerial_lt type serial))
  have hfactor : tagFactor = 2 ^ 8 := rfl
  have htag : type.tag < 2 ^ 8 := typeTag_lt type
  rw [DeviceSize.mul, DeviceSize.saturate_of_le hfits, ofSerial, hfactor, ← Nat.shiftLeft_eq]
  exact Nat.shiftLeft_add_eq_or_of_lt htag _

end OfSerial

theorem raw_ofSerial_pos (type : ObjectType) {serial : Nat} (h : 1 ≤ serial) :
    0 < (ofSerial type serial).raw := by
  have hserial : 0 < min serial maxSerial := Nat.lt_min.mpr ⟨h, by decide⟩
  exact Nat.lt_of_lt_of_le (Nat.mul_pos hserial (by decide)) (Nat.le_add_right _ type.tag)

/-- A number of 64 bits with a known tag is the handle of its own type and serial. -/
theorem ofSerial_serial {type : ObjectType} (htype : id.type? = some type) (hraw : id.raw < 2 ^ 64) :
    ofSerial type id.serial = id := by
  rw [eq_iff, serial_ofSerial, tag_ofSerial]
  exact ⟨Nat.min_eq_left (serial_le_iff.mpr hraw), (ObjectType.ofTag?_eq_some.mp htype).symm⟩

end ObjectId

/-- The handle of a type and a serial holds both.  It gives them back and is a handle of that type only; handles
are the same if both parts are, and they are ordered by serials first and by types second.  Serials beyond 56
bits all become the largest one, and the type stays intact.  In the other direction every number of 64 bits with
a known tag and a serial is the handle of its own parts. -/
theorem handles_encode_exactly (type : ObjectType) :
    (∀ serial, 1 ≤ serial → serial < 2 ^ 64 →
      let id := ObjectId.ofSerial type serial
      id.raw = DeviceSize.mul (min serial (DeviceSize.max >>> 8)) (1 <<< 8) ||| type.tag
      ∧ 0 < id.raw ∧ id.raw < 2 ^ 64
      ∧ (serial ≤ 2 ^ 56 - 1 → id.serial = serial) ∧ (2 ^ 56 - 1 < serial → id.serial = 2 ^ 56 - 1)
      ∧ id.type? = some type
      ∧ id.downcast? type = some (.ofSerial type serial) ∧ ∀ other ≠ type, id.downcast? other = none)
    ∧ (∀ serial, 1 ≤ serial → serial ≤ 2 ^ 56 - 1 → ∀ type' serial', 1 ≤ serial' → serial' ≤ 2 ^ 56 - 1 →
      (ObjectId.ofSerial type serial = ObjectId.ofSerial type' serial' ↔ type = type' ∧ serial = serial')
      ∧ compare (ObjectId.ofSerial type serial) (ObjectId.ofSerial type' serial')
        = (compare serial serial').then (compare type.tag type'.tag))
    ∧ ∀ id : ObjectId, 0 < id.raw → id.raw < 2 ^ 64 →
      id.serial = id.raw >>> 8 ∧ id.type? = ObjectType.ofTag? (id.raw &&& 0xff)
      ∧ (id.type? = some type → id.serial ≠ 0 →
        1 ≤ id.serial ∧ id.serial ≤ 2 ^ 56 - 1 ∧ ObjectId.ofSerial type id.serial = id) := by
  -- The lemmas on handles know the last serial by its name only.
  rw [← ObjectId.maxSerial_eq]
  refine ⟨?_, ?_, ?_⟩
  · intro serial hpos _
    have hlast (hlarge : ObjectId.maxSerial < serial) :
        (ObjectId.ofSerial type serial).serial = ObjectId.maxSerial := by
      rw [ObjectId.serial_ofSerial, Nat.min_eq_right (Nat.le_of_lt hlarge)]
    exact ⟨ObjectId.raw_ofSerial_eq_or type serial, ObjectId.raw_ofSerial_pos type hpos,
      ObjectId.raw_ofSerial_lt type serial, ObjectId.serial_ofSerial_of_le type, hlast,
      ObjectId.type?_ofSerial type serial, ObjectId.downcast?_erase (.ofSerial type serial),
      fun other hother => ObjectId.downcast?_ofSerial_of_ne hother serial⟩
  · intro serial _ hfits type' serial' _ hfits'
    exact ⟨ObjectId.ofSerial_inj hfits hfits', ObjectId.compare_ofSerial hfits hfits'⟩
  · intro id _ hraw
    have hread : id.type? = ObjectType.ofTag? (id.raw &&& 0xff) := by
      rw [ObjectId.type?, ObjectId.tag_eq_and]
    refine ⟨id.serial_eq_shiftRight, hread, fun htype hserial => ?_⟩
    exact ⟨Nat.one_le_iff_ne_zero.mpr hserial, ObjectId.serial_le_iff.mpr hraw,
      ObjectId.ofSerial_serial htype hraw⟩

/-- The swapchain with the largest serial comes after the image with that serial, and the largest number of 64
bits sticks at that serial as well. -/
theorem lastSwapchain_encodes :
    let last := ObjectId.ofSerial .swapchain (2 ^ 56 - 1)
    1 ≤ 2 ^ 56 - 1 ∧ 2 ^ 64 - 1 < 2 ^ 64
    ∧ last.serial = 2 ^ 56 - 1 ∧ last.type? = some .swapchain ∧ last.downcast? .image = none
    ∧ compare last (ObjectId.ofSerial .image (2 ^ 56 - 1)) = .gt
    ∧ (ObjectId.ofSerial .swapchain (2 ^ 64 - 1)).serial = 2 ^ 56 - 1
    ∧ (ObjectId.mk 0xffffffffffffff07).type? = some .swapchain ∧ last = ⟨0xffffffffffffff07⟩ := by
  intro last
  have hpos : 1 ≤ 2 ^ 56 - 1 := by decide
  have hword : 2 ^ 64 - 1 < 2 ^ 64 := by decide
  have htag : (ObjectId.mk 0xffffffffffffff07).type? = some .swapchain := by decide
  obtain ⟨hobjects, hpairs, hwords⟩ := handles_encode_exactly .swapchain
  obtain ⟨-, -, -, hserial, -, htype, -, hother⟩ := hobjects (2 ^ 56 - 1) hpos (by decide)
  obtain ⟨-, -, -, -, hlarge, -⟩ := hobjects (2 ^ 64 - 1) (by decide) hword
  obtain ⟨-, horder⟩ := hpairs (2 ^ 56 - 1) hpos (Nat.le_refl _) .image (2 ^ 56 - 1) hpos (Nat.le_refl _)
  obtain ⟨-, -, hparts⟩ := hwords ⟨0xffffffffffffff07⟩ (by decide) (by decide)
  obtain ⟨-, -, hlast⟩ := hparts htag (by decide)
  exact ⟨hpos, hword, hserial (Nat.le_refl _), htype, hother .image (by decide), horder, hlarge (by decide),
    htag, hlast⟩

end VulkanValidity
