/-
  VulkanValidity.Proofs.HardwareBufferSizes

  How large hardware buffers are.  The size that an import of a buffer has is the least number of whole pages
  with room for its bytes, and these are at least as many as its texels have (`half_le_allocationSize`).

  The dimensions of a buffer are 32-bit numbers that nothing else bounds, so that the size need not fit 64
  bits.  The only number on the way to it that can be too large is the doubled size of the texels
  (`sizeSteps_fit_iff`), which is halved right after.  It can be too large where the size itself is not
  (`doubled_size_too_large`).
-/

import VulkanValidity.Proofs.Acceptance

namespace VulkanValidity

/-! ## Sizes in whole pages -/

theorem HardwareBufferFormat.doubleTexelSize_pos (format : HardwareBufferFormat) :
    0 < format.doubleTexelSize := by
  cases format <;> decide

namespace HardwareBufferInfo

variable (info : HardwareBufferInfo)

/-- No dimension of a buffer that can be allocated is zero. -/
theorem dimensions_pos {info : HardwareBufferInfo} (h : info.isValid = true) :
    0 < info.width ∧ 0 < info.height ∧ 0 < info.layers := by
  simp only [isValid, Bool.and_eq_true, bne_iff_ne, ne_eq] at h
  obtain ⟨⟨⟨hwidth, hheight⟩, hlayers⟩, -⟩ := h
  exact ⟨Nat.pos_of_ne_zero hwidth, Nat.pos_of_ne_zero hheight, Nat.pos_of_ne_zero hlayers⟩

/-- The doubled size of the texels in bytes. -/
def doubledSize : Nat := info.texels * info.format.doubleTexelSize

theorem pageSize_dvd_allocationSize : pageSize ∣ info.allocationSize :=
  DeviceSize.dvd_roundUp info.byteSize pageSize

theorem byteSize_le_allocationSize : info.byteSize ≤ info.allocationSize :=
  DeviceSize.le_roundUp (by decide) info.byteSize

/-- There is no smaller number of whole pages with room for the bytes. -/
theorem allocationSize_le {n : Nat} (hpages : pageSize ∣ n) (hroom : info.byteSize ≤ n) :
    info.allocationSize ≤ n :=
  DeviceSize.roundUp_le (by decide) hpages hroom

theorem baseSize_eq : info.baseSize = (info.doubledSize + 1) / 2 := rfl

theorem baseSize_le_byteSize : info.baseSize ≤ info.byteSize := by
  rw [byteSize]
  split
  · exact Nat.le_add_right _ _
  · exact Nat.le_refl _

theorem byteSize_le : info.byteSize ≤ info.baseSize + (info.baseSize + 2) / 3 := by
  rw [byteSize]
  split
  · exact Nat.le_refl _
  · exact Nat.le_add_right _ _

/-- The bytes of the texels have room. -/
theorem half_le_allocationSize : info.doubledSize ≤ 2 * info.allocationSize := by
  have hbase := info.baseSize_le_byteSize
  have hpages := info.byteSize_le_allocationSize
  rw [baseSize_eq] at hbase
  omega

/-- A buffer with texels has a size. -/
theorem allocationSize_pos {info : HardwareBufferInfo} (hwidth : 0 < info.width) (hheight : 0 < info.height)
    (hlayers : 0 < info.layers) : 0 < info.allocationSize := by
  have hexact : 0 < info.doubledSize :=
    Nat.mul_pos (Nat.mul_pos (Nat.mul_pos hwidth hheight) hlayers) info.format.doubleTexelSize_pos
  have hroom := info.half_le_allocationSize
  omega

/-! ## Numbers on the way -/

/-- The numbers that the calculation of the size goes through, in their order. -/
def sizeSteps : List Nat :=
  [info.width * info.height, info.texels, info.doubledSize, info.baseSize, info.byteSize - info.baseSize,
    info.byteSize, info.allocationSize]

/-- A size whose double fits 64 bits leaves room for a third more and for the rest of a page. -/
theorem allocationSize_le_max (h : info.doubledSize ≤ DeviceSize.max) :
    info.allocationSize ≤ DeviceSize.max := by
  have hmax : DeviceSize.max = 18446744073709551615 := rfl
  have hbytes := info.byteSize_le
  have hpages : info.allocationSize ≤ info.byteSize + (pageSize - 1) := Nat.div_mul_le_self _ _
  rw [baseSize_eq] at hbytes
  simp only [pageSize] at hpages
  omega

theorem sizeFits_iff : info.sizeFits = true ↔ info.doubledSize ≤ DeviceSize.max := by
  rw [sizeFits, Bool.and_eq_true, DeviceSize.fits_iff, DeviceSize.fits_iff]
  exact and_iff_left_of_imp info.allocationSize_le_max

/-- All numbers on the way to the size of a buffer fit 64 bits if its doubled size does. -/
theorem sizeSteps_fit_iff {info : HardwareBufferInfo} (h : info.isValid = true) :
    (∀ n ∈ info.sizeSteps, n ≤ DeviceSize.max) ↔ info.doubledSize ≤ DeviceSize.max := by
  obtain ⟨-, -, hlayers⟩ := dimensions_pos h
  -- Up to the doubled size every factor is at least one, and from there on the size is halved first.
  have hslice : info.width * info.height ≤ info.texels := Nat.le_mul_of_pos_right _ hlayers
  have htexels : info.texels ≤ info.doubledSize :=
    Nat.le_mul_of_pos_right _ info.format.doubleTexelSize_pos
  have hbytes := info.byteSize_le_allocationSize
  have hbase := info.baseSize_le_byteSize
  constructor
  · exact fun hsteps => hsteps _ (by simp [sizeSteps])
  · intro hfits
    have hsize := info.allocationSize_le_max hfits
    simp only [sizeSteps, List.forall_mem_cons, List.not_mem_nil, false_imp_iff, implies_true, and_true]
    exact ⟨by omega, by omega, hfits, by omega, by omega, by omega, hsize⟩

end HardwareBufferInfo

/-! ## Queries -/

/-- Besides the rules about objects, one rule is about a query of a hardware buffer. -/
theorem Standard.evaluate_queryHardwareBuffer (d : Device) (buffer : HardwareBuffer) :
    engine.evaluate (d.context (.queryHardwareBuffer buffer))
      = (objectRules.take 2 ++ [memoryRules[16]]).flatMap fun rule =>
          rule.diagnostics (d.context (.queryHardwareBuffer buffer)) := by
  rfl

/-- The properties of a hardware buffer that the device can use are asked for without a diagnostic. -/
theorem Standard.evaluate_queryHardwareBuffer_eq_nil (d : Device) {buffer : HardwareBuffer}
    (husage : buffer.info.usage.intersects .gpuAny = true) :
    engine.evaluate (d.context (.queryHardwareBuffer buffer)) = [] := by
  rw [evaluate_queryHardwareBuffer, Rule.flatMap_diagnostics_eq_nil]
  intro rule hrule
  simp only [objectRules, memoryRules, List.take, List.cons_append, List.nil_append,
    List.getElem_cons_succ, List.getElem_cons_zero, List.mem_cons, List.not_mem_nil, or_false] at hrule
  -- The query names no objects.
  rcases hrule with rfl | rfl | rfl
  · exact ObjectRules.objectDestroyed_eq_nil.mpr fun id hid => absurd hid List.not_mem_nil
  · exact ObjectRules.objectUnknown_eq_nil.mpr fun id hid => absurd hid List.not_mem_nil
  · exact violationIf_eq_nil.mpr (by rw [husage]; rfl)

/-- What a query of a hardware buffer gives, if the device can use the buffer and its size fits 64 bits. -/
theorem Session.outcome?_hardwareBufferProperties {s : Session}
    (hengine : s.device.engine = Standard.engine) {buffer : HardwareBuffer}
    (husage : buffer.info.usage.intersects .gpuAny = true) :
    s.outcome? (.hardwareBufferProperties buffer)
      = if buffer.info.sizeFits = true then
          some ⟨s.withDevice (s.device.withRegistry
              (s.device.registry.addExternalFormat buffer.info.format.externalFormat)), [],
            .ok (.properties (buffer.properties s.device.environment))⟩
        else none := by
  have hsilent := Standard.evaluate_queryHardwareBuffer_eq_nil s.device husage
  have haccepts : s.device.accepts (.queryHardwareBuffer buffer) = true := by
    rw [Device.accepts, Device.diagnose, hengine, hsilent]
    rfl
  have hrules : s.device.overflows (.queryHardwareBuffer buffer) = false := by
    rw [Device.overflows, hengine]
    rfl
  have hoverflows : s.overflows (.hardwareBufferProperties buffer) = !buffer.info.sizeFits := by
    rw [overflows, Call.operation?]
    simp only [hrules, haccepts, Call.resultOverflows, Bool.false_or, Bool.true_and]
  have hquery : s.device.hardwareBufferProperties buffer
      = ⟨s.device.withRegistry (s.device.registry.addExternalFormat buffer.info.format.externalFormat), [],
          .ok (buffer.properties s.device.environment)⟩ :=
    Device.guarded_of_silent hengine hsilent rfl
  rw [outcome?, hoverflows, step, hquery]
  cases buffer.info.sizeFits <;> rfl

/-! ## Allocated buffers -/

/-- A hardware buffer that was allocated has the given properties, and they are valid ones.  Its number is all
that was used up. -/
theorem Session.allocateHardwareBuffer_ok {s : Session} {info : HardwareBufferInfo} {buffer : HardwareBuffer}
    (h : (s.step (.allocateHardwareBuffer info)).result = .ok (.hardwareBuffer buffer)) :
    buffer.info = info ∧ info.isValid = true
      ∧ (s.step (.allocateHardwareBuffer info)).state.device
        = { s.device with nextHardwareBuffer := s.device.nextHardwareBuffer + 1 } := by
  obtain ⟨allocated, hallocated, hbuffer⟩ := result_onDevice.mp h
  obtain rfl := Reply.hardwareBuffer.inj hbuffer
  rcases Outcome.guarded_cases s.device [] _ with
    ⟨-, e, he⟩ | ⟨value, after, -, hperform, hstate, hvalue⟩
  · cases he.symm.trans hallocated
  · obtain rfl := Except.ok.inj (hvalue.symm.trans hallocated)
    split at hperform
    · cases hperform
    · split at hperform
      · cases hperform
      · next hvalid =>
        obtain ⟨rfl, rfl⟩ := Prod.mk.inj (Except.ok.inj hperform)
        exact ⟨rfl, by simpa using hvalid, hstate⟩

/-- The size of an import of a hardware buffer is a whole number of pages with room for the texels of the
buffer.  It is calculated without a number beyond 64 bits, and reported, exactly if the doubled size of the
texels fits. -/
theorem hardware_buffer_has_room {s : Session} (hengine : s.device.engine = Standard.engine)
    {info : HardwareBufferInfo} {buffer : HardwareBuffer}
    (haccepted : (s.step (.allocateHardwareBuffer info)).result = .ok (.hardwareBuffer buffer)) :
    let properties := buffer.properties s.device.environment
    HardwareBufferInfo.pageSize ∣ properties.allocationSize
    ∧ info.width * info.height * info.layers * info.format.doubleTexelSize ≤ 2 * properties.allocationSize
    ∧ ((∀ n ∈ info.sizeSteps, n ≤ DeviceSize.max)
      ↔ info.width * info.height * info.layers * info.format.doubleTexelSize < 2 ^ 64)
    ∧ (info.usage.intersects .gpuAny = true →
      ((∃ known, (s.step (.allocateHardwareBuffer info)).state.outcome? (.hardwareBufferProperties buffer)
          = some ⟨known, [], .ok (.properties properties)⟩)
        ↔ info.width * info.height * info.layers * info.format.doubleTexelSize < 2 ^ 64)) := by
  intro properties
  obtain ⟨rfl, hvalid, hdevice⟩ := Session.allocateHardwareBuffer_ok haccepted
  have hbound : buffer.info.doubledSize ≤ DeviceSize.max ↔ buffer.info.doubledSize < 2 ^ 64 :=
    Nat.lt_succ_iff.symm
  refine ⟨buffer.info.pageSize_dvd_allocationSize, buffer.info.half_le_allocationSize,
    (HardwareBufferInfo.sizeSteps_fit_iff hvalid).trans hbound, fun husage => Iff.trans ?_ hbound⟩
  rw [Session.outcome?_hardwareBufferProperties (by rw [hdevice]; exact hengine) husage,
    ← buffer.info.sizeFits_iff, hdevice]
  constructor
  · rintro ⟨known, hsome⟩
    by_contra hnot
    rw [if_neg hnot] at hsome
    cases hsome
  · intro hfits
    rw [if_pos hfits]
    exact ⟨_, rfl⟩

/-- A session with hardware buffers. -/
def hardwareBufferSession : Session := .start .android Standard.engine

/-- A buffer of 64 by 64 texels of four bytes takes four pages. -/
theorem smallBuffer_has_room :
    let info : HardwareBufferInfo := { width := 64, height := 64, usage := .gpuSampledImage }
    ∃ buffer, (hardwareBufferSession.step (.allocateHardwareBuffer info)).result
        = .ok (.hardwareBuffer buffer)
      ∧ (buffer.properties hardwareBufferSession.device.environment).allocationSize = 4 * 4096
      ∧ ∀ n ∈ info.sizeSteps, n ≤ DeviceSize.max := by
  intro info
  have haccepted : (hardwareBufferSession.step (.allocateHardwareBuffer info)).result
      = .ok (.hardwareBuffer ⟨1, info⟩) := Outcome.value?_eq_some.mp (by decide +kernel)
  obtain ⟨-, -, hsteps, -⟩ := hardware_buffer_has_room rfl haccepted
  exact ⟨⟨1, info⟩, haccepted, by decide +kernel, hsteps.mpr (by decide)⟩

/-- A buffer of `2 ^ 31` by `2 ^ 31` texels of two bytes.  Its size is `2 ^ 63`, but the double of it does not
fit 64 bits, and a query of its properties goes beyond them. -/
theorem doubled_size_too_large :
    let info : HardwareBufferInfo :=
      { width := 2 ^ 31, height := 2 ^ 31, format := .r5g6b5Unorm, usage := .gpuSampledImage }
    ∃ buffer, (hardwareBufferSession.step (.allocateHardwareBuffer info)).result
        = .ok (.hardwareBuffer buffer)
      ∧ (buffer.properties hardwareBufferSession.device.environment).allocationSize = 2 ^ 63
      ∧ ¬ (∀ n ∈ info.sizeSteps, n ≤ DeviceSize.max)
      ∧ ((hardwareBufferSession.run [.allocateHardwareBuffer info]).outcome?
          (.hardwareBufferProperties buffer)).isNone = true := by
  intro info
  have haccepted : (hardwareBufferSession.step (.allocateHardwareBuffer info)).result
      = .ok (.hardwareBuffer ⟨1, info⟩) := Outcome.value?_eq_some.mp (by decide +kernel)
  exact ⟨⟨1, info⟩, haccepted, by decide +kernel, by decide, by decide +kernel⟩

end VulkanValidity
