/-
  VulkanValidity.Proofs.Allocations

  The allocations of a device.  They are made by `allocateMemory` and removed when they are destroyed, and
  every other call leaves them as they are (`Session.memories_step`).  An allocation never changes, so that
  one that is alive after a call was alive before, or is the one that the call made (`Session.memory_step`).

  Sizes are 64-bit numbers.  The library keeps them as natural numbers, and the size of an allocation fits
  64 bits as long as the calls that allocate memory ask for sizes that do (`Session.allocationsFit_run`).
-/

import VulkanValidity.Proofs.DeviceSize
import VulkanValidity.Proofs.Footprints

namespace VulkanValidity

/-! ## Calls -/

/-- The allocations that are alive. -/
def Device.memories (d : Device) : Store .deviceMemory DeviceMemory := d.registry.memories

/-- Whether a call makes or destroys an allocation. -/
def Call.isAboutMemory : Call → Bool
  | .allocateMemory _ => true
  | .destroy .deviceMemory _ => true
  | _ => false

theorem Call.not_mem_footprint_of_isAboutMemory {call : Call} (h : call.isAboutMemory = false) :
    .deviceMemory ∉ call.footprint := by
  cases call with
  | allocateMemory info => cases h
  | destroy type handle =>
    cases type with
    | deviceMemory => cases h
    | _ => simp [footprint]
  | _ => simp [footprint]

/-- Calls that neither make nor destroy allocations leave them as they are. -/
theorem Session.memories_step (s : Session) {call : Call} (h : call.isAboutMemory = false) :
    (s.step call).state.device.memories = s.device.memories :=
  s.objects_step (Call.not_mem_footprint_of_isAboutMemory h)

/-! ## Making allocations -/

namespace Device

/-- What an allocation is made from is no allocation. -/
theorem memories_takeImport (r : Registry) (source : Option MemoryImport) :
    (takeImport r source).memories = r.memories := by
  unfold takeImport
  split <;> rfl

theorem nextSerial_takeImport (r : Registry) (source : Option MemoryImport) :
    (takeImport r source).nextSerial = r.nextSerial := by
  unfold takeImport
  split <;> rfl

/-- The size of an allocation is the one that was asked for.  If none was, and the allocation makes a hardware
buffer for an image, it is what the image needs. -/
theorem allocationSize_cases {d : Device} {info : AllocationInfo} {size : Nat}
    (h : d.allocationSize info = .ok size) :
    (size = info.size ∧ (info.size = 0 → info.exportsHardwareBufferForImage = false))
      ∨ ∃ handle image, info.dedicated = some (.image handle) ∧ d.registry.get? handle = some image
        ∧ size = (image.info.requirements d.environment).size := by
  unfold allocationSize at h
  split at h
  · next handle hdedicated =>
    split at h
    · obtain ⟨image, hget, h⟩ := bind_eq_ok.mp h
      exact Or.inr ⟨handle, image, hdedicated, Registry.get_eq_ok.mp hget, (pure_eq_ok.mp h).symm⟩
    · next hasked =>
      exact Or.inl ⟨(Except.ok.inj h).symm, fun hzero =>
        Bool.eq_false_iff.mpr fun hexports => hasked ⟨hzero, hexports⟩⟩
  · next hother =>
    refine Or.inl ⟨(Except.ok.inj h).symm, fun _ => ?_⟩
    unfold AllocationInfo.exportsHardwareBufferForImage
    split
    · next handle hdedicated => exact absurd hdedicated (hother handle)
    · exact Bool.and_false _

/-- An allocation is made if the rules accept it and its size can be told. -/
theorem allocateMemory_cases (d : Device) (info : AllocationInfo) :
    ((d.allocateMemory info).state = d ∧ ∃ e, (d.allocateMemory info).result = .error e)
      ∨ ∃ size, verdict (d.diagnose (.allocateMemory info)) = .ok () ∧ d.allocationSize info = .ok size
        ∧ (d.allocateMemory info).state = ((d.withRegistry (takeImport d.registry info.source)).insert
          .deviceMemory (.ofInfo info size)).2
        ∧ (d.allocateMemory info).result = .ok (.ofSerial .deviceMemory d.registry.nextSerial) := by
  rcases Outcome.guarded_cases d (d.diagnose (.allocateMemory info)) _ with
    h | ⟨value, after, haccepted, hperform, hs, hv⟩
  · exact Or.inl h
  · obtain ⟨size, hsize, hperform⟩ := bind_eq_ok.mp hperform
    obtain ⟨rfl, rfl⟩ := Prod.mk.inj (pure_eq_ok.mp hperform)
    refine Or.inr ⟨size, haccepted, hsize, hs, hv.trans ?_⟩
    show Except.ok (Handle.ofSerial .deviceMemory (takeImport d.registry info.source).nextSerial) = _
    rw [nextSerial_takeImport]

/-- The allocations are the ones before, and the new one. -/
theorem memories_of_insert (d : Device) (info : AllocationInfo) (size : ℕ) :
    ((d.withRegistry (takeImport d.registry info.source)).insert .deviceMemory (.ofInfo info size)).2.memories
      = d.memories.insert (.ofSerial .deviceMemory d.registry.nextSerial) (.ofInfo info size) := by
  show (takeImport d.registry info.source).memories.insert
    (.ofSerial .deviceMemory (takeImport d.registry info.source).nextSerial) (.ofInfo info size) = _
  rw [memories_takeImport, nextSerial_takeImport]
  rfl

end Device

/-- A call for an allocation leaves the device alone, or makes the allocation as the next object. -/
theorem Session.allocateMemory_cases (s : Session) (info : AllocationInfo) :
    ((s.step (.allocateMemory info)).state.device = s.device
        ∧ ∃ e, (s.step (.allocateMemory info)).result = .error e)
      ∨ ∃ size, verdict (s.device.diagnose (.allocateMemory info)) = .ok ()
        ∧ s.device.allocationSize info = .ok size
        ∧ (s.step (.allocateMemory info)).state.device
          = ((s.device.withRegistry (Device.takeImport s.device.registry info.source)).insert
            .deviceMemory (.ofInfo info size)).2
        ∧ (s.step (.allocateMemory info)).result
          = .ok (.object (Handle.ofSerial .deviceMemory s.device.registry.nextSerial).erase) := by
  let reply (handle : Handle .deviceMemory) : Reply := .object handle.erase
  rcases s.device.allocateMemory_cases info with ⟨hs, e, he⟩ | ⟨size, haccepted, hsize, hs, hv⟩
  · exact Or.inl ⟨hs, e, congrArg (Except.map reply) he⟩
  · exact Or.inr ⟨size, haccepted, hsize, hs, congrArg (Except.map reply) hv⟩

/-- An allocation that is alive after a call was alive before it, or was made by it. -/
theorem Session.memory_step (s : Session) (call : Call) {handle : Handle .deviceMemory}
    {memory : DeviceMemory} (h : (s.step call).state.device.memories.get? handle = some memory) :
    s.device.memories.get? handle = some memory
      ∨ ∃ info size, call = .allocateMemory info
        ∧ verdict (s.device.diagnose (.allocateMemory info)) = .ok ()
        ∧ s.device.allocationSize info = .ok size ∧ memory = .ofInfo info size := by
  by_cases habout : call.isAboutMemory = true
  · cases call with
    | allocateMemory info =>
      rcases s.allocateMemory_cases info with ⟨hs, -⟩ | ⟨size, haccepted, hsize, hs, -⟩
      · rw [hs] at h
        exact Or.inl h
      · rw [hs, s.device.memories_of_insert, Store.get?_insert, Option.or_eq_some_iff] at h
        rcases h with hold | ⟨-, hnew⟩
        · exact Or.inl hold
        · split at hnew
          · exact Or.inr ⟨info, size, rfl, haccepted, hsize, (Option.some.inj hnew).symm⟩
          · cases hnew
    | destroy type destroyed =>
      cases type with
      | deviceMemory =>
        have hleft : (s.device.destroy destroyed).state.registry.get? handle = some memory := h
        exact Or.inl (s.device.get?_of_destroy destroyed hleft)
      | _ => cases habout
    | _ => cases habout
  · rw [s.memories_step (Bool.eq_false_iff.mpr habout)] at h
    exact Or.inl h

/-! ## Sizes -/

/-- Whether the size that a call allocates is a 64-bit number. -/
def Call.allocationFits : Call → Bool
  | .allocateMemory info => DeviceSize.fits info.size
  | _ => true

namespace Device

/-- The size of every allocation is a 64-bit number. -/
def AllocationsFit (d : Device) : Prop :=
  ∀ handle allocation, d.memories.get? handle = some allocation → allocation.size ≤ DeviceSize.max

theorem allocationSize_le {d : Device} {info : AllocationInfo} (hfits : info.size ≤ DeviceSize.max)
    {size : Nat} (h : d.allocationSize info = .ok size) : size ≤ DeviceSize.max := by
  rcases allocationSize_cases h with ⟨rfl, -⟩ | ⟨handle, image, -, -, rfl⟩
  · exact hfits
  · exact DeviceSize.alignUp_le_max _ _

end Device

namespace Session

theorem allocationsFit_step {s : Session} (h : s.device.AllocationsFit) {call : Call}
    (hcall : call.allocationFits = true) : (s.step call).state.device.AllocationsFit := by
  intro handle memory hget
  rcases s.memory_step call hget with hold | ⟨info, size, rfl, -, hsize, rfl⟩
  · exact h handle memory hold
  · exact Device.allocationSize_le (DeviceSize.fits_iff.mp hcall) hsize

/-- In a run that allocates 64-bit sizes, the size of every allocation is a 64-bit number. -/
theorem allocationsFit_run {s : Session} (h : s.device.AllocationsFit) {calls : List Call}
    (hcalls : ∀ call ∈ calls, call.allocationFits = true) : (s.run calls).device.AllocationsFit := by
  induction calls generalizing s with
  | nil => exact h
  | cons call calls ih =>
    exact ih (allocationsFit_step h (hcalls call List.mem_cons_self)) fun other hother =>
      hcalls other (List.mem_cons_of_mem call hother)

end Session

end VulkanValidity
