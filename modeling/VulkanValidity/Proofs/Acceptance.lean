/-
  VulkanValidity.Proofs.Acceptance

  Operations that the standard engine says nothing about.  Elsewhere it is asked what follows if a rule
  reports nothing; here it is asked when none of them reports anything.  Of all rules a few look at an
  operation of one kind, besides the ones about the objects that it names, and if these objects are alive and
  the few rules have nothing to complain about, the operation is accepted without any diagnostic.

  This is done for queries of requirements, for plain allocations (`DeviceMemory.IsPlain`), and for bindings
  of plain allocations (`BindingRules.Target.Suits`).
-/

import VulkanValidity.Proofs.Bindings
import VulkanValidity.Proofs.Diagnosis
import VulkanValidity.Proofs.Flags
import VulkanValidity.Proofs.LinearLayouts

namespace VulkanValidity

/-! ## Rules that are silent -/

namespace Standard

variable {d : Device}

/-- The rules about objects say nothing about objects that are alive. -/
theorem objectRules_silent (hlives : d.registry.Lives) {operation : Operation}
    (halive : ∀ id ∈ operation.objects, d.registry.contains id = true) :
    ∀ rule ∈ objectRules.take 2, rule.predicate.check (d.context operation) = [] := by
  intro rule hrule
  rcases List.mem_pair.mp hrule with rfl | rfl
  · exact ObjectRules.objectDestroyed_eq_nil.mpr fun id hid => hlives.not_isDestroyed (halive id hid)
  · exact ObjectRules.objectUnknown_eq_nil.mpr fun id hid => Registry.isKnown_of_contains (halive id hid)

/-- An operation on live objects is accepted without a diagnostic if the rules of its own have nothing to
complain about. -/
theorem evaluate_eq_nil_of_own (hlives : d.registry.Lives) {operation : Operation} {own : List Rule}
    (hrules : engine.evaluate (d.context operation)
      = (objectRules.take 2 ++ own).flatMap fun rule => rule.diagnostics (d.context operation))
    (halive : ∀ id ∈ operation.objects, d.registry.contains id = true)
    (hown : ∀ rule ∈ own, rule.predicate.check (d.context operation) = []) :
    engine.evaluate (d.context operation) = [] := by
  rw [hrules, Rule.flatMap_diagnostics_eq_nil]
  exact fun rule hrule =>
    (List.mem_append.mp hrule).elim (objectRules_silent hlives halive rule) (hown rule)

end Standard

/-- An operation that no rule says anything about is performed. -/
theorem Device.guarded_of_silent {d : Device} (hengine : d.engine = Standard.engine) {operation : Operation}
    (hsilent : Standard.engine.evaluate (d.context operation) = []) {α : Type}
    {perform : Except Error (α × Device)} {value : α} {after : Device} (h : perform = .ok (value, after)) :
    d.guarded operation perform = ⟨after, [], .ok value⟩ := by
  rw [guarded, diagnose, hengine, hsilent, h]
  rfl

/-- A call has an outcome if no rule computes a number beyond its width, and nothing after that does. -/
theorem Session.outcome?_of_fits {s : Session} (hengine : s.device.engine = Standard.engine) {call : Call}
    {operation : Operation} (hoperation : call.operation? = some operation)
    (hrules : Standard.engine.overflows (s.device.context operation) = false)
    (hresult : call.resultOverflows = false) : s.outcome? call = some (s.step call) := by
  have hfits : s.overflows call = false := by
    simp only [overflows, hoperation, Device.overflows, hengine, hrules, hresult, Bool.and_false,
      Bool.or_false]
  rw [outcome?, hfits]
  rfl

/-! ## Queries of requirements -/

namespace Standard

variable {d : Device} (hlives : d.registry.Lives)
include hlives

/-- The requirements of a live image can be queried, unless they wait for a binding. -/
theorem evaluate_imageRequirements_eq_nil {handle : Handle .image} {image : Image}
    (hget : d.registry.get? handle = some image)
    (hready : (image.info.isDeferred && !image.isBound) = false) (extended : Bool) :
    engine.evaluate (d.context (.queryImageRequirements handle extended)) = [] := by
  have hbound : BindingRules.deferredBound (d.context (.queryImageRequirements handle extended)) handle
      = [] := by
    simp only [BindingRules.deferredBound, Device.context, hget]
    exact violationIf_eq_nil.mpr hready
  have hbefore (asked : Bool) : BindingRules.requirementsBeforeBind asked
      (d.context (.queryImageRequirements handle extended)) = [] :=
    (ite_congr rfl (fun _ => hbound) fun _ => rfl).trans (ite_self [])
  refine evaluate_eq_nil_of_own hlives (evaluate_queryImageRequirements d handle extended)
    (fun id hid => ?_) fun rule hrule => ?_
  · rw [List.mem_singleton.mp hid]
    exact Registry.contains_of_get? hget
  · rcases List.mem_pair.mp hrule with rfl | rfl
    · exact hbefore false
    · exact hbefore true

end Standard

namespace Session

variable {s : Session}

/-- What a query of the requirements of an image gives. -/
theorem outcome?_imageRequirements (hengine : s.device.engine = Standard.engine)
    (hlives : s.device.registry.Lives) {handle : Handle .image} {image : Image}
    (hget : s.device.registry.get? handle = some image)
    (hready : (image.info.isDeferred && !image.isBound) = false) (extended : Bool) :
    s.outcome? (.imageRequirements handle extended)
      = some ⟨s, [], .ok (.requirements (s.device.imageNeeds image))⟩ := by
  have hquery : s.device.imageRequirements handle extended
      = ⟨s.device, [], .ok (s.device.imageNeeds image)⟩ := by
    refine Device.guarded_of_silent hengine
      (Standard.evaluate_imageRequirements_eq_nil hlives hget hready extended) ?_
    rw [Registry.get_eq_ok.mpr hget]
    rfl
  rw [outcome?_of_fits hengine rfl rfl rfl, step, hquery]
  rfl

/-- What a query of the requirements of a buffer gives. -/
theorem outcome?_bufferRequirements {handle : Handle .buffer} {buffer : Buffer}
    (hget : s.device.registry.get? handle = some buffer) :
    s.outcome? (.bufferRequirements handle)
      = some ⟨s, [], .ok (.requirements (buffer.info.requirements s.device.environment))⟩ := by
  have hquery : s.device.bufferRequirements handle
      = ⟨s.device, [], .ok (buffer.info.requirements s.device.environment)⟩ := by
    rw [Device.bufferRequirements, Registry.get_eq_ok.mpr hget]
    rfl
  rw [show s.outcome? (.bufferRequirements handle) = some (s.step (.bufferRequirements handle)) from rfl,
    step, hquery]
  rfl

end Session

/-! ## Plain allocations -/

/-- The allocation takes nothing in, gives nothing out, and is not made for one resource. -/
structure DeviceMemory.IsPlain (memory : DeviceMemory) : Prop where
  dedicated : memory.dedicated = none
  exportTypes : memory.exportTypes = ∅
  source : memory.source = none

theorem AllocationInfo.not_exportsHardwareBufferForImage {info : AllocationInfo} (h : info.exportTypes = ∅) :
    info.exportsHardwareBufferForImage = false := by
  rw [exportsHardwareBufferForImage, h, Flags.intersects_comm, Flags.intersects_empty, Bool.false_and]

namespace Standard

/-- Besides the rules about objects, three rules are about a plain allocation. -/
theorem evaluate_allocateMemory (d : Device) (size type : ℕ) :
    engine.evaluate (d.context (.allocateMemory { size := size, memoryType := type }))
      = (objectRules.take 2 ++ memoryRules.take 3).flatMap fun rule =>
          rule.diagnostics (d.context (.allocateMemory { size := size, memoryType := type })) := by
  rfl

/-- A plain allocation has a size, and a memory type of the environment. -/
theorem evaluate_allocateMemory_eq_nil {d : Device} (hlives : d.registry.Lives) {size type : ℕ}
    (hsize : 0 < size) (htype : type < d.environment.memoryTypes.length) :
    engine.evaluate (d.context (.allocateMemory { size := size, memoryType := type })) = [] := by
  refine evaluate_eq_nil_of_own hlives (evaluate_allocateMemory d size type)
    (fun id hid => (List.not_mem_nil hid).elim) ?_
  intro rule hrule
  simp only [memoryRules, List.take, List.mem_cons, List.not_mem_nil, or_false] at hrule
  rcases hrule with rfl | rfl | rfl
  · exact violationIf_eq_nil.mpr (decide_eq_false (Nat.not_le_of_lt htype))
  · refine violationIf_eq_nil.mpr ?_
    rw [beq_eq_false_iff_ne.mpr (Nat.ne_of_gt hsize), Bool.false_and, Bool.false_and]
  · refine violationIf_eq_nil.mpr ?_
    rw [AllocationInfo.not_exportsHardwareBufferForImage rfl, Bool.false_and]

end Standard

/-- A plain allocation of some size is made, and is the next object. -/
theorem Session.outcome?_allocateMemory {s : Session} (hengine : s.device.engine = Standard.engine)
    (hlives : s.device.registry.Lives) {size type : ℕ} (hsize : 0 < size)
    (htype : type < s.device.environment.memoryTypes.length) :
    s.outcome? (.allocateMemory { size := size, memoryType := type })
      = some ⟨s.withDevice (s.device.insert .deviceMemory ⟨size, type, none, ∅, none⟩).2, [],
          .ok (.object (Handle.ofSerial .deviceMemory s.device.registry.nextSerial).erase)⟩ := by
  have hallocation : s.device.allocateMemory { size := size, memoryType := type }
      = ⟨(s.device.insert .deviceMemory ⟨size, type, none, ∅, none⟩).2, [],
          .ok (.ofSerial .deviceMemory s.device.registry.nextSerial)⟩ :=
    Device.guarded_of_silent hengine (Standard.evaluate_allocateMemory_eq_nil hlives hsize htype) rfl
  rw [outcome?_of_fits hengine rfl rfl rfl, step, hallocation]
  rfl

/-! ## Bindings -/

/-- The operation that binds a resource to an allocation. -/
def Resource.bindOperation (memory : Handle .deviceMemory) (offset : ℕ) : Resource → Operation
  | .image handle => .bindImage handle memory offset
  | .buffer handle => .bindBuffer handle memory offset

namespace BindingRules

/-- A resource without memory is bound to a plain allocation that has room for it. -/
structure Target.Suits (target : Target) : Prop where
  unbound : target.isBound = false
  now : target.isDeferred = false
  shared : target.requirements.requiresDedicated = false
  plain : target.memory.IsPlain
  accepted : target.requirements.AcceptedAt target.memory target.offset
  inside : target.offset < target.memory.size
  /-- The memory type has a place in a mask of 32 bits. -/
  maskable : target.memory.memoryType < 32

/-- The checks on bindings. -/
def checks : List (Target → List Violation) :=
  [notBound, offsetInRange, memoryType, offsetAlignment, size, requiresDedicated, dedicatedMismatch,
    hardwareBufferHandleType, importHandleType, exportHandleType]

/-- The checks have nothing to complain about. -/
def Target.IsSilent (target : Target) : Prop := ∀ check ∈ checks, check target = []

theorem Target.Suits.isSilent {target : Target} (h : target.Suits) : target.IsSilent := by
  intro check hcheck
  obtain ⟨hdedicated, hexport, hsource⟩ := h.plain
  simp only [checks, List.mem_cons, List.not_mem_nil, or_false] at hcheck
  rcases hcheck with rfl | rfl | rfl | rfl | rfl | rfl | rfl | rfl | rfl | rfl
  · exact violationIf_eq_nil.mpr h.unbound
  · exact violationIf_eq_nil.mpr (decide_eq_false (Nat.not_le_of_lt h.inside))
  · exact violationIf_eq_nil.mpr (by rw [h.accepted.type, Bool.not_true, Bool.and_false])
  · exact violationIf_eq_nil.mpr (bne_eq_false_iff_eq.mpr h.accepted.aligned)
  · refine violationIf_eq_nil.mpr ?_
    rw [decide_eq_false (Nat.not_lt_of_le h.accepted.size), Bool.and_false]
  · exact violationIf_eq_nil.mpr (by rw [h.shared, Bool.false_and])
  · rw [dedicatedMismatch, hdedicated]
  · exact violationIf_eq_nil.mpr (by rw [hsource]; rfl)
  · rw [importHandleType, hsource]
  · exact violationIf_eq_nil.mpr (by rw [hexport]; rfl)

theorem Target.Suits.not_overflows {target : Target} (h : target.Suits) :
    memoryTypeOverflows target = false := by
  rw [memoryTypeOverflows, decide_eq_false (Nat.not_le_of_lt h.maskable), Bool.and_false]

end BindingRules

namespace Standard

/-- Each check on bindings is one rule for images and one for buffers. -/
theorem checks_bindingRules : (bindingRules.take 20).map (fun rule => rule.predicate.check)
    = BindingRules.checks.flatMap fun check =>
        [BindingRules.onImage check, BindingRules.onBuffer check] := by
  rfl

theorem bindingRules_silent {ctx : Context}
    (himage : ∀ target, BindingRules.imageTarget? ctx = some target → target.IsSilent)
    (hbuffer : ∀ target, BindingRules.bufferTarget? ctx = some target → target.IsSilent) :
    ∀ rule ∈ bindingRules.take 20, rule.predicate.check ctx = [] := by
  have hsilent {find : Context → Option BindingRules.Target}
      (h : ∀ target, find ctx = some target → target.IsSilent)
      {check : BindingRules.Target → List Violation} (hcheck : check ∈ BindingRules.checks) :
      (find ctx).elim [] check = [] := by
    cases htarget : find ctx with
    | none => rfl
    | some target => exact h target htarget check hcheck
  intro rule hrule
  have hmem := List.mem_map_of_mem (f := fun rule : Rule => rule.predicate.check) hrule
  rw [checks_bindingRules, List.mem_flatMap] at hmem
  obtain ⟨check, hcheck, hrule⟩ := hmem
  rcases List.mem_pair.mp hrule with heq | heq
  · rw [heq]
    exact hsilent himage hcheck
  · rw [heq]
    exact hsilent hbuffer hcheck

/-- Besides the rules about objects, the rules about bindings are about the binding of a resource. -/
theorem evaluate_bindOperation (d : Device) (resource : Resource) (memory : Handle .deviceMemory)
    (offset : ℕ) : engine.evaluate (d.context (resource.bindOperation memory offset))
      = (objectRules.take 2 ++ bindingRules.take 20).flatMap fun rule =>
          rule.diagnostics (d.context (resource.bindOperation memory offset)) := by
  cases resource <;> rfl

theorem overflows_bindOperation (d : Device) (resource : Resource) (memory : Handle .deviceMemory)
    (offset : ℕ) : engine.overflows (d.context (resource.bindOperation memory offset))
      = ((BindingRules.imageTarget? (d.context (resource.bindOperation memory offset))).any
          BindingRules.memoryTypeOverflows
        || (BindingRules.bufferTarget? (d.context (resource.bindOperation memory offset))).any
          BindingRules.memoryTypeOverflows) := by
  cases resource with
  | image handle => rfl
  | buffer handle =>
    exact Bool.or_false ((BindingRules.bufferTarget? (d.context (.bindBuffer handle memory offset))).any
      BindingRules.memoryTypeOverflows)

end Standard

/-- Whether a resource is alive and has no memory. -/
def Registry.isUnbound (r : Registry) : Resource → Bool
  | .image handle => (r.images.get? handle).any fun image => !image.isBound
  | .buffer handle => (r.buffers.get? handle).any fun buffer => !buffer.isBound

namespace Device

/-- A resource without memory can be bound to a plain allocation, which has room for what it needs. -/
structure CanBind (d : Device) (resource : Resource) (memory : Handle .deviceMemory) (offset : ℕ)
    (required : MemoryRequirements) : Prop where
  unbound : d.registry.isUnbound resource = true
  now : d.registry.isDeferred resource = false
  needs : d.registry.requirements? d.environment resource = some required
  room : ∃ allocation, d.registry.get? memory = some allocation ∧ allocation.IsPlain
    ∧ required.AcceptedAt allocation offset ∧ offset < allocation.size ∧ allocation.memoryType < 32

variable {d : Device} {resource : Resource} {memory : Handle .deviceMemory} {offset : ℕ}
  {required : MemoryRequirements} (h : d.CanBind resource memory offset required)
include h

/-- What the rules look at suits them. -/
theorem CanBind.suits :
    (∀ target, BindingRules.imageTarget? (d.context (resource.bindOperation memory offset)) = some target →
      target.Suits)
    ∧ ∀ target, BindingRules.bufferTarget? (d.context (resource.bindOperation memory offset))
        = some target → target.Suits := by
  obtain ⟨allocation, hmemory, hplain, haccepted, hinside, hmaskable⟩ := h.room
  have hunbound := h.unbound
  have hnow := h.now
  have hneeds := h.needs
  cases resource with
  | image handle =>
    obtain ⟨image, hget, rfl⟩ := Option.map_eq_some_iff.mp hneeds
    have himage : d.registry.get? handle = some image := hget
    simp only [Registry.isUnbound, Registry.isDeferred, hget, Option.any_some] at hunbound hnow
    refine ⟨fun target htarget => ?_, fun target htarget => (by cases htarget)⟩
    simp only [BindingRules.imageTarget?, context, Resource.bindOperation, himage, hmemory,
      Option.some.injEq] at htarget
    subst htarget
    exact ⟨(Bool.not_eq_true' _).mp hunbound, hnow, hnow, hplain, haccepted, hinside, hmaskable⟩
  | buffer handle =>
    obtain ⟨buffer, hget, rfl⟩ := Option.map_eq_some_iff.mp hneeds
    have hbuffer : d.registry.get? handle = some buffer := hget
    simp only [Registry.isUnbound, hget, Option.any_some] at hunbound
    refine ⟨fun target htarget => (by cases htarget), fun target htarget => ?_⟩
    simp only [BindingRules.bufferTarget?, context, Resource.bindOperation, hbuffer, hmemory,
      Option.some.injEq] at htarget
    subst htarget
    exact ⟨(Bool.not_eq_true' _).mp hunbound, rfl, rfl, hplain, haccepted, hinside, hmaskable⟩

/-- The resource and the allocation are alive. -/
theorem CanBind.contains {id : ObjectId} (hid : id ∈ (resource.bindOperation memory offset).objects) :
    d.registry.contains id = true := by
  obtain ⟨allocation, hmemory, -⟩ := h.room
  have hneeds := h.needs
  have hown : d.registry.contains resource.id = true := by
    cases resource with
    | image handle =>
      obtain ⟨image, hget, -⟩ := Option.map_eq_some_iff.mp hneeds
      exact Registry.contains_of_get? (t := .image) hget
    | buffer handle =>
      obtain ⟨buffer, hget, -⟩ := Option.map_eq_some_iff.mp hneeds
      exact Registry.contains_of_get? (t := .buffer) hget
  have hobjects : (resource.bindOperation memory offset).objects = [resource.id, memory.erase] := by
    cases resource <;> rfl
  rw [hobjects] at hid
  rcases List.mem_pair.mp hid with rfl | rfl
  · exact hown
  · exact Registry.contains_of_get? hmemory

end Device

/-- A resource that can be bound is, and its binding has the size that it needs. -/
theorem Session.outcome?_bindCall {s : Session} (hclosed : s.Closed)
    (hengine : s.device.engine = Standard.engine) (hlives : s.device.registry.Lives) {resource : Resource}
    {memory : Handle .deviceMemory} {offset : ℕ} {required : MemoryRequirements}
    (h : s.device.CanBind resource memory offset required) :
    ∃ s', s.outcome? (resource.bindCall memory offset) = some ⟨s', [], .ok .done⟩
      ∧ s'.device.registry.binding? resource = some ⟨memory, offset, required.size⟩ := by
  have hsuits := h.suits
  -- No rule has anything to say about the binding, and no rule computes a number that is too large.
  have hsilent : s.device.diagnose (resource.bindOperation memory offset) = [] := by
    rw [Device.diagnose, hengine]
    exact Standard.evaluate_eq_nil_of_own hlives
      (Standard.evaluate_bindOperation s.device resource memory offset) (fun id hid => h.contains hid)
      (Standard.bindingRules_silent (fun target htarget => (hsuits.1 target htarget).isSilent)
        fun target htarget => (hsuits.2 target htarget).isSilent)
  have hrules : Standard.engine.overflows (s.device.context (resource.bindOperation memory offset))
      = false := by
    have hnone {found : Option BindingRules.Target} (h : ∀ target, found = some target → target.Suits) :
        found.any BindingRules.memoryTypeOverflows = false := by
      cases found with
      | none => rfl
      | some target => exact (h target rfl).not_overflows
    rw [Standard.overflows_bindOperation, hnone hsuits.1, hnone hsuits.2]
    rfl
  have houtcome : s.outcome? (resource.bindCall memory offset)
      = some (s.step (resource.bindCall memory offset)) := by
    cases resource <;> exact outcome?_of_fits hengine rfl hrules rfl
  have hdiagnostics : (s.step (resource.bindCall memory offset)).diagnostics = [] := by
    rw [← hsilent]
    cases resource with
    | image handle => exact Outcome.guarded_diagnostics s.device (s.device.diagnose _) _
    | buffer handle => exact Outcome.guarded_diagnostics s.device (s.device.diagnose _) _
  -- A call that no rule reports anything about succeeds.
  have hdone : (s.step (resource.bindCall memory offset)).result = .ok .done := by
    have htold : (s.step (resource.bindCall memory offset)).Told :=
      step_told hclosed hengine (by cases resource <;> rfl) (by cases resource <;> rfl)
    obtain ⟨reply, hreply⟩ := htold.ok (by rw [hdiagnostics]; rfl)
    have hunit : reply = .done := by
      cases resource with
      | image handle =>
        obtain ⟨⟨⟩, -, hunit⟩ := result_onDevice.mp hreply
        exact hunit.symm
      | buffer handle =>
        obtain ⟨⟨⟩, -, hunit⟩ := result_onDevice.mp hreply
        exact hunit.symm
    rw [hreply, hunit]
  obtain ⟨needed, -, hneeded, -, -, hbinding⟩ := bind_eq_ok hengine h.now hdone
  obtain rfl := Option.some.inj (hneeded.symm.trans h.needs)
  refine ⟨_, ?_, hbinding⟩
  rw [houtcome, ← hdiagnostics, ← hdone]

end VulkanValidity
