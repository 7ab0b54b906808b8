/-
  VulkanValidity.Proofs.Bindings

  Where bindings lie in their allocations.  A resource that is bound on the standard engine gets as many
  bytes as it needs, at an offset that is a multiple of its alignment, in memory of a type that it allows.
  It lies within its allocation (`binding_within_allocation`), with one exception: the end of the binding
  is calculated with numbers that stop at 64 bits, so that an allocation of `2 ^ 64 - 1` bytes seems to
  have room for a binding that ends beyond it.
-/

import VulkanValidity.Proofs.Allocations
import VulkanValidity.Proofs.Evolution
import VulkanValidity.Proofs.ExactSizes
import VulkanValidity.Proofs.Verdicts

namespace VulkanValidity

/-! ## Resources -/

/-- The call that binds a resource to an allocation. -/
def Resource.bindCall (memory : Handle .deviceMemory) (offset : Nat) : Resource → Call
  | .image handle => .bindImage handle memory offset
  | .buffer handle => .bindBuffer handle memory offset

namespace Registry

/-- The memory that a live resource needs, as far as it does not depend on what is bound to it. -/
def requirements? (r : Registry) (env : Environment) : Resource → Option MemoryRequirements
  | .image handle => (r.images.get? handle).map fun image => image.info.requirements env
  | .buffer handle => (r.buffers.get? handle).map fun buffer => buffer.info.requirements env

/-- Whether the requirements of a resource depend on what is bound to it. -/
def isDeferred (r : Registry) : Resource → Bool
  | .image handle => (r.images.get? handle).any fun image => image.info.isDeferred
  | .buffer _ => false

/-- What is bound to a resource. -/
def binding? (r : Registry) : Resource → Option MemoryBinding
  | .image handle => (r.images.get? handle).bind Image.binding?
  | .buffer handle => (r.buffers.get? handle).bind Buffer.memory

end Registry

/-- An allocation has room for a resource at an offset, as far as the rules look: the end of the resource
is cut off at 64 bits. -/
structure MemoryRequirements.AcceptedAt (required : MemoryRequirements) (allocation : DeviceMemory)
    (offset : Nat) : Prop where
  type : allowsMemoryType required.memoryTypeBits allocation.memoryType = true
  aligned : offset % max required.alignment 1 = 0
  size : DeviceSize.add offset required.size ≤ allocation.size

/-! ## Rules -/

namespace BindingRules

theorem acceptedAt_of_checks {target : Target} (hnow : target.isDeferred = false)
    (htype : memoryType target = []) (haligned : offsetAlignment target = [])
    (hsize : size target = []) :
    target.requirements.AcceptedAt target.memory target.offset := by
  have htype := violationIf_eq_nil.mp htype
  have haligned := violationIf_eq_nil.mp haligned
  have hsize := violationIf_eq_nil.mp hsize
  rw [hnow, Bool.not_false, Bool.true_and] at htype hsize
  exact ⟨by simpa using htype, bne_eq_false_iff_eq.mp haligned,
    Nat.le_of_not_lt (of_decide_eq_false hsize)⟩

end BindingRules

namespace Standard

variable {ctx : Context} {target : BindingRules.Target}

/-- The checks on what a kind of resource is bound to have found nothing. -/
theorem acceptedAt {find : Context → Option BindingRules.Target}
    (htype : engine.Reports .resourceCreation .incompatibleMemoryType
      fun ctx => (find ctx).elim [] BindingRules.memoryType)
    (haligned : engine.Reports .resourceCreation .badAlignment
      fun ctx => (find ctx).elim [] BindingRules.offsetAlignment)
    (hsize : engine.Reports .resourceCreation .insufficientSize
      fun ctx => (find ctx).elim [] BindingRules.size)
    (hctx : ctx.operation.checkpoint = .resourceCreation)
    (h : verdict (engine.evaluate ctx) = .ok ()) (htarget : find ctx = some target)
    (hnow : target.isDeferred = false) :
    target.requirements.AcceptedAt target.memory target.offset := by
  have hcheck {kind : ErrorKind} {check : BindingRules.Target → List Violation}
      (hreports : engine.Reports .resourceCreation kind fun ctx => (find ctx).elim [] check) :
      check target = [] := by
    have hnone := check_eq_nil hreports hctx h
    rwa [htarget] at hnone
  exact BindingRules.acceptedAt_of_checks hnow (hcheck htype) (hcheck haligned) (hcheck hsize)

theorem image_acceptedAt (hctx : ctx.operation.checkpoint = .resourceCreation)
    (h : verdict (engine.evaluate ctx) = .ok ()) (htarget : BindingRules.imageTarget? ctx = some target)
    (hnow : target.isDeferred = false) :
    target.requirements.AcceptedAt target.memory target.offset :=
  acceptedAt (reports_rule bindingRules 4) (reports_rule bindingRules 6) (reports_rule bindingRules 8)
    hctx h htarget hnow

theorem buffer_acceptedAt (hctx : ctx.operation.checkpoint = .resourceCreation)
    (h : verdict (engine.evaluate ctx) = .ok ()) (htarget : BindingRules.bufferTarget? ctx = some target)
    (hnow : target.isDeferred = false) :
    target.requirements.AcceptedAt target.memory target.offset :=
  acceptedAt (reports_rule bindingRules 5) (reports_rule bindingRules 7) (reports_rule bindingRules 9)
    hctx h htarget hnow

end Standard

/-! ## Operations -/

namespace Device

variable {d : Device} (hengine : d.engine = Standard.engine) {memory : Handle .deviceMemory}
  {offset : Nat}
include hengine

/-- What binding an image does, if its requirements are not deferred. -/
theorem bindImage_eq_ok {handle : Handle .image} (hnow : d.registry.isDeferred (.image handle) = false)
    (hok : (d.bindImage handle memory offset).result = .ok ()) :
    ∃ required allocation, d.registry.requirements? d.environment (.image handle) = some required
      ∧ d.registry.get? memory = some allocation ∧ required.AcceptedAt allocation offset
      ∧ (d.bindImage handle memory offset).state.registry.binding? (.image handle)
        = some ⟨memory, offset, required.size⟩ := by
  rcases Outcome.guarded_cases d (d.diagnose (.bindImage handle memory offset)) _ with
    ⟨-, e, he⟩ | ⟨value, after, haccepted, hperform, hs, -⟩
  · cases he.symm.trans hok
  obtain ⟨image, himage, hperform⟩ := bind_eq_ok.mp hperform
  obtain ⟨allocation, hallocation, hperform⟩ := bind_eq_ok.mp hperform
  have hget : d.registry.images.get? handle = some image := Registry.get_eq_ok.mp himage
  have hmemory := Registry.get_eq_ok.mp hallocation
  rw [Registry.isDeferred, hget] at hnow
  split at hperform
  · cases hperform
  obtain rfl := congrArg Prod.snd (pure_eq_ok.mp hperform)
  rw [diagnose, hengine] at haccepted
  have htarget : BindingRules.imageTarget? (d.context (.bindImage handle memory offset))
      = some ⟨handle.erase, .image handle, image.isBound, image.info.isDeferred,
          image.info.handleTypes, image.info.requirements d.environment, memory.erase, allocation,
          offset⟩ := by
    simp only [BindingRules.imageTarget?, context, Registry.get_eq_ok.mp himage, hmemory]
  refine ⟨image.info.requirements d.environment, allocation, ?_, hmemory,
    Standard.image_acceptedAt rfl haccepted htarget hnow, ?_⟩
  · rw [Registry.requirements?, hget, Option.map_some]
  · have hafter : (d.bindImage handle memory offset).state.registry.images.get? handle
        = some { image with
            memory := some (.bound ⟨memory, offset, d.imageBindingSize image allocation offset⟩) } := by
      rw [show (d.bindImage handle memory offset).state = _ from hs]
      show (d.registry.images.modify handle _).get? handle = _
      rw [Store.get?_modify, if_pos rfl, hget, Option.map_some]
    have hsize : d.imageBindingSize image allocation offset
        = (image.info.requirements d.environment).size := if_neg (Bool.eq_false_iff.mp hnow)
    rw [Registry.binding?, hafter, hsize]
    rfl

/-- What binding a buffer does. -/
theorem bindBuffer_eq_ok {handle : Handle .buffer}
    (hok : (d.bindBuffer handle memory offset).result = .ok ()) :
    ∃ required allocation, d.registry.requirements? d.environment (.buffer handle) = some required
      ∧ d.registry.get? memory = some allocation ∧ required.AcceptedAt allocation offset
      ∧ (d.bindBuffer handle memory offset).state.registry.binding? (.buffer handle)
        = some ⟨memory, offset, required.size⟩ := by
  rcases Outcome.guarded_cases d (d.diagnose (.bindBuffer handle memory offset)) _ with
    ⟨-, e, he⟩ | ⟨value, after, haccepted, hperform, hs, -⟩
  · cases he.symm.trans hok
  obtain ⟨buffer, hbuffer, hperform⟩ := bind_eq_ok.mp hperform
  have hget : d.registry.buffers.get? handle = some buffer := Registry.get_eq_ok.mp hbuffer
  split at hperform
  · cases hperform
  obtain rfl := congrArg Prod.snd (pure_eq_ok.mp hperform)
  rw [diagnose, hengine] at haccepted
  -- The allocation is not looked up, but the rules have found it.
  obtain ⟨allocation, hallocation⟩ : ∃ allocation, d.registry.get memory = .ok allocation :=
    Standard.get_of_accepted haccepted (List.mem_cons_of_mem _ List.mem_cons_self)
  have hmemory := Registry.get_eq_ok.mp hallocation
  have htarget : BindingRules.bufferTarget? (d.context (.bindBuffer handle memory offset))
      = some ⟨handle.erase, .buffer handle, buffer.isBound, false, buffer.info.handleTypes,
          buffer.info.requirements d.environment, memory.erase, allocation, offset⟩ := by
    simp only [BindingRules.bufferTarget?, context, Registry.get_eq_ok.mp hbuffer, hmemory]
  refine ⟨buffer.info.requirements d.environment, allocation, ?_, hmemory,
    Standard.buffer_acceptedAt rfl haccepted htarget rfl, ?_⟩
  · rw [Registry.requirements?, hget, Option.map_some]
  · have hafter : (d.bindBuffer handle memory offset).state.registry.buffers.get? handle
        = some { buffer with
            memory := some ⟨memory, offset, (buffer.info.requirements d.environment).size⟩ } := by
      rw [show (d.bindBuffer handle memory offset).state = _ from hs]
      show (d.registry.buffers.modify handle _).get? handle = _
      rw [Store.get?_modify, if_pos rfl, hget, Option.map_some]
    rw [Registry.binding?, hafter]
    rfl

end Device

namespace Registry

variable {r : Registry} {env : Environment}

theorem requirements?_alignment {resource : Resource} {required : MemoryRequirements}
    (h : r.requirements? env resource = some required) : required.alignment ∈ env.alignments := by
  cases resource with
  | image handle =>
    obtain ⟨image, -, rfl⟩ := Option.map_eq_some_iff.mp h
    exact image.info.memoryAlignment_mem env
  | buffer handle =>
    obtain ⟨buffer, -, rfl⟩ := Option.map_eq_some_iff.mp h
    exact env.bufferAlignment_mem

end Registry

/-- The end of a binding, in numbers that stop at 64 bits, is within a 64-bit size exactly if it is the
largest of them or the end itself is within it. -/
theorem DeviceSize.add_le_iff {offset required size : Nat} (hsize : size ≤ max) :
    add offset required ≤ size ↔ offset + required ≤ size ∨ size = max := by
  simp only [add, saturate]
  omega

namespace Session

/-- A call that binds a resource with requirements that are not deferred. -/
theorem bind_eq_ok {s : Session} (hengine : s.device.engine = Standard.engine) {resource : Resource}
    {memory : Handle .deviceMemory} {offset : Nat} (hnow : s.device.registry.isDeferred resource = false)
    (hok : (s.step (resource.bindCall memory offset)).result = .ok .done) :
    ∃ required allocation,
      s.device.registry.requirements? s.device.environment resource = some required
      ∧ s.device.registry.get? memory = some allocation ∧ required.AcceptedAt allocation offset
      ∧ (s.step (resource.bindCall memory offset)).state.device.registry.binding? resource
        = some ⟨memory, offset, required.size⟩ := by
  cases resource with
  | image handle =>
    obtain ⟨⟨⟩, hresult, -⟩ := result_onDevice.mp hok
    exact Device.bindImage_eq_ok hengine hnow hresult
  | buffer handle =>
    obtain ⟨⟨⟩, hresult, -⟩ := result_onDevice.mp hok
    exact Device.bindBuffer_eq_ok hengine hresult

end Session

/-- A resource that is bound gets as many bytes as it needs, at a multiple of its alignment, in memory of a
type that it allows.  These bytes lie within the allocation exactly if their end is a 64-bit number, and
they always do unless the allocation has the largest size of 64 bits. -/
theorem binding_within_allocation {environment : Environment} (hvalid : environment.isValid = true)
    {calls : List Call} (hcalls : ∀ call ∈ calls, call.allocationFits = true) {s : Session}
    (hs : (Session.start environment Standard.engine).run calls = s) {resource : Resource}
    {memory : Handle .deviceMemory} {offset : Nat} (hnow : s.device.registry.isDeferred resource = false)
    (hok : (s.step (resource.bindCall memory offset)).result = .ok .done) :
    ∃ required allocation,
      s.device.registry.requirements? environment resource = some required
      ∧ s.device.registry.get? memory = some allocation
      ∧ (s.step (resource.bindCall memory offset)).state.device.registry.binding? resource
        = some ⟨memory, offset, required.size⟩
      ∧ required.alignment ∣ offset
      ∧ allowsMemoryType required.memoryTypeBits allocation.memoryType = true
      ∧ (offset + required.size ≤ allocation.size ↔ offset + required.size ≤ DeviceSize.max)
      ∧ (allocation.size ≠ DeviceSize.max → offset + required.size ≤ allocation.size) := by
  have hengine : s.device.engine = Standard.engine := hs ▸ Session.run_engine _ calls
  have henvironment : s.device.environment = environment := hs ▸ Session.run_environment _ calls
  have hfits : s.device.AllocationsFit :=
    hs ▸ Session.allocationsFit_run (fun handle allocation hget => by cases hget) hcalls
  obtain ⟨required, allocation, hrequired, hmemory, haccepted, hbinding⟩ :=
    Session.bind_eq_ok hengine hnow hok
  rw [henvironment] at hrequired
  have hpos := environment.alignment_pos hvalid (Registry.requirements?_alignment hrequired)
  have haligned := haccepted.aligned
  rw [Nat.max_eq_left hpos] at haligned
  have hsize : allocation.size ≤ DeviceSize.max := hfits memory allocation hmemory
  have hend := (DeviceSize.add_le_iff hsize).mp haccepted.size
  refine ⟨required, allocation, hrequired, hmemory, hbinding, Nat.dvd_of_mod_eq_zero haligned,
    haccepted.type, ⟨fun hwithin => Nat.le_trans hwithin hsize, fun hfit => ?_⟩, hend.resolve_right⟩
  rcases hend with hwithin | hlargest
  · exact hwithin
  · exact hlargest ▸ hfit

/-- The end of a binding, cut off at 64 bits: it is 257 bytes further. -/
example : DeviceSize.add (2 ^ 64 - 256) 512 = 2 ^ 64 - 1 := by decide +kernel

/-- Makes a buffer of 512 bytes, and an allocation. -/
def makeBuffer (allocated : Nat) : List Call :=
  [.createBuffer { size := 512 }, .allocateMemory { size := allocated }]

/-- Binds the buffer to the allocation. -/
def bindMadeBuffer (offset : Nat) : Call :=
  (Resource.buffer (.ofSerial .buffer 1)).bindCall (.ofSerial .deviceMemory 2) offset

/-- A buffer that is bound at an offset of 1024 lies within its allocation of 4096 bytes. -/
theorem madeBuffer_within_allocation :
    (((Session.start {} Standard.engine).run (makeBuffer 4096)).step (bindMadeBuffer 1024)).result
        = .ok .done
    ∧ ∃ required allocation,
      ((Session.start {} Standard.engine).run (makeBuffer 4096)).device.registry.requirements? {}
        (.buffer (.ofSerial .buffer 1)) = some required
      ∧ ((Session.start {} Standard.engine).run (makeBuffer 4096)).device.registry.get?
        (.ofSerial .deviceMemory 2) = some allocation
      ∧ 1024 + required.size ≤ allocation.size := by
  let s := (Session.start {} Standard.engine).run (makeBuffer 4096)
  have hok : (s.step (bindMadeBuffer 1024)).result = .ok .done :=
    Outcome.value?_eq_some.mp (by decide +kernel)
  have hsize : (s.device.registry.get? (.ofSerial .deviceMemory 2)).map DeviceMemory.size
      = some 4096 := by decide +kernel
  have hvalid : ({} : Environment).isValid = true := by decide
  have hcalls : ∀ call ∈ makeBuffer 4096, call.allocationFits = true := by decide
  have hs : (Session.start {} Standard.engine).run (makeBuffer 4096) = s := rfl
  have hnow : s.device.registry.isDeferred (.buffer (.ofSerial .buffer 1)) = false := rfl
  obtain ⟨required, allocation, hrequired, hmemory, -, -, -, -, hwithin⟩ :=
    binding_within_allocation hvalid hcalls hs hnow hok
  refine ⟨hok, required, allocation, hrequired, hmemory, hwithin ?_⟩
  rw [hmemory] at hsize
  rw [Option.some.inj hsize]
  decide

/-- A buffer is bound to an allocation of `2 ^ 64 - 1` bytes so that it ends 257 bytes beyond it, and
nothing is reported. -/
theorem binding_beyond_allocation :
    let s := (Session.start {} Standard.engine).run (makeBuffer (2 ^ 64 - 1))
    (s.step (bindMadeBuffer (2 ^ 64 - 256))).diagnostics = []
    ∧ (s.step (bindMadeBuffer (2 ^ 64 - 256))).result = .ok .done
    ∧ (s.step (bindMadeBuffer (2 ^ 64 - 256))).state.device.registry.binding?
        (.buffer (.ofSerial .buffer 1)) = some ⟨.ofSerial .deviceMemory 2, 2 ^ 64 - 256, 512⟩
    ∧ (s.device.registry.get? (.ofSerial .deviceMemory 2)).map DeviceMemory.size = some (2 ^ 64 - 1)
    ∧ 2 ^ 64 - 1 < 2 ^ 64 - 256 + 512 := by
  intro s
  have hbound : (s.step (bindMadeBuffer (2 ^ 64 - 256))).diagnostics = []
      ∧ (s.step (bindMadeBuffer (2 ^ 64 - 256))).value? = some .done
      ∧ (s.step (bindMadeBuffer (2 ^ 64 - 256))).state.device.registry.binding?
          (.buffer (.ofSerial .buffer 1)) = some ⟨.ofSerial .deviceMemory 2, 2 ^ 64 - 256, 512⟩
      ∧ (s.device.registry.get? (.ofSerial .deviceMemory 2)).map DeviceMemory.size
          = some (2 ^ 64 - 1) := by
    decide +kernel
  obtain ⟨hdiagnostics, hvalue, hbinding, hsize⟩ := hbound
  exact ⟨hdiagnostics, Outcome.value?_eq_some.mp hvalue, hbinding, hsize, by decide⟩

end VulkanValidity
