/-
  VulkanValidity.Proofs.MemoryTypes

  The check of memory types, under any engine that is put together from the built-in predicates.  When a
  resource is bound to an allocation, one predicate looks up the memory type of the allocation in the mask of
  the types that the resource allows.  It complains exactly if the type is not one of the environment that the
  resource allows (`check_memoryTypePredicate`).

  The mask has 32 bits.  Whether an allocation has one of the memory types that there are is a rule of its
  own, and an engine need not hold it, or may only warn of it.  Allocations of any type can be made then, and
  the bit of a type from 32 on cannot be looked up (`memory_type_checked`).
-/

import VulkanValidity.Proofs.Allocations
import VulkanValidity.Proofs.Sufficiency

namespace VulkanValidity

/-! ## Engines of built-in predicates -/

/-- The engine evaluates built-in predicates, by whatever names, severities and checkpoints. -/
def Engine.IsBuiltIn (engine : Engine) : Prop :=
  ∀ rule ∈ engine.rules, ∃ name, (name, rule.predicate) ∈ Standard.predicates

/-- The engine evaluates a predicate at a checkpoint. -/
def Engine.Evaluates (engine : Engine) (checkpoint : Checkpoint) (predicate : Predicate) : Prop :=
  ∃ rule ∈ engine.rules, rule.appliesTo checkpoint = true ∧ rule.predicate = predicate

/-- The built-in predicate about the memory type that a resource is bound to. -/
def Resource.memoryTypePredicate : Resource → Predicate
  | .image _ => BindingRules.imageMemoryType
  | .buffer _ => BindingRules.bufferMemoryType

theorem Engine.isBuiltIn_of_predicates {engine : Engine}
    (h : ∀ rule ∈ engine.rules, ∃ standard ∈ Standard.rules, rule.predicate = standard.predicate) :
    engine.IsBuiltIn := by
  intro rule hrule
  obtain ⟨standard, hstandard, heq⟩ := h rule hrule
  exact ⟨standard.name, List.mem_map.mpr ⟨standard, hstandard, by rw [heq]⟩⟩

/-! ## The predicate -/

section Bind

variable {d : Device} {resource : Resource} {required : MemoryRequirements} {memory : Handle .deviceMemory}
  {allocation : DeviceMemory} (hnow : d.registry.isDeferred resource = false)
  (hneeds : d.registry.requirements? d.environment resource = some required)
  (hget : d.registry.get? memory = some allocation) (offset : ℕ)
include hnow hneeds hget

/-- What the predicate looks at: the resource, what it needs, and the allocation. -/
theorem memoryTypePredicate_eq : ∃ target : BindingRules.Target, target.isDeferred = false
    ∧ target.requirements = required ∧ target.memory = allocation
    ∧ target.resource = resource.id ∧ target.memoryHandle = memory.erase
    ∧ resource.memoryTypePredicate.check (d.context (resource.bindOperation memory offset))
      = BindingRules.memoryType target
    ∧ resource.memoryTypePredicate.overflows (d.context (resource.bindOperation memory offset))
      = BindingRules.memoryTypeOverflows target := by
  cases resource with
  | image handle =>
    obtain ⟨image, hfound, rfl⟩ := Option.map_eq_some_iff.mp hneeds
    have himage : d.registry.get? handle = some image := hfound
    rw [Registry.isDeferred, hfound, Option.any_some] at hnow
    refine ⟨⟨handle.erase, .image handle, image.isBound, image.info.isDeferred, image.info.handleTypes,
      image.info.requirements d.environment, memory.erase, allocation, offset⟩, hnow, rfl, rfl, rfl, rfl, ?_, ?_⟩
    all_goals
      simp only [Resource.memoryTypePredicate, BindingRules.imageMemoryType, BindingRules.onImage,
        BindingRules.imageTarget?, Resource.bindOperation, Device.context, himage, hget, Option.elim_some,
        Option.any_some]
  | buffer handle =>
    obtain ⟨buffer, hfound, rfl⟩ := Option.map_eq_some_iff.mp hneeds
    have hbuffer : d.registry.get? handle = some buffer := hfound
    refine ⟨⟨handle.erase, .buffer handle, buffer.isBound, false, buffer.info.handleTypes,
      buffer.info.requirements d.environment, memory.erase, allocation, offset⟩, rfl, rfl, rfl, rfl, rfl, ?_, ?_⟩
    all_goals
      simp only [Resource.memoryTypePredicate, BindingRules.bufferMemoryType, BindingRules.onBuffer,
        BindingRules.bufferTarget?, Resource.bindOperation, Device.context, hbuffer, hget, Option.elim_some,
        Option.any_some]

/-- The predicate complains, about the resource and the allocation, exactly if the resource does not allow
the type. -/
theorem check_memoryTypePredicate : ∃ message,
    resource.memoryTypePredicate.check (d.context (resource.bindOperation memory offset))
      = violationIf (!allowsMemoryType required.memoryTypeBits allocation.memoryType) message
          [resource.id, memory.erase] := by
  obtain ⟨target, hdeferred, rfl, rfl, hresource, hmemory, hcheck, -⟩ :=
    memoryTypePredicate_eq hnow hneeds hget offset
  rw [hcheck, ← hresource, ← hmemory]
  simp only [BindingRules.memoryType, hdeferred, Bool.not_false, Bool.true_and]
  exact ⟨_, rfl⟩

/-- The bit of a type from 32 on cannot be looked up. -/
theorem overflows_memoryTypePredicate :
    resource.memoryTypePredicate.overflows (d.context (resource.bindOperation memory offset)) = true
      ↔ 32 ≤ allocation.memoryType := by
  obtain ⟨target, hdeferred, -, rfl, -, -, -, hoverflows⟩ := memoryTypePredicate_eq hnow hneeds hget offset
  rw [hoverflows, BindingRules.memoryTypeOverflows, hdeferred, Bool.not_false, Bool.true_and,
    decide_eq_true_iff]

end Bind

/-! ## The other predicates -/

namespace Standard

/-- The rules about memory types of bindings. -/
def memoryTypeRules : List Rule := (bindingRules.drop 4).take 2

set_option maxRecDepth 4000 in
/-- The other rules compute nothing in a binding that could get too large. -/
theorem otherRules_fit (d : Device) (resource : Resource) (memory : Handle .deviceMemory) (offset : ℕ) :
    (objectRules ++ imageRules ++ imageViewRules ++ bufferRules ++ memoryRules ++ bindingRules.take 4
      ++ bindingRules.drop 6 ++ renderPassRules ++ framebufferRules ++ renderPassBeginRules ++ barrierRules
      ++ replayRules ++ queueRules ++ commandRules ++ submissionRules ++ swapchainRules).any
        (fun rule => rule.predicate.overflows (d.context (resource.bindOperation memory offset))) = false := by
  cases resource <;> rfl

theorem mem_memoryTypeRules_of_overflows {d : Device} {resource : Resource} {memory : Handle .deviceMemory}
    {offset : ℕ} {rule : Rule} (hrule : rule ∈ rules)
    (hoverflows : rule.predicate.overflows (d.context (resource.bindOperation memory offset)) = true) :
    rule ∈ memoryTypeRules := by
  by_contra hother
  have hfit := List.any_eq_false.mp (otherRules_fit d resource memory offset) rule
  refine hfit ?_ hoverflows
  have hbinding : bindingRules = bindingRules.take 4 ++ (memoryTypeRules ++ bindingRules.drop 6) := rfl
  rw [rules, hbinding] at hrule
  simp only [List.mem_append, hother, false_or] at hrule ⊢
  tauto

/-- Only the predicate about the memory type can fail in a binding. -/
theorem eq_memoryTypePredicate_of_overflows {d : Device} {resource : Resource}
    {memory : Handle .deviceMemory} {offset : ℕ} {rule : Rule} (hrule : rule ∈ rules)
    (hoverflows : rule.predicate.overflows (d.context (resource.bindOperation memory offset)) = true) :
    rule.predicate = resource.memoryTypePredicate := by
  have hmem := mem_memoryTypeRules_of_overflows hrule hoverflows
  rcases List.mem_pair.mp hmem with rfl | rfl
  · cases resource with
    | image handle => rfl
    | buffer handle => cases hoverflows
  · cases resource with
    | image handle => cases hoverflows
    | buffer handle => rfl

end Standard

/-- An engine of built-in predicates fails in a binding if it evaluates the predicate about the memory type
and that fails. -/
theorem Engine.overflows_bindOperation {engine : Engine} (h : engine.IsBuiltIn) (d : Device)
    (resource : Resource) (memory : Handle .deviceMemory) (offset : ℕ) :
    engine.overflows (d.context (resource.bindOperation memory offset)) = true
      ↔ engine.Evaluates .resourceCreation resource.memoryTypePredicate
        ∧ resource.memoryTypePredicate.overflows (d.context (resource.bindOperation memory offset)) = true := by
  have hcheckpoint : (d.context (resource.bindOperation memory offset)).operation.checkpoint
      = .resourceCreation := by
    cases resource <;> rfl
  simp only [overflows, List.any_eq_true, applicable, List.mem_filter, hcheckpoint]
  constructor
  · rintro ⟨rule, ⟨hrule, happlies⟩, hoverflows⟩
    obtain ⟨name, hname⟩ := h rule hrule
    obtain ⟨standard, hstandard, heq⟩ := List.mem_map.mp hname
    have hpredicate : rule.predicate = standard.predicate := (congrArg Prod.snd heq).symm
    rw [hpredicate] at hoverflows
    have hown := Standard.eq_memoryTypePredicate_of_overflows hstandard hoverflows
    exact ⟨⟨rule, hrule, happlies, hpredicate.trans hown⟩, hown ▸ hoverflows⟩
  · rintro ⟨⟨rule, hrule, happlies, hpredicate⟩, hoverflows⟩
    exact ⟨rule, ⟨hrule, happlies⟩, hpredicate ▸ hoverflows⟩

/-! ## Allocations -/

namespace Session

/-- If unknown memory types are rejected, every allocation has one that exists. -/
theorem Reachable.memoryType_lt {s : Session} (h : s.Reachable)
    (hrejects : s.device.engine.Rejects .resourceCreation MemoryRules.memoryType)
    (handle : Handle .deviceMemory) (memory : DeviceMemory)
    (hget : s.device.memories.get? handle = some memory) :
    memory.memoryType < s.device.environment.memoryTypes.length := by
  refine h.keeps (P := fun s => s.device.engine.Rejects .resourceCreation MemoryRules.memoryType →
      ∀ (handle : Handle .deviceMemory) (memory : DeviceMemory), s.device.memories.get? handle = some memory →
        memory.memoryType < s.device.environment.memoryTypes.length)
    (fun environment engine _ handle memory hget => by cases hget)
    (fun s call _ _ ih hafter handle memory hget => ?_)
    (fun s queue submitted _ ih hafter handle memory hget => ?_) hrejects handle memory hget
  · have htransition := s.step_transition call
    rw [htransition.engine] at hafter
    rw [htransition.environment]
    rcases s.memory_step call hget with hold | ⟨info, size, rfl, haccepted, -, rfl⟩
    · exact ih hafter handle memory hold
    · -- The rule had nothing to complain about when the allocation was made.
      have hsilent := hafter.check_eq_nil rfl haccepted
      exact Nat.lt_of_not_le (of_decide_eq_false (violationIf_eq_nil.mp hsilent))
  · have hobjects : (s.device.submitOne queue submitted).state.memories = s.device.memories :=
      s.device.objects_submitOne (t := .deviceMemory) (by decide) (by decide) (by decide) queue submitted
    have hlookup : (s.device.submitOne queue submitted).state.memories.get? handle = some memory := hget
    rw [hobjects] at hlookup
    show _ < (s.device.submitOne queue submitted).state.environment.memoryTypes.length
    rw [Device.submitOne_environment]
    exact ih ((s.device.submitOne_engine queue submitted).symm ▸ hafter) handle memory hlookup

/-- A binding has no outcome if its validation fails. -/
theorem outcome?_bindCall_eq_none (s : Session) (resource : Resource) (memory : Handle .deviceMemory)
    (offset : ℕ) : s.outcome? (resource.bindCall memory offset) = none
      ↔ s.device.engine.overflows (s.device.context (resource.bindOperation memory offset)) = true := by
  have hoverflows : s.overflows (resource.bindCall memory offset)
      = s.device.engine.overflows (s.device.context (resource.bindOperation memory offset)) := by
    -- Nothing is computed once the binding is accepted.
    cases resource <;> exact (congrArg (_ || ·) (Bool.and_false _)).trans (Bool.or_false _)
  rw [outcome?, hoverflows]
  split <;> simp_all

theorem step_bindCall_diagnostics (s : Session) (resource : Resource) (memory : Handle .deviceMemory)
    (offset : ℕ) : (s.step (resource.bindCall memory offset)).diagnostics
      = s.device.engine.evaluate (s.device.context (resource.bindOperation memory offset)) := by
  cases resource <;> exact Outcome.guarded_diagnostics s.device (s.device.diagnose _) _

end Session

/-- The check of memory types agrees with the environment as far as it can be made.  In every reachable session
on an engine of built-in predicates, of any choice and with any severities, let a resource whose requirements
are not deferred be bound to a live allocation.  The predicate about the memory type complains exactly if the
type is not one of the environment that the resource allows, and what it complains about is reported by every
rule that evaluates it.  Evaluating it fails exactly if the number of the type is 32 or more; and if the
environment is valid, that can only be on an engine that does not reject allocations of unknown types. -/
theorem memory_type_checked {s : Session} (h : s.Reachable) (hbuiltIn : s.device.engine.IsBuiltIn)
    {resource : Resource}
    (hnow : s.device.registry.isDeferred resource = false) {required : MemoryRequirements}
    (hneeds : s.device.registry.requirements? s.device.environment resource = some required)
    {memory : Handle .deviceMemory} {allocation : DeviceMemory}
    (hget : s.device.registry.get? memory = some allocation) (offset : ℕ) :
    let ctx := s.device.context (resource.bindOperation memory offset)
    (resource.memoryTypePredicate.check ctx ≠ [] ↔
      ¬ ∃ type, s.device.environment.memoryTypes[allocation.memoryType]? = some type
        ∧ allowsMemoryType required.memoryTypeBits allocation.memoryType = true)
    ∧ (∀ rule ∈ s.device.engine.rules, rule.appliesTo .resourceCreation = true →
      rule.predicate = resource.memoryTypePredicate →
      ∀ violation ∈ resource.memoryTypePredicate.check ctx,
        violation.objects = [resource.id, memory.erase]
        ∧ rule.diagnostic violation ∈ (s.step (resource.bindCall memory offset)).diagnostics)
    ∧ (resource.memoryTypePredicate.overflows ctx = true ↔ 32 ≤ allocation.memoryType)
    ∧ (s.outcome? (resource.bindCall memory offset) = none ↔
      s.device.engine.Evaluates .resourceCreation resource.memoryTypePredicate ∧ 32 ≤ allocation.memoryType)
    ∧ (s.device.environment.isValid = true →
      s.device.engine.Rejects .resourceCreation MemoryRules.memoryType →
      s.outcome? (resource.bindCall memory offset) ≠ none) := by
  intro ctx
  obtain ⟨message, hcheck⟩ := check_memoryTypePredicate hnow hneeds hget offset
  have hoverflows := overflows_memoryTypePredicate hnow hneeds hget offset
  have houtcome := (s.outcome?_bindCall_eq_none resource memory offset).trans
    (Engine.overflows_bindOperation hbuiltIn s.device resource memory offset)
  rw [hoverflows] at houtcome
  refine ⟨?_, fun rule hrule happlies hpredicate violation hviolation => ⟨?_, ?_⟩, hoverflows, houtcome,
    fun hvalid hrejects hnone => ?_⟩
  · rw [show resource.memoryTypePredicate.check ctx = _ from hcheck, ne_eq, violationIf_eq_nil,
      Bool.not_eq_false', not_iff_not]
    constructor
    · intro hallowed
      -- The resource allows no type that does not exist.
      have hlt := Registry.memoryType_lt hneeds hallowed
      exact ⟨_, List.getElem?_eq_getElem hlt, hallowed⟩
    · rintro ⟨-, -, hallowed⟩
      exact hallowed
  · rw [show resource.memoryTypePredicate.check ctx = _ from hcheck, violationIf] at hviolation
    split at hviolation
    · rw [List.mem_singleton.mp hviolation]
    · cases hviolation
  · rw [s.step_bindCall_diagnostics resource memory offset]
    have happlicable : rule ∈ s.device.engine.applicable ctx := by
      refine List.mem_filter.mpr ⟨hrule, ?_⟩
      cases resource <;> exact happlies
    rw [← hpredicate] at hviolation
    exact List.mem_flatMap.mpr ⟨rule, happlicable, List.mem_map_of_mem hviolation⟩
  · have hlarge := (houtcome.mp hnone).2
    have hlt := h.memoryType_lt hrejects memory allocation hget
    have hlength := Environment.length_memoryTypes_le hvalid
    omega

/-- The engine with the standard rules, which only warn. -/
def Standard.warnings : Engine := ⟨rules.map fun rule => { rule with severity := .warning }⟩

theorem Standard.warnings_isBuiltIn : warnings.IsBuiltIn := by
  refine Engine.isBuiltIn_of_predicates fun rule hrule => ?_
  obtain ⟨standard, hstandard, rfl⟩ := List.mem_map.mp hrule
  exact ⟨standard, hstandard, rfl⟩

/-- A session that warns only, with a buffer and an allocation of some memory type. -/
def typedSession (type : ℕ) : Session :=
  (Session.start {} Standard.warnings).run
    [.createBuffer { size := 64 }, .allocateMemory { size := 4096, memoryType := type }]

/-- The buffer is bound to memory of type 5, of four types that there are, and that is reported. -/
theorem unknown_type_reported :
    let s := typedSession 5
    let buffer : Resource := .buffer (.ofSerial .buffer 1)
    let ctx := s.device.context (buffer.bindOperation (.ofSerial .deviceMemory 2) 0)
    s.device.environment.memoryTypes.length = 4 ∧ buffer.memoryTypePredicate.check ctx ≠ []
    ∧ s.outcome? (buffer.bindCall (.ofSerial .deviceMemory 2) 0) ≠ none := by
  intro s buffer ctx
  have hreachable : s.Reachable := (Session.Reachable.start {} Standard.warnings).run _
  have henvironment : s.device.environment = {} := Session.run_environment _ _
  have hengine : s.device.engine = Standard.warnings := Session.run_engine _ _
  have hneeds : s.device.registry.requirements? s.device.environment buffer
      = some (BufferInfo.requirements { size := 64 } {}) := by
    decide +kernel
  have hget : s.device.registry.get? (.ofSerial .deviceMemory 2)
      = some (.ofInfo { size := 4096, memoryType := 5 } 4096) := by
    decide +kernel
  obtain ⟨hcheck, -, -, houtcome, -⟩ := memory_type_checked hreachable
    (hengine ▸ Standard.warnings_isBuiltIn) rfl hneeds hget 0
  have hlength : s.device.environment.memoryTypes.length = 4 := by
    rw [henvironment]
    rfl
  refine ⟨hlength, hcheck.mpr ?_, fun hnone => absurd (houtcome.mp hnone).2 (by decide)⟩
  rintro ⟨type, htype, -⟩
  have hlt := (List.getElem?_eq_some_iff.mp htype).1
  rw [hlength] at hlt
  exact absurd hlt (by decide)

/-- The buffer is bound to memory of a type that has no bit in the mask.  There is no such type, but the
predicate fails. -/
theorem large_type_fails :
    let s := typedSession 32
    let buffer : Resource := .buffer (.ofSerial .buffer 1)
    let ctx := s.device.context (buffer.bindOperation (.ofSerial .deviceMemory 2) 0)
    s.Reachable ∧ s.device.environment.isValid = true ∧ s.device.engine.IsBuiltIn
    ∧ s.device.registry.isDeferred buffer = false
    ∧ (s.device.registry.get? (.ofSerial .buffer 1)).isSome = true
    ∧ (s.device.registry.get? (.ofSerial .deviceMemory 2)).map DeviceMemory.memoryType = some 32
    ∧ buffer.memoryTypePredicate.overflows ctx = true
    ∧ s.outcome? (buffer.bindCall (.ofSerial .deviceMemory 2) 0) = none := by
  intro s buffer ctx
  have henvironment : s.device.environment = {} := Session.run_environment _ _
  have hengine : s.device.engine = Standard.warnings := Session.run_engine _ _
  have hvalid : s.device.environment.isValid = true := by
    rw [henvironment]
    decide
  have hoverflows : buffer.memoryTypePredicate.overflows ctx = true := by decide +kernel
  have hevaluates : s.device.engine.overflows ctx = true := by decide +kernel
  exact ⟨(Session.Reachable.start {} Standard.warnings).run _, hvalid, hengine ▸ Standard.warnings_isBuiltIn,
    rfl, by decide +kernel, by decide +kernel, hoverflows,
    (s.outcome?_bindCall_eq_none buffer (.ofSerial .deviceMemory 2) 0).mpr hevaluates⟩

end VulkanValidity
