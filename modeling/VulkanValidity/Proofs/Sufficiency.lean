/-
  VulkanValidity.Proofs.Sufficiency

  The reported requirements are enough.  A resource without memory whose requirements are not deferred can be
  bound to any plain allocation of a type that it allows, at any multiple of its alignment where the
  allocation has room for it, and neither the allocation nor the binding is reported
  (`requirements_sufficient`).

  One rule asks for more than that: an offset lies within its allocation.  It is of no consequence, for
  everything that is created has a size that is not zero, and so have its requirements.
-/

import VulkanValidity.Proofs.Attachments
import VulkanValidity.Proofs.ImageLimits
import VulkanValidity.Proofs.Requirements

namespace VulkanValidity

/-! ## Sizes are not zero -/

/-- A size is rounded up to a multiple that is not zero. -/
theorem DeviceSize.Rounds.pos {size alignment rounded : ℕ} (h : Rounds size alignment rounded)
    (hsize : 0 < size) (halignment : 0 < alignment) (hmax : alignment ≤ max) : 0 < rounded := by
  by_cases hroom : ∃ n ≤ max, alignment ∣ n ∧ size ≤ n
  · exact Nat.lt_of_lt_of_le hsize (h.isLeast hroom).1.2
  · exact Nat.lt_of_lt_of_le halignment ((h.isGreatest hroom).2 ⟨Nat.dvd_refl alignment, hmax⟩)

namespace ImageInfo

variable (info : ImageInfo)

theorem exactLayerSize_pos (level : ℕ) : 0 < info.exactLayerSize level := by
  have hhalved (n : ℕ) : 0 < max n 1 := Nat.lt_of_lt_of_le Nat.one_pos (Nat.le_max_right n 1)
  exact Nat.mul_pos (hhalved _) (Nat.mul_pos (Nat.mul_pos (hhalved _) (hhalved _)) (hhalved _))

/-- An image with a level and a layer has a size. -/
theorem exactSize_pos {info : ImageInfo} (h : info.IsProper) : 0 < info.exactSize := by
  have hfirst : info.exactLayerChainSize 1 ≤ info.exactLayerChainSize info.mipLevels :=
    info.exactLayerChainSize_mono h.someLevels
  have hlevel : 0 < info.exactLayerChainSize 1 := by
    rw [info.exactLayerChainSize_succ]
    exact Nat.add_pos_right _ (info.exactLayerSize_pos 0)
  have hsamples : 0 < info.samples.count := by cases info.samples <;> decide
  exact Nat.mul_pos (Nat.mul_pos (Nat.lt_of_lt_of_le hlevel hfirst) h.layers) hsamples

end ImageInfo

/-! ## Buffers -/

theorem Standard.reports_bufferSize :
    engine.Reports .resourceCreation .invalidParams BufferRules.sizeNonzero :=
  reports_rule bufferRules 0

namespace Device

/-- A buffer after its memory was bound is one from before. -/
theorem buffer_of_bindBuffer (d : Device) (bound : Handle .buffer) (memory : Handle .deviceMemory)
    (offset : ℕ) {handle : Handle .buffer} {buffer : Buffer}
    (h : (d.bindBuffer bound memory offset).state.registry.get? handle = some buffer) :
    ∃ before, d.registry.get? handle = some before ∧ buffer.info = before.info := by
  rcases Outcome.guarded_cases d (d.diagnose (.bindBuffer bound memory offset)) _ with
    ⟨hs, -⟩ | ⟨value, after, -, hperform, hs, -⟩
  · rw [show (d.bindBuffer bound memory offset).state = _ from hs] at h
    exact ⟨buffer, h, rfl⟩
  · obtain ⟨found, -, hperform⟩ := bind_eq_ok.mp hperform
    split at hperform
    · cases hperform
    · obtain rfl := congrArg Prod.snd (pure_eq_ok.mp hperform)
      rw [show (d.bindBuffer bound memory offset).state = _ from hs] at h
      rcases d.registry.buffers.get?_modify_cases bound (fun buffer => { buffer with
          memory := some ⟨memory, offset, (found.info.requirements d.environment).size⟩ }) handle with
        hsame | ⟨before, hbefore, hafter⟩
      · exact ⟨buffer, hsame.symm.trans h, rfl⟩
      · obtain rfl := Option.some.inj (hafter.symm.trans h)
        exact ⟨before, hbefore, rfl⟩

/-- An execution changes the states of buffers only. -/
theorem buffer_of_submitOne (d : Device) (queue : Queue) (submitted : Handle .commandBuffer)
    {handle : Handle .buffer} {buffer : Buffer}
    (h : (d.submitOne queue submitted).state.registry.get? handle = some buffer) :
    ∃ before, d.registry.get? handle = some before ∧ buffer.info = before.info := by
  rcases d.submitOne_cases queue submitted with ⟨-, hs⟩ | ⟨log, -, -, hs⟩
  · rw [hs] at h
    exact ⟨buffer, h, rfl⟩
  · rw [hs] at h
    obtain ⟨before, hbefore, rfl⟩ :=
      Option.map_eq_some_iff.mp ((d.buffers_execute queue submitted log handle).symm.trans h)
    exact ⟨before, hbefore, rfl⟩

end Device

namespace Session

/-- A buffer after a call that does not submit has the properties of one from before, or of one that the rules
have accepted. -/
theorem buffer_step (s : Session) {call : Call} (hsubmit : ∀ batches, call ≠ .submit batches)
    {handle : Handle .buffer} {buffer : Buffer}
    (h : (s.step call).state.device.registry.get? handle = some buffer) :
    (∃ before, s.device.registry.get? handle = some before ∧ buffer.info = before.info)
      ∨ verdict (s.device.diagnose (.createBuffer buffer.info)) = .ok () := by
  by_cases htype : ObjectType.buffer ∈ call.footprint
  · cases call with
    | createBuffer info =>
      -- Nothing is looked up before.
      have hcreated : (s.device.guarded (.createBuffer info) ((pure () : Except Error Unit) >>=
          fun _ => pure (s.device.insert .buffer (.ofInfo info)))).state.registry.get? handle
          = some buffer := h
      rcases s.device.get?_guarded_insert (.createBuffer info) hcreated with
        hold | ⟨-, haccepted, _, -, rfl⟩
      · exact Or.inl ⟨buffer, hold, rfl⟩
      · exact Or.inr haccepted
    | bindBuffer bound memory offset => exact Or.inl (s.device.buffer_of_bindBuffer bound memory offset h)
    | destroy type destroyed =>
      cases type with
      | buffer => exact Or.inl ⟨buffer, s.device.get?_of_destroy destroyed h, rfl⟩
      | _ => simp [Call.footprint] at htype
    | submit batches => exact absurd rfl (hsubmit batches)
    | _ => simp [Call.footprint] at htype
  · have hsame : (s.step call).state.device.registry.get? handle = s.device.registry.get? handle :=
      congrArg (Store.get? · handle) (s.objects_step htype)
    exact Or.inl ⟨buffer, hsame.symm.trans h, rfl⟩

/-- The buffers of a session on the standard engine have sizes. -/
theorem Reachable.buffer_size_pos {s : Session} (h : s.Reachable)
    (hengine : s.device.engine = Standard.engine) (handle : Handle .buffer) (buffer : Buffer)
    (hget : s.device.registry.get? handle = some buffer) : 0 < buffer.info.size := by
  refine h.keeps (P := fun s => s.device.engine = Standard.engine →
      ∀ (handle : Handle .buffer) (buffer : Buffer), s.device.registry.get? handle = some buffer →
        0 < buffer.info.size)
    (fun environment engine _ handle buffer hget => by cases hget)
    (fun s call _ hsubmit ih hafter handle buffer hget => ?_)
    (fun s queue submitted _ ih hafter handle buffer hget => ?_) hengine handle buffer hget
  · have hbefore := (s.step_transition call).engine.symm.trans hafter
    rcases s.buffer_step hsubmit hget with ⟨before, hold, hinfo⟩ | haccepted
    · rw [hinfo]
      exact ih hbefore handle before hold
    · rw [Device.diagnose, hbefore] at haccepted
      have hcheck := Standard.check_eq_nil Standard.reports_bufferSize rfl haccepted
      exact Nat.pos_of_ne_zero (beq_eq_false_iff_ne.mp (violationIf_eq_nil.mp hcheck))
  · have hbefore := (s.device.submitOne_engine queue submitted).symm.trans hafter
    obtain ⟨before, hold, hinfo⟩ := s.device.buffer_of_submitOne queue submitted hget
    rw [hinfo]
    exact ih hbefore handle before hold

/-- What a live resource needs is not zero, if alignments are 64-bit numbers. -/
theorem Reachable.required_size_pos {s : Session} (h : s.Reachable)
    (hengine : s.device.engine = Standard.engine) (hvalid : s.device.environment.isValid = true)
    (hwidth : ∀ alignment ∈ s.device.environment.alignments, alignment ≤ DeviceSize.max) {resource : Resource}
    {required : MemoryRequirements}
    (hneeds : s.device.registry.requirements? s.device.environment resource = some required) :
    0 < required.size := by
  cases resource with
  | image handle =>
    obtain ⟨image, hget, rfl⟩ := Option.map_eq_some_iff.mp hneeds
    have hmem := image.info.memoryAlignment_mem s.device.environment
    have hproper : image.info.IsProper := (h.imagesFit hengine handle _ (congrArg (Option.map _) hget)).1
    exact (image.info.rounds_requirements hvalid).pos (ImageInfo.exactSize_pos hproper)
      (s.device.environment.alignment_pos hvalid hmem) (hwidth _ hmem)
  | buffer handle =>
    obtain ⟨buffer, hget, rfl⟩ := Option.map_eq_some_iff.mp hneeds
    have hmem := s.device.environment.bufferAlignment_mem
    refine (buffer.info.rounds_requirements hvalid).pos (h.buffer_size_pos hengine handle buffer hget)
      (Nat.lt_of_lt_of_le (by decide) (Nat.le_max_right _ 4)) (Nat.max_le.mpr ⟨hwidth _ hmem, by decide⟩)

end Session

/-! ## Allocations -/

namespace Registry

variable {r : Registry} {env : Environment} {resource : Resource} {required : MemoryRequirements}

theorem exists_requirements (h : r.isUnbound resource = true) :
    ∃ required, r.requirements? env resource = some required := by
  cases resource with
  | image handle =>
    cases hget : r.images.get? handle with
    | none =>
      rw [isUnbound, hget] at h
      cases h
    | some image => exact ⟨_, congrArg (Option.map _) hget⟩
  | buffer handle =>
    cases hget : r.buffers.get? handle with
    | none =>
      rw [isUnbound, hget] at h
      cases h
    | some buffer => exact ⟨_, congrArg (Option.map _) hget⟩

/-- A memory type that a resource allows is one of the environment. -/
theorem memoryType_lt (hneeds : r.requirements? env resource = some required) {type : ℕ}
    (hallowed : allowsMemoryType required.memoryTypeBits type = true) : type < env.memoryTypes.length := by
  obtain ⟨excluded, hbits⟩ : ∃ excluded, required.memoryTypeBits = env.memoryTypeBits ∅ excluded := by
    cases resource with
    | image handle =>
      obtain ⟨image, -, rfl⟩ := Option.map_eq_some_iff.mp hneeds
      exact ⟨_, rfl⟩
    | buffer handle =>
      obtain ⟨buffer, -, rfl⟩ := Option.map_eq_some_iff.mp hneeds
      exact ⟨_, rfl⟩
  rw [hbits] at hallowed
  exact Environment.lt_of_allowsMemoryType hallowed

theorem Agrees.nextSerial_eq (h : r.Agrees []) : r.nextSerial = r.createdIds.length + 1 := by
  have hlength := h.serials.length_eq
  rw [List.append_nil, List.length_map, List.length_range'] at hlength
  have hpositive := h.positive
  omega

end Registry

namespace Device

variable {d : Device}

/-- A new object is found under its handle, which is new as long as there are serials left. -/
theorem get?_insert_new (hagrees : d.registry.Agrees [])
    (hroom : d.registry.createdIds.length < ObjectId.maxSerial) {t : ObjectType} (object : t.Object) :
    (d.insert t object).2.registry.get? (.ofSerial t d.registry.nextSerial) = some object := by
  have hfits : d.registry.nextSerial ≤ ObjectId.maxSerial := by
    rw [hagrees.nextSerial_eq]
    exact hroom
  have hadd := Registry.get?_add (d.registry.reserve t).2 (d.registry.reserve t).1 object
    (.ofSerial t d.registry.nextSerial)
  rw [(Registry.sameObjects_reserve d.registry t).get?_eq, hagrees.get?_ofSerial (Nat.le_refl _) hfits,
    Option.none_or] at hadd
  exact hadd.trans (if_pos rfl)

/-- A resource can be bound to a new plain allocation. -/
theorem canBind_insert (hagrees : d.registry.Agrees [])
    (hroom : d.registry.createdIds.length < ObjectId.maxSerial) (hvalid : d.environment.isValid = true)
    {resource : Resource} (hunbound : d.registry.isUnbound resource = true)
    (hnow : d.registry.isDeferred resource = false) {required : MemoryRequirements}
    (hneeds : d.registry.requirements? d.environment resource = some required) (hpos : 0 < required.size)
    {type offset size : ℕ} (hallowed : allowsMemoryType required.memoryTypeBits type = true)
    (hdvd : required.alignment ∣ offset) (hsize : offset + required.size ≤ size) :
    (d.insert .deviceMemory ⟨size, type, none, ∅, none⟩).2.CanBind resource
      (.ofSerial .deviceMemory d.registry.nextSerial) offset required := by
  have halignment := d.environment.alignment_pos hvalid (Registry.requirements?_alignment hneeds)
  have haligned : offset % max required.alignment 1 = 0 := by
    rw [Nat.max_eq_left halignment]
    exact Nat.mod_eq_zero_of_dvd hdvd
  have hmaskable : type < 32 := Nat.lt_of_lt_of_le (Registry.memoryType_lt hneeds hallowed)
    (Environment.length_memoryTypes_le hvalid)
  have hinside : offset < size := Nat.lt_of_lt_of_le (Nat.lt_add_of_pos_right hpos) hsize
  -- The resources are as before.
  refine ⟨by cases resource <;> exact hunbound, by cases resource <;> exact hnow,
    by cases resource <;> exact hneeds, _, d.get?_insert_new hagrees hroom _, ⟨rfl, rfl, rfl⟩, ?_, hinside,
    hmaskable⟩
  exact ⟨hallowed, haligned, Nat.le_trans (DeviceSize.saturate_le _) hsize⟩

end Device

/-! ## Sessions -/

/-- The call that asks for the requirements of a resource; for an image, by the plain or the extended
query. -/
def Resource.requirementsCall (extended : Bool) : Resource → Call
  | .image handle => .imageRequirements handle extended
  | .buffer handle => .bufferRequirements handle

namespace Session

variable {s : Session}

theorem outcome?_requirementsCall (hengine : s.device.engine = Standard.engine)
    (hlives : s.device.registry.Lives) {resource : Resource}
    (hnow : s.device.registry.isDeferred resource = false) {required : MemoryRequirements}
    (hneeds : s.device.registry.requirements? s.device.environment resource = some required)
    (extended : Bool) :
    s.outcome? (resource.requirementsCall extended) = some ⟨s, [], .ok (.requirements required)⟩ := by
  cases resource with
  | image handle =>
    obtain ⟨image, hget, rfl⟩ := Option.map_eq_some_iff.mp hneeds
    rw [Registry.isDeferred, hget, Option.any_some] at hnow
    have hready : (image.info.isDeferred && !image.isBound) = false := by rw [hnow, Bool.false_and]
    rw [← Device.imageNeeds_of_not_deferred hnow]
    exact outcome?_imageRequirements hengine hlives hget hready extended
  | buffer handle =>
    obtain ⟨buffer, hget, rfl⟩ := Option.map_eq_some_iff.mp hneeds
    exact outcome?_bufferRequirements hget

/-- The session after an allocation has one object more. -/
theorem fewObjects_insert (hroom : s.device.registry.createdIds.length < ObjectId.maxSerial) {t : ObjectType}
    (object : t.Object) : (s.withDevice (s.device.insert t object).2).FewObjects := by
  have hcreated : (s.device.insert t object).2.registry.createdIds
      = s.device.registry.createdIds ++ [(s.device.registry.reserve t).1.erase] :=
    Registry.createdIds_add (s.device.registry.reserve t).2 (s.device.registry.reserve t).1 object
  show (s.device.insert t object).2.registry.createdIds.length ≤ _
  rw [hcreated, List.length_append]
  exact hroom

end Session

/-- The reported requirements of a resource are enough, as long as there are serials left and alignments are
64-bit numbers.  A live resource without memory, whose requirements are not deferred, is bound without a
diagnostic to every plain allocation of a type in the reported mask, at every multiple of the reported
alignment from which the allocation has the reported size left; and the allocation is made without a
diagnostic. -/
theorem requirements_sufficient {s : Session} (h : s.Reachable) (hengine : s.device.engine = Standard.engine)
    (hroom : s.device.registry.createdIds.length < ObjectId.maxSerial)
    (hvalid : s.device.environment.isValid = true)
    (hwidth : ∀ alignment ∈ s.device.environment.alignments, alignment ≤ DeviceSize.max) {resource : Resource}
    (hunbound : s.device.registry.isUnbound resource = true)
    (hnow : s.device.registry.isDeferred resource = false) :
    ∃ required, (∀ extended, s.outcome? (resource.requirementsCall extended)
        = some ⟨s, [], .ok (.requirements required)⟩)
      ∧ ∀ type offset size, allowsMemoryType required.memoryTypeBits type = true →
        required.alignment ∣ offset → offset + required.size ≤ size →
        ∃ (memory : Handle .deviceMemory) (allocated bound : Session),
          s.outcome? (.allocateMemory { size := size, memoryType := type })
            = some ⟨allocated, [], .ok (.object memory.erase)⟩
          ∧ allocated.outcome? (resource.bindCall memory offset) = some ⟨bound, [], .ok .done⟩
          ∧ bound.device.registry.binding? resource = some ⟨memory, offset, required.size⟩ := by
  obtain ⟨required, hneeds⟩ :
      ∃ required, s.device.registry.requirements? s.device.environment resource = some required :=
    Registry.exists_requirements hunbound
  have hagrees := h.changes.agrees_of_empty (Nat.le_of_lt hroom)
  have hpos := h.required_size_pos hengine hvalid hwidth hneeds
  refine ⟨required, Session.outcome?_requirementsCall hengine hagrees.toLives hnow hneeds,
    fun type offset size hallowed hdvd hsize => ?_⟩
  have hallocation := Session.outcome?_allocateMemory hengine hagrees.toLives
    (Nat.lt_of_lt_of_le (Nat.add_pos_right offset hpos) hsize) (Registry.memoryType_lt hneeds hallowed)
  have hreachable := h.of_outcome? hallocation
  have hlives := (hreachable.changes.agrees_of_empty (Session.fewObjects_insert hroom _)).toLives
  obtain ⟨bound, hbound, hbinding⟩ := Session.outcome?_bindCall hreachable.closed hengine hlives
    (Device.canBind_insert hagrees hroom hvalid hunbound hnow hneeds hpos hallowed hdvd hsize)
  exact ⟨_, _, bound, hallocation, hbound, hbinding⟩

/-- The layered image needs 3840 bytes, and is bound to the last of them that an allocation of 8192 has. -/
theorem layered_bound :
    layeredSession.device.registry.createdIds.length < ObjectId.maxSerial
    ∧ layeredSession.device.registry.isUnbound (.image (.ofSerial .image 1)) = true
    ∧ ∃ (memory : Handle .deviceMemory) (allocated bound : Session),
      layeredSession.outcome? (.allocateMemory { size := 8192, memoryType := 1 })
        = some ⟨allocated, [], .ok (.object memory.erase)⟩
      ∧ allocated.outcome? (.bindImage (.ofSerial .image 1) memory 4352) = some ⟨bound, [], .ok .done⟩
      ∧ bound.device.registry.binding? (.image (.ofSerial .image 1)) = some ⟨memory, 4352, 3840⟩ := by
  have hreachable : layeredSession.Reachable := (Session.Reachable.start {} Standard.engine).run _
  have hroom : layeredSession.device.registry.createdIds.length < ObjectId.maxSerial := by decide +kernel
  have henvironment : layeredSession.device.environment = {} := Session.run_environment _ _
  have hvalid : layeredSession.device.environment.isValid = true := by
    rw [henvironment]
    decide
  have hwidth : ∀ alignment ∈ layeredSession.device.environment.alignments, alignment ≤ DeviceSize.max := by
    rw [henvironment]
    decide
  have hunbound : layeredSession.device.registry.isUnbound (.image (.ofSerial .image 1)) = true := by
    decide +kernel
  have hnow : layeredSession.device.registry.isDeferred (.image (.ofSerial .image 1)) = false := by
    decide +kernel
  obtain ⟨required, hquery, hbinds⟩ :=
    requirements_sufficient hreachable rfl hroom hvalid hwidth hunbound hnow
  have hreported : (layeredSession.outcome? (.imageRequirements (.ofSerial .image 1) false)).bind
      Outcome.value? = some (.requirements ⟨3840, 256, 3, false⟩) := by decide +kernel
  rw [show layeredSession.outcome? (.imageRequirements (.ofSerial .image 1) false) = _ from hquery false]
    at hreported
  obtain rfl := Reply.requirements.inj (Option.some.inj hreported)
  exact ⟨hroom, hunbound, hbinds 1 4352 8192 (by decide) (by decide) (by decide)⟩

end VulkanValidity
