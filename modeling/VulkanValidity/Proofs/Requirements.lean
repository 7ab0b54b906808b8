/-
  VulkanValidity.Proofs.Requirements

  What the library says that resources need, compared with their exact sizes
  (`MemoryRequirements.Covers`).  The size of a resource is rounded up once, to the alignment of its memory
  or, for a buffer, to the larger of that and four.  However many steps the calculation takes and wherever
  they stop at 64 bits, the result is the least multiple with room for the exact size, or, if no 64-bit
  number is one, the largest multiple there is.

  Images whose requirements are deferred are the exception.  Once memory is bound to them they are said to
  need what was bound.
-/

import Mathlib.Order.Bounds.Defs
import VulkanValidity.Proofs.Acceptance
import VulkanValidity.Proofs.Families

namespace VulkanValidity

/-! ## Environments -/

namespace Environment

variable {env : Environment} (h : env.isValid = true)
include h

theorem alignment_eq_two_pow {alignment : ℕ} (halignment : alignment ∈ env.alignments) :
    ∃ k, alignment = 2 ^ k := by
  simp only [isValid, Bool.and_eq_true, List.all_eq_true] at h
  have hpower := h.2 alignment halignment
  simp only [isPowerOfTwo, Bool.and_eq_true, beq_iff_eq] at hpower
  exact ⟨alignment.log2, hpower.2.trans (Nat.one_shiftLeft _)⟩

theorem length_memoryTypes_le : env.memoryTypes.length ≤ 32 := by
  simp only [isValid, Bool.and_eq_true, decide_eq_true_eq] at h
  exact h.1.1.2

end Environment

/-! ## Masks of memory types -/

section MemoryTypes

/-- The bits that are set after a sequence of types are those that were set, and those of the types. -/
theorem testBit_foldl_types (types : List (MemoryType × ℕ)) (bits t : ℕ) :
    (types.foldl (fun bits (_, index) => bits ||| 1 <<< index) bits).testBit t = true
      ↔ bits.testBit t = true ∨ ∃ type, (type, t) ∈ types := by
  induction types generalizing bits with
  | nil => simp
  | cons entry types ih =>
    obtain ⟨type, index⟩ := entry
    rw [List.foldl_cons, ih, Nat.testBit_or, Nat.one_shiftLeft, Nat.testBit_two_pow, Bool.or_eq_true,
      decide_eq_true_iff, or_assoc]
    refine or_congr_right ⟨?_, ?_⟩
    · rintro (rfl | ⟨other, hmem⟩)
      · exact ⟨type, List.mem_cons_self⟩
      · exact ⟨other, List.mem_cons_of_mem _ hmem⟩
    · rintro ⟨other, hmem⟩
      rcases List.mem_cons.mp hmem with heq | hrest
      · exact Or.inl (Prod.mk.inj heq).2.symm
      · exact Or.inr ⟨other, hrest⟩

variable (env : Environment)

/-- A mask has the bits of the types with all required properties and none of the excluded ones. -/
theorem Environment.testBit_memoryTypeBits (required excluded : MemoryPropertyFlags) (t : ℕ) :
    (env.memoryTypeBits required excluded).testBit t = true
      ↔ ∃ type, env.memoryTypes[t]? = some type ∧ type.properties.contains required = true
        ∧ type.properties.intersects excluded = false := by
  rw [memoryTypeBits, testBit_foldl_types, Nat.zero_testBit]
  simp only [Bool.false_eq_true, false_or, List.mem_filter, List.mem_zipIdx_iff_getElem?,
    Bool.and_eq_true, Bool.not_eq_true']

variable {env}

/-- The memory types in a mask are some of the environment. -/
theorem Environment.lt_of_allowsMemoryType {required excluded : MemoryPropertyFlags} {type : ℕ}
    (hallowed : allowsMemoryType (env.memoryTypeBits required excluded) type = true) :
    type < env.memoryTypes.length := by
  obtain ⟨found, hget, -⟩ := (env.testBit_memoryTypeBits required excluded type).mp hallowed
  exact (List.getElem?_eq_some_iff.mp hget).1

/-- A mask has 32 bits, for there are no more types. -/
theorem Environment.memoryTypeBits_lt (h : env.isValid = true) (required excluded : MemoryPropertyFlags) :
    env.memoryTypeBits required excluded < 2 ^ 32 := by
  refine Nat.lt_pow_two_of_testBit _ fun t ht => Bool.eq_false_iff.mpr fun hset => ?_
  have hlength := Environment.length_memoryTypes_le h
  have hindex := lt_of_allowsMemoryType hset
  omega

end MemoryTypes

/-! ## Rounded sizes -/

namespace DeviceSize.Rounds

variable {size alignment rounded : ℕ} (h : Rounds size alignment rounded)
include h

theorem isLeast (hroom : ∃ n ≤ max, alignment ∣ n ∧ size ≤ n) :
    IsLeast {n | alignment ∣ n ∧ size ≤ n} rounded := by
  obtain ⟨n, hmax, hdvd, hn⟩ := hroom
  refine ⟨⟨h.dvd, (h.least n hmax hdvd hn).1⟩, fun m ⟨hmdvd, hm⟩ => ?_⟩
  rcases Nat.le_total m max with hfits | hover
  · exact (h.least m hfits hmdvd hm).2
  · exact Nat.le_trans h.le_max hover

theorem isGreatest (hnone : ¬ ∃ n ≤ max, alignment ∣ n ∧ size ≤ n) :
    IsGreatest {n | alignment ∣ n ∧ n ≤ max} rounded := by
  refine ⟨⟨h.dvd, h.le_max⟩, fun m ⟨hmdvd, hm⟩ => h.last (fun n hmax hdvd => ?_) m hm hmdvd⟩
  exact Nat.lt_of_not_le fun hn => hnone ⟨n, hmax, hdvd, hn⟩

end DeviceSize.Rounds

theorem ImageInfo.rounds_requirements {env : Environment} (h : env.isValid = true) (info : ImageInfo) :
    DeviceSize.Rounds info.exactSize (info.requirements env).alignment (info.requirements env).size := by
  rw [info.requirements_size_eq]
  exact (DeviceSize.rounds_alignUp (env.alignment_pos h (info.memoryAlignment_mem env)) _).of_saturate

/-- Rounding to four first is rounding to the larger of four and the alignment, for one of them divides the
other. -/
theorem BufferInfo.rounds_requirements {env : Environment} (h : env.isValid = true) (info : BufferInfo) :
    DeviceSize.Rounds info.size (max (info.requirements env).alignment 4) (info.requirements env).size := by
  have hmem := env.bufferAlignment_mem
  have hfirst : DeviceSize.Rounds info.size 4 (DeviceSize.alignUp info.size 4) :=
    DeviceSize.rounds_alignUp (by decide) info.size
  have hsecond := DeviceSize.rounds_alignUp (env.alignment_pos h hmem) (DeviceSize.alignUp info.size 4)
  obtain ⟨k, hk⟩ := Environment.alignment_eq_two_pow h hmem
  show DeviceSize.Rounds info.size (max env.bufferAlignment 4)
    (DeviceSize.alignUp (DeviceSize.alignUp info.size 4) env.bufferAlignment)
  rcases Nat.le_total 2 k with hlarge | hsmall
  · have hdvd : 4 ∣ env.bufferAlignment := hk ▸ Nat.pow_dvd_pow 2 hlarge
    rw [Nat.max_eq_left (Nat.le_of_dvd (env.alignment_pos h hmem) hdvd)]
    exact hfirst.trans hsecond hdvd
  · have hdvd : env.bufferAlignment ∣ 4 := hk ▸ Nat.pow_dvd_pow 2 hsmall
    rw [Nat.max_eq_right (Nat.le_of_dvd (by decide) hdvd),
      hsecond.eq_of_dvd hfirst.le_max (Nat.dvd_trans hdvd hfirst.dvd)]
    exact hfirst

/-! ## Requirements -/

/-- The requirements of a resource that has an exact size.  The size is a multiple of the unit: the least one
with room for the exact size if a 64-bit number has room for it, and the largest 64-bit one otherwise.  The
alignment is a power of two that divides the size.  The mask has the memory types that are not protected, and
of those that are allocated lazily only transient attachments have any. -/
structure MemoryRequirements.Covers (required : MemoryRequirements) (env : Environment) (exact unit : ℕ)
    (transient : Bool) : Prop where
  fits : required.size ≤ DeviceSize.max
  least : (∃ n ≤ DeviceSize.max, unit ∣ n ∧ exact ≤ n) →
    IsLeast {n | unit ∣ n ∧ exact ≤ n} required.size
  last : (¬ ∃ n ≤ DeviceSize.max, unit ∣ n ∧ exact ≤ n) →
    IsGreatest {n | unit ∣ n ∧ n ≤ DeviceSize.max} required.size
  power : ∃ k, required.alignment = 2 ^ k
  aligned : required.alignment ∣ required.size
  types : ∀ t, allowsMemoryType required.memoryTypeBits t = true ↔ ∃ type, env.memoryTypes[t]? = some type
    ∧ type.properties.intersects MemoryPropertyFlags.isProtected = false
    ∧ (type.properties.intersects MemoryPropertyFlags.lazilyAllocated = true → transient = true)
  mask : required.memoryTypeBits < 2 ^ 32

theorem MemoryRequirements.Covers.of_rounds {required : MemoryRequirements} {env : Environment}
    (h : env.isValid = true) {exact unit : ℕ} (hrounds : DeviceSize.Rounds exact unit required.size)
    (hmem : required.alignment ∈ env.alignments) (haligned : required.alignment ∣ required.size)
    {excluded : MemoryPropertyFlags} (hbits : required.memoryTypeBits = env.memoryTypeBits ∅ excluded)
    {transient : Bool}
    (hexcluded : ∀ properties : MemoryPropertyFlags, properties.intersects excluded = false
      ↔ properties.intersects MemoryPropertyFlags.isProtected = false
        ∧ (properties.intersects MemoryPropertyFlags.lazilyAllocated = true → transient = true)) :
    required.Covers env exact unit transient where
  fits := hrounds.le_max
  least := hrounds.isLeast
  last := hrounds.isGreatest
  power := Environment.alignment_eq_two_pow h hmem
  aligned := haligned
  types t := by
    rw [allowsMemoryType, hbits, env.testBit_memoryTypeBits]
    simp only [Flags.contains_empty, true_and, hexcluded]
  mask := hbits ▸ Environment.memoryTypeBits_lt h ∅ excluded

/-- No memory is protected, or allocated lazily. -/
theorem intersects_protected_or_lazy (properties : MemoryPropertyFlags) :
    properties.intersects (MemoryPropertyFlags.isProtected ∪ MemoryPropertyFlags.lazilyAllocated) = false
      ↔ properties.intersects MemoryPropertyFlags.isProtected = false
        ∧ (properties.intersects MemoryPropertyFlags.lazilyAllocated = true → false = true) := by
  simp only [Bool.eq_false_iff, ne_eq, Flags.intersects_union, not_or, Bool.false_eq_true, imp_false]

theorem ImageInfo.covers_requirements {env : Environment} (h : env.isValid = true) (info : ImageInfo) :
    (info.requirements env).Covers env info.exactSize (info.requirements env).alignment
      (info.usage.intersects ImageUsage.transientAttachment) := by
  have hrounds := info.rounds_requirements h
  refine .of_rounds h hrounds (info.memoryAlignment_mem env) hrounds.dvd rfl fun properties => ?_
  rw [excludedProperties]
  cases info.usage.intersects ImageUsage.transientAttachment with
  | true => simp
  | false => exact intersects_protected_or_lazy properties

theorem BufferInfo.covers_requirements {env : Environment} (h : env.isValid = true) (info : BufferInfo) :
    (info.requirements env).Covers env info.size (max (info.requirements env).alignment 4) false := by
  have hmem := env.bufferAlignment_mem
  have haligned := (DeviceSize.rounds_alignUp (env.alignment_pos h hmem) (DeviceSize.alignUp info.size 4)).dvd
  exact .of_rounds h (info.rounds_requirements h) hmem haligned rfl intersects_protected_or_lazy

/-! ## Queries -/

theorem Standard.reports_requirementsBeforeBind (extended : Bool) :
    engine.Reports .resourceCreation .queryBeforeBind (BindingRules.requirementsBeforeBind extended) := by
  cases extended with
  | false => exact reports_rule bindingRules 20
  | true => exact reports_rule bindingRules 21

/-- A query of the requirements of a deferred image fails as long as no memory is bound to the image. -/
theorem Session.imageRequirements_before_bind {s : Session} (hengine : s.device.engine = Standard.engine)
    {handle : Handle .image} {image : Image} (hget : s.device.registry.get? handle = some image)
    (hdeferred : image.info.isDeferred = true) (hunbound : image.isBound = false) (extended : Bool) :
    ∃ e, (s.step (.imageRequirements handle extended)).result = .error e := by
  cases hresult : (s.step (.imageRequirements handle extended)).result with
  | error e => exact ⟨e, rfl⟩
  | ok reply =>
    obtain ⟨required, hok, -⟩ := result_onDevice.mp hresult
    rcases Outcome.guarded_cases s.device (s.device.diagnose (.queryImageRequirements handle extended)) _ with
      ⟨-, e, he⟩ | ⟨-, -, haccepted, -⟩
    · cases he.symm.trans hok
    · rw [Device.diagnose, hengine] at haccepted
      have hcheck := Standard.check_eq_nil (Standard.reports_requirementsBeforeBind extended) rfl haccepted
      simp only [BindingRules.requirementsBeforeBind, BindingRules.deferredBound, Device.context, hget,
        if_true] at hcheck
      have hready := violationIf_eq_nil.mp hcheck
      rw [hdeferred, hunbound] at hready
      cases hready

/-- The reported requirements are exact, up to one rounding, and no number goes beyond its width.  They are
what the queries give for every live buffer and for every live image that is not deferred.  For a deferred
image without memory the query fails, and for one to which memory is bound it gives the size of its
binding. -/
theorem requirements_exact {s : Session} (h : s.Reachable) (hengine : s.device.engine = Standard.engine)
    (hfew : s.FewObjects) (hvalid : s.device.environment.isValid = true) :
    (∀ info : ImageInfo, (info.requirements s.device.environment).Covers s.device.environment info.exactSize
      (info.requirements s.device.environment).alignment
      (info.usage.intersects ImageUsage.transientAttachment))
    ∧ (∀ info : BufferInfo, (info.requirements s.device.environment).Covers s.device.environment info.size
      (max (info.requirements s.device.environment).alignment 4) false)
    ∧ (∀ (handle : Handle .image) (image : Image), s.device.registry.get? handle = some image →
      ∀ extended : Bool,
        (image.info.isDeferred = false → s.outcome? (.imageRequirements handle extended)
          = some ⟨s, [], .ok (.requirements (image.info.requirements s.device.environment))⟩)
        ∧ (image.info.isDeferred = true → image.isBound = false →
          ∃ e, (s.step (.imageRequirements handle extended)).result = .error e)
        ∧ (image.info.isDeferred = true → ∀ binding, image.binding? = some binding →
          s.outcome? (.imageRequirements handle extended) = some ⟨s, [], .ok (.requirements
            { image.info.requirements s.device.environment with size := binding.size })⟩))
    ∧ ∀ (handle : Handle .buffer) (buffer : Buffer), s.device.registry.get? handle = some buffer →
      s.outcome? (.bufferRequirements handle)
        = some ⟨s, [], .ok (.requirements (buffer.info.requirements s.device.environment))⟩ := by
  have hlives := (h.changes.agrees_of_empty hfew).toLives
  refine ⟨fun info => info.covers_requirements hvalid, fun info => info.covers_requirements hvalid,
    fun handle image hget extended => ⟨fun hnow => ?_, fun hdeferred hunbound => ?_,
      fun hdeferred binding hbinding => ?_⟩,
    fun handle buffer hget => Session.outcome?_bufferRequirements hget⟩
  -- A query is answered unless the requirements are deferred until the image is bound.
  · have hready : (image.info.isDeferred && !image.isBound) = false := by rw [hnow, Bool.false_and]
    rw [Session.outcome?_imageRequirements hengine hlives hget hready, Device.imageNeeds_of_not_deferred hnow]
  · exact Session.imageRequirements_before_bind hengine hget hdeferred hunbound extended
  · have hbound : image.isBound = true := by
      rw [Image.isBound, Option.isSome_iff_ne_none]
      intro hnone
      rw [Image.binding?, hnone] at hbinding
      cases hbinding
    have hready : (image.info.isDeferred && !image.isBound) = false := by
      rw [hbound, Bool.not_true, Bool.and_false]
    rw [Session.outcome?_imageRequirements hengine hlives hget hready,
      Device.imageNeeds_of_deferred hdeferred hbinding]

/-- A session with the layered image. -/
def layeredSession : Session := (Session.start {} Standard.engine).run [.createImage layeredImage]

/-- The query for the layered image gives the least multiple of its alignment that has room for it. -/
theorem layered_requirements_exact :
    layeredSession.FewObjects ∧ layeredSession.device.environment.isValid = true
    ∧ ∃ required, layeredSession.outcome? (.imageRequirements (.ofSerial .image 1) false)
        = some ⟨layeredSession, [], .ok (.requirements required)⟩
      ∧ IsLeast {n | required.alignment ∣ n ∧ layeredImage.exactSize ≤ n} required.size := by
  have hreachable : layeredSession.Reachable := (Session.Reachable.start {} Standard.engine).run _
  have hfew : layeredSession.FewObjects := by
    unfold Session.FewObjects
    decide +kernel
  have henvironment : layeredSession.device.environment = {} := Session.run_environment _ _
  have hvalid : layeredSession.device.environment.isValid = true := by
    rw [henvironment]
    decide
  obtain ⟨himages, -, hqueries, -⟩ := requirements_exact hreachable rfl hfew hvalid
  have hinfo : (layeredSession.device.registry.get? (.ofSerial .image 1)).map Image.info
      = some layeredImage := by decide +kernel
  obtain ⟨image, hget, hinfo⟩ := Option.map_eq_some_iff.mp hinfo
  have hquery := (hqueries _ image hget false).1 (by rw [hinfo]; decide)
  rw [hinfo] at hquery
  have hroom : ∃ n ≤ DeviceSize.max,
      (layeredImage.requirements layeredSession.device.environment).alignment ∣ n
        ∧ layeredImage.exactSize ≤ n := by
    rw [henvironment]
    exact ⟨3840, by decide, by decide, by decide⟩
  exact ⟨hfew, hvalid, _, hquery, (himages layeredImage).least hroom⟩

/-- A deferred image of 16384 bytes to which one byte is bound, and which is said to need that byte. -/
theorem deferred_requirements_not_exact :
    ((Session.start .android Standard.engine).run bindOneByte).Reachable
    ∧ (((Session.start .android Standard.engine).run bindOneByte).device.registry.get?
        (.ofSerial .image 1)).map Image.info = some deferredImage
    ∧ ∃ required, (((Session.start .android Standard.engine).run bindOneByte).step
        (.imageRequirements (.ofSerial .image 1) false)).result = .ok (.requirements required)
      ∧ required.size = 1 ∧ deferredImage.exactSize = 16384
      ∧ ¬ required.Covers .android deferredImage.exactSize required.alignment false := by
  let s := (Session.start .android Standard.engine).run bindOneByte
  have hquery : (s.step (.imageRequirements (.ofSerial .image 1) false)).value?
      = some (.requirements ⟨1, 256, 3, true⟩) := by decide +kernel
  have hexact : deferredImage.exactSize = 16384 := by decide +kernel
  refine ⟨(Session.Reachable.start .android Standard.engine).run _, by decide +kernel, ⟨1, 256, 3, true⟩,
    Outcome.value?_eq_some.mp hquery, rfl, hexact, fun hcovers => ?_⟩
  have hleast := hcovers.least ⟨16384, by decide, by decide, Nat.le_of_eq hexact⟩
  have hroom : deferredImage.exactSize ≤ 1 := hleast.1.2
  rw [hexact] at hroom
  exact absurd hroom (by decide)

end VulkanValidity
