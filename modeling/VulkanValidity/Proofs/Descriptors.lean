/-
  VulkanValidity.Proofs.Descriptors

  File descriptors that lead to memory.  An export makes a file descriptor, and the descriptor stands in a
  table of the registry, with the size and the memory type of the allocation, until an import uses it up.  No
  other call touches the table (`Session.descriptors_step`), so that it always holds what was exported and not
  imported yet (`Session.descriptorsKept_run`), whatever becomes of the allocations that were exported.

  Descriptors are numbered from 3 on by 32-bit numbers with a sign.  As long as these do not run out no two
  exports get the same one.
-/

import VulkanValidity.Proofs.Allocations
import VulkanValidity.Proofs.HardwareBufferImports

namespace VulkanValidity

/-! ## The table of descriptors -/

namespace Registry

/-- What the registry knows of file descriptors: where those lead that are not used up, and which one is
next. -/
def descriptors (r : Registry) : List (Int × ExportedMemory) × Int := (r.exported, r.nextDescriptor)

theorem overlooks_descriptors (types : List ObjectType) : Overlooks descriptors types where
  objects r {t} s _ := by cases t <;> rfl
  notes r serial tombstones feed uses formats := rfl

/-- A descriptor that is used up leads nowhere. -/
theorem exportedMemory?_takeDescriptor (r : Registry) (fd other : Int) :
    (r.takeDescriptor fd).exportedMemory? other = if other = fd then none else r.exportedMemory? other :=
  lookup_filter_ne r.exported fd other

/-- A new descriptor leads to the allocation, and the others lead to where they led. -/
theorem exportedMemory?_exportMemory (r : Registry) (handle : Handle .deviceMemory) (memory : DeviceMemory)
    (fd : Int) : (r.exportMemory handle memory).2.exportedMemory? fd
      = if fd = r.nextDescriptor then some ⟨handle, memory.size, memory.memoryType⟩
        else r.exportedMemory? fd := by
  have htaken : (r.takeDescriptor r.nextDescriptor).exported.lookup fd = _ :=
    r.exportedMemory?_takeDescriptor r.nextDescriptor fd
  show ((r.takeDescriptor r.nextDescriptor).exported ++ _).lookup fd = _
  rw [List.lookup_append, htaken]
  by_cases h : fd = r.nextDescriptor
  · rw [if_pos h, if_pos h, h, Option.none_or, List.lookup_cons_self]
  · rw [if_neg h, if_neg h, List.lookup_cons, beq_false_of_ne h, List.lookup_nil, Option.or_none]

/-! ### Descriptors that were exported and imported -/

/-- The table after the given exports and imports.  Descriptors were handed out in order, each was imported
once at most, and the table has those that were exported and not imported. -/
structure DescriptorsKept (r : Registry) (exports : List (Int × ExportedMemory)) (imports : List Int) :
    Prop where
  numbers : exports.map Prod.fst = (List.range exports.length).map fun i : ℕ => (i : Int) + 3
  next : r.nextDescriptor = exports.length + 3
  table : ∀ fd exported, r.exportedMemory? fd = some exported ↔ (fd, exported) ∈ exports ∧ fd ∉ imports
  fromExports : ∀ fd ∈ imports, fd ∈ exports.map Prod.fst
  once : imports.Nodup

namespace DescriptorsKept

variable {r : Registry} {exports : List (Int × ExportedMemory)} {imports : List Int}

/-- Nothing has been exported yet. -/
theorem empty : DescriptorsKept {} [] [] where
  numbers := rfl
  next := rfl
  table fd exported := ⟨fun h => (by cases h), fun h => (by cases h.1)⟩
  fromExports _ h := by cases h
  once := List.nodup_nil

variable (h : r.DescriptorsKept exports imports)
include h

/-- No two exports have the same number. -/
theorem exports_nodup : (exports.map Prod.fst).Nodup := by
  rw [h.numbers]
  refine List.nodup_range.map fun i j hij => ?_
  have hcast : (i : Int) + 3 = (j : Int) + 3 := hij
  omega

theorem next_not_mem : r.nextDescriptor ∉ exports.map Prod.fst := by
  rw [h.numbers, h.next, List.mem_map]
  rintro ⟨i, hi, heq⟩
  have hlt := List.mem_range.mp hi
  omega

/-- The table has a descriptor if that was exported and not imported. -/
theorem exists_exported_iff (fd : Int) :
    (∃ exported, r.exportedMemory? fd = some exported) ↔ fd ∈ exports.map Prod.fst ∧ fd ∉ imports := by
  simp only [h.table, exists_and_right, List.mem_map, Prod.exists, exists_eq_right]

theorem congr {r' : Registry} (heq : r'.descriptors = r.descriptors) : r'.DescriptorsKept exports imports := by
  obtain ⟨htable, hnext⟩ := Prod.mk.inj heq
  refine ⟨h.numbers, hnext.trans h.next, fun fd exported => ?_, h.fromExports, h.once⟩
  rw [← h.table fd exported, exportedMemory?, exportedMemory?, htable]

/-- An export gets the next number, unless that does not fit. -/
theorem exported (hroom : exports.length + 1 < 2 ^ 31 - 3) (handle : Handle .deviceMemory)
    (memory : DeviceMemory) : (r.exportMemory handle memory).2.DescriptorsKept
      (exports ++ [(r.nextDescriptor, ⟨handle, memory.size, memory.memoryType⟩)]) imports := by
  have hnew := h.next_not_mem
  refine ⟨?_, ?_, fun fd exported => ?_, fun fd hfd => ?_, h.once⟩
  · rw [List.map_append, List.length_append, List.length_singleton, List.range_succ, List.map_append,
      ← h.numbers, List.map_singleton, List.map_singleton, h.next]
  · show (r.nextDescriptor + 1).bmod 0x100000000 = _
    rw [h.next, List.length_append, List.length_singleton]
    -- The number fits 32 bits, so that it is not wrapped around.
    rw [Int.bmod_eq_of_le (by omega) (by omega)]
    omega
  · rw [r.exportedMemory?_exportMemory, List.mem_append, List.mem_singleton, Prod.mk.injEq]
    split
    · next heq =>
      subst heq
      -- The new number was never exported, and so never imported.
      have hnotBefore : (r.nextDescriptor, exported) ∉ exports := fun hmem =>
        hnew (List.mem_map_of_mem hmem)
      have hnotImported : r.nextDescriptor ∉ imports := fun hmem => hnew (h.fromExports _ hmem)
      simp [hnotBefore, hnotImported, eq_comm]
    · next hne => simp [h.table, hne]
  · rw [List.map_append]
    exact List.mem_append_left _ (h.fromExports fd hfd)

/-- A descriptor of the table can be imported, and is used up. -/
theorem imported {fd : Int} {exported : ExportedMemory} (hknown : r.exportedMemory? fd = some exported) :
    (r.takeDescriptor fd).DescriptorsKept exports (imports ++ [fd]) := by
  obtain ⟨hexported, hfree⟩ := (h.table fd exported).mp hknown
  refine ⟨h.numbers, h.next, fun other found => ?_, fun other hmem => ?_, ?_⟩
  · rw [r.exportedMemory?_takeDescriptor, List.mem_append, List.mem_singleton]
    split
    · next heq => simp [heq]
    · next hne => simp [h.table, hne]
  · rcases List.mem_append.mp hmem with hold | hnew
    · exact h.fromExports other hold
    · rw [List.mem_singleton.mp hnew]
      exact List.mem_map_of_mem hexported
  · refine List.nodup_append.mpr ⟨h.once, List.nodup_singleton fd, fun other hother last hlast => ?_⟩
    rintro rfl
    exact hfree (List.mem_singleton.mp hlast ▸ hother)

end DescriptorsKept

end Registry

/-! ## Calls -/

/-- The file descriptor that an allocation imports. -/
def AllocationInfo.descriptor? (info : AllocationInfo) : Option Int :=
  match info.source with
  | some (.fileDescriptor _ fd) => some fd
  | _ => none

theorem AllocationInfo.source_of_descriptor? {info : AllocationInfo} {fd : Int}
    (h : info.descriptor? = some fd) : ∃ handleType, info.source = some (.fileDescriptor handleType fd) := by
  unfold descriptor? at h
  split at h
  · next handleType other hsource =>
    obtain rfl := Option.some.inj h
    exact ⟨handleType, hsource⟩
  · cases h

namespace Device

theorem exportMemory_cases (d : Device) (handle : Handle .deviceMemory) (handleType : ExternalHandleTypes) :
    ((d.exportMemory handle handleType).state = d ∧ ∃ e, (d.exportMemory handle handleType).result = .error e)
      ∨ ∃ memory, d.registry.get? handle = some memory
        ∧ (d.exportMemory handle handleType).state = d.withRegistry (d.registry.exportMemory handle memory).2
        ∧ (d.exportMemory handle handleType).result = .ok d.registry.nextDescriptor := by
  rcases Outcome.guarded_cases d (d.diagnose (.exportMemory handle handleType)) _ with
    h | ⟨value, after, -, hperform, hs, hv⟩
  · exact Or.inl h
  · obtain ⟨memory, hget, hperform⟩ := bind_eq_ok.mp hperform
    obtain ⟨rfl, rfl⟩ := Prod.mk.inj (pure_eq_ok.mp hperform)
    exact Or.inr ⟨memory, Registry.get_eq_ok.mp hget, hs, hv⟩

/-- A size that is asked for is the size of the allocation. -/
theorem allocationSize_of_pos {d : Device} {info : AllocationInfo} (hpos : 0 < info.size) :
    d.allocationSize info = .ok info.size := by
  unfold allocationSize
  split
  · exact if_neg fun hasked => Nat.ne_of_gt hpos hasked.1
  · rfl

end Device

/-- An import that the rules accept is of the size and the memory type of what was exported. -/
theorem Standard.exists_exported_of_accepted {d : Device} (hengine : d.engine = engine) {info : AllocationInfo}
    (haccepted : verdict (d.diagnose (.allocateMemory info)) = .ok ()) {fd : Int}
    (hfd : info.descriptor? = some fd) : ∃ exported, d.registry.exportedMemory? fd = some exported
      ∧ exported.size = info.size ∧ exported.memoryType = info.memoryType := by
  have hreports : engine.Reports .resourceCreation .importMismatch MemoryRules.fdImport :=
    reports_rule memoryRules 11
  obtain ⟨handleType, hsource⟩ := AllocationInfo.source_of_descriptor? hfd
  rw [Device.diagnose, hengine] at haccepted
  have hcheck := check_eq_nil hreports rfl haccepted
  simp only [MemoryRules.fdImport, MemoryRules.onAllocate, Device.context, hsource] at hcheck
  cases hknown : d.registry.exportedMemory? fd with
  | none =>
    rw [hknown] at hcheck
    cases hcheck
  | some exported =>
    rw [hknown] at hcheck
    have hagrees := violationIf_eq_nil.mp hcheck
    rw [Bool.or_eq_false_iff, bne_eq_false_iff_eq, bne_eq_false_iff_eq] at hagrees
    exact ⟨exported, rfl, hagrees⟩

namespace Session

/-- Calls that neither export nor allocate leave the table of descriptors alone. -/
theorem descriptors_step (s : Session) {call : Call} (h : call.usesDescriptors = false) :
    (s.step call).state.device.registry.descriptors = s.device.registry.descriptors :=
  s.overlooked_step (Registry.overlooks_descriptors _) h

/-- What a call exports if it succeeds: the new descriptor, and the allocation as it is then. -/
def exportedBy (s : Session) (call : Call) : Option (Int × ExportedMemory) :=
  match call, (s.step call).value? with
  | .exportMemory handle _, some (.descriptor fd) =>
    (s.device.registry.get? handle).map fun memory => (fd, ⟨handle, memory.size, memory.memoryType⟩)
  | _, _ => none

/-- The descriptor that a call imports if it succeeds. -/
def importedBy (s : Session) (call : Call) : Option Int :=
  match call, (s.step call).value? with
  | .allocateMemory info, some _ => info.descriptor?
  | _, _ => none

/-- The exports of a run, in order. -/
def exports (s : Session) : List Call → List (Int × ExportedMemory)
  | [] => []
  | call :: rest => (s.exportedBy call).toList ++ (s.step call).state.exports rest

/-- The descriptors that a run imports, in order. -/
def imports (s : Session) : List Call → List Int
  | [] => []
  | call :: rest => (s.importedBy call).toList ++ (s.step call).state.imports rest

theorem exports_append (s : Session) (calls more : List Call) :
    s.exports (calls ++ more) = s.exports calls ++ (s.run calls).exports more := by
  induction calls generalizing s with
  | nil => rfl
  | cons call calls ih =>
    show _ ++ (s.step call).state.exports (calls ++ more) = _
    rw [ih, ← List.append_assoc]
    rfl

theorem value?_of_error {s : Session} {call : Call} {e : Error} (h : (s.step call).result = .error e) :
    (s.step call).value? = none := by
  rw [Outcome.value?, h]
  rfl

/-- A call that fails neither exports nor imports anything. -/
theorem exportedBy_of_error {s : Session} {call : Call} {e : Error} (h : (s.step call).result = .error e) :
    s.exportedBy call = none := by
  simp only [exportedBy, value?_of_error h]

theorem importedBy_of_error {s : Session} {call : Call} {e : Error} (h : (s.step call).result = .error e) :
    s.importedBy call = none := by
  simp only [importedBy, value?_of_error h]

section Kept

variable {s : Session} (hengine : s.device.engine = Standard.engine) {exports : List (Int × ExportedMemory)}
  {imports : List Int} (h : s.device.registry.DescriptorsKept exports imports)
include h

theorem descriptorsKept_exportMemory (handle : Handle .deviceMemory) (handleType : ExternalHandleTypes)
    (hroom : (exports ++ (s.exportedBy (.exportMemory handle handleType)).toList).length < 2 ^ 31 - 3) :
    (s.step (.exportMemory handle handleType)).state.device.registry.DescriptorsKept
      (exports ++ (s.exportedBy (.exportMemory handle handleType)).toList) imports := by
  have hstate : (s.step (.exportMemory handle handleType)).state.device
      = (s.device.exportMemory handle handleType).state := rfl
  rcases s.device.exportMemory_cases handle handleType with ⟨hs, e, he⟩ | ⟨memory, hget, hs, hv⟩
  · have herror : (s.step (.exportMemory handle handleType)).result = .error e :=
      congrArg (Except.map Reply.descriptor) he
    rw [hstate, hs, exportedBy_of_error herror, Option.toList_none, List.append_nil]
    exact h
  · have hreply : (s.step (.exportMemory handle handleType)).value?
        = some (.descriptor s.device.registry.nextDescriptor) :=
      Outcome.value?_eq_some.mpr (congrArg (Except.map Reply.descriptor) hv)
    have hexported : s.exportedBy (.exportMemory handle handleType) = some
        (s.device.registry.nextDescriptor, ⟨handle, memory.size, memory.memoryType⟩) := by
      simp only [exportedBy, hreply, hget, Option.map_some]
    rw [hexported, Option.toList_some, List.length_append] at hroom
    rw [hstate, hs, hexported, Option.toList_some]
    exact h.exported hroom handle memory

include hengine in
theorem descriptorsKept_allocateMemory (info : AllocationInfo) :
    (s.step (.allocateMemory info)).state.device.registry.DescriptorsKept exports
      (imports ++ (s.importedBy (.allocateMemory info)).toList) := by
  rcases s.allocateMemory_cases info with ⟨hs, e, he⟩ | ⟨size, haccepted, -, hs, hv⟩
  · rw [hs, importedBy_of_error he, Option.toList_none, List.append_nil]
    exact h
  · have hreply := Outcome.value?_eq_some.mpr hv
    have himported : s.importedBy (.allocateMemory info) = info.descriptor? := by
      simp only [importedBy, hreply]
    -- The new allocation is added after its import was taken from the table.
    have htable : (s.step (.allocateMemory info)).state.device.registry.descriptors
        = (Device.takeImport s.device.registry info.source).descriptors := by
      rw [hs]
      exact (Registry.overlooks_descriptors [.deviceMemory]).insert (List.mem_singleton_self _) _ _
    rw [himported]
    refine Registry.DescriptorsKept.congr ?_ htable
    cases hfd : info.descriptor? with
    | none =>
      rw [Option.toList_none, List.append_nil]
      unfold Device.takeImport
      split
      · next handleType fd hsource =>
        rw [AllocationInfo.descriptor?, hsource] at hfd
        cases hfd
      · exact h
    | some fd =>
      obtain ⟨exported, hknown, -⟩ := Standard.exists_exported_of_accepted hengine haccepted hfd
      obtain ⟨handleType, hsource⟩ := AllocationInfo.source_of_descriptor? hfd
      rw [hsource]
      exact h.imported hknown

include hengine in
/-- The table is kept by every call. -/
theorem descriptorsKept_step (call : Call)
    (hroom : (exports ++ (s.exportedBy call).toList).length < 2 ^ 31 - 3) :
    (s.step call).state.device.registry.DescriptorsKept (exports ++ (s.exportedBy call).toList)
      (imports ++ (s.importedBy call).toList) := by
  have haside (hcall : call.usesDescriptors = false) :
      (s.step call).state.device.registry.DescriptorsKept (exports ++ []) (imports ++ []) := by
    rw [List.append_nil, List.append_nil]
    exact h.congr (s.descriptors_step hcall)
  cases call with
  | exportMemory handle handleType =>
    have hkept := descriptorsKept_exportMemory h handle handleType hroom
    rwa [← List.append_nil imports] at hkept
  | allocateMemory info =>
    have hkept := descriptorsKept_allocateMemory hengine h info
    rwa [← List.append_nil exports] at hkept
  | _ => exact haside rfl

end Kept

/-- The table is kept by every run that does not run out of numbers. -/
theorem descriptorsKept_run {s : Session} (hengine : s.device.engine = Standard.engine) (calls : List Call)
    {exports : List (Int × ExportedMemory)} {imports : List Int}
    (h : s.device.registry.DescriptorsKept exports imports)
    (hroom : (exports ++ s.exports calls).length < 2 ^ 31 - 3) :
    (s.run calls).device.registry.DescriptorsKept (exports ++ s.exports calls)
      (imports ++ s.imports calls) := by
  induction calls generalizing s exports imports with
  | nil =>
    rw [show s.exports [] = [] from rfl, show s.imports [] = [] from rfl, List.append_nil, List.append_nil]
    exact h
  | cons call rest ih =>
    rw [Session.exports, ← List.append_assoc] at hroom ⊢
    rw [Session.imports, ← List.append_assoc]
    rw [List.length_append] at hroom
    have hstep := descriptorsKept_step hengine h call (Nat.lt_of_le_of_lt (Nat.le_add_right _ _) hroom)
    rw [← List.length_append] at hroom
    exact ih ((s.step_transition call).engine.trans hengine) hstep hroom

end Session

/-! ## Sizes and memory types of allocations -/

/-- Whether a call that imports a hardware buffer imports one that could be allocated. -/
def Call.importsAllocated : Call → Bool
  | .allocateMemory info =>
    match info.source with
    | some (.hardwareBuffer buffer) => buffer.info.isValid
    | _ => true
  | _ => true

namespace Standard

theorem reports_memoryType :
    engine.Reports .resourceCreation .invalidParams MemoryRules.memoryType := reports_rule memoryRules 0

theorem reports_sizeNonzero :
    engine.Reports .resourceCreation .invalidParams MemoryRules.sizeNonzero := reports_rule memoryRules 1

theorem reports_hardwareBufferImportSize :
    engine.Reports .resourceCreation .importMismatch MemoryRules.hardwareBufferImportSize.check :=
  reports_rule memoryRules 3

variable {d : Device} (hengine : d.engine = engine) {info : AllocationInfo}
  (haccepted : verdict (d.diagnose (.allocateMemory info)) = .ok ())
include hengine haccepted

theorem memoryType_lt_of_accepted : info.memoryType < d.environment.memoryTypes.length := by
  rw [Device.diagnose, hengine] at haccepted
  have hcheck := check_eq_nil reports_memoryType rfl haccepted
  exact Nat.lt_of_not_le (of_decide_eq_false (violationIf_eq_nil.mp hcheck))

/-- Only an allocation that makes a hardware buffer for an image has no size of its own. -/
theorem size_of_accepted (hbuffer : (Call.allocateMemory info).importsAllocated = true) :
    0 < info.size ∨ info.exportsHardwareBufferForImage = true := by
  rw [Device.diagnose, hengine] at haccepted
  have hsize := violationIf_eq_nil.mp (check_eq_nil reports_sizeNonzero rfl haccepted)
  have himport := check_eq_nil reports_hardwareBufferImportSize rfl haccepted
  rcases Nat.eq_zero_or_pos info.size with hzero | hpos
  · right
    by_contra hforImage
    rw [hzero, beq_self_eq_true, Bool.eq_false_iff.mpr hforImage, Bool.true_and, Bool.not_false,
      Bool.true_and, Bool.not_eq_false', AllocationInfo.importsHardwareBuffer] at hsize
    cases hsource : info.source with
    | none =>
      rw [hsource] at hsize
      cases hsize
    | some source =>
      cases source with
      | fileDescriptor handleType fd =>
        rw [hsource] at hsize
        cases hsize
      | hardwareBuffer buffer =>
        -- The hardware buffer has a size, and the import has that of the buffer.
        simp only [MemoryRules.hardwareBufferImportSize, MemoryRules.measured, MemoryRules.onImport,
          MemoryRules.onAllocate, Device.context, hsource] at himport
        have hequal := bne_eq_false_iff_eq.mp (violationIf_eq_nil.mp himport)
        simp only [Call.importsAllocated, hsource] at hbuffer
        obtain ⟨hwidth, hheight, hlayers⟩ := HardwareBufferInfo.dimensions_pos hbuffer
        have hpos : 0 < buffer.info.allocationSize :=
          HardwareBufferInfo.allocationSize_pos hwidth hheight hlayers
        rw [hzero] at hequal
        exact absurd hequal (Nat.ne_of_lt hpos)
  · exact Or.inl hpos

end Standard

/-- Every allocation has a size, and a memory type of the environment. -/
def Device.AllocationsProper (d : Device) : Prop :=
  ∀ handle memory, d.memories.get? handle = some memory →
    0 < memory.size ∧ memory.memoryType < d.environment.memoryTypes.length

namespace Session

section Proper

variable {s : Session} (h : s.Reachable) (hengine : s.device.engine = Standard.engine)
  (hvalid : s.device.environment.isValid = true)
  (hwidth : ∀ alignment ∈ s.device.environment.alignments, alignment ≤ DeviceSize.max)
include h hengine hvalid hwidth

/-- What is allocated has a size: the one that was asked for, or the one that an image needs. -/
theorem Reachable.allocationSize_pos {info : AllocationInfo}
    (haccepted : verdict (s.device.diagnose (.allocateMemory info)) = .ok ())
    (hbuffer : (Call.allocateMemory info).importsAllocated = true) {size : ℕ}
    (hsize : s.device.allocationSize info = .ok size) : 0 < size := by
  rcases Device.allocationSize_cases hsize with ⟨rfl, hplain⟩ | ⟨handle, image, -, hget, rfl⟩
  · rcases Standard.size_of_accepted hengine haccepted hbuffer with hpos | hexports
    · exact hpos
    · refine Nat.pos_of_ne_zero fun hzero => ?_
      rw [hplain hzero] at hexports
      cases hexports
  · have hneeds : s.device.registry.requirements? s.device.environment (.image handle)
        = some (image.info.requirements s.device.environment) := congrArg (Option.map _) hget
    exact h.required_size_pos hengine hvalid hwidth hneeds

theorem Reachable.allocationsProper_step (hproper : s.device.AllocationsProper) {call : Call}
    (hbuffer : call.importsAllocated = true) : (s.step call).state.device.AllocationsProper := by
  intro handle memory hget
  rw [(s.step_transition call).environment]
  rcases s.memory_step call hget with hold | ⟨info, size, rfl, haccepted, hsize, rfl⟩
  · exact hproper handle memory hold
  · exact ⟨h.allocationSize_pos hengine hvalid hwidth haccepted hbuffer hsize,
      Standard.memoryType_lt_of_accepted hengine haccepted⟩

/-- What a run exports has a size, and a memory type of the environment. -/
theorem Reachable.exports_proper (hproper : s.device.AllocationsProper) {calls : List Call}
    (hbuffers : ∀ call ∈ calls, call.importsAllocated = true) {entry : Int × ExportedMemory}
    (hentry : entry ∈ s.exports calls) :
    0 < entry.2.size ∧ entry.2.memoryType < s.device.environment.memoryTypes.length := by
  induction calls generalizing s with
  | nil => cases hentry
  | cons call rest ih =>
    rcases List.mem_append.mp hentry with hnow | hlater
    · -- What is exported now is an allocation that is alive.
      have hexported := Option.mem_toList.mp hnow
      unfold exportedBy at hexported
      split at hexported
      · next handle handleType fd _ =>
        obtain ⟨memory, hget, rfl⟩ := Option.map_eq_some_iff.mp hexported
        exact hproper handle memory hget
      · cases hexported
    · have henvironment := (s.step_transition call).environment
      rw [← henvironment]
      rw [← henvironment] at hvalid hwidth
      exact ih (h.call call) ((s.step_transition call).engine.trans hengine) hvalid hwidth
        (h.allocationsProper_step hengine (henvironment ▸ hvalid) (henvironment ▸ hwidth) hproper
          (hbuffers call List.mem_cons_self))
        (fun other hother => hbuffers other (List.mem_cons_of_mem call hother)) hlater

end Proper

end Session

/-! ## Imports -/

/-- The properties of an allocation that imports what was exported. -/
def ExportedMemory.importInfo (exported : ExportedMemory) (fd : Int) : AllocationInfo where
  size := exported.size
  memoryType := exported.memoryType
  source := some (.fileDescriptor .opaqueFd fd)

namespace Standard

variable (d : Device) (exported : ExportedMemory) (fd : Int)

/-- Besides the rules about objects, four rules are about the import of a descriptor. -/
theorem evaluate_importDescriptor : engine.evaluate (d.context (.allocateMemory (exported.importInfo fd)))
      = (objectRules.take 2 ++ (memoryRules.take 3 ++ (memoryRules.drop 11).take 1)).flatMap fun rule =>
          rule.diagnostics (d.context (.allocateMemory (exported.importInfo fd))) := by
  rfl

variable {d exported fd}

/-- Nothing is said about an import of what was exported. -/
theorem evaluate_importDescriptor_eq_nil (hknown : d.registry.exportedMemory? fd = some exported)
    (hsize : 0 < exported.size) (htype : exported.memoryType < d.environment.memoryTypes.length) :
    engine.evaluate (d.context (.allocateMemory (exported.importInfo fd))) = [] := by
  rw [evaluate_importDescriptor, Rule.flatMap_diagnostics_eq_nil]
  intro rule hrule
  simp only [objectRules, memoryRules, List.take, List.drop, List.mem_append, List.mem_cons,
    List.not_mem_nil, or_false] at hrule
  rcases hrule with (rfl | rfl) | (rfl | rfl | rfl) | rfl
  -- The import names no object.
  · exact ObjectRules.objectDestroyed_eq_nil.mpr fun id hid => (List.not_mem_nil hid).elim
  · exact ObjectRules.objectUnknown_eq_nil.mpr fun id hid => (List.not_mem_nil hid).elim
  · exact violationIf_eq_nil.mpr (decide_eq_false (Nat.not_le_of_lt htype))
  · refine violationIf_eq_nil.mpr ?_
    show (exported.size == 0 && _ && _) = false
    rw [beq_eq_false_iff_ne.mpr (Nat.ne_of_gt hsize), Bool.false_and, Bool.false_and]
  · refine violationIf_eq_nil.mpr ?_
    rw [AllocationInfo.not_exportsHardwareBufferForImage rfl, Bool.false_and]
  · show MemoryRules.fdImport (d.context (.allocateMemory (exported.importInfo fd))) = []
    simp only [MemoryRules.fdImport, MemoryRules.onAllocate, Device.context, ExportedMemory.importInfo, hknown]
    refine violationIf_eq_nil.mpr ?_
    rw [bne_self_eq_false, bne_self_eq_false, Bool.false_or]

end Standard

namespace Session

/-- Whether a descriptor can be imported: some allocation that imports it succeeds. -/
def CanImport (s : Session) (fd : Int) : Prop :=
  ∃ info outcome id, info.descriptor? = some fd ∧ s.outcome? (.allocateMemory info) = some outcome
    ∧ outcome.result = .ok (.object id)

/-- The new allocation of an import is the one that was exported, in size and memory type. -/
theorem allocation_of_import {s : Session} (hengine : s.device.engine = Standard.engine) {call : Call} {fd : Int}
    (himport : s.importedBy call = some fd) : ∃ info size exported, call = .allocateMemory info
      ∧ s.device.registry.exportedMemory? fd = some exported ∧ exported.size = info.size
      ∧ exported.memoryType = info.memoryType ∧ s.device.allocationSize info = .ok size
      ∧ (s.step call).result
        = .ok (.object (Handle.ofSerial .deviceMemory s.device.registry.nextSerial).erase)
      ∧ (s.step call).state.device.memories = s.device.memories.insert
        (.ofSerial .deviceMemory s.device.registry.nextSerial) (.ofInfo info size) := by
  unfold importedBy at himport
  split at himport
  · next info reply hreply =>
    have hok := Outcome.value?_eq_some.mp hreply
    rcases s.allocateMemory_cases info with ⟨-, e, he⟩ | ⟨size, haccepted, hsize, hs, hv⟩
    · cases he.symm.trans hok
    · obtain ⟨exported, hknown, hsame, htype⟩ :=
        Standard.exists_exported_of_accepted hengine haccepted himport
      refine ⟨info, size, exported, rfl, hknown, hsame, htype, hsize, hv, ?_⟩
      rw [hs, s.device.memories_of_insert]
  · cases himport

/-- What the table has can be imported, and nothing else. -/
theorem canImport_iff {s : Session} (hengine : s.device.engine = Standard.engine)
    {exports : List (Int × ExportedMemory)} {imports : List Int}
    (hkept : s.device.registry.DescriptorsKept exports imports)
    (hproper : ∀ entry ∈ exports,
      0 < entry.2.size ∧ entry.2.memoryType < s.device.environment.memoryTypes.length) (fd : Int) :
    s.CanImport fd ↔ fd ∈ exports.map Prod.fst ∧ fd ∉ imports := by
  rw [← hkept.exists_exported_iff]
  constructor
  · rintro ⟨info, outcome, id, hfd, houtcome, hok⟩
    unfold outcome? at houtcome
    split at houtcome
    · cases houtcome
    · have hreply : (s.step (.allocateMemory info)).value? = some (.object id) := by
        rw [Option.some.inj houtcome]
        exact Outcome.value?_eq_some.mpr hok
      -- An import that succeeds takes the descriptor, which was there to be taken.
      have himport : s.importedBy (.allocateMemory info) = some fd := by
        simp only [importedBy, hreply, hfd]
      obtain ⟨_, _, exported, -, hknown, -⟩ := allocation_of_import hengine himport
      exact ⟨exported, hknown⟩
  · rintro ⟨exported, hknown⟩
    obtain ⟨hsize, htype⟩ := hproper _ ((hkept.table fd exported).mp hknown).1
    have hsilent := Standard.evaluate_importDescriptor_eq_nil hknown hsize htype
    have hmade : (s.device.allocateMemory (exported.importInfo fd)).result
        = .ok (.ofSerial .deviceMemory s.device.registry.nextSerial) :=
      congrArg Outcome.result (Device.guarded_of_silent hengine hsilent rfl)
    exact ⟨exported.importInfo fd, _, (Handle.ofSerial .deviceMemory s.device.registry.nextSerial).erase, rfl,
      outcome?_of_fits hengine rfl rfl rfl,
      congrArg (Except.map fun handle : Handle .deviceMemory => Reply.object handle.erase) hmade⟩

end Session

/-! ## Runs -/

/-- A file descriptor is imported at most once, and as what it is.  In a run on the standard engine with fewer
than 2^31 - 3 exports, exported descriptors are pairwise different, and no descriptor is imported twice.  What
is imported was exported before, and the new allocation has the size and the memory type that the exported one
had.  A call that fails, such as a rejected import, makes no difference to what can be imported; and that are
at any time the descriptors that were exported and not imported yet, whatever became of the allocations that
were exported. -/
theorem descriptors_imported_once {environment : Environment} (hvalid : environment.isValid = true)
    (hwidth : ∀ alignment ∈ environment.alignments, alignment ≤ DeviceSize.max) {calls : List Call}
    (hbuffers : ∀ call ∈ calls, call.importsAllocated = true)
    (hfew : ((Session.start environment Standard.engine).exports calls).length < 2 ^ 31 - 3) :
    let start := Session.start environment Standard.engine
    let s := start.run calls
    ((start.exports calls).map Prod.fst).Nodup ∧ (start.imports calls).Nodup
    ∧ (∀ before call after fd, calls = before ++ call :: after →
      (start.run before).importedBy call = some fd →
      ∃ (exported : ExportedMemory) (handle : Handle .deviceMemory) (made : DeviceMemory),
        (fd, exported) ∈ start.exports before
        ∧ ((start.run before).step call).result = .ok (.object handle.erase)
        ∧ ((start.run before).step call).state.device.memories
          = (start.run before).device.memories.insert handle made
        ∧ made.size = exported.size ∧ made.memoryType = exported.memoryType)
    ∧ (∀ call e, (s.step call).result = .error e → ∀ fd, (s.step call).state.CanImport fd ↔ s.CanImport fd)
    ∧ ∀ fd, s.CanImport fd ↔ fd ∈ (start.exports calls).map Prod.fst ∧ fd ∉ start.imports calls := by
  intro start s
  have hreachable : start.Reachable := .start environment Standard.engine
  have hempty : start.device.AllocationsProper := fun handle memory hget => by cases hget
  -- The table, and what is known of its entries, after every part of the run.
  have hkept {calls : List Call} (hroom : (start.exports calls).length < 2 ^ 31 - 3) :=
    Session.descriptorsKept_run (s := start) rfl calls .empty hroom
  have hproper {calls : List Call} (hcalls : ∀ call ∈ calls, call.importsAllocated = true)
      (entry : Int × ExportedMemory) (hentry : entry ∈ start.exports calls) :=
    hreachable.exports_proper rfl hvalid hwidth hempty hcalls hentry
  have hengine (calls : List Call) : (start.run calls).device.engine = Standard.engine := start.run_engine calls
  have hsame (calls : List Call) : (start.run calls).device.environment = environment :=
    start.run_environment calls
  have hcan {after : Session} (hafter : after.device.engine = Standard.engine)
      (hsame : after.device.environment = environment)
      (hkept : after.device.registry.DescriptorsKept (start.exports calls) (start.imports calls)) :=
    Session.canImport_iff hafter hkept fun entry hentry => hsame ▸ hproper hbuffers entry hentry
  have hnow := hcan (hengine calls) (hsame calls) (hkept hfew)
  refine ⟨(hkept hfew).exports_nodup, (hkept hfew).once, fun before call after fd hsplit himport => ?_,
    fun call e herror fd => ?_, hnow⟩
  · obtain ⟨info, size, exported, rfl, hknown, hsize, htype, hallocated, hresult, hmemories⟩ :=
      Session.allocation_of_import (hengine before) himport
    have hroom : (start.exports before).length < 2 ^ 31 - 3 := by
      rw [hsplit, start.exports_append, List.length_append] at hfew
      exact Nat.lt_of_le_of_lt (Nat.le_add_right _ _) hfew
    have hexported : (fd, exported) ∈ start.exports before := (((hkept hroom).table fd exported).mp hknown).1
    have hpos := (hproper (fun call hcall => hbuffers call (hsplit ▸ List.mem_append_left _ hcall)) _
      hexported).1
    refine ⟨exported, _, _, hexported, hresult, hmemories, ?_, htype.symm⟩
    rw [Device.allocationSize_of_pos (hsize ▸ hpos)] at hallocated
    exact (Except.ok.inj hallocated).symm.trans hsize.symm
  · have hstep := Session.descriptorsKept_step (hengine calls) (hkept hfew) call
      (by rw [Session.exportedBy_of_error herror, Option.toList_none, List.append_nil]; exact hfew)
    rw [Session.exportedBy_of_error herror, Session.importedBy_of_error herror, Option.toList_none,
      Option.toList_none, List.append_nil, List.append_nil] at hstep
    have htransition := s.step_transition call
    rw [hnow, hcan (htransition.engine.trans (hengine calls)) (htransition.environment.trans (hsame calls))
      hstep]

/-- Exports an allocation twice and frees it, and imports the first descriptor, at first with a wrong size. -/
def exportTwice : List Call :=
  [.allocateMemory { size := 4096, exportTypes := .opaqueFd },
    .exportMemory (.ofSerial .deviceMemory 1) .opaqueFd,
    .exportMemory (.ofSerial .deviceMemory 1) .opaqueFd,
    .destroy .deviceMemory (.ofSerial .deviceMemory 1),
    .allocateMemory { size := 64, source := some (.fileDescriptor .opaqueFd 3) },
    .allocateMemory { size := 4096, source := some (.fileDescriptor .opaqueFd 3) }]

/-- Afterwards the second descriptor can still be imported, and the first one cannot. -/
theorem exportTwice_imported_once :
    let start := Session.start {} Standard.engine
    ((start.exports exportTwice).map Prod.fst) = [3, 4] ∧ start.imports exportTwice = [3]
    ∧ (start.run exportTwice).device.registry.get? (.ofSerial .deviceMemory 1) = none
    ∧ (start.run exportTwice).CanImport 4 ∧ ¬ (start.run exportTwice).CanImport 3 := by
  intro start
  have hexports : (start.exports exportTwice).map Prod.fst = [3, 4] := by decide +kernel
  have himports : start.imports exportTwice = [3] := by decide +kernel
  have hfreed : (start.run exportTwice).device.registry.get? (.ofSerial .deviceMemory 1) = none := by
    decide +kernel
  have hfew : (start.exports exportTwice).length < 2 ^ 31 - 3 := by
    rw [← List.length_map (f := Prod.fst), hexports]
    decide
  obtain ⟨-, -, -, -, hcan⟩ := @descriptors_imported_once {} (by decide) (by decide) exportTwice (by decide) hfew
  refine ⟨hexports, himports, hfreed, (hcan 4).mpr ?_, fun hthree => ?_⟩
  · rw [hexports, himports]
    decide
  · have hused := ((hcan 3).mp hthree).2
    rw [himports] at hused
    exact hused List.mem_cons_self

end VulkanValidity
