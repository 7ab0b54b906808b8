/-
  VulkanValidity.Proofs.Families

  The queue families that logs name.  The standard rules let a command buffer begin only on a queue that
  exists, and a barrier be recorded only if the families of its transfer do.  So the family of every log
  exists, and so do the families that its accesses hand resources over to, but for those that lie outside
  of the device (`CommandLog.FamiliesExist`).  The same rules keep transfers of exclusive resources apart
  from resources that are shared; a log hands over nothing else than exclusive resources
  (`Registry.HandsOver`), as long as no handle is used a second time.
-/

import VulkanValidity.Proofs.Accesses
import VulkanValidity.Proofs.Agreement
import VulkanValidity.Proofs.Pending

namespace VulkanValidity

/-! ## Families of an environment -/

/-- The environment has a queue family of the given number. -/
def Environment.HasFamily (env : Environment) (family : Nat) : Prop :=
  family < env.queueFamilies.length

/-- The families that an owner names are different and exist. What is released may be on its way out of the
device. -/
def Owner.FamiliesExist (env : Environment) : Owner → Prop
  | .ignored => True
  | .owned family => env.HasFamily family
  | .released src dst =>
    src ≠ dst ∧ env.HasFamily src ∧ (env.HasFamily dst ∨ QueueFamily.isOutside dst = true)

/-- The owner that a transfer leaves names families that exist. -/
def AccessKind.FamiliesExist (env : Environment) : AccessKind → Prop
  | .use | .barrier => True
  | .release src dst => (Owner.released src dst).FamiliesExist env
  | .acquire _ dst => (Owner.owned dst).FamiliesExist env

/-- Whether an access hands a resource over, or takes it. -/
def AccessKind.isTransfer : AccessKind → Bool
  | .use | .barrier => false
  | .release _ _ | .acquire _ _ => true

variable {env : Environment} {family : Nat}

theorem Owner.FamiliesExist.access {owner : Owner} (h : owner.FamiliesExist env)
    (hfamily : env.HasFamily family) {kind : AccessKind} (hkind : kind.FamiliesExist env)
    (sharing : Sharing) : (owner.access sharing family kind).FamiliesExist env := by
  cases kind with
  | use =>
    -- A use makes an owner only of an exclusive resource without one.
    cases sharing with
    | exclusive =>
      cases owner with
      | ignored => exact hfamily
      | owned | released => exact h
    | concurrent families => exact h
  | barrier => exact h
  | release src dst => exact hkind
  | acquire src dst => exact hkind

/-- A resource that is shared gets no owner, unless it is handed over. -/
theorem Owner.access_ignored {kind : AccessKind} (hkind : kind.isTransfer = false)
    (families : List Nat) (family : Nat) :
    Owner.ignored.access (.concurrent families) family kind = .ignored := by
  cases kind with
  | use => rfl
  | barrier => rfl
  | release | acquire => cases hkind

/-! ## Barriers -/

theorem barrierRole_familiesExist {transfer : Option OwnershipTransfer}
    (h : ∀ f ∈ (transfer.map OwnershipTransfer.localFamilies).getD [], env.HasFamily f) :
    (barrierRole transfer family).kind.FamiliesExist env := by
  cases transfer with
  | none => trivial
  | some transfer =>
    simp only [Option.map_some, Option.getD_some] at h
    cases transfer with
    | exclusiveBetweenLocal src dst =>
      have hsrc : env.HasFamily src := h src List.mem_cons_self
      have hdst : env.HasFamily dst := h dst (List.mem_cons_of_mem _ List.mem_cons_self)
      simp only [barrierRole]
      split
      · trivial
      · next hne =>
        split
        · exact hdst
        · exact ⟨hne, hsrc, Or.inl hdst⟩
    | exclusiveToExternal src =>
      have hsrc : env.HasFamily src := h src List.mem_cons_self
      simp only [barrierRole]
      split
      · trivial
      · next hne => exact ⟨hne, hsrc, Or.inr rfl⟩
    | exclusiveToForeign src =>
      have hsrc : env.HasFamily src := h src List.mem_cons_self
      simp only [barrierRole]
      split
      · trivial
      · next hne => exact ⟨hne, hsrc, Or.inr rfl⟩
    | exclusiveFromExternal dst | exclusiveFromForeign dst =>
      have hdst : env.HasFamily dst := h dst List.mem_cons_self
      simp only [barrierRole]
      split
      · trivial
      · exact hdst
    | _ => trivial

/-- Only a barrier with a transfer for exclusive resources hands anything over. -/
theorem exists_isExclusive_of_isTransfer {transfer : Option OwnershipTransfer}
    (h : (barrierRole transfer family).kind.isTransfer = true) :
    ∃ handed, transfer = some handed ∧ handed.isExclusive = true := by
  cases transfer with
  | none => cases h
  | some transfer =>
    cases transfer with
    | concurrentToExternal | concurrentFromExternal | concurrentToForeign | concurrentFromForeign =>
      cases h
    | _ => exact ⟨_, rfl, rfl⟩

/-- The resources of the barriers of a command, each with the transfer of the barrier. -/
def Dependency.targets (dependency : Dependency) : List (Resource × Option OwnershipTransfer) :=
  dependency.imageBarriers.map (fun barrier => (.image barrier.image, barrier.transfer))
    ++ dependency.bufferBarriers.map fun barrier => (.buffer barrier.buffer, barrier.transfer)

/-- An access of a barrier command is the part of one of its barriers. -/
theorem Dependency.exists_target_of_access {dependency : Dependency} {registry : Registry}
    {access : Access} (h : access ∈ dependency.accesses registry family) :
    ∃ target ∈ dependency.targets, access.resource = target.1
      ∧ access.effect.kind = (barrierRole target.2 family).kind := by
  rcases List.mem_append.mp h with himages | hbuffers
  · obtain ⟨barrier, hbarrier, haccess⟩ := List.mem_flatMap.mp himages
    obtain ⟨image, -, rfl⟩ := Option.map_eq_some_iff.mp (Option.mem_toList.mp haccess)
    exact ⟨_, List.mem_append_left _ (List.mem_map_of_mem hbarrier), rfl, rfl⟩
  · obtain ⟨barrier, hbarrier, rfl⟩ := List.mem_map.mp hbuffers
    exact ⟨_, List.mem_append_right _ (List.mem_map_of_mem hbarrier), rfl, rfl⟩

/-- What the standard rules make sure of about a barrier: its resource is alive, the families of its transfer
exist, and the transfer is meant for the sharing mode of the resource. -/
structure Registry.Vouches (r : Registry) (env : Environment)
    (target : Resource × Option OwnershipTransfer) : Prop where
  alive : r.contains target.1.id = true
  families : ∀ f ∈ (target.2.map OwnershipTransfer.localFamilies).getD [], env.HasFamily f
  sharing : ∀ transfer sharing, target.2 = some transfer → r.sharing? target.1 = some sharing →
    transfer.isExclusive = sharing.isExclusive

namespace BarrierRules

/-- A check of each barrier and its index that finds nothing finds nothing about any of the barriers. -/
theorem exists_index_of_eq_nil {α : Type} {check : α → Nat → List Violation} {barriers : List α}
    (h : (barriers.zipIdx.flatMap fun (barrier, index) => check barrier index) = []) {barrier : α}
    (hb : barrier ∈ barriers) : ∃ index, check barrier index = [] := by
  obtain ⟨index, hindex⟩ := List.mem_iff_getElem?.mp hb
  have hmem : (barrier, index) ∈ barriers.zipIdx := List.mem_zipIdx_iff_getElem?.mpr hindex
  exact ⟨index, List.flatMap_eq_nil_iff.mp h (barrier, index) hmem⟩

variable {ctx : Context} {dependency : Dependency}
  (hoperation : ctx.operation = .record (.barrier dependency))
include hoperation

theorem exists_of_onImages_eq_nil {check : Context → ImageBarrier → Nat → List Violation}
    (h : onImages check ctx = []) {barrier : ImageBarrier} (hb : barrier ∈ dependency.imageBarriers) :
    ∃ index, check ctx barrier index = [] := by
  simp only [onImages, onBarrier, hoperation] at h
  exact exists_index_of_eq_nil h hb

theorem exists_of_onBuffers_eq_nil {check : Context → BufferBarrier → Nat → List Violation}
    (h : onBuffers check ctx = []) {barrier : BufferBarrier}
    (hb : barrier ∈ dependency.bufferBarriers) : ∃ index, check ctx barrier index = [] := by
  simp only [onBuffers, onBarrier, hoperation] at h
  exact exists_index_of_eq_nil h hb

omit hoperation

theorem hasFamily_of_transferFamilies {field : String} {transfer : Option OwnershipTransfer}
    {object : ObjectId} (h : transferFamilies env field transfer object = []) :
    ∀ f ∈ (transfer.map OwnershipTransfer.localFamilies).getD [], env.HasFamily f := by
  intro f hf
  unfold transferFamilies at h
  dsimp only at h
  split at h
  · cases h
  · next hnone =>
    have hlt := List.find?_eq_none.mp hnone f hf
    simpa [Environment.HasFamily] using hlt

theorem isExclusive_of_transferSharing {field : String} {transfer : OwnershipTransfer}
    {sharing : Sharing} {object : ObjectId} (h : transferSharing field transfer sharing object = []) :
    transfer.isExclusive = sharing.isExclusive := by
  have hcondition := violationIf_eq_nil.mp h
  simpa using hcondition

end BarrierRules

namespace Standard

variable {ctx : Context} {dependency : Dependency}

/-- The standard engine vouches for the barriers of a command in which it finds no fault but with layouts. -/
theorem vouches_of_not_structural (h : hasStructuralError (engine.evaluate ctx) = false)
    (hoperation : ctx.operation = .record (.barrier dependency)) :
    ∀ target ∈ dependency.targets, ctx.registry.Vouches ctx.environment target := by
  have hobjects (id : ObjectId) (hid : id ∈ (Command.barrier dependency).objects) :
      ctx.registry.contains id = true := by
    refine contains_of_not_structural h ?_
    rw [hoperation]
    exact hid
  -- Whatever is wrong is wrong with layouts, and so the rules about transfers found nothing.
  have hcheck {check : Check} (hreports : engine.Reports .commandRecording .invalidParams check) :
      check ctx = [] := by
    refine hreports.check_eq_nil (by rw [hoperation]; rfl) fun diagnostic hmem => ?_
    rw [kind_of_not_structural h hmem]
    decide
  have himageSharing : BarrierRules.imageSharing ctx = [] := hcheck (reports_rule barrierRules 1)
  have hbufferSharing : BarrierRules.bufferSharing ctx = [] := hcheck (reports_rule barrierRules 2)
  have himageFamilies : BarrierRules.imageFamilies ctx = [] := hcheck (reports_rule barrierRules 3)
  have hbufferFamilies : BarrierRules.bufferFamilies ctx = [] := hcheck (reports_rule barrierRules 4)
  intro target htarget
  rcases List.mem_append.mp htarget with himages | hbuffers
  · obtain ⟨barrier, hbarrier, rfl⟩ := List.mem_map.mp himages
    refine ⟨hobjects _ (List.mem_append_left _ (List.mem_map_of_mem hbarrier)), ?_, ?_⟩
    · obtain ⟨index, hindex⟩ :=
        BarrierRules.exists_of_onImages_eq_nil hoperation himageFamilies hbarrier
      exact BarrierRules.hasFamily_of_transferFamilies hindex
    · intro transfer sharing htransfer hsharing
      obtain ⟨index, hindex⟩ :=
        BarrierRules.exists_of_onImages_eq_nil hoperation himageSharing hbarrier
      obtain ⟨image, himage, rfl⟩ := Option.map_eq_some_iff.mp hsharing
      have hget : ctx.registry.get? barrier.image = some image := himage
      simp only [hget, show barrier.transfer = some transfer from htransfer] at hindex
      exact BarrierRules.isExclusive_of_transferSharing hindex
  · obtain ⟨barrier, hbarrier, rfl⟩ := List.mem_map.mp hbuffers
    refine ⟨hobjects _ (List.mem_append_right _ (List.mem_map_of_mem hbarrier)), ?_, ?_⟩
    · obtain ⟨index, hindex⟩ :=
        BarrierRules.exists_of_onBuffers_eq_nil hoperation hbufferFamilies hbarrier
      exact BarrierRules.hasFamily_of_transferFamilies hindex
    · intro transfer sharing htransfer hsharing
      obtain ⟨index, hindex⟩ :=
        BarrierRules.exists_of_onBuffers_eq_nil hoperation hbufferSharing hbarrier
      obtain ⟨buffer, hbuffer, rfl⟩ := Option.map_eq_some_iff.mp hsharing
      have hget : ctx.registry.get? barrier.buffer = some buffer := hbuffer
      simp only [hget, show barrier.transfer = some transfer from htransfer] at hindex
      exact BarrierRules.isExclusive_of_transferSharing hindex

end Standard

/-- An access that a recorder appends on the standard engine is a use, or the part of a barrier that the
rules vouch for. -/
theorem Recorder.mem_accesses {d : Device} (hengine : d.engine = Standard.engine)
    {recorder : Recorder} {command : Command} {access : Access}
    (h : access ∈ recorder.accesses d command) :
    access.effect.kind = .use ∨ ∃ target, d.registry.Vouches d.environment target
      ∧ access.resource = target.1
      ∧ access.effect.kind = (barrierRole target.2 recorder.recording.family).kind := by
  have hfamily := (record_appends hengine recorder command).family
  rw [accesses] at h
  split at h
  · next hrecorded =>
    cases command with
    | barrier dependency =>
      right
      have hharmless : hasStructuralError (recorder.record d (.barrier dependency)).diagnostics
          = false := by
        simpa [records] using hrecorded
      rw [record_diagnostics, Device.diagnoseRecording, hengine] at hharmless
      -- The access is the role of a barrier whose families the rules have looked at.
      obtain ⟨target, htarget, hresource, hkind⟩ := Dependency.exists_target_of_access h
      rw [hfamily] at hkind
      have hvouches := Standard.vouches_of_not_structural hharmless rfl target htarget
      exact ⟨target, hvouches, hresource, hkind⟩
    | beginRenderPass info =>
      left
      unfold Command.accesses at h
      cases hpass : (recorder.record d (.beginRenderPass info)).state.recording.renderPass with
      | none =>
        rw [hpass] at h
        cases h
      | some inst =>
        rw [hpass] at h
        obtain ⟨attachment, -, rfl⟩ := List.mem_map.mp h
        rfl
    | endRenderPass => cases h
    | clear info => exact Or.inl (kind_of_regionAccesses h)
    | copy info =>
      rcases List.mem_cons.mp h with rfl | hregion
      · exact Or.inl rfl
      · exact Or.inl (kind_of_regionAccesses hregion)
    | fill buffer data =>
      rw [List.mem_singleton.mp h]
      exact Or.inl rfl
  · cases h

/-! ## Command buffers -/

namespace Registry

variable {r r' r'' : Registry}

/-- The command buffers are of families that exist. -/
def FamiliesExist (env : Environment) (r : Registry) : Prop :=
  ∀ (handle : Handle .commandBuffer) (cb : CommandBuffer), r.get? handle = some cb →
    env.HasFamily cb.family

/-- Every command buffer of `r'` is one of `r`, and is of the same family there. -/
def KeepsFamilies (r r' : Registry) : Prop :=
  ∀ (handle : Handle .commandBuffer) (cb' : CommandBuffer), r'.get? handle = some cb' →
    ∃ cb : CommandBuffer, r.get? handle = some cb ∧ cb'.family = cb.family

theorem FamiliesExist.keeps (h : r.FamiliesExist env) (hkeeps : r.KeepsFamilies r') :
    r'.FamiliesExist env := by
  intro handle cb' hget
  obtain ⟨cb, hbefore, hfamily⟩ := hkeeps handle cb' hget
  rw [hfamily]
  exact h handle cb hbefore

namespace KeepsFamilies

theorem of_get?_eq (h : ∀ handle : Handle .commandBuffer, r'.get? handle = r.get? handle) :
    r.KeepsFamilies r' :=
  fun handle cb hget => ⟨cb, (h handle).symm.trans hget, rfl⟩

theorem refl (r : Registry) : r.KeepsFamilies r := of_get?_eq fun _ => rfl

theorem trans (h : r.KeepsFamilies r') (h' : r'.KeepsFamilies r'') : r.KeepsFamilies r'' := by
  intro handle cb'' hget
  obtain ⟨cb', hget', hfamily'⟩ := h' handle cb'' hget
  obtain ⟨cb, hget, hfamily⟩ := h handle cb' hget'
  exact ⟨cb, hget, hfamily'.trans hfamily⟩

/-- One command buffer changes, but not its family. -/
theorem of_change {handle : Handle .commandBuffer} {f : CommandBuffer → CommandBuffer}
    (hf : ∀ cb, (f cb).family = cb.family)
    (h : ∀ other : Handle .commandBuffer,
      r'.get? other = if other = handle then (r.get? other).map f else r.get? other) :
    r.KeepsFamilies r' := by
  intro other cb' hget
  rw [h] at hget
  split at hget
  · obtain ⟨cb, hbefore, rfl⟩ := Option.map_eq_some_iff.mp hget
    exact ⟨cb, hbefore, hf cb⟩
  · exact ⟨cb', hget, rfl⟩

theorem modify (r : Registry) (handle : Handle .commandBuffer) {f : CommandBuffer → CommandBuffer}
    (hf : ∀ cb, (f cb).family = cb.family) : r.KeepsFamilies (r.modify handle f) :=
  of_change hf (get?_modify r handle f)

theorem remove {t : ObjectType} (r : Registry) (handle : Handle t) :
    r.KeepsFamilies (r.remove handle) := by
  intro other cb hget
  refine ⟨cb, ?_, rfl⟩
  by_cases ht : t = .commandBuffer
  · subst ht
    rw [get?_remove] at hget
    split at hget
    · cases hget
    · exact hget
  · rwa [get?_remove_of_ne r handle (Ne.symm ht)] at hget

theorem retire (r : Registry) (submission : PendingSubmission) :
    r.KeepsFamilies (Device.retire r submission) :=
  of_change (f := CommandBuffer.retire) (fun _ => rfl) (r.get?_retire submission)

theorem foldl {α : Type} {f : Registry → α → Registry} (h : ∀ r a, KeepsFamilies r (f r a))
    (l : List α) (r : Registry) : r.KeepsFamilies (l.foldl f r) := by
  refine List.foldlRecOn (motive := r.KeepsFamilies) l f (.refl r) fun r' hbefore a _ => ?_
  exact hbefore.trans (h r' a)

end KeepsFamilies

end Registry

namespace Device

theorem PlainEffect.keepsFamilies {d d' : Device} {call : Call} (h : d.PlainEffect call d') :
    d.registry.KeepsFamilies d'.registry := by
  cases h with
  | quiet hedits => exact .of_get?_eq hedits.quietly.get?_commandBuffer
  | destroyed => exact .remove d.registry _
  | swapchainDestroyed => exact .of_get?_eq (d.removeSwapchain_get?_commandBuffer _ _)
  | waited => exact .foldl .retire _ d.registry

theorem keepsFamilies_submitOne (d : Device) (queue : Queue) (handle : Handle .commandBuffer) :
    d.registry.KeepsFamilies (d.submitOne queue handle).state.registry := by
  rcases d.submitOne_cases queue handle with ⟨-, hs⟩ | ⟨log, -, -, hs⟩
  · rw [hs]
    exact .refl d.registry
  · rw [hs]
    exact .of_change (f := CommandBuffer.submit) (fun _ => rfl) (d.get?_execute queue handle log _)

namespace Begins

variable {d d' : Device} {queue : Queue} {again : Option (Handle .commandBuffer)}
  {usage : CommandBufferUsage} {recorder : Recorder} (h : d.Begins queue usage again recorder d')
  (hengine : d.engine = Standard.engine) (hfamilies : d.registry.FamiliesExist d.environment)
include h hengine hfamilies

/-- What begins to be recorded is of a family that exists, for it is that of a queue that exists, or of a
command buffer that is there. -/
theorem hasFamily : d.environment.HasFamily recorder.recording.family := by
  cases h with
  | fresh haccepted =>
    rw [diagnose, hengine] at haccepted
    have hqueue : d.environment.hasQueue queue = true :=
      Standard.hasQueue_of_accepted haccepted rfl
    refine Nat.lt_of_not_le fun hle => ?_
    rw [Environment.hasQueue, List.getElem?_eq_none hle] at hqueue
    cases hqueue
  | again _ hget => exact hfamilies _ _ hget

theorem familiesExist : d'.registry.FamiliesExist d.environment := by
  have hrecorder := h.hasFamily hengine hfamilies
  cases h with
  | fresh =>
    intro handle cb hget
    have hadd := Registry.get?_add (d.registry.reserve .commandBuffer).2
      (d.registry.reserve .commandBuffer).1 (CommandBuffer.begin { family := queue.family } usage) handle
    have hbefore := (Registry.sameObjects_reserve d.registry .commandBuffer).get?_eq handle
    rw [hbefore] at hadd
    rcases Option.or_eq_some_iff.mp (hadd.symm.trans hget) with hold | ⟨-, hnew⟩
    · exact hfamilies handle cb hold
    · split at hnew
      · rw [← Option.some.inj hnew]
        exact hrecorder
      · cases hnew
  | again => exact hfamilies.keeps (.modify d.registry _ fun _ => rfl)

end Begins

end Device

/-! ## Logs -/

/-- The family of the log exists, and so do the families that its accesses hand resources over to. -/
structure CommandLog.FamiliesExist (env : Environment) (log : CommandLog) : Prop where
  family : env.HasFamily log.family
  accesses : ∀ access ∈ log.accesses, access.effect.kind.FamiliesExist env

/-- Recording a command on the standard engine names no family that does not exist. -/
theorem Recorder.record_familiesExist {d : Device} (hengine : d.engine = Standard.engine)
    {recorder : Recorder} (h : recorder.recording.finish.FamiliesExist d.environment)
    (command : Command) :
    (recorder.record d command).state.recording.finish.FamiliesExist d.environment := by
  have happends := recorder.record_appends hengine command
  refine ⟨?_, fun access haccess => ?_⟩
  · show d.environment.HasFamily (recorder.record d command).state.recording.family
    rw [happends.family]
    exact h.family
  · rcases happends.mem haccess with hold | hnew
    · exact h.accesses access hold
    · rcases mem_accesses hengine hnew with huse | ⟨target, hvouches, -, hkind⟩
      · rw [huse]
        trivial
      · rw [hkind]
        exact barrierRole_familiesExist hvouches.families

namespace Session

/-- The families of the command buffers of a session, and those that its logs name, exist. -/
structure FamiliesExist (s : Session) : Prop where
  registry : s.device.registry.FamiliesExist s.device.environment
  logs : s.AllLogs fun _ log => log.FamiliesExist s.device.environment

theorem FamiliesExist.step {s : Session} (hengine : s.device.engine = Standard.engine)
    (h : s.FamiliesExist) {call : Call} (hsubmit : ∀ batches, call ≠ .submit batches) :
    (s.step call).state.FamiliesExist := by
  have htransition := s.step_transition call
  have henvironment := htransition.environment
  have hregistry : (s.step call).state.device.registry.FamiliesExist s.device.environment := by
    generalize (s.step call).state = after at htransition
    cases htransition with
    | plain _ hd => exact h.registry.keeps hd.keepsFamilies
    | begun hd => exact hd.familiesExist hengine h.registry
    | ended => exact h.registry.keeps (.modify s.device.registry _ fun _ => rfl)
    | submitted => exact absurd rfl (hsubmit _)
    | _ => exact h.registry
  refine ⟨henvironment ▸ hregistry, ?_⟩
  rw [henvironment]
  refine h.logs.transition_of_begins htransition (fun _ hlog => hlog)
    (fun queue again usage recorder hd => ?_)
    fun key command recorder _ hr =>
      Recorder.record_familiesExist hengine (h.logs.recordings key recorder hr) _
  obtain ⟨family, hrecording⟩ := hd.recording
  refine ⟨hd.hasFamily hengine h.registry, fun access haccess => ?_⟩
  rw [hrecording] at haccess
  cases haccess

/-- On the standard engine the families that command buffers and logs name exist. -/
theorem Reachable.familiesExist {s : Session} (h : s.Reachable)
    (hengine : s.device.engine = Standard.engine) : s.FamiliesExist := by
  refine h.keeps (P := fun s => s.device.engine = Standard.engine → s.FamiliesExist)
    (fun environment engine _ => ?_) (fun s call _ hsubmit ih hafter => ?_)
    (fun s queue handle _ ih hafter => ?_) hengine
  · exact ⟨fun _ _ hget => (nomatch hget), allLogs_start environment engine⟩
  · have hbefore := (s.step_transition call).engine.symm.trans hafter
    exact (ih hbefore).step hbefore hsubmit
  · have hbefore := (s.device.submitOne_engine queue handle).symm.trans hafter
    have hregistry := (ih hbefore).registry.keeps (s.device.keepsFamilies_submitOne queue handle)
    have henvironment := s.device.submitOne_environment queue handle
    have hlogs := (ih hbefore).logs.submission queue handle fun _ hlog => hlog
    rw [← henvironment] at hregistry hlogs
    exact ⟨hregistry, hlogs⟩

end Session

/-! ## Resources that are handed over -/

namespace Registry

variable {r r' : Registry}

/-- The resource is known, and while it is alive it is exclusive. -/
structure IsExclusive (r : Registry) (resource : Resource) : Prop where
  known : r.isKnown resource.id = true
  alive : ∀ sharing, r.sharing? resource = some sharing → sharing = .exclusive

/-- The log hands over exclusive resources only. -/
def HandsOver (r : Registry) (log : CommandLog) : Prop :=
  ∀ access ∈ log.accesses, access.effect.kind.isTransfer = true → r.IsExclusive access.resource

theorem Vouches.isExclusive {target : Resource × Option OwnershipTransfer} (h : r.Vouches env target)
    {transfer : OwnershipTransfer} (htransfer : target.2 = some transfer)
    (hexclusive : transfer.isExclusive = true) : r.IsExclusive target.1 := by
  refine ⟨isKnown_of_contains h.alive, fun sharing hsharing => ?_⟩
  have heq := h.sharing transfer sharing htransfer hsharing
  rw [hexclusive] at heq
  cases sharing with
  | exclusive => rfl
  | concurrent families => cases heq

/-- An object that is known and not alive does not come back. -/
theorem FeedTells.stays_dead (h : r.FeedTells) (h' : r'.FeedTells) (hfeed : r.feed <+: r'.feed)
    {id : ObjectId} (hknown : r.isKnown id = true) (hdead : r.contains id = false) :
    r'.contains id = false := by
  have hchanges : r.changesOf id ⊆ r'.changesOf id := by
    obtain ⟨later, hlater⟩ := hfeed
    rw [changesOf, changesOf, ← hlater, List.filter_append, List.map_append]
    exact List.subset_append_left _ _
  -- The feed tells that the object was destroyed, and goes on telling it.
  have hdestroyed : r.isDestroyed id = true := by
    rwa [isKnown, hdead, Bool.false_or] at hknown
  have hevent : .destroyed ∈ r.changesOf id := by
    rw [← List.count_pos_iff, h.destroyed, if_pos hdestroyed]
    exact Nat.one_pos
  exact Bool.eq_false_iff.mpr fun halive => ((h'.alive id).mp halive).2 (hchanges hevent)

/-- An object that is known and will be alive is alive. -/
theorem FeedTells.contains_of_later (h : r.FeedTells) (h' : r'.FeedTells)
    (hchanges : Changes ([], r) ([], r')) {id : ObjectId} (hknown : r.isKnown id = true)
    (hlater : r'.contains id = true) : r.contains id = true := by
  by_contra hdead
  have hgone := h.stays_dead h' hchanges.feed_extends hknown (Bool.eq_false_iff.mpr hdead)
  rw [hlater] at hgone
  cases hgone

end Registry

namespace Registry.IsExclusive

variable {r r' : Registry} {resource : Resource}

/-- A resource stays exclusive if nothing but its life changes. -/
theorem goesOn (h : r.IsExclusive resource) (hchanges : Changes ([], r) ([], r'))
    (htells : r.FeedTells) (htells' : r'.FeedTells)
    (hsharing : r'.sharing? resource = r.sharing? resource ∨ r'.sharing? resource = none
      ∨ r.sharing? resource = none) : r'.IsExclusive resource := by
  refine ⟨hchanges.isKnown h.known, fun sharing hafter => ?_⟩
  rcases hsharing with hsame | hnone | hdead
  · exact h.alive sharing (hsame ▸ hafter)
  · rw [hnone] at hafter
    cases hafter
  · -- A resource that is known and was not alive before is not alive now.
    have hbefore : r.contains resource.id = false := by
      rw [contains_resource, hdead, Option.isSome_none]
    have hlater : r'.contains resource.id = true := by
      rw [contains_resource, hafter, Option.isSome_some]
    rw [htells.contains_of_later htells' hchanges h.known hlater] at hbefore
    cases hbefore

end Registry.IsExclusive

namespace Session

/-- Not more objects were created than there are serials. -/
def FewObjects (s : Session) : Prop :=
  s.device.registry.createdIds.length ≤ ObjectId.maxSerial

theorem FewObjects.of_changes {s after : Session} (h : after.FewObjects)
    (hchanges : Registry.Changes ([], s.device.registry) ([], after.device.registry)) :
    s.FewObjects :=
  Nat.le_trans hchanges.length_createdIds_le h

theorem Reachable.feedTells {s : Session} (h : s.Reachable) (hfew : s.FewObjects) :
    s.device.registry.FeedTells :=
  (h.changes.agrees_of_empty hfew).feedTells

/-- What new sessions on the standard engine have and its steps keep, while no handle is used twice, all of
its sessions have. -/
theorem Reachable.keeps_few {P : Session → Prop}
    (hstart : ∀ environment, P (.start environment Standard.engine))
    (hcall : ∀ s call, s.Reachable → s.device.engine = Standard.engine → s.FewObjects →
      (s.step call).state.FewObjects → (∀ batches, call ≠ .submit batches) → P s →
      P (s.step call).state)
    (hsubmission : ∀ (s : Session) queue handle, s.Reachable → s.device.engine = Standard.engine →
      s.FewObjects → (s.withDevice (s.device.submitOne queue handle).state).FewObjects → P s →
      P (s.withDevice (s.device.submitOne queue handle).state))
    {s : Session} (h : s.Reachable) (hengine : s.device.engine = Standard.engine) (hfew : s.FewObjects) :
    P s := by
  refine h.keeps (P := fun s => s.device.engine = Standard.engine → s.FewObjects → P s)
    (fun environment engine hengine _ => ?_) (fun s call hs hsubmit ih hafter hfew => ?_)
    (fun s queue handle hs ih hafter hfew => ?_) hengine hfew
  · obtain rfl : engine = Standard.engine := hengine
    exact hstart environment
  · have htransition := s.step_transition call
    have hbefore := htransition.engine.symm.trans hafter
    have hfewBefore := hfew.of_changes htransition.changes
    exact hcall s call hs hbefore hfewBefore hfew hsubmit (ih hbefore hfewBefore)
  · have hbefore := (s.device.submitOne_engine queue handle).symm.trans hafter
    have hfewBefore := hfew.of_changes (s.device.changes_submitOne queue handle)
    exact hsubmission s queue handle hs hbefore hfewBefore hfew (ih hbefore hfewBefore)

/-- On the standard engine, and as long as no handle is used twice, logs hand over exclusive resources
only. -/
theorem Reachable.handsOver {s : Session} (h : s.Reachable)
    (hengine : s.device.engine = Standard.engine) (hfew : s.FewObjects) :
    s.AllLogs fun r log => r.HandsOver log := by
  refine h.keeps_few (P := fun s => s.AllLogs fun r log => r.HandsOver log)
    (fun environment => allLogs_start environment Standard.engine)
    (fun s call hs hbefore hfewBefore hfew hsubmit ih => ?_)
    (fun s queue handle hs _ hfewBefore hfew ih => ?_) hengine hfew
  · have htransition := s.step_transition call
    have hgoesOn {resource : Resource} (hexclusive : s.device.registry.IsExclusive resource) :
        (s.step call).state.device.registry.IsExclusive resource := by
      refine hexclusive.goesOn htransition.changes (hs.feedTells hfewBefore)
        ((hs.call call).feedTells hfew) ?_
      simp only [Registry.sharing?_eq, Option.map_eq_none_iff]
      rcases s.step_resources hsubmit resource with hsame | hnone | ⟨hnone, -⟩
      · exact Or.inl (by rw [hsame])
      · exact Or.inr (Or.inl hnone)
      · exact Or.inr (Or.inr hnone)
    refine ih.transition htransition
      (fun log hlog access haccess htransfer => hgoesOn (hlog access haccess htransfer))
      (fun family access haccess => by cases haccess)
      fun key command recorder _ hr access haccess htransfer => ?_
    -- What was recorded before is a matter of the induction, and the rules vouch for what is new.
    rcases (recorder.record_appends hbefore command).mem haccess with hold | hnew
    · exact ih.recordings key recorder hr access hold htransfer
    · rcases Recorder.mem_accesses hbefore hnew with huse | ⟨target, hvouches, hresource, hkind⟩
      · rw [huse] at htransfer
        cases htransfer
      · rw [hkind] at htransfer
        obtain ⟨transfer, hsome, hexclusive⟩ := exists_isExclusive_of_isTransfer htransfer
        rw [hresource]
        exact hvouches.isExclusive hsome hexclusive
  · refine ih.submission queue handle fun log hlog access haccess htransfer => ?_
    refine (hlog access haccess htransfer).goesOn (s.device.changes_submitOne queue handle)
      (hs.feedTells hfewBefore) ((hs.submission queue handle).feedTells hfew) (Or.inl ?_)
    exact Device.sharing?_submitOne hs.wellFormed.registry queue handle _

end Session

end VulkanValidity
