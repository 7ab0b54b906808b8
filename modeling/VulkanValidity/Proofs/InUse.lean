/-
  VulkanValidity.Proofs.InUse

  Objects in use.  The registry counts for each object how often pending submissions pin it
  (`Device.Balanced`): submissions add to the counts, waits take back what submissions added, and no other
  call touches them.  From the counts the rules know that an object is in use, and they protect objects of
  all types but one.  The
  images of a swapchain go with it, in use or not; and memory that was freed under a bound resource is
  pinned by the next submission that uses the resource.  The objects that pending submissions pin are
  alive all along a run exactly if none of its calls does one or the other.
-/

import Mathlib.Data.List.Perm.Basic
import VulkanValidity.Proofs.Reports
import VulkanValidity.Proofs.Trail
import VulkanValidity.Proofs.UseTable

namespace VulkanValidity

namespace Device

/-! ## Counts of uses -/

/-- Each object is counted as often as the pending submissions pin it, and each of these pins its command
buffer. -/
structure Balanced (d : Device) : Prop where
  uses : ∀ id, d.registry.uses.count id = (d.pending.flatMap PendingSubmission.pinned).count id
  own : ∀ submission ∈ d.pending, submission.commandBuffer.erase ∈ submission.pinned

/-- No submission is made or completed. -/
structure SameUses (d d' : Device) : Prop where
  uses : d'.registry.uses = d.registry.uses
  pending : d'.pending = d.pending

theorem SameUses.trans {d d' d'' : Device} (h : d.SameUses d') (h' : d'.SameUses d'') :
    d.SameUses d'' :=
  ⟨h'.uses.trans h.uses, h'.pending.trans h.pending⟩

theorem Balanced.sameUses {d d' : Device} (h : d.Balanced) (hsame : d.SameUses d') : d'.Balanced := by
  obtain ⟨huses, hpending⟩ := hsame
  refine ⟨?_, ?_⟩
  · rw [huses, hpending]
    exact h.uses
  · rw [hpending]
    exact h.own

/-- The objects in use are those that pending submissions pin. -/
theorem Balanced.isInFlight_iff {d : Device} (h : d.Balanced) {id : ObjectId} :
    d.registry.isInFlight id = true ↔ ∃ submission ∈ d.pending, id ∈ submission.pinned := by
  rw [Registry.isInFlight, UseTable.contains_iff, h.uses, List.count_pos_iff, List.mem_flatMap]

theorem Quietly.sameUses {d d' : Device} (h : d.Quietly d') : d.SameUses d' := by
  refine h.keeps (P := d.SameUses) (fun d₁ d₂ hquiet hsame => hsame.trans ?_) ⟨rfl, rfl⟩
  cases hquiet with
  | aside hobjects hpending => exact ⟨hobjects.uses, hpending⟩
  | add => exact ⟨Registry.uses_add _ _ _, rfl⟩
  | modify => exact ⟨Registry.uses_modify _ _ _, rfl⟩

theorem removeSwapchain_sameUses (d : Device) (handle : Handle .swapchain)
    (images : List (Handle .image)) : d.SameUses (d.removeSwapchain handle images) := by
  refine ⟨?_, rfl⟩
  have hremove := foldl_keeps Registry.uses
    (f := fun registry (image : Handle .image) => registry.remove image)
    (fun r image => Registry.uses_remove r image) images (d.registry.remove handle)
  exact hremove.trans (Registry.uses_remove d.registry handle)

theorem Begins.sameUses {d d' : Device} {queue : Queue} {again : Option (Handle .commandBuffer)}
    {usage : CommandBufferUsage} {recorder : Recorder} (h : d.Begins queue usage again recorder d') :
    d.SameUses d' := by
  cases h with
  | fresh => exact ⟨Registry.uses_add _ _ _, rfl⟩
  | again => exact ⟨Registry.uses_modify _ _ _, rfl⟩

/-- Completing submissions takes back what they added to the counts. -/
theorem count_uses_retire (done : List PendingSubmission) (r : Registry) (id : ObjectId) :
    (done.foldl retire r).uses.count id
      = r.uses.count id - (done.flatMap PendingSubmission.pinned).count id := by
  induction done generalizing r with
  | nil => rfl
  | cons submission done ih =>
    have hretire : (retire r submission).uses.count id
        = r.uses.count id - submission.pinned.count id :=
      r.uses.count_removeAll submission.pinned id
    rw [List.foldl_cons, ih, hretire, List.flatMap_cons, List.count_append, Nat.sub_add_eq]

theorem Balanced.retireAll {d : Device} (h : d.Balanced) {done rest : List PendingSubmission}
    (hperm : d.pending.Perm (done ++ rest)) : (d.retireAll done rest).Balanced := by
  refine ⟨fun id => ?_, fun submission hmem => ?_⟩
  · have hcount := (hperm.flatMap_right PendingSubmission.pinned).count_eq id
    rw [List.flatMap_append, List.count_append] at hcount
    refine (count_uses_retire done d.registry id).trans ?_
    rw [h.uses, hcount, Nat.add_sub_cancel_left]
    rfl
  · exact h.own submission (hperm.mem_iff.mpr (List.mem_append_right done hmem))

theorem Balanced.execute {d : Device} (h : d.Balanced) (queue : Queue)
    (handle : Handle .commandBuffer) (log : CommandLog) (report : ReplayReport) :
    (d.execute queue handle log report).Balanced := by
  have happly : (report.apply d.registry).uses = d.registry.uses :=
    apply_keeps Registry.uses (fun r resource states => by cases resource <;> rfl) report d.registry
  have hpending : (d.execute queue handle log report).pending
      = d.pending ++ [⟨queue, handle, pinnedObjects d.registry handle log⟩] := rfl
  refine ⟨fun id => ?_, fun submission hmem => ?_⟩
  · calc (d.execute queue handle log report).registry.uses.count id
        = ((report.apply d.registry).uses.addAll (pinnedObjects d.registry handle log)).count id := rfl
      _ = d.registry.uses.count id + (pinnedObjects d.registry handle log).count id := by
          rw [happly, UseTable.count_addAll]
      _ = ((d.execute queue handle log report).pending.flatMap PendingSubmission.pinned).count id := by
          rw [h.uses, hpending, List.flatMap_append, List.flatMap_singleton, List.count_append]
  · rcases List.mem_append.mp hmem with hold | hnew
    · exact h.own submission hold
    · rw [List.mem_singleton.mp hnew]
      exact List.mem_cons_self

theorem Balanced.submitOne {d : Device} (h : d.Balanced) (queue : Queue)
    (handle : Handle .commandBuffer) : (d.submitOne queue handle).state.Balanced := by
  rcases d.submitOne_cases queue handle with ⟨-, hs⟩ | ⟨log, -, -, hs⟩
  · rw [hs]
    exact h
  · rw [hs]
    exact h.execute queue handle log _

end Device

/-- A call completes submissions, makes submissions, or does neither. -/
theorem Session.Transition.uses {s after : Session} {call : Call} (h : s.Transition call after) :
    s.device.SameUses after.device
      ∨ (∃ done rest, s.device.pending.Perm (done ++ rest)
        ∧ after = s.withDevice (s.device.retireAll done rest))
      ∨ ∃ batches, call = .submit batches
        ∧ after = s.withDevice (s.device.submitAll (s.device.submissions batches)) := by
  cases h with
  | plain hplain hd =>
    cases hd with
    | quiet h => exact Or.inl h.quietly.sameUses
    | destroyed => exact Or.inl ⟨Registry.uses_remove _ _, rfl⟩
    | swapchainDestroyed => exact Or.inl (s.device.removeSwapchain_sameUses _ _)
    | waited hperm => exact Or.inr (Or.inl ⟨_, _, hperm, rfl⟩)
  | begun hd => exact Or.inl hd.sameUses
  | ended => exact Or.inl ⟨Registry.uses_modify _ _ _, rfl⟩
  | submitted => exact Or.inr (Or.inr ⟨_, rfl, rfl⟩)
  | _ => exact Or.inl ⟨rfl, rfl⟩

/-! ## Objects that stay alive -/

namespace Device

/-- The objects that pending submissions pin are alive. -/
def PinsAlive (d : Device) : Prop :=
  ∀ submission ∈ d.pending, ∀ id ∈ submission.pinned, d.registry.contains id = true

theorem Quietly.contains {d d' : Device} (h : d.Quietly d') {id : ObjectId}
    (hid : d.registry.contains id = true) : d'.registry.contains id = true := by
  refine h.keeps (P := fun d => d.registry.contains id = true) (fun d₁ d₂ hquiet hid => ?_) hid
  cases hquiet with
  | aside hobjects => rwa [hobjects.contains_eq]
  | add handle => exact Registry.contains_add _ handle _ hid
  | modify handle => exact (Registry.contains_modify _ handle _ id).trans hid

theorem Begins.contains {d d' : Device} {queue : Queue} {again : Option (Handle .commandBuffer)}
    {usage : CommandBufferUsage} {recorder : Recorder} (h : d.Begins queue usage again recorder d')
    {id : ObjectId} (hid : d.registry.contains id = true) : d'.registry.contains id = true := by
  cases h with
  | fresh =>
    have hreserve := Registry.sameObjects_reserve d.registry .commandBuffer
    exact Registry.contains_add _ _ _ ((hreserve.contains_eq id).trans hid)
  | again => exact (Registry.contains_modify _ _ _ id).trans hid

theorem contains_retireAll (d : Device) (done rest : List PendingSubmission) (id : ObjectId) :
    (d.retireAll done rest).registry.contains id = d.registry.contains id := by
  refine foldl_keeps (fun r : Registry => r.contains id) (f := retire) (fun r submission => ?_) done
    d.registry
  have hunpin : (r.unpin submission.pinned).contains id = r.contains id :=
    Registry.contains_congr (fun t handle => by cases t <;> rfl) id
  calc (retire r submission).contains id
      = ((r.unpin submission.pinned).modify submission.commandBuffer CommandBuffer.retire).contains
          id := (Registry.sameObjects_record _ _ _).contains_eq id
    _ = r.contains id := (Registry.contains_modify _ _ _ id).trans hunpin

theorem contains_removeSwapchain (d : Device) (handle : Handle .swapchain)
    (images : List (Handle .image)) (id : ObjectId) :
    (d.removeSwapchain handle images).registry.contains id = true
      ↔ d.registry.contains id = true ∧ id ∉ handle.erase :: images.map Handle.erase := by
  have hremove (r : Registry) :
      (images.foldl (fun registry image => registry.remove image) r).contains id = true
        ↔ r.contains id = true ∧ id ∉ images.map Handle.erase := by
    induction images generalizing r with
    | nil => simp
    | cons image images ih =>
      rw [List.foldl_cons, ih, Registry.contains_remove, List.map_cons, List.mem_cons, not_or,
        and_assoc]
  rw [removeSwapchain, withRegistry, hremove, Registry.contains_remove, List.mem_cons, not_or,
    and_assoc]

end Device

/-- What is alive stays alive, unless a call destroys it, or a swapchain that it is an image of. -/
theorem Session.Transition.contains_cases {s after : Session} {call : Call} (h : s.Transition call after)
    {id : ObjectId} (halive : s.device.registry.contains id = true) :
    after.device.registry.contains id = true
      ∨ (∃ (t : ObjectType) (handle : Handle t), call = .destroy t handle ∧ id = handle.erase
        ∧ t ≠ .swapchain ∧ verdict (s.device.diagnose (.destroy handle.erase)) = .ok ()
        ∧ (s.device.destroy handle).result = .ok ())
      ∨ ∃ (handle : Handle .swapchain) (swapchain : Swapchain), call = .destroy .swapchain handle
        ∧ s.device.registry.get? handle = some swapchain ∧ (s.device.destroySwapchain handle).result = .ok ()
        ∧ id ∈ handle.erase :: swapchain.images.map Handle.erase := by
  cases h with
  | plain hplain hd =>
    cases hd with
    | quiet hedits => exact Or.inl (hedits.quietly.contains halive)
    | @destroyed t handle ht haccepted hresult =>
      by_cases hid : id = handle.erase
      · exact Or.inr (Or.inl ⟨t, handle, rfl, hid, ht, haccepted, hresult⟩)
      · exact Or.inl ((Registry.contains_remove _ handle id).mpr ⟨halive, hid⟩)
    | @swapchainDestroyed handle swapchain hget hresult =>
      by_cases hid : id ∈ handle.erase :: swapchain.images.map Handle.erase
      · exact Or.inr (Or.inr ⟨handle, swapchain, rfl, hget, hresult, hid⟩)
      · exact Or.inl ((s.device.contains_removeSwapchain _ _ id).mpr ⟨halive, hid⟩)
    | waited => exact Or.inl ((s.device.contains_retireAll _ _ id).trans halive)
  | begun hd => exact Or.inl (hd.contains halive)
  | ended => exact Or.inl ((Registry.contains_modify _ _ _ id).trans halive)
  | submitted =>
    have hsubmit := foldl_keeps (fun d : Device => d.registry.contains id)
      (f := fun d (entry : Queue × Handle .commandBuffer) => (d.submitOne entry.1 entry.2).state)
      (fun d entry => d.contains_submitOne entry.1 entry.2 id)
    exact Or.inl ((hsubmit _ s.device).trans halive)
  | _ => exact Or.inl halive

namespace Device

/-- Whether the memory that is bound to the resources of an execution is alive. -/
def Execution.bindsLive (e : Execution) : Bool :=
  e.log.references.all fun id => (e.registry.boundMemory? id).all fun memory =>
    e.registry.contains memory.erase

/-- A submission that finds the memory of its resources alive pins nothing else. -/
theorem PinsAlive.submitOne {d : Device} (h : d.PinsAlive) {queue : Queue}
    {handle : Handle .commandBuffer}
    (hbinds : ∀ e, d.execution? queue handle = some e → e.bindsLive = true) :
    (d.submitOne queue handle).state.PinsAlive := by
  cases he : d.execution? queue handle with
  | none =>
    rcases d.submitOne_cases queue handle with ⟨-, hs⟩ | ⟨log, hsome, -, -⟩
    · rw [hs]
      exact h
    · rw [he] at hsome
      cases hsome
  | some e =>
    obtain ⟨log, hadmitted, rfl⟩ := Option.map_eq_some_iff.mp he
    obtain ⟨cb, hget, hadmitted⟩ := Option.bind_eq_some_iff.mp hadmitted
    obtain ⟨-, -, hreferences⟩ := admitted?_eq_some hadmitted
    rw [(execution?_eq_some he).2.2.2]
    intro submission hmem id hid
    rw [contains_execute]
    rcases List.mem_append.mp hmem with hold | hnew
    · exact h submission hold id hid
    · rw [List.mem_singleton.mp hnew] at hid
      rcases List.mem_cons.mp hid with rfl | hid
      · exact Registry.contains_of_get? hget
      · obtain ⟨reference, hreference, hid⟩ := List.mem_flatMap.mp hid
        rcases List.mem_cons.mp hid with rfl | hmemory
        · exact List.all_eq_true.mp hreferences id hreference
        · -- The object is the memory that is bound to what the log refers to.
          obtain ⟨memory, hbound, rfl⟩ := Option.map_eq_some_iff.mp (Option.mem_toList.mp hmemory)
          have hlive := List.all_eq_true.mp (hbinds _ he) reference hreference
          exact (Option.all_eq_true _ _).mp hlive memory hbound

/-- A submission that does not find the memory of its resources alive pins an object that is not. -/
theorem not_pinsAlive_of_execution {d : Device} {queue : Queue} {handle : Handle .commandBuffer}
    {e : Execution} (he : d.execution? queue handle = some e) (hdead : e.bindsLive = false) :
    ¬ (d.submitOne queue handle).state.PinsAlive := by
  intro halive
  obtain ⟨-, hregistry, -, hs⟩ := execution?_eq_some he
  rw [hs] at halive
  refine Bool.eq_false_iff.mp hdead (List.all_eq_true.mpr fun reference hreference =>
    (Option.all_eq_true _ _).mpr fun memory hmemory => ?_)
  rw [hregistry] at hmemory ⊢
  rw [← d.contains_execute queue handle e.log (e.log.replay d.registry)]
  refine halive _ (List.mem_append_right _ List.mem_cons_self) _ (List.mem_cons_of_mem _ ?_)
  refine List.mem_flatMap.mpr ⟨reference, hreference, List.mem_cons_of_mem _ ?_⟩
  exact Option.mem_toList.mpr (Option.mem_map_of_mem _ hmemory)

/-! ## The standard engine -/

/-- The standard engine runs, and the counts of uses are right. -/
structure Guarded (d : Device) : Prop where
  engine : d.engine = Standard.engine
  balanced : d.Balanced

theorem Guarded.submitOne {d : Device} (h : d.Guarded) (queue : Queue)
    (handle : Handle .commandBuffer) : (d.submitOne queue handle).state.Guarded :=
  ⟨(d.submitOne_engine queue handle).trans h.engine, h.balanced.submitOne queue handle⟩

/-- An object in use is not destroyed, unless it is a swapchain. -/
theorem Guarded.not_accepted {d : Device} (h : d.Guarded) {t : ObjectType} (ht : t ≠ .swapchain)
    {handle : Handle t} {submission : PendingSubmission} (hmem : submission ∈ d.pending)
    (hid : handle.erase ∈ submission.pinned) :
    verdict (d.diagnose (.destroy handle.erase)) ≠ .ok () := by
  intro haccepted
  have hused : d.registry.isInFlight handle.erase = true :=
    h.balanced.isInFlight_iff.mpr ⟨submission, hmem, hid⟩
  have hfree := Standard.not_isInFlight_of_accepted h.engine ht haccepted
  exact Bool.false_ne_true (hfree.symm.trans hused)

end Device

namespace Session

theorem guarded_start (environment : Environment) :
    (start environment Standard.engine).device.Guarded where
  engine := rfl
  balanced := ⟨fun _ => rfl, fun submission hmem => by cases hmem⟩

theorem guarded_step (s : Session) (call : Call) (h : s.device.Guarded) :
    (∀ s' ∈ s.stages call, s'.device.Guarded) ∧ (s.step call).state.device.Guarded := by
  have hsubmit (batches : List SubmitBatch) :=
    Device.stages_keep h (s.device.submissions batches) fun before entry rest _ hd =>
      hd.submitOne entry.1 entry.2
  constructor
  · intro s' hs'
    cases call with
    | submit batches =>
      obtain ⟨d, hd, rfl⟩ := List.mem_map.mp hs'
      exact (hsubmit batches).1 d hd
    | _ => cases hs'
  · have htransition := s.step_transition call
    refine ⟨htransition.engine.trans h.engine, ?_⟩
    rcases htransition.uses with hsame | ⟨done, rest, hperm, heq⟩ | ⟨batches, -, heq⟩
    · exact h.balanced.sameUses hsame
    · rw [heq]
      exact h.balanced.retireAll hperm
    · rw [heq]
      exact (hsubmit batches).2.balanced

/-! ## Calls that spare what is in use -/

/-- Whether a call spares the objects in use: it destroys no swapchain that is in use or whose images
are, and it executes no command buffer with a resource whose memory was freed. -/
def spares (s : Session) : Call → Bool
  | .destroy .swapchain handle =>
    match s.device.registry.get? handle with
    | some swapchain =>
      !(s.device.destroySwapchain handle).result.isOk
        || (handle.erase :: swapchain.images.map Handle.erase).all fun id =>
          !s.device.registry.isInFlight id
    | none => true
  | .submit batches => (s.executions (.submit batches)).all Device.Execution.bindsLive
  | _ => true

/-- A call that spares the objects in use destroys none of them. -/
theorem contains_step {s : Session} {call : Call} (h : s.device.Guarded)
    (hspares : s.spares call = true) {id : ObjectId} (hid : s.device.registry.isInFlight id = true)
    (halive : s.device.registry.contains id = true) :
    (s.step call).state.device.registry.contains id = true := by
  rcases (s.step_transition call).contains_cases halive with
    hafter | ⟨t, handle, -, rfl, ht, haccepted, -⟩ | ⟨handle, swapchain, rfl, hget, hresult, hremoved⟩
  · exact hafter
  · rw [Standard.not_isInFlight_of_accepted h.engine ht haccepted] at hid
    cases hid
  · simp only [spares, hget, hresult, Except.isOk, Except.toBool, Bool.not_true, Bool.false_or] at hspares
    have hfree := List.all_eq_true.mp hspares id hremoved
    rw [hid] at hfree
    cases hfree

/-- A call that spares the objects in use keeps alive what pending submissions pin. -/
theorem pinsAlive_step {s : Session} {call : Call} (h : s.device.Guarded)
    (halive : s.device.PinsAlive) (hspares : s.spares call = true) :
    (∀ s' ∈ s.stages call, s'.device.PinsAlive) ∧ (s.step call).state.device.PinsAlive := by
  have hsubmit (batches : List SubmitBatch) (hcall : call = .submit batches) :=
    Device.stages_keep halive (s.device.submissions batches)
      fun before entry rest hentries hd => hd.submitOne fun e he => by
        subst hcall
        have hmem := Device.mem_executions before entry rest he
        rw [← hentries] at hmem
        exact List.all_eq_true.mp hspares e hmem
  constructor
  · intro s' hs'
    cases call with
    | submit batches =>
      obtain ⟨d, hd, rfl⟩ := List.mem_map.mp hs'
      exact (hsubmit batches rfl).1 d hd
    | _ => cases hs'
  · have hstay (id : ObjectId) (hid : ∃ submission ∈ s.device.pending, id ∈ submission.pinned) :
        (s.step call).state.device.registry.contains id = true := by
      obtain ⟨submission, hmem, hpinned⟩ := hid
      exact contains_step h hspares (h.balanced.isInFlight_iff.mpr ⟨submission, hmem, hpinned⟩)
        (halive submission hmem id hpinned)
    -- Only submissions pin anything that was not pinned before.
    rcases (s.step_transition call).uses with hsame | ⟨done, rest, hperm, heq⟩ | ⟨batches, hcall, heq⟩
    · intro submission hmem id hid
      rw [hsame.pending] at hmem
      exact hstay id ⟨submission, hmem, hid⟩
    · intro submission hmem id hid
      refine hstay id ⟨submission, hperm.mem_iff.mpr (List.mem_append_right done ?_), hid⟩
      rwa [heq] at hmem
    · rw [heq]
      exact (hsubmit batches hcall).2

/-- Any other call leads to a pending submission that pins an object that is not alive. -/
theorem not_pinsAlive_step {s : Session} {call : Call} (h : s.device.Guarded)
    (hspares : s.spares call = false) :
    (∃ s' ∈ s.stages call, ¬ s'.device.PinsAlive) ∨ ¬ (s.step call).state.device.PinsAlive := by
  cases call with
  | submit batches =>
    left
    obtain ⟨e, he, hdead⟩ := List.all_eq_false.mp hspares
    obtain ⟨before, entry, rest, hentries, he⟩ := Device.exists_of_mem_executions he
    refine ⟨_, List.mem_map_of_mem ?_, Device.not_pinsAlive_of_execution he
      (Bool.eq_false_iff.mpr hdead)⟩
    rw [hentries]
    exact s.device.mem_stages before entry rest
  | destroy type handle =>
    cases type with
    | swapchain =>
      right
      intro halive
      simp only [spares] at hspares
      rcases s.device.destroySwapchain_cases handle with ⟨-, e, he⟩ | ⟨swapchain, hget, hs, hok⟩
      · rw [he] at hspares
        split at hspares <;> cases hspares
      · have hafter : (s.step (.destroy .swapchain handle)).state
            = s.withDevice (s.device.removeSwapchain handle swapchain.images) :=
          congrArg s.withDevice hs
        -- One of the objects that go is pinned by some submission, which stays.
        simp only [hget, hok, Except.isOk, Except.toBool, Bool.not_true, Bool.false_or] at hspares
        obtain ⟨id, hremoved, hused⟩ := List.all_eq_false.mp hspares
        rw [Bool.not_eq_true, Bool.not_eq_false'] at hused
        obtain ⟨submission, hmem, hpinned⟩ := h.balanced.isInFlight_iff.mp hused
        rw [hafter] at halive
        have hcontains := halive submission hmem id hpinned
        exact ((s.device.contains_removeSwapchain _ _ id).mp hcontains).2 hremoved
    | _ => cases hspares
  | _ => cases hspares

/-- Destroying an object in use fails and changes nothing, unless it is a swapchain. -/
theorem destroy_inUse {s : Session} (h : s.device.Guarded) {t : ObjectType} (ht : t ≠ .swapchain)
    {handle : Handle t} {submission : PendingSubmission} (hmem : submission ∈ s.device.pending)
    (hid : handle.erase ∈ submission.pinned) :
    (s.step (.destroy t handle)).state = s
      ∧ ∃ e, (s.step (.destroy t handle)).result = .error e := by
  rw [s.step_destroy ht]
  rcases s.device.destroy_cases handle with ⟨hs, e, he⟩ | ⟨haccepted, -⟩
  · refine ⟨congrArg s.withDevice hs, e, ?_⟩
    rw [onDevice, he]
    rfl
  · exact absurd haccepted (h.not_accepted ht hmem hid)

end Session

/-- Objects in use stay alive.  On the standard engine nothing that a pending submission pins can be
destroyed by itself, be it a resource, an allocation or a command buffer; only a swapchain can.  And what
pending submissions pin is alive all along a run exactly if no call of the run destroys a swapchain that
is in use or whose images are, or executes a command buffer with a resource whose memory was freed. -/
theorem pinned_objects_alive (environment : Environment) (calls : List Call) :
    (∀ s ∈ (Session.start environment Standard.engine).trail calls,
      ∀ submission ∈ s.device.pending, ∀ (t : ObjectType) (handle : Handle t), t ≠ .swapchain →
        handle.erase ∈ submission.pinned →
        (s.step (.destroy t handle)).state = s
          ∧ ∃ e, (s.step (.destroy t handle)).result = .error e)
    ∧ ((∀ s ∈ (Session.start environment Standard.engine).trail calls,
        ∀ submission ∈ s.device.pending, ∀ id ∈ submission.pinned,
          s.device.registry.contains id = true)
      ↔ (Session.start environment Standard.engine).allCalls Session.spares calls = true) := by
  have hstart := Session.guarded_start environment
  constructor
  · intro s hs submission hmem t handle ht hid
    have hguarded : s.device.Guarded :=
      Session.trail_keeps (P := fun s => s.device.Guarded) Session.guarded_step hstart calls s hs
    exact Session.destroy_inUse hguarded ht hmem hid
  · refine Session.forall_trail_iff (I := fun s => s.device.Guarded ∧ s.device.PinsAlive)
      (P := fun s => s.device.PinsAlive) (fun s h => h.2) (fun s call h hspares => ?_)
      (fun s call h => Session.not_pinsAlive_step h.1)
      ⟨hstart, fun submission hmem => by cases hmem⟩ calls
    obtain ⟨hguarded, hguardedAfter⟩ := s.guarded_step call h.1
    obtain ⟨halive, haliveAfter⟩ := Session.pinsAlive_step h.1 h.2 hspares
    exact ⟨fun s' hs' => ⟨hguarded s' hs', halive s' hs'⟩, hguardedAfter, haliveAfter⟩

/-- Records a command buffer that fills a buffer with memory. -/
def recordFill : List Call :=
  [.createBuffer { size := 64, usage := .transferDst },
    .allocateMemory { size := 4096 },
    .bindBuffer (.ofSerial .buffer 1) (.ofSerial .deviceMemory 2) 0,
    .beginCommandBuffer ⟨0, 0⟩ none .multipleSubmit,
    .record 0 (.fill (.ofSerial .buffer 1) 0),
    .endCommandBuffer 0]

/-- Submits the command buffer that was made third. -/
def submitThird : Call :=
  .submit [{ queue := ⟨0, 0⟩, commandBuffers := [.ofSerial .commandBuffer 3] }]

/-- A fill that is pending pins the command buffer, the buffer and its memory. -/
def pendingFill : PendingSubmission where
  queue := ⟨0, 0⟩
  commandBuffer := .ofSerial .commandBuffer 3
  pinned := [(Handle.ofSerial .commandBuffer 3).erase, (Handle.ofSerial .buffer 1).erase,
    (Handle.ofSerial .deviceMemory 2).erase]

/-- What a pending fill pins is alive, and the memory cannot be freed. -/
theorem fill_pins_alive :
    ((Session.start {} Standard.engine).run (recordFill ++ [submitThird])).device.pending
      = [pendingFill]
    ∧ (∃ e, (((Session.start {} Standard.engine).run (recordFill ++ [submitThird])).step
        (.destroy .deviceMemory (.ofSerial .deviceMemory 2))).result = .error e)
    ∧ ∀ s ∈ (Session.start {} Standard.engine).trail (recordFill ++ [submitThird]),
        ∀ submission ∈ s.device.pending, ∀ id ∈ submission.pinned,
          s.device.registry.contains id = true := by
  obtain ⟨hprotected, halive⟩ := pinned_objects_alive {} (recordFill ++ [submitThird])
  have hpending : ((Session.start {} Standard.engine).run (recordFill ++ [submitThird])).device.pending
      = [pendingFill] := by
    decide +kernel
  refine ⟨hpending, ?_, halive.mpr (by decide +kernel)⟩
  refine (hprotected _ (Session.run_mem_trail _ _) pendingFill ?_ .deviceMemory _ (by decide) ?_).2
  · rw [hpending]
    exact List.mem_singleton_self _
  · exact List.mem_cons_of_mem _ (List.mem_cons_of_mem _ List.mem_cons_self)

/-- The image of a swapchain is destroyed with it while a submission uses the image, and memory that was
freed is pinned by a submission that uses the buffer it is bound to.  Nothing is reported about either. -/
theorem pinned_object_dies :
    (let s := Session.start {} Standard.engine
      let calls := [.createSwapchain { imageCount := 1, width := 4, height := 4, usage := .transferDst },
        .beginCommandBuffer ⟨0, 0⟩ none .multipleSubmit,
        .record 0 (.barrier { imageBarriers := [{
          image := .ofSerial .image 2, newLayout := .transferDstOptimal }] }),
        .endCommandBuffer 0, submitThird, .destroy .swapchain (.ofSerial .swapchain 1)]
      s.diagnostics calls = []
        ∧ ∃ submission ∈ (s.run calls).device.pending,
          (Handle.ofSerial .image 2).erase ∈ submission.pinned
            ∧ (s.run calls).device.registry.contains (Handle.ofSerial .image 2).erase = false)
    ∧ (let s := Session.start {} Standard.engine
      let calls := recordFill ++ [.destroy .deviceMemory (.ofSerial .deviceMemory 2), submitThird]
      s.diagnostics calls = []
        ∧ ∃ submission ∈ (s.run calls).device.pending,
          (Handle.ofSerial .deviceMemory 2).erase ∈ submission.pinned
            ∧ (s.run calls).device.registry.contains (Handle.ofSerial .deviceMemory 2).erase
              = false) := by
  decide +kernel

end VulkanValidity
