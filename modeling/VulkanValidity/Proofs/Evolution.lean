/-
  VulkanValidity.Proofs.Evolution

  How the registry of a session goes on.  Whatever the engine is, a call goes on with it by small changes
  (`Session.Transition.changes`), so that the registry of a reachable session comes from the empty one by
  small changes.  What a call makes is alive (`Session.contains_of_reply`), and every handle that a call gives
  is one that the registry knows (`Session.isKnown_of_reply`), and will know from then on.
-/

import VulkanValidity.Proofs.Feed
import VulkanValidity.Proofs.Recording
import VulkanValidity.Proofs.Trail

namespace VulkanValidity

/-! ## Calls as small changes -/

namespace Device

theorem change_setStates (r : Registry) (resource : Resource) (states : RangeMap SubresourceState) :
    Registry.Change ([], r) ([], r.setStates resource states) := by
  cases resource with
  | image handle => exact .modify (t := .image) handle fun _ => rfl
  | buffer handle => exact .modify (t := .buffer) handle fun _ => rfl

theorem changes_execute (d : Device) (queue : Queue) (handle : Handle .commandBuffer)
    (log : CommandLog) (report : ReplayReport) :
    Registry.Changes ([], d.registry) ([], (d.execute queue handle log report).registry) := by
  let applied := report.apply d.registry
  let submitted := applied.modify handle CommandBuffer.submit
  let pinned := submitted.pin (pinnedObjects d.registry handle log)
  have happlied : Registry.Changes ([], d.registry) ([], applied) :=
    Registry.changes_foldl (fun r (entry : Resource × RangeMap SubresourceState) =>
      .single (change_setStates r entry.1 entry.2)) report.states d.registry
  have hsubmitted : Registry.Change ([], applied) ([], submitted) :=
    .modify (t := .commandBuffer) handle fun _ => rfl
  have hpinned : Registry.Change ([], submitted) ([], pinned) :=
    .aside ⟨fun t => by cases t <;> rfl, rfl, rfl, rfl⟩
  have hnoted : Registry.Change ([], pinned) ([], pinned.record handle.erase .submitted) :=
    .note handle.erase (Or.inl rfl)
  exact ((happlied.tail hsubmitted).tail hpinned).tail hnoted

theorem changes_submitOne (d : Device) (queue : Queue) (handle : Handle .commandBuffer) :
    Registry.Changes ([], d.registry) ([], (d.submitOne queue handle).state.registry) := by
  rcases d.submitOne_cases queue handle with ⟨-, hs⟩ | ⟨log, -, -, hs⟩
  · rw [hs]
  · rw [hs]
    exact d.changes_execute queue handle log _

theorem changes_retire (r : Registry) (submission : PendingSubmission) :
    Registry.Changes ([], r) ([], retire r submission) := by
  let unpinned := r.unpin submission.pinned
  let retired := unpinned.modify submission.commandBuffer CommandBuffer.retire
  have hunpinned : Registry.Change ([], r) ([], unpinned) :=
    .aside ⟨fun t => by cases t <;> rfl, rfl, rfl, rfl⟩
  have hretired : Registry.Change ([], unpinned) ([], retired) :=
    .modify (t := .commandBuffer) submission.commandBuffer fun _ => rfl
  exact .head hunpinned (.head hretired (.single (.note _ (Or.inr rfl))))

theorem PlainEffect.changes {d d' : Device} {call : Call} (h : d.PlainEffect call d') :
    Registry.Changes ([], d.registry) ([], d'.registry) := by
  cases h with
  | quiet hedits => exact hedits.changes
  | @destroyed t handle => exact .single (.remove handle)
  | @swapchainDestroyed handle swapchain =>
    have hremove (r : Registry) (image : Handle .image) :
        Registry.Changes ([], r) ([], r.remove image) :=
      .single (.remove image)
    exact .head (.remove handle) (Registry.changes_foldl hremove swapchain.images _)
  | @waited _ done => exact Registry.changes_foldl changes_retire done d.registry

theorem Begins.changes {d d' : Device} {queue : Queue} {again : Option (Handle .commandBuffer)}
    {usage : CommandBufferUsage} {recorder : Recorder} (h : d.Begins queue usage again recorder d') :
    Registry.Changes ([], d.registry) ([], d'.registry) := by
  cases h with
  | fresh =>
    have hreserve : Registry.Change ([], d.registry) ([(d.registry.reserve .commandBuffer).1.erase],
        (d.registry.reserve .commandBuffer).2) :=
      .reserve .commandBuffer fun _ hid => absurd hid List.not_mem_nil
    exact .head hreserve (.single (.add _ rfl))
  | again => exact .single (.modify (t := .commandBuffer) _ fun _ => rfl)

end Device

namespace Session

theorem Transition.changes {s after : Session} {call : Call} (h : s.Transition call after) :
    Registry.Changes ([], s.device.registry) ([], after.device.registry) := by
  cases h with
  | plain _ hd => exact hd.changes
  | begun hd => exact hd.changes
  | ended => exact .single (.modify (t := .commandBuffer) _ fun _ => rfl)
  | submitted =>
    exact Device.submitAll_keeps (P := fun d =>
      Registry.Changes ([], s.device.registry) ([], d.registry))
      (fun d queue handle hbefore => hbefore.trans (d.changes_submitOne queue handle)) .refl _
  | _ => exact .refl

/-- The registry of a reachable session comes from the empty one by small changes. -/
theorem Reachable.changes {s : Session} (h : s.Reachable) :
    Registry.Changes ([], {}) ([], s.device.registry) := by
  induction h with
  | start environment engine => exact .refl
  | @call s _ call ih => exact ih.trans (s.step_transition call).changes
  | @submission s _ queue handle ih => exact ih.trans (s.device.changes_submitOne queue handle)

/-- So does the registry all along a run come from the one that the run starts from. -/
theorem changes_of_mem_trail {s s' : Session} {calls : List Call} (h : s' ∈ s.trail calls) :
    Registry.Changes ([], s.device.registry) ([], s'.device.registry) := by
  refine trail_keeps (P := fun s' => Registry.Changes ([], s.device.registry) ([], s'.device.registry))
    (fun s₁ call hbefore => ⟨fun s₂ hs₂ => ?_, hbefore.trans (s₁.step_transition call).changes⟩)
    .refl calls s' h
  cases call with
  | submit batches =>
    -- Within a call the registry goes on by one submission after the other.
    obtain ⟨d, hd, rfl⟩ := List.mem_map.mp hs₂
    refine (Device.stages_keep (P := fun d =>
      Registry.Changes ([], s.device.registry) ([], d.registry)) hbefore _ ?_).1 d hd
    exact fun before entry rest _ hd => hd.trans (Device.changes_submitOne _ entry.1 entry.2)
  | _ => cases hs₂

end Session

/-! ## Handles that calls give -/

theorem Registry.contains_add_self {t : ObjectType} (r : Registry) (handle : Handle t)
    (object : t.Object) : (r.add handle object).contains handle.erase = true := by
  rw [contains_erase, get?_add, if_pos rfl]
  cases r.get? handle <;> rfl

/-- The object whose handle an operation gives is alive. -/
def Outcome.GivesAlive {t : ObjectType} (outcome : Outcome Device (Handle t)) : Prop :=
  ∀ handle, outcome.result = .ok handle → outcome.state.registry.contains handle.erase = true

namespace Device

theorem givesAlive_guarded {t : ObjectType} {d : Device} {diagnostics : List Diagnostic}
    {perform : Except Error (Handle t × Device)}
    (h : ∀ handle after, perform = .ok (handle, after) →
      after.registry.contains handle.erase = true) :
    (Outcome.guarded d diagnostics perform).GivesAlive := by
  intro handle hresult
  rcases Outcome.guarded_cases d diagnostics perform with
    ⟨-, e, he⟩ | ⟨value, after, -, hperform, hs, hv⟩
  · rw [he] at hresult
    cases hresult
  · rw [hv] at hresult
    obtain rfl := Except.ok.inj hresult
    rw [hs]
    exact h value after hperform

/-- An operation that makes a new object gives its handle. -/
theorem givesAlive_insert {t : ObjectType} {d before : Device} {diagnostics : List Diagnostic}
    {object : t.Object} : (Outcome.guarded d diagnostics (.ok (before.insert t object))).GivesAlive :=
  givesAlive_guarded fun handle after h => by
    obtain ⟨rfl, rfl⟩ := Prod.mk.inj (Except.ok.inj h)
    exact Registry.contains_add_self _ _ _

/-- So does one that looks something up before. -/
theorem givesAlive_lookup_insert {t : ObjectType} {α : Type} {d before : Device}
    {diagnostics : List Diagnostic} {found : Except Error α} {object : α → t.Object} :
    (Outcome.guarded d diagnostics
      (found >>= fun a => pure (before.insert t (object a)))).GivesAlive :=
  givesAlive_guarded fun handle after h => by
    obtain ⟨a, -, h⟩ := bind_eq_ok.mp h
    obtain ⟨rfl, rfl⟩ := Prod.mk.inj (pure_eq_ok.mp h)
    exact Registry.contains_add_self _ _ _

theorem createSwapchain_givesAlive (d : Device) (info : SwapchainInfo) :
    (d.createSwapchain info).GivesAlive :=
  givesAlive_guarded fun handle after h => by
    obtain ⟨rfl, rfl⟩ := Prod.mk.inj (Except.ok.inj h)
    exact Registry.contains_add_self _ _ _

/-- What is recorded next is a command buffer that is alive. -/
theorem Begins.alive {d d' : Device} {queue : Queue} {again : Option (Handle .commandBuffer)}
    {usage : CommandBufferUsage} {recorder : Recorder} (h : d.Begins queue usage again recorder d') :
    d'.registry.contains recorder.handle.erase = true := by
  cases h with
  | fresh => exact Registry.contains_add_self _ _ _
  | again _ hget => exact (Registry.contains_modify _ _ _ _).trans (Registry.contains_of_get? hget)

end Device

namespace Session

/-- The registry knows the command buffers that are being recorded. -/
def KnowsRecorders (s : Session) : Prop :=
  ∀ key recorder, s.recorder? key = some recorder →
    s.device.registry.isKnown recorder.handle.erase = true

theorem Transition.knowsRecorders {s after : Session} {call : Call}
    (htransition : s.Transition call after) (h : s.KnowsRecorders) : after.KnowsRecorders := by
  have hstays {id : ObjectId} (hid : s.device.registry.isKnown id = true) :
      after.device.registry.isKnown id = true :=
    htransition.changes.isKnown hid
  intro key recorder hr
  rcases htransition.recorders hr with
    hold | ⟨queue, again, usage, hd⟩ | ⟨k, command, before, -, hbefore, rfl⟩
  · exact hstays (h key recorder hold)
  · exact Registry.isKnown_of_contains hd.alive
  · rw [before.record_handle]
    exact hstays (h k before hbefore)

theorem Reachable.knowsRecorders {s : Session} (h : s.Reachable) : s.KnowsRecorders := by
  induction h with
  | start environment engine => exact fun key recorder hr => by cases hr
  | @call s _ call ih => exact (s.step_transition call).knowsRecorders ih
  | @submission s _ queue handle ih =>
    exact fun key recorder hr => (s.device.changes_submitOne queue handle).isKnown (ih key recorder hr)

theorem result_onDevice {α : Type} {s : Session} {reply : α → Reply} {outcome : Outcome Device α}
    {value : Reply} :
    (s.onDevice reply outcome).result = .ok value
      ↔ ∃ a, outcome.result = .ok a ∧ reply a = value := by
  unfold onDevice
  cases outcome.result <;> simp [Except.map]

theorem contains_of_creating {t : ObjectType} {s : Session} {outcome : Outcome Device (Handle t)}
    (h : outcome.GivesAlive) {id : ObjectId}
    (hreply : (s.creating outcome).result = .ok (.object id)) :
    (s.creating outcome).state.device.registry.contains id = true := by
  obtain ⟨handle, hresult, hid⟩ := result_onDevice.mp hreply
  obtain rfl := Reply.object.inj hid
  exact h handle hresult

/-- The end of a recording gives the handle of the recorder, and the command buffer gets the log. -/
theorem recorder_of_end {s : Session} {key : Nat} {id : ObjectId}
    (hreply : (s.step (.endCommandBuffer key)).result = .ok (.object id)) :
    ∃ recorder, s.recorder? key = some recorder ∧ id = recorder.handle.erase
      ∧ (s.step (.endCommandBuffer key)).state.device.registry
        = s.device.registry.modify recorder.handle fun cb => cb.finish recorder.recording.finish := by
  cases hr : s.recorder? key with
  | none =>
    simp only [step, hr] at hreply
    cases hreply
  | some recorder =>
    simp only [step, hr] at hreply ⊢
    obtain ⟨handle, hresult, hid⟩ := result_onDevice.mp hreply
    obtain rfl := Reply.object.inj hid
    refine ⟨recorder, rfl, ?_⟩
    rcases s.device.endCommandBuffer_cases recorder with ⟨-, e, he⟩ | ⟨hs, hok⟩
    · rw [he] at hresult
      cases hresult
    · rw [hok] at hresult
      obtain rfl := Except.ok.inj hresult
      exact ⟨rfl, congrArg Device.registry hs⟩

/-- Every object that a call gives is alive, unless the call ends a recording. -/
theorem contains_of_reply {s : Session} {call : Call} (hend : ∀ key, call ≠ .endCommandBuffer key)
    {id : ObjectId} (hreply : (s.step call).result = .ok (.object id)) :
    (s.step call).state.device.registry.contains id = true := by
  -- Calls that do not make anything give no object.
  have hnone {α : Type} {reply : α → Reply} {outcome : Outcome Device α}
      (hobject : ∀ a, reply a ≠ .object id) :
      (s.onDevice reply outcome).result ≠ .ok (.object id) := by
    intro hresult
    obtain ⟨a, -, ha⟩ := result_onDevice.mp hresult
    exact hobject a ha
  cases call with
  | createImage info => exact contains_of_creating Device.givesAlive_insert hreply
  | createImageView info => exact contains_of_creating Device.givesAlive_lookup_insert hreply
  | createBuffer info => exact contains_of_creating Device.givesAlive_insert hreply
  | createRenderPass info => exact contains_of_creating Device.givesAlive_insert hreply
  | createFramebuffer info => exact contains_of_creating Device.givesAlive_lookup_insert hreply
  | createSwapchain info => exact contains_of_creating (s.device.createSwapchain_givesAlive info) hreply
  | allocateMemory info => exact contains_of_creating Device.givesAlive_lookup_insert hreply
  | endCommandBuffer key => exact absurd rfl (hend key)
  | beginCommandBuffer queue again usage =>
    simp only [step, opening] at hreply
    split at hreply <;> cases hreply
  | record key command =>
    cases hr : s.recorder? key with
    | none =>
      simp only [step, hr] at hreply
      cases hreply
    | some recorder =>
      simp only [step, hr] at hreply
      cases hresult : (recorder.record s.device command).result <;>
        (rw [hresult] at hreply; cases hreply)
  | destroy type handle =>
    cases type <;> exact absurd hreply (hnone fun _ hobject => by cases hobject)
  | dropRecorder key => cases hreply
  | queueWait queue => cases hreply
  | waitIdle queues => cases hreply
  | _ => exact absurd hreply (hnone fun _ hobject => by cases hobject)

/-- The registry knows every object that a call gives. -/
theorem isKnown_of_reply {s : Session} (h : s.KnowsRecorders) {call : Call} {id : ObjectId}
    (hreply : (s.step call).result = .ok (.object id)) :
    (s.step call).state.device.registry.isKnown id = true := by
  by_cases hend : ∃ key, call = .endCommandBuffer key
  · obtain ⟨key, rfl⟩ := hend
    obtain ⟨recorder, hr, rfl, -⟩ := recorder_of_end hreply
    exact (s.step_transition _).changes.isKnown (h key recorder hr)
  · exact Registry.isKnown_of_contains (contains_of_reply (not_exists.mp hend) hreply)

end Session

end VulkanValidity
