/-
  VulkanValidity.Proofs.OneTimeSubmission

  Command buffers that are meant for one submission.  No rule is needed for them: the device itself does
  not execute a command buffer that is not in a status for it.

  What a call does to the command buffer that a handle leads to is one of few things (`Session.Fate`): it
  stays, is destroyed, begins or completes a recording, or some of its submissions are retired.  A call
  that submits is taken apart into single submissions (`Device.submitOne_commandBuffer`).  With this the
  properties of a command buffer are followed through a run.

  For the first result a command buffer for one submission has a run left while it is executable, and
  each execution takes it (`Session.countP_executed_le`); only the completion of a recording gives it
  back.  For the second one a command buffer that was submitted is pending or invalid from then on
  (`CommandBuffer.IsSpent`).  Its count may be about submissions of earlier recordings as well, which are
  retired in any order, but it is never more than the submissions that are pending
  (`CommandBuffer.Awaits`), so that it cannot be pending any more when all of them are retired.
-/

import VulkanValidity.Proofs.Liveness
import VulkanValidity.Proofs.Pending

namespace VulkanValidity

/-! ## Properties of one command buffer -/

namespace CommandBuffer

theorem status_retire_cases (cb : CommandBuffer) :
    cb.retire.status = cb.status ∨ cb.pendingCount - 1 = 0 ∧ cb.status = .pending ∧
      cb.retire.status = if cb.usage = .oneTimeSubmit then .invalid else .executable := by
  by_cases h : cb.pendingCount - 1 = 0 ∧ cb.status = .pending
  · exact Or.inr ⟨h.1, h.2, if_pos h⟩
  · exact Or.inl (if_neg h)

theorem status_of_isSubmittable {cb : CommandBuffer} (h : cb.isSubmittable = true) :
    cb.status = .executable ∨ cb.status = .pending ∧ cb.usage = .simultaneousUse := by
  rw [isSubmittable] at h
  split at h
  · next hstatus => exact Or.inl hstatus
  · next hstatus => exact Or.inr ⟨hstatus, beq_iff_eq.mp h⟩
  · cases h

/-- How often the command buffer can be executed yet, if it is meant for one submission. -/
def runsLeft (cb : CommandBuffer) : Nat := if cb.status = .executable then 1 else 0

theorem runsLeft_le_one (cb : CommandBuffer) : cb.runsLeft ≤ 1 := by
  rw [runsLeft]
  split
  · exact Nat.le_refl 1
  · exact Nat.zero_le 1

theorem runsLeft_eq_zero {cb : CommandBuffer} (h : cb.status ≠ .executable) : cb.runsLeft = 0 := if_neg h

theorem runsLeft_retire_le {cb : CommandBuffer} (h : cb.usage = .oneTimeSubmit) :
    cb.retire.runsLeft ≤ cb.runsLeft := by
  rcases cb.status_retire_cases with hstatus | ⟨-, -, hstatus⟩
  · rw [runsLeft, runsLeft, hstatus]
  · rw [if_pos h] at hstatus
    rw [runsLeft_eq_zero (by rw [hstatus]; decide)]
    exact Nat.zero_le _

/-- If the command buffer is meant for one submission, it has been submitted: it is pending or invalid. -/
def IsSpent (cb : CommandBuffer) : Prop :=
  cb.usage = .oneTimeSubmit → cb.status = .pending ∨ cb.status = .invalid

theorem isSpent_submit (cb : CommandBuffer) : cb.submit.IsSpent := fun _ => Or.inl rfl

theorem IsSpent.retire {cb : CommandBuffer} (h : cb.IsSpent) : cb.retire.IsSpent := by
  intro (husage : cb.usage = .oneTimeSubmit)
  rcases cb.status_retire_cases with hstatus | ⟨-, -, hstatus⟩
  · rw [hstatus]
    exact h husage
  · rw [hstatus, if_pos husage]
    exact Or.inr rfl

theorem retire_of_invalid {cb : CommandBuffer} (h : cb.status = .invalid) :
    cb.retire.status = .invalid := by
  rcases cb.status_retire_cases with hstatus | ⟨-, hpending, -⟩
  · rw [hstatus, h]
  · rw [h] at hpending
    cases hpending

theorem not_isSubmittable_of_invalid {cb : CommandBuffer} (h : cb.status = .invalid) :
    ¬ cb.isSubmittable = true := by
  rw [isSubmittable, h]
  exact Bool.false_ne_true

/-- The command buffer counts at most `n` submissions, and some if it is pending. -/
structure Awaits (cb : CommandBuffer) (n : Nat) : Prop where
  count : cb.pendingCount ≤ n
  status : cb.status = .pending → 0 < cb.pendingCount

namespace Awaits

variable {cb : CommandBuffer} {n : Nat} (h : cb.Awaits n)
include h

theorem begin (usage : CommandBufferUsage) : (cb.begin usage).Awaits n :=
  ⟨h.count, fun hstatus => by cases hstatus⟩

theorem finish (log : CommandLog) : (cb.finish log).Awaits n :=
  ⟨h.count, fun hstatus => by cases hstatus⟩

theorem submit : cb.submit.Awaits (n + 1) :=
  ⟨Nat.succ_le_succ h.count, fun _ => Nat.succ_pos _⟩

omit h in
theorem retire (h : cb.Awaits (n + 1)) : cb.retire.Awaits n := by
  have hcount := h.count
  refine ⟨?_, ?_⟩
  · show cb.pendingCount - 1 ≤ n
    omega
  · intro hpending
    show 0 < cb.pendingCount - 1
    rcases cb.status_retire_cases with hstatus | ⟨-, -, hstatus⟩
    · -- The count went down to something, or else the status would have changed.
      refine Nat.pos_of_ne_zero fun hzero => ?_
      have hwas : cb.status = .pending := hstatus.symm.trans hpending
      have hnow : cb.retire.status = if cb.usage = .oneTimeSubmit then .invalid else .executable :=
        if_pos ⟨hzero, hwas⟩
      rw [hpending] at hnow
      split at hnow <;> cases hnow
    · rw [hpending] at hstatus
      split at hstatus <;> cases hstatus

end Awaits

end CommandBuffer

/-! ## The command buffer of a handle -/

namespace Registry

/-- The command buffer that a handle leads to has a property, if there is one. -/
def HoldsAt (r : Registry) (handle : Handle .commandBuffer) (Q : CommandBuffer → Prop) : Prop :=
  ∀ cb, r.get? handle = some cb → Q cb

/-- How often the command buffer of a handle can be executed yet, if it is meant for one submission. -/
def runsLeft (r : Registry) (handle : Handle .commandBuffer) : Nat :=
  match r.get? handle with
  | some cb => cb.runsLeft
  | none => 0

variable {r r' : Registry} {handle : Handle .commandBuffer} {Q : CommandBuffer → Prop}

instance [DecidablePred Q] : Decidable (r.HoldsAt handle Q) :=
  decidable_of_iff ((r.get? handle).all (fun cb => decide (Q cb)) = true) (by
    rw [HoldsAt, Option.all_eq_true]
    simp only [decide_eq_true_eq])

theorem HoldsAt.congr (h : r.HoldsAt handle Q) (hget : r'.get? handle = r.get? handle) :
    r'.HoldsAt handle Q := by
  intro cb hcb
  rw [hget] at hcb
  exact h cb hcb

theorem holdsAt_of_none (h : r.get? handle = none) : r.HoldsAt handle Q := by
  intro cb hcb
  rw [h] at hcb
  cases hcb

theorem HoldsAt.map {P : CommandBuffer → Prop} {f : CommandBuffer → CommandBuffer}
    (h : r.HoldsAt handle P) (hf : ∀ cb, P cb → Q (f cb))
    (hget : r'.get? handle = (r.get? handle).map f) : r'.HoldsAt handle Q := by
  intro cb hcb
  rw [hget] at hcb
  obtain ⟨found, hfound, rfl⟩ := Option.map_eq_some_iff.mp hcb
  exact hf found (h found hfound)

theorem runsLeft_le_iff {k : Nat} :
    r.runsLeft handle ≤ k ↔ r.HoldsAt handle fun cb => cb.runsLeft ≤ k := by
  rw [runsLeft, HoldsAt]
  cases r.get? handle with
  | none => exact iff_of_true (Nat.zero_le k) fun cb hcb => by cases hcb
  | some found =>
    constructor
    · rintro h cb ⟨⟩
      exact h
    · exact fun h => h found rfl

theorem runsLeft_congr (h : r'.get? handle = r.get? handle) : r'.runsLeft handle = r.runsLeft handle := by
  rw [runsLeft, runsLeft, h]

/-- What retiring keeps is kept when submissions are retired one after the other. -/
theorem HoldsAt.retireAll (hretire : ∀ cb, Q cb → Q cb.retire) (h : r.HoldsAt handle Q)
    (done : List PendingSubmission) : (done.foldl Device.retire r).HoldsAt handle Q := by
  refine List.foldlRecOn (motive := fun r : Registry => r.HoldsAt handle Q) done _ h ?_
  intro before hbefore submission _
  have hget := before.get?_retire submission handle
  split at hget
  · exact hbefore.map hretire hget
  · exact hbefore.congr hget

/-- Retiring submissions leaves a command buffer that awaits those that are not retired. -/
theorem awaits_retireAll {done rest : List PendingSubmission}
    (h : r.HoldsAt handle (·.Awaits (submissionsOf (done ++ rest) handle))) :
    (done.foldl Device.retire r).HoldsAt handle (·.Awaits (submissionsOf rest handle)) := by
  induction done generalizing r with
  | nil => exact h
  | cons submission done ih =>
    refine ih ?_
    rw [List.cons_append, submissionsOf_cons] at h
    have hget := r.get?_retire submission handle
    by_cases heq : submission.commandBuffer = handle
    · rw [if_pos heq.symm] at hget
      rw [if_pos heq] at h
      exact h.map (fun cb hcb => hcb.retire) hget
    · rw [if_neg (Ne.symm heq)] at hget
      rw [if_neg heq, Nat.add_zero] at h
      exact h.congr hget

end Registry

/-! ## What calls do to a command buffer -/

/-- A command buffer that has begun is the one that the call gives a recorder for. -/
theorem Device.Begins.result {d d' : Device} {queue : Queue} {again : Option (Handle .commandBuffer)}
    {usage : CommandBufferUsage} {recorder : Recorder} (h : d.Begins queue usage again recorder d') :
    (d.beginCommandBuffer queue again usage).result = .ok recorder := by
  cases h with
  | fresh haccepted =>
    simp only [beginCommandBuffer, guarded, Outcome.guarded, haccepted]
    rfl
  | again haccepted hget =>
    simp only [beginCommandBuffer, guarded, Outcome.guarded, haccepted, Registry.get_eq_ok.mpr hget]
    rfl

namespace Session

/-- Whether a call begins a recording of a command buffer. -/
def begins (s : Session) (handle : Handle .commandBuffer) : Call → Bool
  | .beginCommandBuffer queue again usage =>
    match (s.device.beginCommandBuffer queue again usage).result with
    | .ok recorder => decide (recorder.handle = handle)
    | .error _ => false
  | _ => false

/-- Whether a call completes a recording of a command buffer. -/
def completes (s : Session) (handle : Handle .commandBuffer) : Call → Bool
  | .endCommandBuffer key =>
    match s.recorder? key with
    | some recorder =>
      (s.device.endCommandBuffer recorder).result.isOk && decide (recorder.handle = handle)
    | none => false
  | _ => false

/-- What becomes of the command buffer of a handle in a call that does not submit. -/
inductive Fate (s : Session) (handle : Handle .commandBuffer) (call : Call) (after : Session) : Prop
  | kept (hget : after.device.registry.get? handle = s.device.registry.get? handle)
      (hpending : after.device.pending = s.device.pending)
  | destroyed (hget : after.device.registry.get? handle = none)
      (hpending : after.device.pending = s.device.pending)
  /-- A recording begins, of a new command buffer or of the one that was there. -/
  | begun {cb : CommandBuffer} {usage : CommandBufferUsage} (hbegins : s.begins handle call = true)
      (hfrom : (cb.pendingCount = 0 ∧ cb.status = .fresh) ∨ s.device.registry.get? handle = some cb)
      (hget : after.device.registry.get? handle = some (cb.begin usage))
      (hpending : after.device.pending = s.device.pending)
  | completed {log : CommandLog} (hcompletes : s.completes handle call = true)
      (hget : after.device.registry.get? handle = (s.device.registry.get? handle).map (·.finish log))
      (hpending : after.device.pending = s.device.pending)
  | retired {done : List PendingSubmission} (hperm : s.device.pending.Perm (done ++ after.device.pending))
      (hregistry : after.device.registry = done.foldl Device.retire s.device.registry)

theorem begins_of_result {s : Session} {queue : Queue} {again : Option (Handle .commandBuffer)}
    {usage : CommandBufferUsage} {recorder : Recorder}
    (h : (s.device.beginCommandBuffer queue again usage).result = .ok recorder) :
    s.begins recorder.handle (.beginCommandBuffer queue again usage) = true := by
  rw [begins, h]
  exact decide_eq_true rfl

theorem completes_of_result {s : Session} {key : Nat} {recorder : Recorder}
    (hr : s.recorder? key = some recorder)
    (h : (s.device.endCommandBuffer recorder).result = .ok recorder.handle) :
    s.completes recorder.handle (.endCommandBuffer key) = true := by
  rw [completes, hr]
  show ((s.device.endCommandBuffer recorder).result.isOk && _) = true
  rw [h]
  simp [Except.isOk, Except.toBool]

theorem Transition.fate {s after : Session} {call : Call} (h : s.Transition call after)
    (hsubmit : ∀ batches, call ≠ .submit batches) (handle : Handle .commandBuffer) :
    s.Fate handle call after := by
  cases h with
  | plain _ hd =>
    cases hd with
    | quiet hedits =>
      exact .kept (hedits.quietly.get?_commandBuffer handle) hedits.quietly.sameUses.pending
    | @destroyed t other =>
      by_cases ht : t = .commandBuffer
      · subst ht
        have hget := s.device.registry.get?_remove other handle
        split at hget
        · exact .destroyed hget rfl
        · exact .kept hget rfl
      · exact .kept (Registry.get?_remove_of_ne _ other (Ne.symm ht) handle) rfl
    | swapchainDestroyed => exact .kept (s.device.removeSwapchain_get?_commandBuffer _ _ handle) rfl
    | waited hperm => exact .retired hperm rfl
  | @begun queue again usage d recorder hd =>
    have hbegins := begins_of_result hd.result
    cases hd with
    | fresh =>
      have hreserve := (Registry.sameObjects_reserve s.device.registry .commandBuffer).get?_eq handle
      have hget := Registry.get?_add (s.device.registry.reserve .commandBuffer).2
        (s.device.registry.reserve .commandBuffer).1
        (CommandBuffer.begin { family := queue.family } usage) handle
      rw [hreserve] at hget
      -- A handle that is in use is not reserved again, so that an old command buffer stays what it is.
      cases hold : s.device.registry.get? handle with
      | some cb =>
        rw [hold, Option.some_or] at hget
        exact .kept (hget.trans hold.symm) rfl
      | none =>
        rw [hold, Option.none_or] at hget
        split at hget
        · next heq =>
          subst heq
          exact .begun hbegins (Or.inl ⟨rfl, rfl⟩) hget rfl
        · exact .kept (hget.trans hold.symm) rfl
    | @again other cb _ hfound =>
      have hget := s.device.registry.get?_modify other (fun cb => cb.begin usage) handle
      split at hget
      · next heq =>
        subst heq
        rw [hfound] at hget
        exact .begun hbegins (Or.inr hfound) hget rfl
      · exact .kept hget rfl
  | @ended key recorder hr hresult =>
    have hget := s.device.registry.get?_modify recorder.handle
      (fun cb => cb.finish recorder.recording.finish) handle
    split at hget
    · next heq =>
      subst heq
      exact .completed (completes_of_result hr hresult) hget rfl
    · exact .kept hget rfl
  | submitted => exact absurd rfl (hsubmit _)
  | _ => exact .kept rfl rfl

end Session

/-! ## Submissions -/

namespace Device

variable {d : Device} {handle : Handle .commandBuffer}

/-- A property that being submitted keeps is kept by every submission. -/
theorem holdsAt_submitOne {Q : CommandBuffer → Prop}
    (hsubmit : ∀ cb, Q cb → cb.isSubmittable = true → Q cb.submit) (h : d.registry.HoldsAt handle Q)
    (queue : Queue) (other : Handle .commandBuffer) :
    (d.submitOne queue other).state.registry.HoldsAt handle Q := by
  rcases d.submitOne_commandBuffer queue other with
    ⟨-, hs⟩ | ⟨e, cb, -, -, hcb, hsubmittable, hafter, -⟩
  · rw [hs]
    exact h
  · intro found hfound
    rw [hafter] at hfound
    split at hfound
    · next heq =>
      subst heq
      rw [hcb, Option.map_some] at hfound
      obtain rfl := Option.some.inj hfound
      exact hsubmit cb (h cb hcb) hsubmittable
    · exact h found hfound

theorem awaits_submitOne
    (h : d.registry.HoldsAt handle (·.Awaits (submissionsOf d.pending handle)))
    (queue : Queue) (other : Handle .commandBuffer) :
    (d.submitOne queue other).state.registry.HoldsAt handle
      (·.Awaits (submissionsOf (d.submitOne queue other).state.pending handle)) := by
  rcases d.submitOne_commandBuffer queue other with ⟨-, hs⟩ | ⟨e, cb, -, -, -, -, hafter, hpending⟩
  · rw [hs]
    exact h
  · have hget := hafter handle
    rw [hpending]
    split at hget
    · next heq =>
      rw [if_pos heq.symm]
      exact h.map (fun cb hcb => hcb.submit) hget
    · next hne =>
      rw [if_neg (Ne.symm hne), Nat.add_zero]
      exact h.congr hget

/-- Submitting keeps the usage. -/
theorem oneTime_submitOne (h : d.registry.HoldsAt handle fun cb => cb.usage = .oneTimeSubmit)
    (queue : Queue) (other : Handle .commandBuffer) :
    (d.submitOne queue other).state.registry.HoldsAt handle fun cb => cb.usage = .oneTimeSubmit :=
  holdsAt_submitOne (fun _ husage _ => husage) h queue other

/-- An execution of a command buffer for one submission takes the run that it has left. -/
theorem countP_execution?_le (h : d.registry.HoldsAt handle fun cb => cb.usage = .oneTimeSubmit)
    (queue : Queue) (other : Handle .commandBuffer) :
    (d.execution? queue other).toList.countP (fun e => e.handle = handle)
        + (d.submitOne queue other).state.registry.runsLeft handle
      ≤ d.registry.runsLeft handle := by
  rcases d.submitOne_commandBuffer queue other with
    ⟨hnone, hs⟩ | ⟨e, cb, hsome, rfl, hcb, hsubmittable, hafter, -⟩
  · rw [hnone, hs]
    show 0 + d.registry.runsLeft handle ≤ d.registry.runsLeft handle
    omega
  · rw [hsome, Option.toList_some, List.countP_singleton]
    by_cases heq : handle = e.handle
    · subst heq
      have hexecutable : cb.status = .executable := by
        rcases CommandBuffer.status_of_isSubmittable hsubmittable with hstatus | ⟨-, husage⟩
        · exact hstatus
        · rw [h cb hcb] at husage
          cases husage
      have hbefore : d.registry.runsLeft e.handle = 1 := by
        rw [Registry.runsLeft, hcb]
        exact if_pos hexecutable
      have hnow : (d.submitOne queue e.handle).state.registry.runsLeft e.handle = 0 := by
        rw [Registry.runsLeft, hafter, if_pos rfl, hcb]
        rfl
      rw [hbefore, hnow, if_pos (decide_eq_true rfl)]
    · have hget := hafter handle
      rw [if_neg heq] at hget
      rw [Registry.runsLeft_congr hget, if_neg (by simpa using Ne.symm heq)]
      omega

theorem countP_executions_le (h : d.registry.HoldsAt handle fun cb => cb.usage = .oneTimeSubmit)
    (entries : List (Queue × Handle .commandBuffer)) :
    (d.executions entries).countP (fun e => e.handle = handle)
        + (d.submitAll entries).registry.runsLeft handle
      ≤ d.registry.runsLeft handle := by
  induction entries generalizing d with
  | nil =>
    show 0 + d.registry.runsLeft handle ≤ d.registry.runsLeft handle
    omega
  | cons entry entries ih =>
    have hfirst := countP_execution?_le h entry.1 entry.2
    have hrest := ih (oneTime_submitOne h entry.1 entry.2)
    rw [executions, List.countP_append]
    show _ + _ + ((d.submitOne entry.1 entry.2).state.submitAll entries).registry.runsLeft handle ≤ _
    omega

/-- What is executed among several submissions is submitted by one of them. -/
theorem exists_submission_of_mem_executions {entries : List (Queue × Handle .commandBuffer)}
    (h : handle ∈ (d.executions entries).map Execution.handle) :
    ∃ (before : Device) (queue : Queue) (rest : List (Queue × Handle .commandBuffer))
        (cb : CommandBuffer),
      d.submitAll entries = (before.submitOne queue handle).state.submitAll rest ∧
        (before.submitOne queue handle).state.registry.get? handle = some cb.submit := by
  obtain ⟨e, he, rfl⟩ := List.mem_map.mp h
  obtain ⟨before, entry, rest, rfl, hexecuted⟩ := exists_of_mem_executions he
  rcases (d.submitAll before).submitOne_commandBuffer entry.1 entry.2 with
    ⟨hnone, -⟩ | ⟨_, cb, hsome, hhandle, hcb, -, hafter, -⟩
  · rw [hnone] at hexecuted
    cases hexecuted
  · obtain rfl := Option.some.inj (hsome.symm.trans hexecuted)
    have hsplit : d.submitAll (before ++ entry :: rest)
        = ((d.submitAll before).submitOne entry.1 entry.2).state.submitAll rest := by
      rw [submitAll, List.foldl_append]
      rfl
    rw [hhandle]
    refine ⟨d.submitAll before, entry.1, rest, cb, hsplit, ?_⟩
    rw [hafter, if_pos rfl, hcb, Option.map_some]

/-- A command buffer that is among those executed is spent afterwards. -/
theorem isSpent_of_mem_executions {entries : List (Queue × Handle .commandBuffer)}
    (h : handle ∈ (d.executions entries).map Execution.handle) :
    (d.submitAll entries).registry.HoldsAt handle CommandBuffer.IsSpent := by
  obtain ⟨before, queue, rest, cb, hsplit, hafter⟩ := exists_submission_of_mem_executions h
  have hspent : (before.submitOne queue handle).state.registry.HoldsAt handle
      CommandBuffer.IsSpent := by
    intro found hfound
    obtain rfl := Option.some.inj (hafter.symm.trans hfound)
    exact cb.isSpent_submit
  -- The submissions after it keep this.
  rw [hsplit]
  exact submitAll_keeps (P := fun d => d.registry.HoldsAt handle CommandBuffer.IsSpent)
    (fun d queue other hd => holdsAt_submitOne (fun cb _ _ => cb.isSpent_submit) hd queue other) hspent rest

/-- It is alive as well. -/
theorem contains_of_mem_executions {entries : List (Queue × Handle .commandBuffer)}
    (h : handle ∈ (d.executions entries).map Execution.handle) :
    (d.submitAll entries).registry.contains handle.erase = true := by
  obtain ⟨before, queue, rest, cb, hsplit, hafter⟩ := exists_submission_of_mem_executions h
  rw [hsplit]
  refine submitAll_keeps (P := fun d => d.registry.contains handle.erase = true) ?_
    (Registry.contains_of_get? hafter) rest
  intro d queue other hd
  rw [contains_submitOne]
  exact hd

end Device

/-! ## Runs -/

namespace Session

variable {s : Session} {handle : Handle .commandBuffer}

/-- In every reachable session a command buffer counts no more submissions than are pending. -/
theorem Reachable.awaits (h : s.Reachable) (handle : Handle .commandBuffer) :
    s.device.registry.HoldsAt handle (·.Awaits (submissionsOf s.device.pending handle)) := by
  refine h.keeps (P := fun s => s.device.registry.HoldsAt handle
    (·.Awaits (submissionsOf s.device.pending handle))) ?_ ?_ ?_
  · intro environment engine
    exact Registry.holdsAt_of_none rfl
  · intro s call _ hsubmit hs
    cases (s.step_transition call).fate hsubmit handle with
    | kept hget hpending =>
      rw [hpending]
      exact hs.congr hget
    | destroyed hget => exact Registry.holdsAt_of_none hget
    | begun _ hfrom hget hpending =>
      rw [hpending]
      intro found hfound
      obtain rfl := Option.some.inj (hget.symm.trans hfound)
      rcases hfrom with ⟨hzero, hfresh⟩ | hold
      · refine CommandBuffer.Awaits.begin ⟨?_, ?_⟩ _
        · omega
        · intro hstatus
          rw [hfresh] at hstatus
          cases hstatus
      · exact (hs _ hold).begin _
    | completed _ hget hpending =>
      rw [hpending]
      exact hs.map (fun cb hcb => hcb.finish _) hget
    | retired hperm hregistry =>
      rw [submissionsOf, hperm.countP_eq] at hs
      rw [hregistry]
      exact Registry.awaits_retireAll hs
  · intro s queue other _ hs
    exact Device.awaits_submitOne hs queue other

/-! ### At most one execution -/

/-- Nothing but the completion of a recording gives a command buffer for one submission a further run. -/
theorem Fate.runsLeft_le {call : Call} {after : Session} (h : s.Fate handle call after)
    (hone : s.device.registry.HoldsAt handle fun cb => cb.usage = .oneTimeSubmit)
    (hcompletes : s.completes handle call = false) :
    after.device.registry.runsLeft handle ≤ s.device.registry.runsLeft handle := by
  cases h with
  | kept hget => exact Nat.le_of_eq (Registry.runsLeft_congr hget)
  | destroyed hget => exact Registry.runsLeft_le_iff.mpr (Registry.holdsAt_of_none hget)
  | begun _ _ hget =>
    rw [Registry.runsLeft, hget]
    exact Nat.zero_le _
  | completed hnow =>
    rw [hnow] at hcompletes
    cases hcompletes
  | retired _ hregistry =>
    have hleft := Registry.runsLeft_le_iff.mp (Nat.le_refl (s.device.registry.runsLeft handle))
    have hboth : s.device.registry.HoldsAt handle fun cb =>
        cb.usage = .oneTimeSubmit ∧ cb.runsLeft ≤ s.device.registry.runsLeft handle :=
      fun cb hcb => ⟨hone cb hcb, hleft cb hcb⟩
    have hretire (cb : CommandBuffer) (hcb : cb.usage = .oneTimeSubmit ∧
        cb.runsLeft ≤ s.device.registry.runsLeft handle) : cb.retire.usage = .oneTimeSubmit ∧
        cb.retire.runsLeft ≤ s.device.registry.runsLeft handle :=
      ⟨hcb.1, Nat.le_trans (CommandBuffer.runsLeft_retire_le hcb.1) hcb.2⟩
    rw [hregistry, Registry.runsLeft_le_iff]
    exact fun cb hcb => (hboth.retireAll hretire _ cb hcb).2

theorem countP_step_le {call : Call}
    (hone : s.device.registry.HoldsAt handle fun cb => cb.usage = .oneTimeSubmit)
    (hcompletes : s.completes handle call = false) :
    (s.executions call).countP (fun e => e.handle = handle)
        + (s.step call).state.device.registry.runsLeft handle
      ≤ s.device.registry.runsLeft handle := by
  by_cases hsubmit : ∃ batches, call = .submit batches
  · obtain ⟨batches, rfl⟩ := hsubmit
    rw [step_submit]
    exact Device.countP_executions_le hone (s.device.submissions batches)
  · have hnot := not_exists.mp hsubmit
    rw [s.executions_of_not_submit hnot, List.countP_nil, Nat.zero_add]
    exact ((s.step_transition call).fate hnot handle).runsLeft_le hone hcompletes

/-- Until a recording is completed, a command buffer for one submission is executed at most as often as it
has runs left. -/
theorem countP_executed_le {calls : List Call}
    (hcompletes : s.allCalls (fun s call => !s.completes handle call) calls = true)
    (hone : ∀ s' ∈ s.trail calls,
      s'.device.registry.HoldsAt handle fun cb => cb.usage = .oneTimeSubmit) :
    (s.executed calls).countP (fun e => e.handle = handle) ≤ s.device.registry.runsLeft handle := by
  induction calls generalizing s with
  | nil => exact Nat.zero_le _
  | cons call calls ih =>
    rw [allCalls, Bool.and_eq_true, Bool.not_eq_true'] at hcompletes
    have hfirst := countP_step_le (hone s (mem_trail_self s (call :: calls))) hcompletes.1
    have hrest := ih hcompletes.2 fun s' hs' =>
      hone s' (List.mem_cons_of_mem _ (List.mem_append_right _ hs'))
    rw [executed, List.countP_append]
    omega

/-! ### Until it is invalid -/

/-- Whether a call leaves the recording of a command buffer alone: it neither begins nor completes one. -/
def leavesRecording (handle : Handle .commandBuffer) (s : Session) (call : Call) : Bool :=
  !s.begins handle call && !s.completes handle call

/-- While no recording of a command buffer begins or is completed, it keeps every property that being
submitted and being retired keep. -/
theorem holdsAt_trail {Q : CommandBuffer → Prop} (hretire : ∀ cb, Q cb → Q cb.retire)
    (hsubmit : ∀ cb, Q cb → cb.isSubmittable = true → Q cb.submit) {calls : List Call}
    (h : s.device.registry.HoldsAt handle Q) (hcalls : s.allCalls (leavesRecording handle) calls = true) :
    ∀ s' ∈ s.trail calls, s'.device.registry.HoldsAt handle Q := by
  refine trail_keeps_of_allCalls (P := fun s => s.device.registry.HoldsAt handle Q) ?_ h hcalls
  intro s call hs hcall
  rw [leavesRecording, Bool.and_eq_true, Bool.not_eq_true', Bool.not_eq_true'] at hcall
  by_cases hbatches : ∃ batches, call = .submit batches
  · obtain ⟨batches, rfl⟩ := hbatches
    obtain ⟨hstages, hall⟩ := Device.stages_keep (P := fun d => d.registry.HoldsAt handle Q) hs
      (s.device.submissions batches) fun before entry rest _ hd =>
        Device.holdsAt_submitOne hsubmit hd entry.1 entry.2
    refine ⟨?_, ?_⟩
    · intro s' hs'
      obtain ⟨d, hd, rfl⟩ := List.mem_map.mp hs'
      exact hstages d hd
    · rw [step_submit]
      exact hall
  · have hnot := not_exists.mp hbatches
    refine ⟨?_, ?_⟩
    · intro s' hs'
      -- Only a call that submits passes through further sessions.
      cases call with
      | submit batches => exact absurd rfl (hnot batches)
      | _ => cases hs'
    · cases (s.step_transition call).fate hnot handle with
      | kept hget => exact hs.congr hget
      | destroyed hget => exact Registry.holdsAt_of_none hget
      | begun hbegins =>
        rw [hbegins] at hcall
        cases hcall.1
      | completed hcompletes =>
        rw [hcompletes] at hcall
        cases hcall.2
      | retired _ hregistry =>
        rw [hregistry]
        exact hs.retireAll hretire _

/-- A command buffer for one submission that is spent is invalid once none of its submissions is pending. -/
theorem invalid_of_isSpent (h : s.Reachable)
    (hspent : s.device.registry.HoldsAt handle fun cb => cb.usage = .oneTimeSubmit ∧ cb.IsSpent)
    (hpending : submissionsOf s.device.pending handle = 0) :
    s.device.registry.HoldsAt handle fun cb => cb.status = .invalid := by
  intro cb hcb
  obtain ⟨husage, hcases⟩ := hspent cb hcb
  obtain ⟨hcount, hstatus⟩ := h.awaits handle cb hcb
  rcases hcases husage with hstill | hinvalid
  · have hpos := hstatus hstill
    omega
  · exact hinvalid

end Session

/-! ## One run for each recording -/

/-- A command buffer for one submission runs at most once for each recording, on any engine.  Between the
completion of a recording and the next one, as long as its usage is for one submission, at most one
submission of it is executed, whatever else is begun, submitted and retired in between.  Once it was
executed, and all of its submissions are retired before a recording of it begins or is completed, it is
invalid, and stays so until then; and it is alive unless it was destroyed. -/
theorem one_run_per_recording (environment : Environment) (engine : Engine) (calls : List Call)
    (handle : Handle .commandBuffer) :
    let s := (Session.start environment engine).run calls
    (∀ ending between,
        let completed := (s.step ending).state
        s.completes handle ending = true →
        completed.allCalls (fun s call => !s.completes handle call) between = true →
        (∀ s' ∈ completed.trail between,
          s'.device.registry.HoldsAt handle fun cb => cb.usage = .oneTimeSubmit) →
        (completed.executed between).countP (fun e => e.handle = handle) ≤ 1)
      ∧ ∀ submitting waiting later,
        let submitted := (s.step submitting).state
        let waited := submitted.run waiting
        handle ∈ (s.executions submitting).map Device.Execution.handle →
        (submitted.device.registry.HoldsAt handle fun cb => cb.usage = .oneTimeSubmit) →
        submitted.allCalls (Session.leavesRecording handle) waiting = true →
        submissionsOf waited.device.pending handle = 0 →
        waited.allCalls (Session.leavesRecording handle) later = true →
        (∀ s' ∈ waited.trail later,
          s'.device.registry.HoldsAt handle fun cb => cb.status = .invalid)
        ∧ (.destroy .commandBuffer handle ∉ submitted.successes (waiting ++ later) →
          (waited.run later).device.registry.contains handle.erase = true) := by
  intro s
  have hs : s.Reachable := (Session.Reachable.start environment engine).run calls
  refine ⟨?_, ?_⟩
  · intro ending between completed _ hbetween hone
    -- Every execution costs one of the runs that are left, and a recording for one submission has one.
    have hexecuted := Session.countP_executed_le hbetween hone
    have hleft : completed.device.registry.runsLeft handle ≤ 1 :=
      Registry.runsLeft_le_iff.mpr fun cb _ => cb.runsLeft_le_one
    exact Nat.le_trans hexecuted hleft
  · intro submitting waiting later submitted waited hexecuted hone hwaiting hpending hlater
    cases submitting with
    | submit batches =>
      have hdevice : submitted.device = s.device.submitAll (s.device.submissions batches) :=
        congrArg Session.device (s.step_submit batches)
      -- Executed once, the command buffer is spent: it stays pending, and then becomes invalid for good.
      have hspent : submitted.device.registry.HoldsAt handle fun cb =>
          cb.usage = .oneTimeSubmit ∧ cb.IsSpent := by
        intro cb hcb
        refine ⟨hone cb hcb, ?_⟩
        rw [hdevice] at hcb
        exact Device.isSpent_of_mem_executions hexecuted cb hcb
      have hwaited := Session.holdsAt_trail (fun cb h => ⟨h.1, h.2.retire⟩)
        (fun cb h _ => ⟨h.1, cb.isSpent_submit⟩) hspent hwaiting waited
        (submitted.run_mem_trail waiting)
      have hinvalid := Session.invalid_of_isSpent ((hs.call _).run waiting) hwaited hpending
      refine ⟨?_, ?_⟩
      · exact Session.holdsAt_trail (Q := fun cb => cb.status = .invalid)
          (fun cb h => CommandBuffer.retire_of_invalid h)
          (fun cb h hsubmittable => absurd hsubmittable (CommandBuffer.not_isSubmittable_of_invalid h))
          hinvalid hlater
      -- Nothing but its destruction takes a command buffer out of the registry.
      · intro hspared
        have halive : submitted.device.registry.contains handle.erase = true := by
          rw [hdevice]
          exact Device.contains_of_mem_executions hexecuted
        have hrun : waited.run later = submitted.run (waiting ++ later) :=
          (submitted.run_append waiting later).symm
        rw [hrun]
        exact Session.contains_run (by decide) halive hspared
    | _ => cases hexecuted

/-- A command buffer that was recorded for simultaneous use and submitted to two queues, and is now being
recorded for one submission. -/
def recordedOnce : List Call :=
  [.beginCommandBuffer ⟨0, 0⟩ none .simultaneousUse, .endCommandBuffer 0, submitFirst,
    .submit [{ queue := ⟨0, 1⟩, commandBuffers := [.ofSerial .commandBuffer 1] }],
    .beginCommandBuffer ⟨0, 0⟩ (some (.ofSerial .commandBuffer 1)) .oneTimeSubmit]

/-- On an engine without rules the recording is submitted twice and runs once, and the command buffer is
invalid when the two older submissions are retired as well. -/
theorem recordedOnce_runs_once :
    let handle : Handle .commandBuffer := .ofSerial .commandBuffer 1
    let recording := (Session.start {} {}).run recordedOnce
    let recorded := (Session.start {} {}).run (recordedOnce ++ [.endCommandBuffer 1])
    let waiting : List Call := [.queueWait ⟨0, 1⟩, submitFirst, .queueWait ⟨0, 0⟩]
    let waited := (recorded.step submitFirst).state.run waiting
    recording.completes handle (.endCommandBuffer 1) = true
      ∧ ((recording.step (.endCommandBuffer 1)).state.executed [submitFirst, submitFirst]).countP
          (fun e => e.handle = handle) ≤ 1
      ∧ submissionsOf (recorded.step submitFirst).state.device.pending handle = 3
      ∧ submissionsOf waited.device.pending handle = 0
      ∧ ∀ s' ∈ waited.trail [submitFirst],
        s'.device.registry.HoldsAt handle fun cb => cb.status = .invalid := by
  intro handle recording recorded waiting waited
  have hcompletes : recording.completes handle (.endCommandBuffer 1) = true := by decide +kernel
  have hnone : submissionsOf waited.device.pending handle = 0 := by decide +kernel
  have hexecuted : handle ∈ (recorded.executions submitFirst).map Device.Execution.handle := by
    decide +kernel
  obtain ⟨honce, -⟩ := one_run_per_recording {} {} recordedOnce handle
  obtain ⟨-, hspent⟩ := one_run_per_recording {} {} (recordedOnce ++ [.endCommandBuffer 1]) handle
  have hruns := honce (.endCommandBuffer 1) [submitFirst, submitFirst] hcompletes (by decide +kernel)
    (by decide +kernel)
  have hafter := hspent submitFirst waiting [submitFirst] hexecuted (by decide +kernel)
    (by decide +kernel) hnone (by decide +kernel)
  obtain ⟨hinvalid, -⟩ := hafter
  exact ⟨hcompletes, hruns, by decide +kernel, hnone, hinvalid⟩

end VulkanValidity
