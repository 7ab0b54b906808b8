/-
  VulkanValidity.Proofs.Pending

  Command buffers that are pending.  A command buffer counts its pending submissions, and its status says
  whether there are any (`CommandBuffer.Counts`).  Submitting, completing a submission and beginning to
  record keep that up.  Ending a recording does not look at the status: nothing keeps a second recorder
  from ending its recording after the command buffer was submitted, and the command buffer can then be
  submitted again as if it were not pending.  Statuses and pending submissions agree all along a run
  exactly if no recording of a pending command buffer ends in it.
-/

import VulkanValidity.Proofs.InUse

namespace VulkanValidity

/-! ## Counting submissions -/

/-- The command buffer counts `n` pending submissions.  Its status tells whether there are any, and its usage
whether there can be several. -/
structure CommandBuffer.Counts (cb : CommandBuffer) (n : Nat) : Prop where
  count : cb.pendingCount = n
  status : cb.status = .pending ↔ 0 < n
  usage : cb.usage ≠ .simultaneousUse → n ≤ 1

namespace CommandBuffer.Counts

variable {cb : CommandBuffer} {n : Nat}

theorem eq_zero (h : cb.Counts n) (hstatus : cb.status ≠ .pending) : n = 0 :=
  Nat.eq_zero_of_not_pos fun hpos => hstatus (h.status.mpr hpos)

/-- A command buffer that is not pending can be begun. -/
theorem begin (h : cb.Counts 0) (usage : CommandBufferUsage) : (cb.begin usage).Counts 0 where
  count := h.count
  status := by simp [CommandBuffer.begin]
  usage _ := Nat.zero_le 1

/-- The end of a recording of a command buffer that is not pending. -/
theorem finish (h : cb.Counts 0) (log : CommandLog) : (cb.finish log).Counts 0 where
  count := h.count
  status := by simp [CommandBuffer.finish]
  usage _ := Nat.zero_le 1

/-- A command buffer that can be submitted has one more submission afterwards. -/
theorem submit (h : cb.Counts n) (hsubmittable : cb.isSubmittable = true) :
    cb.submit.Counts (n + 1) where
  count := congrArg (· + 1) h.count
  status := iff_of_true rfl n.succ_pos
  usage husage := by
    refine Nat.succ_le_succ (Nat.le_of_eq ?_)
    -- Only for simultaneous use it can be pending already.
    have hstatus : cb.status ≠ .pending := by
      intro hpending
      rw [isSubmittable, hpending] at hsubmittable
      exact husage (beq_iff_eq.mp hsubmittable)
    exact h.eq_zero hstatus

theorem retire (h : cb.Counts (n + 1)) : cb.retire.Counts n := by
  have hpending : cb.status = .pending := h.status.mpr n.succ_pos
  have hcount : cb.pendingCount - 1 = n := by rw [h.count, Nat.add_sub_cancel]
  refine ⟨hcount, ?_, fun husage => Nat.le_of_succ_le (h.usage husage)⟩
  simp only [CommandBuffer.retire, hcount, hpending, and_true]
  by_cases hn : n = 0
  · rw [if_pos hn]
    split <;> simp [hn]
  · rw [if_neg hn]
    exact iff_of_true rfl (Nat.pos_of_ne_zero hn)

end CommandBuffer.Counts

/-! ## The submissions of a command buffer -/

/-- The number of submissions of a command buffer. -/
def submissionsOf (pending : List PendingSubmission) (handle : Handle .commandBuffer) : Nat :=
  pending.countP fun submission => submission.commandBuffer = handle

theorem submissionsOf_cons (submission : PendingSubmission) (pending : List PendingSubmission)
    (handle : Handle .commandBuffer) :
    submissionsOf (submission :: pending) handle
      = submissionsOf pending handle + if submission.commandBuffer = handle then 1 else 0 := by
  simp [submissionsOf, List.countP_cons]

theorem submissionsOf_pos {pending : List PendingSubmission} {handle : Handle .commandBuffer} :
    0 < submissionsOf pending handle
      ↔ ∃ submission ∈ pending, submission.commandBuffer = handle := by
  simp [submissionsOf, List.countP_pos_iff]

theorem submissionsOf_execute (d : Device) (queue : Queue) (handle : Handle .commandBuffer)
    (log : CommandLog) (report : ReplayReport) (other : Handle .commandBuffer) :
    submissionsOf (d.execute queue handle log report).pending other
      = submissionsOf d.pending other + if handle = other then 1 else 0 := by
  simp [Device.execute, submissionsOf, List.countP_append, List.countP_singleton]

/-- Completing a submission retires its command buffer, and no other one. -/
theorem Registry.get?_retire (r : Registry) (submission : PendingSubmission)
    (other : Handle .commandBuffer) :
    (Device.retire r submission).get? other
      = if other = submission.commandBuffer then (r.get? other).map CommandBuffer.retire
        else r.get? other := by
  rw [Device.retire, (sameObjects_record _ _ _).get?_eq, get?_modify]
  rfl

/-- Every live command buffer counts its submissions, and no other handle has any. -/
def Registry.CountsAll (r : Registry) (pending : List PendingSubmission) : Prop :=
  ∀ handle : Handle .commandBuffer, match r.get? handle with
    | some cb => cb.Counts (submissionsOf pending handle)
    | none => submissionsOf pending handle = 0

namespace Registry.CountsAll

variable {r r' : Registry} {pending pending' : List PendingSubmission} (h : r.CountsAll pending)
include h

theorem counts {handle : Handle .commandBuffer} {cb : CommandBuffer}
    (hget : r.get? handle = some cb) : cb.Counts (submissionsOf pending handle) := by
  have hcounts := h handle
  rwa [hget] at hcounts

theorem congr (hget : ∀ handle : Handle .commandBuffer, r'.get? handle = r.get? handle) :
    r'.CountsAll pending := by
  intro handle
  rw [hget]
  exact h handle

theorem perm (hperm : pending.Perm pending') : r.CountsAll pending' := by
  intro handle
  rw [submissionsOf, ← hperm.countP_eq]
  exact h handle

/-- One command buffer changes, and with it the number of its submissions. -/
theorem change {handle : Handle .commandBuffer} {f : CommandBuffer → CommandBuffer}
    (hget : ∀ other : Handle .commandBuffer,
      r'.get? other = if other = handle then (r.get? other).map f else r.get? other)
    (hothers : ∀ other, other ≠ handle → submissionsOf pending' other = submissionsOf pending other)
    (hchanged : ∀ cb, r.get? handle = some cb → (f cb).Counts (submissionsOf pending' handle))
    (hnone : r.get? handle = none → submissionsOf pending' handle = 0) :
    r'.CountsAll pending' := by
  intro other
  rw [hget]
  by_cases heq : other = handle
  · subst heq
    rw [if_pos rfl]
    cases hfound : r.get? other with
    | some cb => exact hchanged cb hfound
    | none => exact hnone hfound
  · rw [if_neg heq, hothers other heq]
    exact h other

/-- A command buffer without submissions changes. -/
theorem modify (handle : Handle .commandBuffer) {f : CommandBuffer → CommandBuffer}
    (hchanged : ∀ cb, r.get? handle = some cb →
      submissionsOf pending handle = 0 ∧ (f cb).Counts 0) :
    (r.modify handle f).CountsAll pending := by
  refine h.change (fun other => get?_modify r handle f other) (fun _ _ => rfl) (fun cb hget => ?_)
    fun hget => ?_
  · obtain ⟨hzero, hcounts⟩ := hchanged cb hget
    rwa [hzero]
  · have hzero := h handle
    rwa [hget] at hzero

/-- A new command buffer has no submissions. -/
theorem add (handle : Handle .commandBuffer) {cb : CommandBuffer} (hnew : cb.Counts 0) :
    (r.add handle cb).CountsAll pending := by
  intro other
  rw [get?_add]
  have hother := h other
  cases hget : r.get? other with
  | some old =>
    rw [hget] at hother
    exact hother
  | none =>
    rw [hget] at hother
    by_cases heq : other = handle
    · rw [if_pos heq, hother]
      exact hnew
    · rw [if_neg heq]
      exact hother

/-- A command buffer without submissions can be removed. -/
theorem remove (handle : Handle .commandBuffer) (hzero : submissionsOf pending handle = 0) :
    (r.remove handle).CountsAll pending := by
  intro other
  rw [get?_remove]
  by_cases heq : other = handle
  · rw [if_pos heq, heq]
    exact hzero
  · rw [if_neg heq]
    exact h other

omit h in
/-- A submission that is completed counts no more. -/
theorem retire {submission : PendingSubmission} (h : r.CountsAll (submission :: pending)) :
    (Device.retire r submission).CountsAll pending := by
  have hown : submissionsOf (submission :: pending) submission.commandBuffer
      = submissionsOf pending submission.commandBuffer + 1 := by
    rw [submissionsOf_cons, if_pos rfl]
  refine h.change (get?_retire r submission) (fun other hne => ?_) (fun cb hcb => ?_) fun hnone => ?_
  · rw [submissionsOf_cons, if_neg hne.symm, Nat.add_zero]
  · have hcounts := h.counts hcb
    rw [hown] at hcounts
    exact hcounts.retire
  · -- The submission is one of a command buffer that is alive.
    have hzero := h submission.commandBuffer
    rw [hnone, hown] at hzero
    cases hzero

end Registry.CountsAll

namespace Device

/-- The command buffers of a guarded device count their submissions. -/
structure Counted (d : Device) : Prop extends d.Guarded where
  counts : d.registry.CountsAll d.pending

theorem Quietly.get?_commandBuffer {d d' : Device} (h : d.Quietly d')
    (handle : Handle .commandBuffer) : d'.registry.get? handle = d.registry.get? handle := by
  refine h.keeps (P := fun d' => d'.registry.get? handle = d.registry.get? handle)
    (fun d₁ d₂ hquiet heq => ?_) rfl
  rw [← heq]
  cases hquiet with
  | aside hobjects => exact hobjects.get?_eq handle
  | add _ ht => exact Registry.get?_add_of_ne _ _ _ ht.symm handle
  | modify _ ht => exact Registry.get?_modify_of_ne _ _ _ ht.symm handle

theorem removeSwapchain_get?_commandBuffer (d : Device) (handle : Handle .swapchain)
    (images : List (Handle .image)) (other : Handle .commandBuffer) :
    (d.removeSwapchain handle images).registry.get? other = d.registry.get? other := by
  have hremove := foldl_keeps (fun r : Registry => r.get? other)
    (f := fun registry (image : Handle .image) => registry.remove image)
    (fun r image => Registry.get?_remove_of_ne r image (by decide) other) images
    (d.registry.remove handle)
  exact hremove.trans (Registry.get?_remove_of_ne _ handle (by decide) other)

theorem counts_retireAll {d : Device} (h : d.registry.CountsAll d.pending)
    {done rest : List PendingSubmission} (hperm : d.pending.Perm (done ++ rest)) :
    (d.retireAll done rest).registry.CountsAll (d.retireAll done rest).pending := by
  have hretire (r : Registry) (hr : r.CountsAll (done ++ rest)) :
      (done.foldl retire r).CountsAll rest := by
    clear hperm
    induction done generalizing r with
    | nil => exact hr
    | cons submission done ih => exact ih _ hr.retire
  exact hretire d.registry (h.perm hperm)

theorem isSubmittable_of_admitted? {d : Device} {queue : Queue} {cb : CommandBuffer}
    {log : CommandLog} (h : d.admitted? queue cb = some log) : cb.isSubmittable = true := by
  obtain ⟨-, hok⟩ := Option.filter_eq_some_iff.mp h
  simp only [Bool.and_eq_true] at hok
  exact hok.1.1.1

/-- A submission executes a command buffer that can be submitted, which has one more pending then, and leaves
the others alone; or it changes nothing. -/
theorem submitOne_commandBuffer (d : Device) (queue : Queue) (other : Handle .commandBuffer) :
    (d.execution? queue other = none ∧ (d.submitOne queue other).state = d) ∨
      ∃ e cb, d.execution? queue other = some e ∧ e.handle = other ∧ d.registry.get? other = some cb ∧
        cb.isSubmittable = true ∧
        (∀ handle : Handle .commandBuffer, (d.submitOne queue other).state.registry.get? handle
          = if handle = other then (d.registry.get? handle).map CommandBuffer.submit
            else d.registry.get? handle) ∧
        ∀ handle, submissionsOf (d.submitOne queue other).state.pending handle
          = submissionsOf d.pending handle + if other = handle then 1 else 0 := by
  rcases d.submitOne_cases queue other with hnone | ⟨log, hsome, -, hs⟩
  · exact Or.inl hnone
  · obtain ⟨found, hfound, -⟩ := Option.map_eq_some_iff.mp hsome
    obtain ⟨cb, hcb, hadmitted⟩ := Option.bind_eq_some_iff.mp hfound
    refine Or.inr ⟨_, cb, hsome, rfl, hcb, isSubmittable_of_admitted? hadmitted, ?_, ?_⟩
    · intro handle
      rw [hs, get?_execute]
    · intro handle
      rw [hs, submissionsOf_execute]

/-- What is submitted counts one submission more. -/
theorem Counted.submitOne {d : Device} (h : d.Counted) (queue : Queue)
    (handle : Handle .commandBuffer) : (d.submitOne queue handle).state.Counted := by
  refine ⟨h.toGuarded.submitOne queue handle, ?_⟩
  rcases d.submitOne_commandBuffer queue handle with
    ⟨-, hs⟩ | ⟨e, cb, -, -, hget, hsubmittable, hafter, hpending⟩
  · rw [hs]
    exact h.counts
  · refine h.counts.change hafter (fun other hne => ?_) (fun found hfound => ?_) fun hnone => ?_
    · rw [hpending, if_neg hne.symm, Nat.add_zero]
    · obtain rfl := Option.some.inj (hget.symm.trans hfound)
      rw [hpending, if_pos rfl]
      exact (h.counts.counts hget).submit hsubmittable
    · rw [hget] at hnone
      cases hnone

end Device

/-! ## The standard engine -/

namespace Standard

theorem reports_beginPending :
    engine.Reports .commandRecording .invalidParams CommandRules.beginPending :=
  reports_rule commandRules 0

/-- A command buffer that is begun again is not pending. -/
theorem not_pending_of_accepted {d : Device} (hengine : d.engine = engine) {queue : Queue}
    {handle : Handle .commandBuffer} {cb : CommandBuffer} (hget : d.registry.get? handle = some cb)
    (h : verdict (d.diagnose (.beginCommandBuffer queue (some handle))) = .ok ()) :
    cb.status ≠ .pending := by
  rw [Device.diagnose, hengine] at h
  have hcheck : CommandRules.beginPending (d.context (.beginCommandBuffer queue (some handle))) = [] :=
    check_eq_nil reports_beginPending rfl h
  simp only [CommandRules.beginPending, Device.context, hget] at hcheck
  exact fun hpending => Bool.false_ne_true
    ((violationIf_eq_nil.mp hcheck).symm.trans (beq_iff_eq.mpr hpending))

end Standard

namespace Session

/-- Whether a call leaves the status of pending command buffers alone: it ends no recording of one. -/
def leavesPending (s : Session) : Call → Bool
  | .endCommandBuffer key =>
    match s.recorder? key with
    | some recorder =>
      !(s.device.endCommandBuffer recorder).result.isOk
        || (s.device.registry.get? recorder.handle).all fun cb => cb.status != .pending
    | none => true
  | _ => true

/-- After such a call the command buffers count their submissions. -/
theorem counts_step {s : Session} {call : Call} (h : s.device.Counted)
    (hcall : s.leavesPending call = true) :
    (s.step call).state.device.registry.CountsAll (s.step call).state.device.pending := by
  have htransition := s.step_transition call
  generalize (s.step call).state = after at htransition ⊢
  cases htransition with
  | plain hplain hd =>
    cases hd with
    | quiet hedits =>
      have hquiet := hedits.quietly
      rw [withDevice, hquiet.sameUses.pending]
      exact h.counts.congr hquiet.get?_commandBuffer
    | @destroyed t handle ht haccepted =>
      by_cases hbuffer : t = .commandBuffer
      · subst hbuffer
        refine h.counts.remove handle (Nat.eq_zero_of_not_pos fun hpos => ?_)
        -- A submission of the command buffer would keep it from being destroyed.
        obtain ⟨submission, hmem, rfl⟩ := submissionsOf_pos.mp hpos
        exact h.not_accepted ht hmem (h.balanced.own submission hmem) haccepted
      · exact h.counts.congr (Registry.get?_remove_of_ne _ handle (Ne.symm hbuffer))
    | swapchainDestroyed =>
      exact h.counts.congr (s.device.removeSwapchain_get?_commandBuffer _ _)
    | waited hperm => exact Device.counts_retireAll h.counts hperm
  | begun hd =>
    cases hd with
    | fresh =>
      have hreserve := Registry.sameObjects_reserve s.device.registry .commandBuffer
      exact (h.counts.congr hreserve.get?_eq).add _ ⟨rfl, by simp [CommandBuffer.begin], by simp⟩
    | again haccepted hget =>
      refine h.counts.modify _ fun cb hcb => ?_
      have hcounts := h.counts.counts hcb
      have hzero := hcounts.eq_zero (Standard.not_pending_of_accepted h.engine hcb haccepted)
      exact ⟨hzero, (hzero ▸ hcounts).begin _⟩
  | @ended key recorder hr hresult =>
    refine h.counts.modify recorder.handle fun cb hcb => ?_
    simp only [leavesPending, hr, hresult, hcb, Except.isOk, Except.toBool, Bool.not_true,
      Bool.false_or, Option.all_some, bne_iff_ne] at hcall
    have hcounts := h.counts.counts hcb
    have hzero := hcounts.eq_zero hcall
    exact ⟨hzero, (hzero ▸ hcounts).finish _⟩
  | submitted =>
    exact (Device.stages_keep h _ fun before entry rest _ hd => hd.submitOne entry.1 entry.2).2.counts
  | _ => exact h.counts

theorem counted_step {s : Session} {call : Call} (h : s.device.Counted)
    (hcall : s.leavesPending call = true) :
    (∀ s' ∈ s.stages call, s'.device.Counted) ∧ (s.step call).state.device.Counted := by
  refine ⟨fun s' hs' => ?_, (s.guarded_step call h.toGuarded).2, counts_step h hcall⟩
  cases call with
  | submit batches =>
    obtain ⟨d, hd, rfl⟩ := List.mem_map.mp hs'
    exact (Device.stages_keep h _ fun before entry rest _ hd => hd.submitOne entry.1 entry.2).1 d hd
  | _ => cases hs'

/-- Ending a recording of a pending command buffer makes it executable, whatever submissions of it there
are. -/
theorem exists_executable_of_step {s : Session} {call : Call} (h : s.device.Counted)
    (hcall : s.leavesPending call = false) :
    ∃ (handle : Handle .commandBuffer) (cb : CommandBuffer),
      (s.step call).state.device.registry.get? handle = some cb ∧ cb.status = .executable
      ∧ ∃ submission ∈ (s.step call).state.device.pending, submission.commandBuffer = handle := by
  cases call with
  | endCommandBuffer key =>
    cases hr : s.recorder? key with
    | none => simp [leavesPending, hr] at hcall
    | some recorder =>
      have hstate : (s.step (.endCommandBuffer key)).state.device
          = (s.device.endCommandBuffer recorder).state := by
        simp only [step]
        rw [hr]
        rfl
      rw [hstate]
      rcases s.device.endCommandBuffer_cases recorder with ⟨-, e, he⟩ | ⟨hs, hok⟩
      · simp [leavesPending, hr, he, Except.isOk, Except.toBool] at hcall
      · cases hget : s.device.registry.get? recorder.handle with
        | none => simp [leavesPending, hr, hget] at hcall
        | some cb =>
          simp only [leavesPending, hr, hok, hget, Except.isOk, Except.toBool, Bool.not_true,
            Bool.false_or, Option.all_some, bne_eq_false_iff_eq] at hcall
          -- The command buffer is finished, and its submissions are still there.
          rw [hs]
          refine ⟨recorder.handle, cb.finish recorder.recording.finish, ?_, rfl, ?_⟩
          · show (s.device.registry.modify recorder.handle _).get? recorder.handle = _
            rw [Registry.get?_modify, if_pos rfl, hget, Option.map_some]
          · exact submissionsOf_pos.mp ((h.counts.counts hget).status.mp hcall)
  | _ => cases hcall

end Session

/-- A command buffer is pending exactly while submissions of it are, and it is submitted again while it is
pending only if it was recorded for simultaneous use.  This holds all along a run on the standard engine
exactly if no recorder of the run ends its recording while the command buffer is pending. -/
theorem pending_status_sound (environment : Environment) (calls : List Call) :
    (∀ s ∈ (Session.start environment Standard.engine).trail calls,
      ∀ (handle : Handle .commandBuffer) (cb : CommandBuffer),
        s.device.registry.get? handle = some cb →
          (cb.status = .pending
            ↔ ∃ submission ∈ s.device.pending, submission.commandBuffer = handle)
          ∧ (cb.usage ≠ .simultaneousUse → submissionsOf s.device.pending handle ≤ 1))
    ↔ (Session.start environment Standard.engine).allCalls Session.leavesPending calls = true := by
  refine Session.forall_trail_iff (I := fun s => s.device.Counted)
    (fun s h handle cb hget => ?_) (fun s call => Session.counted_step) (fun s call h hcall => ?_)
    ⟨Session.guarded_start environment, fun handle => rfl⟩ calls
  · have hcounts := h.counts.counts hget
    exact ⟨hcounts.status.trans submissionsOf_pos, hcounts.usage⟩
  · right
    intro hgood
    obtain ⟨handle, cb, hget, hstatus, hpending⟩ := Session.exists_executable_of_step h hcall
    have hpendingStatus := (hgood handle cb hget).1.mpr hpending
    rw [hstatus] at hpendingStatus
    cases hpendingStatus

/-- Submits the command buffer that was made first. -/
def submitFirst : Call :=
  .submit [{ queue := ⟨0, 0⟩, commandBuffers := [.ofSerial .commandBuffer 1] }]

/-- Records a command buffer for simultaneous use, and submits it twice. -/
def submitTwice : List Call :=
  [.beginCommandBuffer ⟨0, 0⟩ none .simultaneousUse, .endCommandBuffer 0, submitFirst, submitFirst]

/-- Two submissions of a command buffer for simultaneous use are pending, and its status says so. -/
theorem submitTwice_status_sound :
    submissionsOf ((Session.start {} Standard.engine).run submitTwice).device.pending
        (.ofSerial .commandBuffer 1) = 2
    ∧ ∃ cb : CommandBuffer, ((Session.start {} Standard.engine).run submitTwice).device.registry.get?
        (.ofSerial .commandBuffer 1) = some cb ∧ cb.status = .pending := by
  have hcount : submissionsOf ((Session.start {} Standard.engine).run submitTwice).device.pending
      (.ofSerial .commandBuffer 1) = 2 := by
    decide +kernel
  have hsound := (pending_status_sound {} submitTwice).mpr (by decide +kernel) _
    (Session.run_mem_trail _ submitTwice)
  obtain ⟨cb, hget⟩ : ∃ cb, ((Session.start {} Standard.engine).run submitTwice).device.registry.get?
      (.ofSerial .commandBuffer 1) = some cb :=
    Option.isSome_iff_exists.mp (by decide +kernel)
  refine ⟨hcount, cb, hget, (hsound _ cb hget).1.mpr (submissionsOf_pos.mp ?_)⟩
  rw [hcount]
  exact Nat.two_pos

/-- Two recorders are open on a command buffer that is not meant for simultaneous use.  The first one ends
and the command buffer is submitted; then the second one ends, and the command buffer counts as
executable while its submission is pending.  It is submitted again, and nothing is reported. -/
theorem pending_submitted_again :
    let s := Session.start {} Standard.engine
    let calls := [.beginCommandBuffer ⟨0, 0⟩ none .multipleSubmit,
      .beginCommandBuffer ⟨0, 0⟩ (some (.ofSerial .commandBuffer 1)) .multipleSubmit,
      .endCommandBuffer 0, submitFirst, .endCommandBuffer 1]
    s.diagnostics (calls ++ [submitFirst]) = []
      ∧ ((s.run calls).device.registry.commandBuffers.get? (.ofSerial .commandBuffer 1)).map
          CommandBuffer.status = some .executable
      ∧ submissionsOf (s.run calls).device.pending (.ofSerial .commandBuffer 1) = 1
      ∧ ((s.run (calls ++ [submitFirst])).device.registry.commandBuffers.get?
          (.ofSerial .commandBuffer 1)).map CommandBuffer.usage = some .multipleSubmit
      ∧ submissionsOf (s.run (calls ++ [submitFirst])).device.pending (.ofSerial .commandBuffer 1)
          = 2 := by
  decide +kernel

end VulkanValidity
