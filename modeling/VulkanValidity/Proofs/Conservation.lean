/-
  VulkanValidity.Proofs.Conservation

  Uses and submissions are conserved.  An object is counted as in use as often as pending submissions pin
  it, and the change feed has noted as many submissions of a command buffer as are completed or pending.
  A command buffer counts its pending submissions as well (`Registry.Tallied`); it starts to count when it
  is created, so its count is about the submissions of its handle as long as no other command buffer had
  the same handle before.  None of this depends on what the engine rejects.

  The counters have 32 bits.  A call that would count further has no outcome, so that the sessions in
  question are those that calls with outcomes lead to (`Session.Attained`).  One submission may pin an
  object many times; whether a call has an outcome is thus a matter of how often objects are pinned, and
  not of how many submissions are pending.
-/

import VulkanValidity.Proofs.Agreement
import VulkanValidity.Proofs.OneTimeSubmission

namespace VulkanValidity

/-! ## Histories of command buffers -/

namespace Registry

/-- The change feed tells that `n` submissions of a command buffer are pending, and the command buffer
counts them. -/
structure Tallied (r : Registry) (handle : Handle .commandBuffer) (n : Nat) : Prop where
  /-- What is submitted and not completed is pending. -/
  balance : (r.changesOf handle.erase).count .submitted
    = (r.changesOf handle.erase).count .retired + n
  /-- Only what was created is alive or submitted. -/
  created : (r.get? handle).isSome = true ∨ 0 < n → .created ∈ r.changesOf handle.erase
  /-- A command buffer counts its own submissions, and not those of another one with its handle. -/
  count : ∀ cb, r.get? handle = some cb → (r.changesOf handle.erase).count .created = 1 →
    cb.pendingCount = n

theorem tallied_empty (handle : Handle .commandBuffer) : ({} : Registry).Tallied handle 0 where
  balance := rfl
  created hcreated := by
    rcases hcreated with hsome | hpos
    · cases hsome
    · cases hpos
  count cb hget := by cases hget

namespace Tallied

variable {r r' : Registry} {handle : Handle .commandBuffer} {n : Nat} (h : r.Tallied handle n)
include h

/-- Nothing happens to the command buffer. -/
theorem congr (hget : r'.get? handle = r.get? handle)
    (hchanges : r'.changesOf handle.erase = r.changesOf handle.erase) : r'.Tallied handle n := by
  obtain ⟨hbalance, hcreated, hcount⟩ := h
  refine ⟨?_, ?_, ?_⟩
  · rwa [hchanges]
  · rwa [hget, hchanges]
  · rwa [hget, hchanges]

/-- A command buffer changes, and keeps its count. -/
theorem modify (other : Handle .commandBuffer) {f : CommandBuffer → CommandBuffer}
    (hf : ∀ cb, (f cb).pendingCount = cb.pendingCount) : (r.modify other f).Tallied handle n := by
  have hchanges := changesOf_congr (feed_modify r other f) handle.erase
  by_cases heq : handle = other
  · subst heq
    have hget : (r.modify handle f).get? handle = (r.get? handle).map f := by
      rw [get?_modify, if_pos rfl]
    refine ⟨?_, fun hcreated => ?_, fun cb hcb hone => ?_⟩
    · rw [hchanges]
      exact h.balance
    · rw [hchanges]
      rw [hget, Option.isSome_map] at hcreated
      exact h.created hcreated
    · rw [hget] at hcb
      obtain ⟨found, hfound, rfl⟩ := Option.map_eq_some_iff.mp hcb
      rw [hchanges] at hone
      exact (hf found).trans (h.count found hfound hone)
  · refine h.congr ?_ hchanges
    rw [get?_modify, if_neg heq]

/-- A new command buffer has no submissions, unless its handle was used before. -/
theorem add (other : Handle .commandBuffer) {cb : CommandBuffer} (hnew : cb.pendingCount = 0) :
    (r.add other cb).Tallied handle n := by
  by_cases heq : handle = other
  · subst heq
    have hchanges := changesOf_append (feed_add r handle cb) handle.erase
    rw [if_pos rfl] at hchanges
    refine ⟨?_, fun _ => ?_, fun found hfound hone => ?_⟩
    · rw [hchanges, List.count_append, List.count_append]
      exact h.balance
    · rw [hchanges]
      exact List.mem_append_right _ (List.mem_singleton_self _)
    · rw [hchanges, List.count_append, List.count_singleton_self, Nat.add_eq_right] at hone
      -- The handle is used for the first time, so that nothing is alive or submitted under it.
      have hfresh : ¬((r.get? handle).isSome = true ∨ 0 < n) := fun hused =>
        List.count_eq_zero.mp hone (h.created hused)
      rw [not_or, Bool.not_eq_true, Option.isSome_eq_false_iff, Option.isNone_iff_eq_none,
        Nat.not_lt, Nat.le_zero] at hfresh
      rw [get?_add, hfresh.1, if_pos rfl, Option.none_or] at hfound
      obtain rfl := Option.some.inj hfound
      exact hnew.trans hfresh.2.symm
  · have hne : handle.erase ≠ other.erase := fun hsame => heq (Handle.erase_inj.mp hsame)
    exact h.congr (get?_add_elsewhere r hne cb) (changesOf_append_of_ne (feed_add r other cb) hne)

theorem remove {t : ObjectType} (other : Handle t) : (r.remove other).Tallied handle n := by
  cases halive : r.contains other.erase with
  | false =>
    rw [remove_of_not_contains r other halive]
    exact h
  | true =>
    by_cases heq : handle.erase = other.erase
    · obtain ⟨rfl, rfl⟩ := Handle.eq_of_erase_eq heq
      have hchanges := changesOf_append (feed_remove r handle halive) handle.erase
      rw [if_pos rfl] at hchanges
      have hgone : (r.remove handle).get? handle = none := by rw [get?_remove, if_pos rfl]
      refine ⟨?_, fun hcreated => ?_, fun cb hcb => ?_⟩
      · rw [hchanges, List.count_append, List.count_append]
        exact h.balance
      · rw [hgone] at hcreated
        rw [hchanges]
        exact List.mem_append_left _ (h.created (hcreated.imp_left fun hnone => by cases hnone))
      · rw [hgone] at hcb
        cases hcb
    · exact h.congr (get?_remove_elsewhere r heq)
        (changesOf_append_of_ne (feed_remove r other halive) heq)

end Tallied

/-! ### Submissions -/

section Note

variable {r r' : Registry} {handle : Handle .commandBuffer} {k n : Nat} {change : ObjectChange}
  {f : CommandBuffer → CommandBuffer}
  (hfeed : r'.feed = r.feed ++ [⟨k, handle.erase, change⟩])
  (hget : ∀ other : Handle .commandBuffer,
    r'.get? other = if other = handle then (r.get? other).map f else r.get? other)
include hfeed hget

/-- Something is noted about another command buffer. -/
theorem Tallied.note_elsewhere {other : Handle .commandBuffer} (hne : other ≠ handle)
    (h : r.Tallied other n) : r'.Tallied other n := by
  refine h.congr ?_ (changesOf_append_of_ne hfeed fun heq => hne (Handle.erase_inj.mp heq))
  rw [hget, if_neg hne]

/-- Something is noted about the command buffer, and it counts accordingly. -/
theorem Tallied.note {m : Nat} (h : r.Tallied handle m)
    (hcreated : (r.get? handle).isSome = true ∨ 0 < m)
    (hbalance : (r.changesOf handle.erase ++ [change]).count .submitted
      = (r.changesOf handle.erase ++ [change]).count .retired + n)
    (hchange : change ≠ .created)
    (hcount : ∀ cb : CommandBuffer, cb.pendingCount = m → (f cb).pendingCount = n) :
    r'.Tallied handle n := by
  have hchanges := changesOf_append hfeed handle.erase
  rw [if_pos rfl] at hchanges
  refine ⟨by rwa [hchanges], fun _ => ?_, fun cb hcb hone => ?_⟩
  · rw [hchanges]
    exact List.mem_append_left _ (h.created hcreated)
  · rw [hget, if_pos rfl] at hcb
    obtain ⟨found, hfound, rfl⟩ := Option.map_eq_some_iff.mp hcb
    rw [hchanges, List.count_append, List.count_singleton, beq_false_of_ne hchange] at hone
    exact hcount found (h.count found hfound hone)

end Note

/-- A submission is completed. -/
theorem Tallied.retire {r : Registry} {submission : PendingSubmission}
    {pending : List PendingSubmission} {handle : Handle .commandBuffer}
    (h : r.Tallied handle (submissionsOf (submission :: pending) handle)) :
    (Device.retire r submission).Tallied handle (submissionsOf pending handle) := by
  have hfeed : (Device.retire r submission).feed
      = r.feed ++ [⟨r.feed.length + 1, submission.commandBuffer.erase, .retired⟩] :=
    feed_record_modify (r.unpin submission.pinned) submission.commandBuffer CommandBuffer.retire _ _
  have hget := get?_retire r submission
  rw [submissionsOf_cons] at h
  by_cases heq : submission.commandBuffer = handle
  · subst heq
    rw [if_pos rfl] at h
    -- One completion more is noted, and one submission less is pending.
    refine h.note hfeed hget (Or.inr (Nat.succ_pos _)) ?_ (by decide) fun cb hcount => ?_
    · have hbalance := h.balance
      simp only [List.count_append, List.count_singleton, beq_iff_eq, reduceCtorEq, if_false, if_true]
      omega
    · show cb.pendingCount - 1 = _
      rw [hcount, Nat.add_sub_cancel]
  · rw [if_neg heq, Nat.add_zero] at h
    exact h.note_elsewhere hfeed hget (Ne.symm heq)

end Registry

/-! ## Devices -/

namespace Device

/-- The history of every command buffer tells how many of its submissions are pending. -/
def Tallies (d : Device) : Prop :=
  ∀ handle : Handle .commandBuffer, d.registry.Tallied handle (submissionsOf d.pending handle)

/-- Small changes are no events of command buffers. -/
theorem Edit.changesOf_commandBuffer {before after : List ObjectId × Device} (h : Edit before after)
    (handle : Handle .commandBuffer) :
    after.2.registry.changesOf handle.erase = before.2.registry.changesOf handle.erase := by
  cases h with
  | aside hsame => exact Registry.changesOf_congr hsame.feed _
  | reserve t => rfl
  | add other ht =>
    exact Registry.changesOf_append_of_ne (Registry.feed_add _ other _) (Handle.erase_ne ht.symm _ _)
  | modify other => exact Registry.changesOf_congr (Registry.feed_modify _ other _) _
  | @bind _ _ _ other _ _ ht =>
    exact Registry.changesOf_append_of_ne (Registry.feed_record_modify _ other _ _ _)
      (Handle.erase_ne ht.symm _ _)

theorem Edits.changesOf_commandBuffer {before after : List ObjectId × Device}
    (h : Edits before after) (handle : Handle .commandBuffer) :
    after.2.registry.changesOf handle.erase = before.2.registry.changesOf handle.erase := by
  induction h with
  | refl => rfl
  | tail _ hlast ih => exact (hlast.changesOf_commandBuffer handle).trans ih

namespace Tallies

variable {d : Device} (h : d.Tallies)
include h

theorem edits {d' : Device} (hedits : Edits ([], d) ([], d')) : d'.Tallies := by
  intro handle
  rw [hedits.quietly.sameUses.pending]
  exact (h handle).congr (hedits.quietly.get?_commandBuffer handle)
    (hedits.changesOf_commandBuffer handle)

theorem removeSwapchain (handle : Handle .swapchain) (images : List (Handle .image)) :
    (d.removeSwapchain handle images).Tallies := by
  intro other
  refine List.foldlRecOn (motive := fun r : Registry =>
    r.Tallied other (submissionsOf d.pending other)) images _ ((h other).remove handle)
    fun r hbefore image _ => ?_
  exact hbefore.remove image

theorem retireAll {done rest : List PendingSubmission} (hperm : d.pending.Perm (done ++ rest)) :
    (d.retireAll done rest).Tallies := by
  intro handle
  have hretire (r : Registry) (hr : r.Tallied handle (submissionsOf (done ++ rest) handle)) :
      (done.foldl retire r).Tallied handle (submissionsOf rest handle) := by
    clear hperm
    induction done generalizing r with
    | nil => exact hr
    | cons submission done ih => exact ih _ hr.retire
  refine hretire d.registry ?_
  rw [submissionsOf, ← hperm.countP_eq]
  exact h handle

theorem begins {d' : Device} {queue : Queue} {again : Option (Handle .commandBuffer)}
    {usage : CommandBufferUsage} {recorder : Recorder}
    (hbegins : d.Begins queue usage again recorder d') : d'.Tallies := by
  intro handle
  cases hbegins with
  | fresh =>
    have hreserve := Registry.sameObjects_reserve d.registry .commandBuffer
    exact ((h handle).congr (hreserve.get?_eq handle) rfl).add _ rfl
  | again => exact (h handle).modify _ fun _ => rfl

/-- A submission is executed. -/
theorem execute {queue : Queue} {handle : Handle .commandBuffer} {cb : CommandBuffer}
    (hcb : d.registry.get? handle = some cb) (log : CommandLog) (report : ReplayReport) :
    (d.execute queue handle log report).Tallies := by
  have hfeed : (d.execute queue handle log report).registry.feed
      = d.registry.feed ++ [⟨d.registry.feed.length + 1, handle.erase, .submitted⟩] := by
    have happly : (report.apply d.registry).feed = d.registry.feed :=
      apply_keeps Registry.feed (fun r resource states => by cases resource <;> rfl) report d.registry
    rw [← happly]
    exact Registry.feed_record_modify (report.apply d.registry) handle CommandBuffer.submit _ _
  have hget := d.get?_execute queue handle log report
  intro other
  rw [submissionsOf_execute]
  by_cases heq : handle = other
  · subst heq
    rw [if_pos rfl]
    have halive : (d.registry.get? handle).isSome = true := by rw [hcb, Option.isSome_some]
    -- One submission more is noted, and one more is pending.
    refine (h handle).note hfeed hget (Or.inl halive) ?_ (by decide) fun cb hcount => ?_
    · have hbalance := (h handle).balance
      simp only [List.count_append, List.count_singleton, beq_iff_eq, reduceCtorEq, if_false, if_true]
      omega
    · exact congrArg (· + 1) hcount
  · rw [if_neg heq, Nat.add_zero]
    exact (h other).note_elsewhere hfeed hget (Ne.symm heq)

theorem submitOne (queue : Queue) (handle : Handle .commandBuffer) :
    (d.submitOne queue handle).state.Tallies := by
  rcases d.submitOne_cases queue handle with ⟨-, hs⟩ | ⟨log, hexecuted, -, hs⟩
  · rw [hs]
    exact h
  · obtain ⟨_, hadmitted, -⟩ := Option.map_eq_some_iff.mp hexecuted
    obtain ⟨cb, hcb, -⟩ := Option.bind_eq_some_iff.mp hadmitted
    rw [hs]
    exact h.execute hcb log _

end Tallies

end Device

/-! ## Counters -/

theorem Registry.countsFit_iff {r : Registry} :
    r.countsFit = true ↔ (∀ id, r.uses.count id < 2 ^ 32)
      ∧ ∀ (handle : Handle .commandBuffer) (cb : CommandBuffer), r.get? handle = some cb →
        cb.pendingCount < 2 ^ 32 := by
  have hcount (cb : CommandBuffer) : cb.countFits = true ↔ cb.pendingCount < 2 ^ 32 :=
    decide_eq_true_iff.trans Nat.lt_succ_iff.symm
  have hstored (handle : Handle .commandBuffer) (cb : CommandBuffer) (hget : r.get? handle = some cb) :
      handle ∈ r.commandBuffers.handles := by
    refine Decidable.byContradiction fun hmem => ?_
    rw [show r.get? handle = none from lookup_eq_none_iff_not_mem.mpr hmem] at hget
    cases hget
  rw [countsFit, Bool.and_eq_true, UseTable.fits_iff, List.all_eq_true]
  refine and_congr_right fun _ => ⟨fun h handle cb hget => ?_, fun h handle _ => ?_⟩
  · exact (hcount cb).mp ((Option.all_eq_true _ _).mp (h handle (hstored handle cb hget)) cb hget)
  · exact (Option.all_eq_true _ _).mpr fun cb hget => (hcount cb).mpr (h handle cb hget)

/-- A command buffer is pinned by each of its submissions. -/
theorem submissionsOf_le_count {pending : List PendingSubmission}
    (hown : ∀ submission ∈ pending, submission.commandBuffer.erase ∈ submission.pinned)
    (handle : Handle .commandBuffer) :
    submissionsOf pending handle ≤ (pending.flatMap PendingSubmission.pinned).count handle.erase := by
  induction pending with
  | nil => exact Nat.zero_le _
  | cons submission pending ih =>
    obtain ⟨hfirst, hrest⟩ := List.forall_mem_cons.mp hown
    rw [submissionsOf_cons, List.flatMap_cons, List.count_append, Nat.add_comm]
    refine Nat.add_le_add ?_ (ih hrest)
    split
    · next heq => exact List.count_pos_iff.mpr (heq ▸ hfirst)
    · exact Nat.zero_le _

/-- Submissions that are pending stay pending while others are made. -/
theorem Device.pending_prefix_submitAll (d : Device) (entries : List (Queue × Handle .commandBuffer)) :
    d.pending <+: (d.submitAll entries).pending := by
  refine Device.submitAll_keeps (P := fun after => d.pending <+: after.pending)
    (fun after queue handle hstart => ?_) (List.prefix_refl _) entries
  rcases after.submitOne_cases queue handle with ⟨-, hsame⟩ | ⟨log, -, -, hexecuted⟩
  · rwa [hsame]
  · rw [hexecuted]
    exact hstart.trans (List.prefix_append _ _)

/-! ## Sessions -/

namespace Session

theorem Transition.tallies {s after : Session} {call : Call} (htransition : s.Transition call after)
    (h : s.device.Tallies) : after.device.Tallies := by
  cases htransition with
  | plain _ hd =>
    cases hd with
    | quiet hedits => exact h.edits hedits
    | destroyed => exact fun handle => (h handle).remove _
    | swapchainDestroyed => exact h.removeSwapchain _ _
    | waited hperm => exact h.retireAll hperm
  | begun hd => exact h.begins hd
  | ended => exact fun handle => (h handle).modify _ fun _ => rfl
  | submitted =>
    exact Device.submitAll_keeps (fun d queue handle hd => hd.submitOne queue handle) h _
  | _ => exact h

/-- In every reachable session the command buffers are tallied. -/
theorem Reachable.tallies {s : Session} (h : s.Reachable) : s.device.Tallies := by
  induction h with
  | start environment engine => exact Registry.tallied_empty
  | @call s _ call ih => exact (s.step_transition call).tallies ih
  | submission _ queue handle ih => exact ih.submitOne queue handle

/-- In every reachable session objects are counted as often as they are pinned. -/
theorem Reachable.balanced {s : Session} (h : s.Reachable) : s.device.Balanced := by
  induction h with
  | start environment engine => exact ⟨fun _ => rfl, fun submission hmem => by cases hmem⟩
  | @call s _ call ih =>
    rcases (s.step_transition call).uses with hsame | ⟨done, rest, hperm, heq⟩ | ⟨batches, -, heq⟩
    · exact ih.sameUses hsame
    · rw [heq]
      exact ih.retireAll hperm
    · rw [heq]
      exact Device.submitAll_keeps (fun d queue handle hd => hd.submitOne queue handle) ih _
  | submission _ queue handle ih => exact ih.submitOne queue handle

/-- The counters of a reachable session fit exactly if no object is pinned too often. -/
theorem Reachable.countsFit_iff {s : Session} (h : s.Reachable) :
    s.device.registry.countsFit = true
      ↔ ∀ id, (s.device.pending.flatMap PendingSubmission.pinned).count id < 2 ^ 32 := by
  have hbalanced := h.balanced
  rw [Registry.countsFit_iff]
  constructor
  · intro hfits id
    rw [← hbalanced.uses]
    exact hfits.1 id
  · intro hpinned
    refine ⟨fun id => ?_, fun handle cb hget => ?_⟩
    · rw [hbalanced.uses]
      exact hpinned id
    · calc cb.pendingCount
          ≤ submissionsOf s.device.pending handle := (h.awaits handle cb hget).count
        _ ≤ (s.device.pending.flatMap PendingSubmission.pinned).count handle.erase :=
            submissionsOf_le_count hbalanced.own handle
        _ < 2 ^ 32 := hpinned _

/-- The sessions that calls with outcomes lead to from a new one.  While a call submits command buffers, the
session after each of them counts as well, as far as the counters go. -/
inductive Attained : Session → Prop
  | start (environment : Environment) (engine : Engine) : Attained (.start environment engine)
  | call {s : Session} (h : Attained s) {call : Call} {outcome : Outcome Session Reply}
      (houtcome : s.outcome? call = some outcome) : Attained outcome.state
  | submission {s : Session} (h : Attained s) (queue : Queue) (handle : Handle .commandBuffer)
      (hfits : (s.device.submitOne queue handle).state.registry.countsFit = true) :
    Attained (s.withDevice (s.device.submitOne queue handle).state)

theorem Attained.reachable {s : Session} (h : s.Attained) : s.Reachable := by
  induction h with
  | start environment engine => exact .start environment engine
  | call _ houtcome ih => exact ih.of_outcome? houtcome
  | submission _ queue handle _ ih => exact ih.submission queue handle

/-- A run whose calls all have outcomes leads to such a session. -/
theorem Attained.run {s : Session} (h : s.Attained) {calls : List Call}
    (hcalls : s.allCalls (fun s call => (s.outcome? call).isSome) calls = true) :
    (s.run calls).Attained := by
  induction calls generalizing s with
  | nil => exact h
  | cons call calls ih =>
    obtain ⟨hfirst, hrest⟩ := Bool.and_eq_true_iff.mp hcalls
    obtain ⟨outcome, houtcome⟩ := Option.isSome_iff_exists.mp hfirst
    obtain ⟨-, rfl⟩ := outcome?_eq_some houtcome
    exact ih (h.call houtcome) hrest

/-- Submitting has an outcome exactly if the counters fit afterwards. -/
theorem isSome_outcome?_submit (s : Session) (batches : List SubmitBatch) :
    (s.outcome? (.submit batches)).isSome = true
      ↔ (s.step (.submit batches)).state.device.registry.countsFit = true := by
  have hoverflows : s.overflows (.submit batches)
      = !(s.step (.submit batches)).state.device.registry.countsFit := rfl
  rw [outcome?, hoverflows]
  cases (s.step (.submit batches)).state.device.registry.countsFit <;> simp

/-- As long as the calls have outcomes, the counters fit. -/
theorem Attained.countsFit {s : Session} (h : s.Attained) :
    s.device.registry.countsFit = true := by
  induction h with
  | start environment engine => rfl
  | @call s h call outcome houtcome ih =>
    have hsome : (s.outcome? call).isSome = true := by rw [houtcome, Option.isSome_some]
    obtain ⟨-, rfl⟩ := outcome?_eq_some houtcome
    have hbefore := h.reachable.countsFit_iff.mp ih
    -- Only submissions count further.
    rcases (s.step_transition call).uses with hsame | ⟨done, rest, hperm, heq⟩ | ⟨batches, rfl, -⟩
    · rw [(h.reachable.call call).countsFit_iff, hsame.pending]
      exact hbefore
    · rw [(h.reachable.call call).countsFit_iff, heq]
      intro id
      have hcount := (hperm.flatMap_right PendingSubmission.pinned).count_eq id
      rw [List.flatMap_append, List.count_append] at hcount
      refine Nat.lt_of_le_of_lt ?_ (hbefore id)
      rw [hcount]
      exact Nat.le_add_left _ _
    · exact (s.isSome_outcome?_submit batches).mp hsome
  | submission _ _ _ hfits _ => exact hfits

/-- Submitting with an outcome leads through such sessions, one for each of the submissions.  To look at the
counters at the end only is thus enough. -/
theorem Attained.submissions {s : Session} (h : s.Attained) {batches : List SubmitBatch}
    (hsome : (s.outcome? (.submit batches)).isSome = true)
    {entries : List (Queue × Handle .commandBuffer)} (hstart : entries <+: s.device.submissions batches) :
    Attained (s.withDevice (s.device.submitAll entries)) := by
  induction entries using List.reverseRecOn with
  | nil => exact h
  | append_singleton entries entry ih =>
    have hbefore := ih ((List.prefix_append entries [entry]).trans hstart)
    have hnext : s.device.submitAll (entries ++ [entry])
        = ((s.device.submitAll entries).submitOne entry.1 entry.2).state := s.device.submitAll_append _ _
    have hreachable := hbefore.reachable.submission entry.1 entry.2
    rw [hnext]
    refine hbefore.submission entry.1 entry.2 (hreachable.countsFit_iff.mpr fun id => ?_)
    -- What is pending after this submission is pending at the end.
    obtain ⟨rest, hrest⟩ := hstart
    have hend : (s.step (.submit batches)).state.device
        = (s.device.submitAll (entries ++ [entry])).submitAll rest := by
      rw [← Device.submitAll_append, hrest]
      exact s.device.submit_state batches
    obtain ⟨more, hmore⟩ :=
      Device.pending_prefix_submitAll (s.device.submitAll (entries ++ [entry])) rest
    have hfits := (h.reachable.call (.submit batches)).countsFit_iff.mp
      ((s.isSome_outcome?_submit batches).mp hsome) id
    rw [hend, ← hmore, hnext, List.flatMap_append, List.count_append] at hfits
    exact Nat.lt_of_le_of_lt (Nat.le_add_right _ _) hfits

/-- Waiting for a queue leaves the submissions to the other queues, in their order. -/
theorem pending_queueWait (s : Session) (queue : Queue) :
    (s.step (.queueWait queue)).state.device.pending
      = s.device.pending.filter fun submission => submission.queue ≠ queue := by
  show (s.device.pending.partition fun submission => decide (submission.queue = queue)).2 = _
  rw [List.partition_eq_filter_filter]
  exact List.filter_congr fun submission _ => by simp

/-- Waiting for all queues leaves nothing pending, whatever their order. -/
theorem pending_waitIdle (s : Session) (queues : List Queue) :
    (s.step (.waitIdle queues)).state.device.pending = [] := by
  obtain ⟨done, -, hwait⟩ := s.device.waitIdle_cases queues
  exact congrArg Device.pending hwait

end Session

/-- Uses and submissions are conserved, on any engine, as long as the calls have outcomes.  An object is
counted as in use once for every time that a pending submission pins it, and this number fits the 32 bits of
its counter.  The feed notes as many submissions of a command buffer as are completed or pending, and a live
command buffer counts those that are pending if no other one had its handle, which is so as long as fewer
than 2^56 objects are created.  Waiting for a queue completes what was submitted to it and nothing else, and
after waiting for all queues, in any order, nothing is in use.  Submitting has an outcome exactly if no
object is pinned 2^32 times or more afterwards. -/
theorem uses_conserved {s : Session} (h : s.Attained) :
    (∀ id, s.device.registry.uses.count id
        = (s.device.pending.flatMap PendingSubmission.pinned).count id
      ∧ s.device.registry.uses.count id < 2 ^ 32)
    ∧ (∀ id, s.device.registry.isInFlight id = true
      ↔ ∃ submission ∈ s.device.pending, id ∈ submission.pinned)
    ∧ (∀ handle : Handle .commandBuffer, (s.device.registry.changesOf handle.erase).count .submitted
      = (s.device.registry.changesOf handle.erase).count .retired
        + submissionsOf s.device.pending handle)
    ∧ (∀ (handle : Handle .commandBuffer) (cb : CommandBuffer),
      s.device.registry.get? handle = some cb →
      cb.pendingCount < 2 ^ 32
        ∧ ((s.device.registry.changesOf handle.erase).count .created = 1 →
          cb.pendingCount = submissionsOf s.device.pending handle))
    ∧ (s.device.registry.createdIds.length ≤ ObjectId.maxSerial → ∀ handle : Handle .commandBuffer,
      (s.device.registry.get? handle).isSome = true →
      (s.device.registry.changesOf handle.erase).count .created = 1)
    ∧ (∀ queue, (s.step (.queueWait queue)).state.device.pending
      = s.device.pending.filter fun submission => submission.queue ≠ queue)
    ∧ (∀ queues, (s.step (.waitIdle queues)).state.device.pending = []
      ∧ ∀ id, (s.step (.waitIdle queues)).state.device.registry.isInFlight id = false)
    ∧ ∀ batches, (s.outcome? (.submit batches)).isSome = true
      ↔ ∀ id, ((s.step (.submit batches)).state.device.pending.flatMap
          PendingSubmission.pinned).count id < 2 ^ 32 := by
  have hreachable := h.reachable
  have hbalanced := hreachable.balanced
  obtain ⟨husesFit, hcountsFit⟩ := Registry.countsFit_iff.mp h.countsFit
  refine ⟨fun id => ⟨hbalanced.uses id, husesFit id⟩, fun id => hbalanced.isInFlight_iff,
    fun handle => (hreachable.tallies handle).balance, fun handle cb hget => ?_,
    fun hfew handle halive => ?_, s.pending_queueWait,
    fun queues => ⟨s.pending_waitIdle queues, fun id => ?_⟩, fun batches => ?_⟩
  · exact ⟨hcountsFit handle cb hget, (hreachable.tallies handle).count cb hget⟩
  · have htells := (hreachable.changes.agrees_of_empty hfew).feedTells
    rw [htells.created, if_pos]
    rw [← Registry.contains_erase] at halive
    exact Registry.isKnown_of_contains halive
  · -- What is in use is pinned by something pending, and nothing is pending any more.
    have hwaited := (hreachable.call (.waitIdle queues)).balanced
    refine Bool.eq_false_iff.mpr fun hused => ?_
    obtain ⟨submission, hmem, -⟩ := hwaited.isInFlight_iff.mp hused
    rw [s.pending_waitIdle queues] at hmem
    cases hmem
  · exact (s.isSome_outcome?_submit batches).trans (hreachable.call (.submit batches)).countsFit_iff

/-- Two submissions of a command buffer are pending, and both of them pin it. -/
theorem submitTwice_conserved :
    let s := (Session.start {} Standard.engine).run submitTwice
    (Session.start {} Standard.engine).allCalls (fun s call => (s.outcome? call).isSome) submitTwice = true
    ∧ s.device.registry.uses.count (Handle.ofSerial .commandBuffer 1).erase = 2
    ∧ (∀ cb : CommandBuffer, s.device.registry.get? (.ofSerial .commandBuffer 1) = some cb →
        cb.pendingCount = 2)
    ∧ ∀ queues id, (s.step (.waitIdle queues)).state.device.registry.isInFlight id = false := by
  intro s
  have hcalls : (Session.start {} Standard.engine).allCalls (fun s call => (s.outcome? call).isSome)
      submitTwice = true := by
    decide +kernel
  obtain ⟨huses, -, -, hcounts, -, -, hfree, -⟩ :=
    uses_conserved ((Session.Attained.start {} Standard.engine).run hcalls)
  have htwo : submissionsOf s.device.pending (.ofSerial .commandBuffer 1) = 2 := by
    decide +kernel
  refine ⟨hcalls, (huses _).1.trans (by decide +kernel), fun cb hcb => ?_, fun queues => (hfree queues).2⟩
  exact ((hcounts _ cb hcb).2 (by decide +kernel)).trans htwo

end VulkanValidity
