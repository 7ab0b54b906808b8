/-
  VulkanValidity.Proofs.Batches

  Submitting batches is submitting their command buffers one after the other.  Each of them meets the
  device that the ones before it leave, so that a command buffer that is listed twice may be admitted the
  first time only; whether one fails makes no difference to the ones after it.  The order is the
  lexicographically smallest one in which every batch comes after those that it waits for, and the
  submission fails with the first error in this order.
-/

import VulkanValidity.Proofs.Admission

namespace VulkanValidity

namespace Device

/-! ## One submission after the other -/

/-- The outcomes of submitting command buffers one after the other, each on the device that the one
before it leaves. -/
def submitEach (d : Device) : List (Queue × Handle .commandBuffer) → List (Outcome Device Unit)
  | [] => []
  | (queue, handle) :: entries =>
    d.submitOne queue handle :: (d.submitOne queue handle).state.submitEach entries

/-- The first failure among results, if there is one. -/
def firstFailure (results : List (Except Error Unit)) : Except Error Unit :=
  (results.find? fun result => !result.isOk).getD (.ok ())

theorem firstFailure_cons (result : Except Error Unit) (results : List (Except Error Unit)) :
    firstFailure (result :: results) = (do result; firstFailure results) := by
  cases result <;> rfl

/-- The device afterwards is the one that the last submission leaves. -/
theorem submitAll_eq_last (d : Device) (entries : List (Queue × Handle .commandBuffer)) :
    d.submitAll entries = ((d.submitEach entries).getLast?.map Outcome.state).getD d := by
  induction entries generalizing d with
  | nil => rfl
  | cons entry entries ih =>
    rw [submitEach, List.getLast?_cons, Option.map_some, Option.getD_some]
    refine (ih (d.submitOne entry.1 entry.2).state).trans ?_
    cases (submitEach _ entries).getLast? <;> rfl

/-- Submitting more command buffers adds their diagnostics, and keeps the first error. -/
theorem foldl_submitNext (outcome : Outcome Device Unit)
    (entries : List (Queue × Handle .commandBuffer)) :
    entries.foldl submitNext outcome = ⟨outcome.state.submitAll entries,
      outcome.diagnostics ++ (outcome.state.submitEach entries).flatMap Outcome.diagnostics,
      do outcome.result; firstFailure ((outcome.state.submitEach entries).map Outcome.result)⟩ := by
  induction entries generalizing outcome with
  | nil =>
    obtain ⟨state, diagnostics, result⟩ := outcome
    rw [submitEach, List.flatMap_nil, List.append_nil]
    cases result <;> rfl
  | cons entry entries ih =>
    obtain ⟨queue, handle⟩ := entry
    rw [List.foldl_cons, ih, submitEach, List.flatMap_cons, List.map_cons, firstFailure_cons,
      ← List.append_assoc]
    -- The first error so far stays the error.
    cases hresult : outcome.result with
    | error e => simp only [submitNext, hresult]; rfl
    | ok accepted => simp only [submitNext, hresult]; rfl

/-! ## Events -/

/-- A submission that is admitted adds one event, and one that is not adds none. -/
theorem feed_submitOne (d : Device) (queue : Queue) (handle : Handle .commandBuffer) :
    (d.submitOne queue handle).state.registry.feed
      = d.registry.feed ++ (d.execution? queue handle).toList.map fun e =>
          ⟨d.registry.feed.length + 1, e.handle.erase, .submitted⟩ := by
  rcases d.submitOne_cases queue handle with ⟨hnone, hstate⟩ | ⟨log, hsome, -, hstate⟩
  · rw [hnone, hstate]
    exact (List.append_nil _).symm
  · obtain ⟨images, buffers, commandBuffers, hexecute⟩ := d.exists_execute_eq queue handle log
    rw [hsome, hstate, hexecute]
    rfl

/-- What was submitted is in the feed, in the order of the submissions. -/
theorem feed_submitAll (d : Device) (entries : List (Queue × Handle .commandBuffer)) :
    (d.submitAll entries).registry.feed
      = d.registry.feed ++ ((d.executions entries).mapIdx fun i e =>
          ⟨d.registry.feed.length + i + 1, e.handle.erase, .submitted⟩) := by
  induction entries generalizing d with
  | nil => exact (List.append_nil _).symm
  | cons entry entries ih =>
    refine (ih (d.submitOne entry.1 entry.2).state).trans ?_
    rw [feed_submitOne, executions]
    cases d.execution? entry.1 entry.2 with
    | none => simp
    | some e => simp [List.mapIdx_cons, Nat.add_comm, Nat.add_left_comm]

end Device

/-! ## Batches -/

/-- Batches that are not rejected as a whole, and whose waits form no cycle, are submitted as their command
buffers one after the other: in the lexicographically smallest order in which every batch comes after the
ones that it waits for, and within a batch as they are listed. The device afterwards is the one that the
last of them leaves, with an event for each that was executed; the diagnostics follow those about the
submission as a whole; and the first failure of all is the result. -/
theorem submit_folds {d : Device} {batches : List SubmitBatch}
    (hpasses : ∀ diagnostic ∈ d.diagnose (.submitBatches batches), diagnostic.severity ≠ .error)
    (hacyclic : ∀ i, ¬ Relation.TransGen (Waits batches) i i) :
    ∃ order, (Topological batches order ∧ ∀ other, Topological batches other → order ≤ other)
      ∧ let entries := (order.filterMap fun index => batches[index]?).flatMap fun batch =>
          batch.commandBuffers.map fun handle => (batch.queue, handle)
        let outcomes := d.submitEach entries
        (d.submit batches).state = (outcomes.getLast?.map Outcome.state).getD d
        ∧ (d.submit batches).diagnostics
          = d.diagnose (.submitBatches batches) ++ outcomes.flatMap Outcome.diagnostics
        ∧ (d.submit batches).result = Device.firstFailure (outcomes.map Outcome.result)
        ∧ (d.submit batches).state.registry.feed
          = d.registry.feed ++ (d.executions entries).mapIdx fun i e =>
            ⟨d.registry.feed.length + i + 1, e.handle.erase, .submitted⟩ := by
  obtain ⟨order, horder⟩ := exists_submissionOrder? hacyclic
  have hverdict : verdict (d.diagnose (.submitBatches batches)) = .ok () := by
    refine verdict_eq_ok.mpr (List.find?_eq_none.mpr fun diagnostic hmem => ?_)
    simpa using hpasses diagnostic hmem
  have hsubmit : d.submit batches = (Device.submissionSequence batches order).foldl Device.submitNext
      ⟨d, d.diagnose (.submitBatches batches), .ok ()⟩ := by
    rw [Device.submit, hverdict, horder]
  refine ⟨order, ⟨topological_submissionOrder? horder, fun other hother =>
    (Schedule.fits_start batches).complete_le horder hother⟩, ?_⟩
  rw [hsubmit, Device.foldl_submitNext]
  exact ⟨d.submitAll_eq_last _, rfl, rfl, d.feed_submitAll _⟩

/-- A batch that waits for the one after it, which lists the same command buffer twice. -/
def reversedBatches (handle : Handle .commandBuffer) : List SubmitBatch :=
  [{ queue := ⟨0, 0⟩, commandBuffers := [handle], waitFor := [1] },
    { queue := ⟨0, 0⟩, commandBuffers := [handle, handle] }]

/-- The command buffer is executed the first time, although that fails, and it is still pending the other
times. -/
theorem reversedBatches_folds :
    let d := ((Session.start {} Standard.engine).run recordUnexpected).device
    let handle := Handle.ofSerial .commandBuffer 3
    let entries := [(⟨0, 0⟩, handle), (⟨0, 0⟩, handle), (⟨0, 0⟩, handle)]
    (d.submit (reversedBatches handle)).state
        = ((d.submitEach entries).getLast?.map Outcome.state).getD d
      ∧ (d.submit (reversedBatches handle)).result
        = Device.firstFailure ((d.submitEach entries).map Outcome.result)
      ∧ ((d.submitEach entries).map fun outcome => outcome.result.isOk) = [false, false, false]
      ∧ (d.executions entries).length = 1 := by
  intro d handle entries
  have horder : submissionOrder? (reversedBatches handle) = some [1, 0] := by decide
  obtain ⟨order, ⟨htop, hleast⟩, hstate, -, hresult, -⟩ :=
    @submit_folds d (reversedBatches handle) (by decide +kernel)
      (topological_submissionOrder? horder).acyclic
  -- There is only one order that is the smallest.
  obtain rfl : order = [1, 0] :=
    le_antisymm (hleast _ (topological_submissionOrder? horder))
      ((Schedule.fits_start _).complete_le horder htop)
  exact ⟨hstate, hresult, by decide +kernel, by decide +kernel⟩

end VulkanValidity
