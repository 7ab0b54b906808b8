/-
  VulkanValidity.Proofs.Rejection

  Calls that fail.  An operation that looks up what it works on before it changes anything leaves the
  state as it was if it fails (`Outcome.KeepsStateOnError`); nearly all operations are of this kind.  Two
  of them change the state element by element, with a lookup for each: barriers are recorded and images
  are given back one by one.  The standard rules see to it that none of these lookups fails.  So a call
  that fails changes nothing, but for a barrier whose only fault is with layouts, which is recorded to the
  end (`Recording.withBarriers`).
-/

import VulkanValidity.Proofs.Diagnosis
import VulkanValidity.Proofs.LayoutKnowledge

namespace VulkanValidity

/-! ## Outcomes -/

/-- The operation leaves the state as it was if it fails. -/
def Outcome.KeepsStateOnError {σ α : Type} (outcome : Outcome σ α) (state : σ) : Prop :=
  ∀ e, outcome.result = .error e → outcome.state = state

theorem Outcome.guarded_keepsState {σ α : Type} (state : σ) (diagnostics : List Diagnostic)
    (perform : Except Error (α × σ)) :
    (Outcome.guarded state diagnostics perform).KeepsStateOnError state := by
  intro e he
  rcases Outcome.guarded_cases state diagnostics perform with ⟨hs, -⟩ | ⟨value, after, -, -, -, hok⟩
  · exact hs
  · rw [hok] at he
    cases he

/-- Presenting images fails before any of them is given back, or gives back all of them. -/
theorem Device.present_keepsState {d : Device} (hengine : d.engine = Standard.engine)
    (images : List PresentedImage) : (d.present images).KeepsStateOnError d := by
  intro e he
  have hdiagnostics : (d.present images).diagnostics = d.diagnose (.present images) := by
    rw [present]
    cases verdict (d.diagnose (.present images)) <;> rfl
  rw [present]
  cases hverdict : verdict (d.diagnose (.present images)) with
  | error rejection => rfl
  | ok accepted =>
    -- Once it is accepted, it succeeds.
    rw [verdict_eq_ok, ← hdiagnostics] at hverdict
    obtain ⟨value, hvalue⟩ := (present_told hengine images).ok hverdict
    rw [hvalue] at he
    cases he

/-! ## Barriers -/

/-- The recording with all barriers of a command, one after the other. Images give what the barriers have
to know of them; a barrier of an image that is not alive would add nothing. -/
def Recording.withBarriers (recording : Recording) (registry : Registry) (dependency : Dependency) :
    Recording :=
  let moved := dependency.imageBarriers.foldl (fun recording barrier =>
    match registry.get? barrier.image with
    | some image => recording.imageBarrier image.info barrier
    | none => recording) recording
  dependency.bufferBarriers.foldl Recording.bufferBarrier moved

namespace Recorder

/-- Image barriers that are recorded without an error are recorded to the last one. -/
theorem imageBarriers_complete {registry : Registry} {recording : Recording}
    {barriers : List ImageBarrier} (h : (imageBarriers registry recording barriers).2 = .ok ()) :
    imageBarriers registry recording barriers
      = (barriers.foldl (fun recording barrier =>
          match registry.get? barrier.image with
          | some image => recording.imageBarrier image.info barrier
          | none => recording) recording, .ok ()) := by
  induction barriers generalizing recording with
  | nil => rfl
  | cons barrier barriers ih =>
    rw [imageBarriers] at h ⊢
    cases hget : registry.get barrier.image with
    | error e =>
      rw [hget] at h
      cases h
    | ok image =>
      rw [hget] at h
      rw [List.foldl_cons, Registry.get_eq_ok.mp hget]
      exact ih h

theorem bufferBarriers_complete {registry : Registry} {recording : Recording}
    {barriers : List BufferBarrier} (h : (bufferBarriers registry recording barriers).2 = .ok ()) :
    (bufferBarriers registry recording barriers).1
      = barriers.foldl Recording.bufferBarrier recording := by
  induction barriers generalizing recording with
  | nil => rfl
  | cons barrier barriers ih =>
    rw [bufferBarriers] at h ⊢
    cases hget : registry.get barrier.buffer with
    | error e =>
      rw [hget] at h
      cases h
    | ok buffer =>
      rw [hget] at h
      exact ih h

/-- A command whose objects are alive has all of its barriers recorded. -/
theorem barriers_complete {registry : Registry} {recording : Recording} {dependency : Dependency}
    (halive : ∀ id ∈ (Command.barrier dependency).objects, registry.contains id = true) :
    (barriers registry recording dependency).1 = recording.withBarriers registry dependency := by
  have hok := barriers_ok registry recording dependency halive
  have himages := imageBarriers_complete <| imageBarriers_ok registry recording
    dependency.imageBarriers fun barrier hbarrier =>
      halive _ (List.mem_append_left _ (List.mem_map_of_mem hbarrier))
  rw [barriers, himages] at hok ⊢
  exact bufferBarriers_complete hok

/-- A barrier command with an error that is not about layouts is not recorded. -/
theorem record_barrier_of_structural {d : Device} {recorder : Recorder} {dependency : Dependency}
    (h : hasStructuralError (recorder.record d (.barrier dependency)).diagnostics = true) :
    (recorder.record d (.barrier dependency)).state = recorder := by
  rw [record_diagnostics] at h
  simp only [record, recordBarrier, if_pos h]

/-- A barrier command without any other error than with layouts is recorded completely. -/
theorem record_barrier_of_not_structural {d : Device} (hengine : d.engine = Standard.engine)
    {recorder : Recorder} {dependency : Dependency}
    (h : hasStructuralError (recorder.record d (.barrier dependency)).diagnostics = false) :
    (∀ id ∈ (Command.barrier dependency).objects, d.registry.contains id = true)
      ∧ (recorder.record d (.barrier dependency)).state = recorder.withRecording
        (recorder.recording.withBarriers d.registry dependency) := by
  rw [record_diagnostics] at h
  have halive : ∀ id ∈ (Command.barrier dependency).objects, d.registry.contains id = true := by
    intro id hid
    rw [Device.diagnoseRecording, hengine] at h
    exact Standard.contains_of_not_structural h hid
  refine ⟨halive, ?_⟩
  simp only [record, recordBarrier, h, Bool.false_eq_true, if_false]
  rw [barriers_complete halive]

/-- Any other command is recorded as a whole or not at all. -/
theorem record_keepsState (recorder : Recorder) (d : Device) {command : Command}
    (h : ∀ dependency, command ≠ .barrier dependency) :
    (recorder.record d command).KeepsStateOnError recorder := by
  intro e he
  rcases recorder.record_cases d h with ⟨hs, -⟩ | ⟨recording, -, -, hok⟩
  · exact hs
  · rw [hok] at he
    cases he

end Recorder

/-! ## Calls -/

theorem hasStructuralError_eq_true {diagnostics : List Diagnostic} :
    hasStructuralError diagnostics = true
      ↔ ∃ diagnostic ∈ diagnostics, diagnostic.severity = .error
        ∧ diagnostic.kind ≠ .layoutMismatch := by
  simp [hasStructuralError]

namespace Session

variable {s : Session}

theorem onDevice_keepsState {α : Type} {reply : α → Reply} {outcome : Outcome Device α}
    (h : outcome.KeepsStateOnError s.device) : (s.onDevice reply outcome).KeepsStateOnError s := by
  intro e he
  cases hresult : outcome.result with
  | error failure =>
    rw [onDevice, h failure hresult]
    rfl
  | ok value =>
    rw [onDevice, hresult] at he
    cases he

theorem opening_keepsState {outcome : Outcome Device Recorder}
    (h : outcome.KeepsStateOnError s.device) : (s.opening outcome).KeepsStateOnError s := by
  intro e he
  cases hresult : outcome.result with
  | error failure =>
    rw [opening, h failure hresult]
    simp only [hresult]
    rfl
  | ok recorder =>
    simp only [opening, hresult] at he
    cases he

/-- Recorders that record nothing are the same as before. -/
theorem recorder?_setRecorder_self {key : Nat} {recorder : Recorder}
    (hr : s.recorder? key = some recorder) (other : Nat) :
    (s.setRecorder key recorder).recorder? other = s.recorder? other := by
  rw [recorder?_setRecorder]
  split
  · next heq => rw [heq, hr, Option.map_some]
  · rfl

/-- A call that neither submits nor records nor ends leaves the session as it was if it fails. -/
theorem step_keepsState (hengine : s.device.engine = Standard.engine) {call : Call}
    (hsubmit : ∀ batches, call ≠ .submit batches)
    (hrecord : ∀ key command, call ≠ .record key command)
    (hend : ∀ key, call ≠ .endCommandBuffer key) : (s.step call).KeepsStateOnError s := by
  cases call with
  | destroy type handle => cases type <;> exact onDevice_keepsState (Outcome.guarded_keepsState _ _ _)
  | beginCommandBuffer queue again usage => exact opening_keepsState (Outcome.guarded_keepsState _ _ _)
  | present images => exact onDevice_keepsState (Device.present_keepsState hengine images)
  | record key command => exact absurd rfl (hrecord key command)
  | endCommandBuffer key => exact absurd rfl (hend key)
  | submit batches => exact absurd rfl (hsubmit batches)
  -- Waits and the closing of a recorder do not fail.
  | dropRecorder key => exact fun e he => by cases he
  | queueWait queue => exact fun e he => by cases he
  | waitIdle queues => exact fun e he => by cases he
  | _ => exact onDevice_keepsState (Outcome.guarded_keepsState _ _ _)

/-! ### Calls on recorders -/

theorem step_record {key : Nat} {recorder : Recorder} (hr : s.recorder? key = some recorder)
    (command : Command) :
    s.step (.record key command)
      = ⟨s.setRecorder key (recorder.record s.device command).state,
        (recorder.record s.device command).diagnostics,
        (recorder.record s.device command).result.map fun _ => .done⟩ := by
  simp only [step]
  rw [hr]

theorem step_record_of_none {key : Nat} (hr : s.recorder? key = none) (command : Command) :
    s.step (.record key command) = s.quietly := by
  simp only [step]
  rw [hr]

/-- A command that fails leaves the recorder as it was, if it is no barrier or has an error that is not
about layouts. -/
theorem recorder?_record_of_error {key : Nat} {command : Command} {e : Error}
    (hfailed : (s.step (.record key command)).result = .error e)
    (hbarrier : ∀ dependency, command = .barrier dependency →
      hasStructuralError (s.step (.record key command)).diagnostics = true) (other : Nat) :
    (s.step (.record key command)).state.recorder? other = s.recorder? other := by
  cases hr : s.recorder? key with
  | none => rw [step_record_of_none hr, quietly]
  | some recorder =>
    rw [step_record hr] at hfailed hbarrier ⊢
    have hkept : (recorder.record s.device command).state = recorder := by
      by_cases hcommand : ∃ dependency, command = .barrier dependency
      · obtain ⟨dependency, rfl⟩ := hcommand
        exact Recorder.record_barrier_of_structural (hbarrier dependency rfl)
      · have hkeeps := recorder.record_keepsState s.device fun dependency h => hcommand ⟨dependency, h⟩
        cases hresult : (recorder.record s.device command).result with
        | error failure => exact hkeeps failure hresult
        | ok value =>
          rw [hresult] at hfailed
          cases hfailed
    rw [hkept]
    exact recorder?_setRecorder_self hr other

theorem recorder?_endCommandBuffer (key other : Nat) :
    (s.step (.endCommandBuffer key)).state.recorder? other
      = if other = key then none else s.recorder? other := by
  cases hr : s.recorder? key with
  | none =>
    simp only [step, hr, quietly]
    by_cases heq : other = key
    · rw [if_pos heq, heq, hr]
    · rw [if_neg heq]
  | some recorder =>
    simp only [step, hr]
    exact recorder?_closeRecorder s key other

/-- The device is as it was if a recording cannot be ended. -/
theorem endCommandBuffer_device {key : Nat} {e : Error}
    (hfailed : (s.step (.endCommandBuffer key)).result = .error e) :
    (s.step (.endCommandBuffer key)).state.device = s.device := by
  cases hr : s.recorder? key with
  | none => simp only [step, hr, quietly]
  | some recorder =>
    simp only [step, hr] at hfailed ⊢
    have hkeeps : (s.device.endCommandBuffer recorder).KeepsStateOnError (s.closeRecorder key).device :=
      Outcome.guarded_keepsState _ _ _
    rw [creating, onDevice_keepsState hkeeps e hfailed]
    rfl

/-- Recording does not change the device. -/
theorem record_device (key : Nat) (command : Command) :
    (s.step (.record key command)).state.device = s.device := by
  cases hr : s.recorder? key with
  | none => rw [step_record_of_none hr, quietly]
  | some recorder => rw [step_record hr]; rfl

/-- A call that fails leaves the device as it was, unless it submits. -/
theorem device_of_error (hengine : s.device.engine = Standard.engine) {call : Call}
    (hsubmit : ∀ batches, call ≠ .submit batches) {e : Error}
    (hfailed : (s.step call).result = .error e) : (s.step call).state.device = s.device := by
  by_cases hrecord : ∃ key command, call = .record key command
  · obtain ⟨key, command, rfl⟩ := hrecord
    exact record_device key command
  by_cases hend : ∃ key, call = .endCommandBuffer key
  · obtain ⟨key, rfl⟩ := hend
    exact endCommandBuffer_device hfailed
  · have hkeeps := step_keepsState hengine hsubmit (fun key command h => hrecord ⟨key, command, h⟩)
      fun key h => hend ⟨key, h⟩
    rw [hkeeps e hfailed]

/-- A call that fails leaves the recorders as they were, unless it submits, ends one of them, or records a
barrier without any other error than with layouts. -/
theorem recorder?_of_error (hengine : s.device.engine = Standard.engine) {call : Call}
    (hsubmit : ∀ batches, call ≠ .submit batches) {e : Error}
    (hfailed : (s.step call).result = .error e) {key : Nat} (hend : call ≠ .endCommandBuffer key)
    (hbarrier : ∀ dependency, call = .record key (.barrier dependency) →
      hasStructuralError (s.step call).diagnostics = true) :
    (s.step call).state.recorder? key = s.recorder? key := by
  by_cases hrecord : ∃ other command, call = .record other command
  · obtain ⟨other, command, rfl⟩ := hrecord
    by_cases hkey : other = key
    · subst hkey
      exact recorder?_record_of_error hfailed (fun dependency h => hbarrier dependency (h ▸ rfl)) other
    · -- Another recorder is recorded to.
      cases hr : s.recorder? other with
      | none => rw [step_record_of_none hr, quietly]
      | some recorder => rw [step_record hr, recorder?_setRecorder, if_neg (Ne.symm hkey)]
  by_cases hends : ∃ other, call = .endCommandBuffer other
  · obtain ⟨other, rfl⟩ := hends
    rw [recorder?_endCommandBuffer, if_neg fun heq => hend (by rw [heq])]
  · have hkeeps := step_keepsState hengine hsubmit (fun key command h => hrecord ⟨key, command, h⟩)
      fun key h => hends ⟨key, h⟩
    rw [hkeeps e hfailed]

end Session

/-- On the standard engine a call that fails changes nothing, unless it submits command buffers. The device
is the same as before, and so is every recorder that is not given up by an attempt to end it. There is one
exception: a barrier whose errors are all about layouts is recorded completely. -/
theorem failed_call_changes_nothing {s : Session} (hengine : s.device.engine = Standard.engine)
    {call : Call} (hsubmit : ∀ batches, call ≠ .submit batches) {e : Error}
    (hfailed : (s.step call).result = .error e) :
    (s.step call).state.device = s.device
    ∧ (∀ key, call ≠ .endCommandBuffer key →
      (∀ dependency, call = .record key (.barrier dependency) →
        ∃ diagnostic ∈ (s.step call).diagnostics,
          diagnostic.severity = .error ∧ diagnostic.kind ≠ .layoutMismatch) →
      (s.step call).state.recorder? key = s.recorder? key)
    ∧ (∀ key, call = .endCommandBuffer key → (s.step call).state.recorder? key = none)
    ∧ ∀ key dependency recorder, call = .record key (.barrier dependency) →
      s.recorder? key = some recorder →
      (∀ diagnostic ∈ (s.step call).diagnostics,
        diagnostic.severity = .error → diagnostic.kind = .layoutMismatch) →
      (∀ id ∈ (Command.barrier dependency).objects, s.device.registry.contains id = true)
      ∧ (s.step call).state.recorder? key = some (recorder.withRecording
        (recorder.recording.withBarriers s.device.registry dependency)) := by
  refine ⟨Session.device_of_error hengine hsubmit hfailed, fun key hend hbarrier => ?_, ?_, ?_⟩
  · exact Session.recorder?_of_error hengine hsubmit hfailed hend fun dependency hcall =>
      hasStructuralError_eq_true.mpr (hbarrier dependency hcall)
  · rintro key rfl
    rw [Session.recorder?_endCommandBuffer, if_pos rfl]
  · rintro key dependency recorder rfl hr hlayouts
    have hharmless : hasStructuralError (s.step (.record key (.barrier dependency))).diagnostics
        = false := by
      rw [← Bool.not_eq_true, hasStructuralError_eq_true]
      rintro ⟨diagnostic, hmem, hseverity, hkind⟩
      exact hkind (hlayouts diagnostic hmem hseverity)
    rw [Session.step_record hr] at hharmless ⊢
    obtain ⟨halive, hrecorded⟩ := Recorder.record_barrier_of_not_structural hengine hharmless
    refine ⟨halive, ?_⟩
    rw [Session.recorder?_setRecorder, if_pos rfl, hr, hrecorded]
    rfl

/-- An image is moved to the layout for transfers in a command buffer. -/
def recordTransition : List Call :=
  [.createImage { format := .r8g8b8a8Unorm, extent := ⟨4, 4, 1⟩, usage := .transferDst },
    .allocateMemory { size := 65536 },
    .bindImage (.ofSerial .image 1) (.ofSerial .deviceMemory 2) 0,
    .beginCommandBuffer ⟨0, 0⟩ none .multipleSubmit,
    .record 0 (.barrier { imageBarriers := [{
      image := .ofSerial .image 1, newLayout := .transferDstOptimal }] })]

/-- A barrier that moves the image on, but from another layout. -/
def wrongTransition : Dependency where
  imageBarriers := [{
    image := .ofSerial .image 1, oldLayout := .preinitialized, newLayout := .general }]

/-- The barrier fails, and is recorded. -/
theorem wrongTransition_recorded :
    let s := (Session.start {} Standard.engine).run recordTransition
    (∃ e, (s.step (.record 0 (.barrier wrongTransition))).result = .error e)
      ∧ (s.step (.record 0 (.barrier wrongTransition))).state.device = s.device
      ∧ ((s.step (.record 0 (.barrier wrongTransition))).state.recorder? 0).map
          (fun recorder => recorder.recording.localLayout? (.ofSerial .image 1) 0)
        = some (some ⟨none, .general⟩) := by
  intro s
  have hengine : s.device.engine = Standard.engine :=
    Session.run_engine (.start {} Standard.engine) recordTransition
  have hfails : ((s.step (.record 0 (.barrier wrongTransition))).error?).isSome = true := by
    decide +kernel
  obtain ⟨e, he⟩ := Option.isSome_iff_exists.mp hfails
  have hfailed := Outcome.error?_eq_some.mp he
  have hopen : (s.recorder? 0).isSome = true := by decide +kernel
  obtain ⟨recorder, hr⟩ := Option.isSome_iff_exists.mp hopen
  obtain ⟨hdevice, -, -, hbarrier⟩ :=
    failed_call_changes_nothing hengine (fun batches h => by cases h) hfailed
  obtain ⟨-, hrecorded⟩ := hbarrier 0 wrongTransition recorder rfl hr (by decide +kernel)
  refine ⟨⟨e, hfailed⟩, hdevice, ?_⟩
  have hlayout : (s.recorder? 0).map (fun recorder =>
      (recorder.recording.withBarriers s.device.registry wrongTransition).localLayout?
        (.ofSerial .image 1) 0) = some (some ⟨none, .general⟩) := by
    decide +kernel
  rw [hr] at hlayout
  rw [hrecorded]
  exact hlayout

end VulkanValidity
