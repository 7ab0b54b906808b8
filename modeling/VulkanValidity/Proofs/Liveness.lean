/-
  VulkanValidity.Proofs.Liveness

  The handles that calls give, and whether what they lead to is alive.  What a call makes is alive.  The end of
  a recording gives the handle of the command buffer that the recording was begun with.  No rule looks at the
  command buffer then, so that it need not be alive: it is, unless it was destroyed since the recording began
  (`Session.contains_run_iff`).

  The recorder itself is changed by nothing in between but the commands that are recorded with it
  (`Session.recorder?_run_of_lt`).
-/

import VulkanValidity.Proofs.Acquisitions
import VulkanValidity.Proofs.Boundaries
import VulkanValidity.Proofs.InUse

namespace VulkanValidity

namespace Session

/-! ## What runs destroy -/

/-- An object that a call destroys is not alive afterwards. -/
theorem not_contains_of_destroy {s : Session} {t : ObjectType} {handle : Handle t} {reply : Reply}
    (hok : (s.step (.destroy t handle)).result = .ok reply) :
    (s.step (.destroy t handle)).state.device.registry.contains handle.erase = false := by
  by_cases ht : t = .swapchain
  · subst ht
    obtain ⟨⟨⟩, hresult, -⟩ := result_onDevice.mp hok
    rcases s.device.destroySwapchain_cases handle with ⟨-, e, he⟩ | ⟨swapchain, -, hs, -⟩
    · cases he.symm.trans hresult
    · show (s.device.destroySwapchain handle).state.registry.contains handle.erase = false
      rw [hs]
      refine Bool.eq_false_iff.mpr fun halive => ?_
      exact ((s.device.contains_removeSwapchain _ _ _).mp halive).2 List.mem_cons_self
  · rw [s.step_destroy ht] at hok ⊢
    obtain ⟨⟨⟩, hresult, -⟩ := result_onDevice.mp hok
    rcases s.device.destroy_cases handle with ⟨-, e, he⟩ | ⟨-, hs, -⟩
    · cases he.symm.trans hresult
    · show (s.device.destroy handle).state.registry.contains handle.erase = false
      rw [hs]
      exact Bool.eq_false_iff.mpr fun halive => ((Registry.contains_remove _ _ _).mp halive).2 rfl

/-- Whatever is not an image is destroyed by nothing but a call that destroys it by itself. -/
theorem contains_step_iff {s : Session} {call : Call} {t : ObjectType} (ht : t ≠ .image)
    {handle : Handle t} (halive : s.device.registry.contains handle.erase = true) :
    (s.step call).state.device.registry.contains handle.erase = true
      ↔ .destroy t handle ∉ s.succeeded call := by
  constructor
  · intro hafter hdestroyed
    cases hresult : (s.step call).result with
    | error e =>
      rw [succeeded_of_error hresult] at hdestroyed
      cases hdestroyed
    | ok reply =>
      rw [succeeded_of_ok hresult, List.mem_singleton] at hdestroyed
      subst hdestroyed
      rw [not_contains_of_destroy hresult] at hafter
      cases hafter
  · intro hspared
    rcases (s.step_transition call).contains_cases halive with
      hafter | ⟨t', other, rfl, hid, hother, -, hresult⟩ | ⟨swapchain, found, rfl, -, hresult, hid⟩
    · exact hafter
    · -- It is the object that was destroyed.
      obtain ⟨rfl, hhandle⟩ := Handle.eq_of_erase_eq hid
      obtain rfl : handle = other := hhandle
      refine absurd ?_ hspared
      rw [succeeded_of_ok (by rw [s.step_destroy hother, onDevice, hresult]; rfl)]
      exact List.mem_singleton_self _
    · rcases List.mem_cons.mp hid with hswapchain | himage
      · obtain ⟨rfl, hhandle⟩ := Handle.eq_of_erase_eq hswapchain
        obtain rfl : handle = swapchain := hhandle
        refine absurd ?_ hspared
        rw [succeeded_of_ok (show (s.step (.destroy .swapchain handle)).result = .ok .done by
          rw [step, onDevice, hresult]; rfl)]
        exact List.mem_singleton_self _
      · obtain ⟨image, -, himage⟩ := List.mem_map.mp himage
        exact absurd himage.symm (Handle.erase_ne ht image handle)

variable {t : ObjectType} (ht : t ≠ .image) {handle : Handle t}
include ht

/-- What no call of a run destroys stays alive. -/
theorem contains_run {s : Session} {calls : List Call}
    (halive : s.device.registry.contains handle.erase = true)
    (hspared : .destroy t handle ∉ s.successes calls) :
    (s.run calls).device.registry.contains handle.erase = true := by
  induction calls generalizing s with
  | nil => exact halive
  | cons call calls ih =>
    rw [successes, List.mem_append, not_or] at hspared
    exact ih ((contains_step_iff ht halive).mpr hspared.1) hspared.2

/-- As long as no handle is used twice, what a call of a run destroys does not come back. -/
theorem contains_run_iff {s : Session} (h : s.Reachable) {calls : List Call}
    (hfew : (s.run calls).FewObjects) (halive : s.device.registry.contains handle.erase = true) :
    (s.run calls).device.registry.contains handle.erase = true
      ↔ .destroy t handle ∉ s.successes calls := by
  refine ⟨fun hlater => ?_, contains_run ht halive⟩
  induction calls generalizing s with
  | nil => exact List.not_mem_nil
  | cons call calls ih =>
    let after := (s.step call).state
    have hafter : after.Reachable := h.call call
    have hgoesOn := changes_of_mem_trail (after.run_mem_trail calls)
    have hknown := (s.step_transition call).changes.isKnown (Registry.isKnown_of_contains halive)
    -- It is alive after the first call, as it is in the end.
    have hmiddle : after.device.registry.contains handle.erase = true :=
      (hafter.feedTells (hfew.of_changes hgoesOn)).contains_of_later ((hafter.run calls).feedTells hfew)
        hgoesOn hknown hlater
    rw [successes, List.mem_append, not_or]
    exact ⟨(contains_step_iff ht halive).mp hmiddle, ih hafter hfew hmiddle hlater⟩

end Session

/-! ## What runs record -/

/-- The commands that a call records with the recorder of a key. -/
def Call.commandsWith (key : ℕ) : Call → List Command
  | .record other command => if other = key then [command] else []
  | _ => []

theorem Call.commandsWith_eq_nil {key : ℕ} {call : Call} (h : ∀ command, call ≠ .record key command) :
    call.commandsWith key = [] := by
  cases call with
  | record other command => exact if_neg fun (heq : other = key) => h command (heq ▸ rfl)
  | _ => rfl

namespace Session

/-- What a run makes of a recorder that has some key: it records the commands for the key, each one on the
device as it is when the command is recorded. -/
def recorded (s : Session) (key : ℕ) (recorder : Recorder) : List Call → Recorder
  | [] => recorder
  | call :: rest =>
    (s.step call).state.recorded key (recorder.recordAll s.device (call.commandsWith key)) rest

theorem recorded_handle (s : Session) (key : ℕ) (recorder : Recorder) (calls : List Call) :
    (s.recorded key recorder calls).handle = recorder.handle := by
  induction calls generalizing s recorder with
  | nil => rfl
  | cons call calls ih => exact (ih _ _).trans (recorder.recordAll_handle _ _)

/-- A recorder that is open after a call was so before, if its key was handed out by then, and the call has
done nothing but record with it. -/
theorem recorder?_step_of_lt {s : Session} {key : ℕ} (hlt : key < s.nextKey) {call : Call}
    {recorder : Recorder} (hr : (s.step call).state.recorder? key = some recorder) :
    ∃ before, s.recorder? key = some before
      ∧ recorder = before.recordAll s.device (call.commandsWith key) := by
  obtain ⟨before, hbefore, hcases⟩ := (s.step_transition call).recorder_of_lt hlt hr
  refine ⟨before, hbefore, ?_⟩
  -- A command that is rejected is one as well, and may be recorded in part.
  by_cases hcall : ∃ command, call = .record key command
  · obtain ⟨command, rfl⟩ := hcall
    rw [s.step_record hbefore command, recorder?_setRecorder, if_pos rfl, hbefore, Option.map_some] at hr
    obtain rfl := Option.some.inj hr
    rw [Call.commandsWith, if_pos rfl]
    rfl
  · rw [Call.commandsWith_eq_nil (not_exists.mp hcall)]
    rcases hcases with rfl | ⟨command, rfl, -⟩
    · rfl
    · exact absurd ⟨command, rfl⟩ hcall

theorem recorder?_run_of_lt {s : Session} {key : ℕ} (hlt : key < s.nextKey) {calls : List Call}
    {recorder : Recorder} (hr : (s.run calls).recorder? key = some recorder) :
    ∃ before, s.recorder? key = some before ∧ recorder = s.recorded key before calls := by
  induction calls generalizing s with
  | nil => exact ⟨recorder, hr, rfl⟩
  | cons call calls ih =>
    have hlt' := Nat.lt_of_lt_of_le hlt (s.step_transition call).nextKey_le
    obtain ⟨middle, hmiddle, hrecorded⟩ := ih hlt' hr
    obtain ⟨before, hbefore, rfl⟩ := recorder?_step_of_lt hlt hmiddle
    exact ⟨before, hbefore, hrecorded⟩

/-- A recorder that was not open before a call is opened by it, under the next key and with nothing recorded. -/
theorem opening_of_recorder? {s : Session} {call : Call} {key : ℕ} (hfree : s.recorder? key = none)
    {recorder : Recorder} (hr : (s.step call).state.recorder? key = some recorder) :
    ∃ (opening : Opening) (family : ℕ), call = opening.call ∧ s.nextKey = key
      ∧ recorder = ⟨recorder.handle, { family := family }⟩ := by
  have htransition := s.step_transition call
  generalize (s.step call).state = after at htransition hr
  have hclosed : s.recorder? key ≠ some recorder := by
    rw [hfree]
    exact (Option.some_ne_none recorder).symm
  -- No call but one that begins a command buffer opens a recorder.
  cases htransition with
  | @begun queue again usage d opened hd =>
    have hopened := (s.withDevice d).recorder?_openRecorder opened key
    rw [hr, show (s.withDevice d).recorder? key = none from hfree, Option.none_or] at hopened
    split at hopened
    · next hkey =>
      obtain rfl := Option.some.inj hopened
      obtain ⟨family, hrecording⟩ := hd.recording
      exact ⟨⟨queue, again, usage⟩, family, rfl, hkey.symm, by rw [← hrecording]⟩
    · cases hopened
  | recorded =>
    rw [recorder?_setRecorder, hfree, Option.map_none, ite_self] at hr
    cases hr
  | endRejected => exact absurd (recorder?_of_closeRecorder hr) hclosed
  | @ended closed =>
    have hafter : (s.closeRecorder closed).recorder? key = some recorder := hr
    exact absurd (recorder?_of_closeRecorder hafter) hclosed
  | dropped => exact absurd (recorder?_of_closeRecorder hr) hclosed
  | _ => exact absurd hr hclosed

/-- A recorder that is open after a run was opened in it, and has recorded its commands since then. -/
theorem exists_opening {s : Session} (h : s.WellFormed) {key : ℕ} (hfree : s.recorder? key = none)
    {calls : List Call} {recorder : Recorder} (hr : (s.run calls).recorder? key = some recorder) :
    ∃ (earlier : List Call) (opening : Opening) (later : List Call) (family : ℕ),
      calls = earlier ++ opening.call :: later ∧ (s.run earlier).nextKey = key
      ∧ (s.run earlier).Opens opening recorder.handle family
      ∧ recorder = ((s.run earlier).step opening.call).state.recorded key
          ⟨recorder.handle, { family := family }⟩ later := by
  induction calls generalizing s with
  | nil =>
    rw [show s.recorder? key = some recorder from hr] at hfree
    cases hfree
  | cons call calls ih =>
    cases hopened : (s.step call).state.recorder? key with
    | none =>
      -- It is opened later on.
      obtain ⟨earlier, opening, later, family, rfl, hopens⟩ := ih (h.step call) hopened hr
      exact ⟨call :: earlier, opening, later, family, rfl, hopens⟩
    | some opened =>
      -- The first call opens it, and from then on its key is one that was handed out.
      obtain ⟨opening, family, rfl, rfl, hempty⟩ := opening_of_recorder? hfree hopened
      obtain ⟨before, hbefore, hrecorded⟩ := recorder?_run_of_lt ((h.step _).key_lt hopened) hr
      obtain rfl := Option.some.inj (hopened.symm.trans hbefore)
      have hhandle : recorder.handle = opened.handle := by rw [hrecorded, recorded_handle]
      rw [← hhandle] at hempty
      refine ⟨[], opening, calls, family, rfl, rfl, ?_, ?_⟩
      · exact hopened.trans (congrArg some hempty)
      · rw [hempty] at hrecorded
        exact hrecorded

end Session

/-! ## Handles that calls give -/

/-- What the handles that calls give lead to, on any engine.  What a call makes is alive.  The end of a
recording gives the handle of the command buffer that the recording was begun with.  If the command buffer is
alive, it is executable and its log is that of the recording, whatever other recorders have recorded.  It is
alive unless it was destroyed since the recording began; if it was, the handle leads to nothing. -/
theorem given_handles_alive (environment : Environment) (engine : Engine) (calls : List Call) :
    let start := Session.start environment engine
    let s := start.run calls
    (∀ call id, (∀ key, call ≠ .endCommandBuffer key) → (s.step call).result = .ok (.object id) →
      (s.step call).state.device.registry.contains id = true)
    ∧ ∀ key id, (s.step (.endCommandBuffer key)).result = .ok (.object id) →
      ∃ (earlier : List Call) (opening : Opening) (later : List Call) (handle : Handle .commandBuffer)
          (family : ℕ),
        let begun := ((start.run earlier).step opening.call).state
        let recorder := begun.recorded key ⟨handle, { family := family }⟩ later
        let after := (s.step (.endCommandBuffer key)).state.device.registry
        calls = earlier ++ opening.call :: later ∧ (start.run earlier).nextKey = key
        ∧ (start.run earlier).Opens opening handle family ∧ id = handle.erase
        ∧ begun.device.registry.contains id = true
        ∧ (∀ found : CommandBuffer, after.get? handle = some found →
          found.status = .executable ∧ found.log = some recorder.recording.finish)
        ∧ (.destroy .commandBuffer handle ∉ begun.successes later → after.contains id = true)
        ∧ (s.FewObjects → .destroy .commandBuffer handle ∈ begun.successes later →
          after.contains id = false) := by
  intro start s
  refine ⟨fun call id hend hreply => Session.contains_of_reply hend hreply, fun key id hreply => ?_⟩
  obtain ⟨recorder, hr, rfl, hafter⟩ := Session.recorder_of_end hreply
  obtain ⟨earlier, opening, later, family, hcalls, hkey, hopens, hrecorded⟩ :=
    Session.exists_opening (Session.wellFormed_start environment engine) rfl hr
  have hstart : start.Reachable := .start environment engine
  have hreachable := hstart.run earlier
  obtain ⟨d, hbegins, hdevice, -⟩ := hopens.exists_begins hreachable.wellFormed
  let begun := ((start.run earlier).step opening.call).state
  have halive : begun.device.registry.contains recorder.handle.erase = true := by
    rw [show begun.device = d from hdevice]
    exact hbegins.alive
  have hrun : s = begun.run later := by
    show start.run calls = begun.run later
    rw [hcalls, Session.run_append]
    rfl
  -- The end of a recording destroys nothing.
  have hends : (s.step (.endCommandBuffer key)).state.device.registry.contains recorder.handle.erase
      = (begun.run later).device.registry.contains recorder.handle.erase := by
    rw [hafter, Registry.contains_modify, ← hrun]
  refine ⟨earlier, opening, later, recorder.handle, family, hcalls, hkey, hopens, rfl, halive,
    fun found hfound => ?_, fun hspared => ?_, fun hfew hdestroyed => ?_⟩
  · rw [hafter, Registry.get?_modify, if_pos rfl] at hfound
    obtain ⟨before, -, rfl⟩ := Option.map_eq_some_iff.mp hfound
    exact ⟨rfl, congrArg (fun recorder : Recorder => some recorder.recording.finish) hrecorded⟩
  · rw [hends]
    exact Session.contains_run (by decide) halive hspared
  · rw [hends]
    refine Bool.eq_false_iff.mpr fun hlater => ?_
    exact (Session.contains_run_iff (by decide) (hreachable.call opening.call) (hrun ▸ hfew) halive).mp
      hlater hdestroyed

/-- A command buffer is begun twice before it ends. The log of the recorder that ends last takes the place of the
other one's. -/
example :
    let handle := Handle.ofSerial .commandBuffer 3
    let s := (Session.start {} Standard.engine).run
      [.createBuffer { size := 64, usage := .transferDst }, .allocateMemory { size := 4096 },
        .bindBuffer (.ofSerial .buffer 1) (.ofSerial .deviceMemory 2) 0,
        .beginCommandBuffer ⟨0, 0⟩ none .multipleSubmit,
        .beginCommandBuffer ⟨0, 0⟩ (some handle) .multipleSubmit,
        .record 0 (.fill (.ofSerial .buffer 1) 0), .endCommandBuffer 1, .endCommandBuffer 0]
    (s.device.registry.get? handle).map (fun found : CommandBuffer =>
      (found.status, found.log.map fun log => log.references))
        = some (.executable, some [(Handle.ofSerial .buffer 1).erase]) := by
  decide +kernel

/-- A command buffer is freed while it is recorded. The recording ends without a fault all the same, and gives
the handle that leads to nothing. -/
theorem freed_recording_ends :
    let s := (Session.start {} Standard.engine).run
      [.beginCommandBuffer ⟨0, 0⟩ none .multipleSubmit, .destroy .commandBuffer (.ofSerial .commandBuffer 1)]
    let outcome := s.step (.endCommandBuffer 0)
    let id := (Handle.ofSerial .commandBuffer 1).erase
    outcome.result = .ok (.object id) ∧ outcome.state.device.registry.contains id = false
    ∧ outcome.state.device.registry.isDestroyed id = true := by
  intro s outcome id
  exact ⟨Outcome.value?_eq_some.mp (by decide +kernel), by decide +kernel, by decide +kernel⟩

end VulkanValidity
