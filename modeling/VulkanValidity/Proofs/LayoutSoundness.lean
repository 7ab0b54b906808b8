/-
  VulkanValidity.Proofs.LayoutSoundness

  The two layout checks leave no gap.  While a command buffer is recorded, what commands declare is
  compared with what the recording knows; when it is submitted, its expectations are compared with the
  tracked layouts.  Neither check sees the layouts that the device is really in.  Yet in a run without
  any layout mismatch every executed command finds what it declares on a reference map of layouts, on
  which the steps of the commands run one by one, and the tracked layouts are those of the reference.

  The trace of a run keeps the reference, and the steps that were recorded.  It is tied to the session
  by `LayoutTrace.Matches`, which every call keeps.
-/

import VulkanValidity.Proofs.LayoutChecks

namespace VulkanValidity

open LayoutStep

/-! ## Traces -/

/-- What a run has recorded and executed so far. -/
structure LayoutTrace where
  /-- The reference, on which executed steps run. -/
  reference : LayoutMap := fun _ _ => none
  /-- The steps of recordings in progress, by the keys of their recorders. -/
  recorded : Nat → List LayoutStep := fun _ => []
  /-- The steps of the last finished recording of each command buffer. -/
  finished : Handle .commandBuffer → List LayoutStep := fun _ => []

namespace LayoutTrace

/-- The trace after a recorder with the key is opened, which has recorded nothing yet. -/
def begin (t : LayoutTrace) (key : Nat) : LayoutTrace :=
  { t with recorded := fun k => if k = key then [] else t.recorded k }

/-- Adds the steps of a command to those of a recorder. -/
def record (t : LayoutTrace) (key : Nat) (steps : List LayoutStep) : LayoutTrace :=
  { t with recorded := fun k => if k = key then t.recorded key ++ steps else t.recorded k }

/-- The trace after a recorder ends, whose steps are those of its command buffer from then on. -/
def finish (t : LayoutTrace) (key : Nat) (handle : Handle .commandBuffer) : LayoutTrace :=
  { t with finished := fun h => if h = handle then t.recorded key else t.finished h }

/-- Runs the steps of the command buffer of an execution on the reference. -/
def execute (t : LayoutTrace) (e : Device.Execution) : LayoutTrace :=
  { t with reference := runAll t.reference (t.finished e.handle) }

/-- What a call records and executes. -/
def call (t : LayoutTrace) (s : Session) : Call → LayoutTrace
  | .beginCommandBuffer _ _ _ => t.begin s.nextKey
  | .record key command =>
    match s.recorder? key with
    | some recorder => t.record key (recorder.layoutSteps s.device command)
    | none => t
  | .endCommandBuffer key =>
    match s.recorder? key with
    | some recorder =>
      match (s.device.endCommandBuffer recorder).result with
      | .ok handle => t.finish key handle
      | .error _ => t
    | none => t
  | .submit batches => (s.executions (.submit batches)).foldl execute t
  | _ => t

end LayoutTrace

/-- Images that are destroyed have no layouts any more, and the subresources of new images are in their
initial layout. -/
def LayoutMap.adopt (m : LayoutMap) (before after : Registry) : LayoutMap := fun handle i =>
  match after.images.get? handle with
  | none => none
  | some image =>
    if before.images.contains handle then m handle i
    else if i < image.info.trackedSize then some image.info.initialLayout else none

/-- The trace after a call. -/
def LayoutTrace.after (t : LayoutTrace) (s : Session) (call : Call) : LayoutTrace :=
  { t.call s call with
    reference := (t.call s call).reference.adopt s.device.registry
      (s.step call).state.device.registry }

/-- An execution on the reference. -/
structure LayoutExecution where
  steps : List LayoutStep
  /-- The layouts before it. -/
  before : LayoutMap
  /-- The registry after it. -/
  registry : Registry

/-- Every step finds what it declares, and the tracked layouts are those of the reference afterwards. -/
structure LayoutExecution.Sound (e : LayoutExecution) : Prop where
  declared : AllFindDeclared [] e.before e.steps
  tracked : e.registry.layoutAt? = runAll e.before e.steps

/-- The executions of submissions on the reference of a trace. -/
def Device.layoutExecutions (d : Device) (t : LayoutTrace) :
    List (Queue × Handle .commandBuffer) → List LayoutExecution
  | [] => []
  | entry :: rest =>
    let next := (d.submitOne entry.1 entry.2).state
    match d.execution? entry.1 entry.2 with
    | some e =>
      ⟨t.finished e.handle, t.reference, next.registry⟩ :: next.layoutExecutions (t.execute e) rest
    | none => next.layoutExecutions t rest

namespace Session

/-- The executions of a run on the reference of a trace. -/
def layoutExecutions (s : Session) (t : LayoutTrace) : List Call → List LayoutExecution
  | [] => []
  | call :: rest =>
    (match call with
      | .submit batches => s.device.layoutExecutions t (s.device.submissions batches)
      | _ => [])
      ++ (s.step call).state.layoutExecutions (t.after s call) rest

/-- The trace after a run, which starts with the trace `t`. -/
def layoutTrace (s : Session) (t : LayoutTrace) : List Call → LayoutTrace
  | [] => t
  | call :: rest => (s.step call).state.layoutTrace (t.after s call) rest

/-- No barrier command of a run holds two image barriers that share a subresource. -/
def BarriersApart (s : Session) : List Call → Prop
  | [] => True
  | call :: rest =>
    (∀ key dependency, call = .record key (.barrier dependency) →
      dependency.Apart s.device.registry)
    ∧ (s.step call).state.BarriersApart rest

/-- Commands with no more than one image barrier each are apart. -/
theorem barriersApart_of_length_le_one {calls : List Call}
    (h : ∀ key dependency, .record key (.barrier dependency) ∈ calls →
      dependency.imageBarriers.length ≤ 1) (s : Session) : s.BarriersApart calls := by
  induction calls generalizing s with
  | nil => exact trivial
  | cons call calls ih =>
    refine ⟨fun key dependency hcall => ?_, ih (fun key dependency hmem => ?_) _⟩
    · subst hcall
      have hlength := h key dependency List.mem_cons_self
      rw [Dependency.Apart]
      cases hbarriers : dependency.imageBarriers with
      | nil => exact List.Pairwise.nil
      | cons barrier rest =>
        rw [hbarriers, List.length_cons] at hlength
        have hrest : rest = [] := List.length_eq_zero_iff.mp (by omega)
        rw [hrest]
        exact List.pairwise_singleton _ barrier
    · exact h key dependency (List.mem_cons_of_mem call hmem)

end Session

/-! ## Traces that match -/

/-- A trace matches a device on the standard engine: the tracked layouts are those of the reference, and
each log knows what its command buffer does. -/
structure LayoutTrace.MatchesDevice (t : LayoutTrace) (d : Device) : Prop where
  engine : d.engine = Standard.engine
  registry : d.registry.WellFormed
  reference : d.registry.layoutAt? = t.reference
  finished : ∀ handle log, d.registry.log? handle = some log →
    log.knowledge.Explains (t.finished handle)

/-- A trace matches a session: each recording knows what was recorded as well. -/
structure LayoutTrace.Matches (t : LayoutTrace) (s : Session) : Prop where
  device : t.MatchesDevice s.device
  session : s.WellFormed
  recorded : ∀ key recorder, s.recorder? key = some recorder →
    LayoutKnowledge.Explains recorder.recording.localLayout? (t.recorded key)

theorem LayoutTrace.matches_start (environment : Environment) :
    LayoutTrace.Matches {} (.start environment Standard.engine) where
  device := {
    engine := rfl
    registry := Registry.wellFormed_empty
    reference := rfl
    finished := fun handle log h => by cases h }
  session := Session.wellFormed_start environment Standard.engine
  recorded key recorder h := by cases h

/-! ## Submissions -/

namespace LayoutTrace

namespace MatchesDevice

/-- An execution without a layout mismatch is sound, and the trace matches afterwards. -/
theorem execute {t : LayoutTrace} {d : Device} (h : t.MatchesDevice d) {queue : Queue}
    {handle : Handle .commandBuffer} {e : Device.Execution} (he : d.execution? queue handle = some e)
    (hnone : ∀ diagnostic ∈ (d.submitOne queue handle).diagnostics,
      diagnostic.kind ≠ .layoutMismatch) :
    (t.execute e).MatchesDevice (d.submitOne queue handle).state
      ∧ LayoutExecution.Sound
        ⟨t.finished e.handle, t.reference, (d.submitOne queue handle).state.registry⟩ := by
  obtain ⟨hhandle, -, hlog, hs⟩ := Device.execution?_eq_some he
  have hexplains : e.log.knowledge.Explains (t.finished e.handle) := by
    rw [hhandle]
    exact h.finished handle e.log hlog
  -- The check of the submission: the layouts are as the log expects them.
  have hmeets : e.log.knowledge.Meets t.reference := by
    rw [← h.reference]
    exact Device.submitOne_meets queue he h.registry h.engine hnone
  have htracked : (d.submitOne queue handle).state.registry.layoutAt?
      = runAll t.reference (t.finished e.handle) := by
    funext image i
    rw [Device.layoutAt?_submitOne queue he h.registry, hexplains.current _ hmeets, h.reference]
  refine ⟨⟨?_, Device.submitOne_wellFormed h.registry queue handle, htracked, ?_⟩,
    hexplains.declared _ hmeets, htracked⟩
  · rw [Device.submitOne_engine]
    exact h.engine
  · intro other log hother
    rw [hs, Device.log?_execute] at hother
    exact h.finished other log hother

/-- The executions of submissions without a layout mismatch are sound. -/
theorem submitAll (entries : List (Queue × Handle .commandBuffer)) (outcome : Outcome Device Unit)
    {t : LayoutTrace} (h : t.MatchesDevice outcome.state)
    (hnone : ∀ diagnostic ∈ (entries.foldl Device.submitNext outcome).diagnostics,
      diagnostic.kind ≠ .layoutMismatch) :
    ((outcome.state.executions entries).foldl LayoutTrace.execute t).MatchesDevice
        (outcome.state.submitAll entries)
      ∧ ∀ e ∈ outcome.state.layoutExecutions t entries, e.Sound := by
  induction entries generalizing outcome t with
  | nil => exact ⟨h, fun e he => by cases he⟩
  | cons entry entries ih =>
    have hfirst : ∀ diagnostic ∈ (outcome.state.submitOne entry.1 entry.2).diagnostics,
        diagnostic.kind ≠ .layoutMismatch := by
      intro diagnostic hmem
      apply hnone diagnostic
      apply Device.subset_diagnostics_submitNext (Device.submitNext outcome entry) entries
      exact List.mem_append_right _ hmem
    rw [Device.executions, Device.layoutExecutions]
    cases he : outcome.state.execution? entry.1 entry.2 with
    | none =>
      -- Nothing is executed, and the device stays as it is.
      rcases outcome.state.submitOne_cases entry.1 entry.2 with ⟨-, hs⟩ | ⟨log, hsome, -⟩
      · have hstate : (Device.submitNext outcome entry).state = outcome.state := hs
        exact ih (Device.submitNext outcome entry) (by rw [hstate]; exact h) hnone
      · rw [he] at hsome
        cases hsome
    | some e =>
      obtain ⟨hnext, hsound⟩ := h.execute he hfirst
      obtain ⟨hlast, hrest⟩ := ih (Device.submitNext outcome entry) hnext hnone
      refine ⟨hlast, fun other hother => ?_⟩
      rcases List.mem_cons.mp hother with rfl | hother
      · exact hsound
      · exact hrest other hother

end MatchesDevice

end LayoutTrace

/-! ## Calls -/

namespace LayoutTrace

/-- The layouts of an image that is not alive, or of all images if nothing is. -/
theorem layoutAt?_of_dead {r : Registry} {image : Handle .image}
    (h : r.images.get? image = none) (i : Nat) : r.layoutAt? image i = none := by
  have htracked : r.tracked? (.image image) = none := by
    rw [Registry.tracked?, h]
    rfl
  rw [Registry.layoutAt?, Registry.stateAt?_of_tracked?_none htracked]
  rfl

/-- A registry in which the resources go on has the layouts that the reference adopts. -/
theorem layoutAt?_eq_adopt {r after : Registry} {m : LayoutMap}
    (hresources : ∀ resource, after.tracked? resource = r.tracked? resource
      ∨ after.tracked? resource = none
      ∨ (r.tracked? resource = none ∧ ∃ t, after.tracked? resource = some t
          ∧ t.states = t.initial))
    (hm : r.layoutAt? = m) : after.layoutAt? = m.adopt r after := by
  funext handle i
  rw [LayoutMap.adopt]
  cases hafter : after.images.get? handle with
  | none => exact layoutAt?_of_dead hafter i
  | some image =>
    have htracked : after.tracked? (.image handle)
        = some ⟨image.info.sharing, (Image.ofInfo image.info).states, image.states⟩ := by
      rw [Registry.tracked?, hafter]
      rfl
    simp only
    rcases hresources (.image handle) with hsame | hnone | ⟨hnew, t, ht, hinitial⟩
    · -- The image was alive before, in the same states.
      have hbefore : r.images.contains handle = true := by
        rw [hsame] at htracked
        obtain ⟨image', himage', -⟩ := Option.map_eq_some_iff.mp htracked
        rw [Store.contains, himage']
        rfl
      have hlayout : after.layoutAt? handle i = r.layoutAt? handle i := by
        rw [Registry.layoutAt?, Registry.layoutAt?, Registry.stateAt?, Registry.stateAt?,
          Registry.states?_eq, Registry.states?_eq, hsame]
      rw [if_pos hbefore, hlayout, hm]
    · rw [hnone] at htracked
      cases htracked
    · -- The image is new, and its layouts are the initial ones.
      have hbefore : ¬ r.images.contains handle = true := by
        rw [Store.contains, Option.map_eq_none_iff.mp hnew]
        exact Bool.false_ne_true
      obtain rfl := Option.some.inj (ht.symm.trans htracked)
      have hstates : image.states = (Image.ofInfo image.info).states := hinitial
      rw [if_neg hbefore, Registry.layoutAt?, Registry.stateAt?_of_tracked? htracked, hstates,
        Image.ofInfo, RangeMap.get?_replicate]
      by_cases hi : i < image.info.trackedSize <;> simp [hi]

/-- Adopting changes nothing if the same images are alive. -/
theorem adopt_of_alive {r after : Registry} {m : LayoutMap} (hm : after.layoutAt? = m)
    (halive : ∀ resource, after.tracked? resource = none ↔ r.tracked? resource = none) :
    m.adopt r after = m := by
  funext handle i
  rw [LayoutMap.adopt]
  cases hafter : after.images.get? handle with
  | none => rw [← hm, layoutAt?_of_dead hafter]
  | some image =>
    have hbefore : r.images.contains handle = true := by
      rw [Store.contains, Option.isSome_iff_ne_none]
      intro hnone
      have hdead := (halive (.image handle)).mpr (Option.map_eq_none_iff.mpr hnone)
      rw [Registry.tracked?, hafter] at hdead
      cases hdead
    simp only
    rw [if_pos hbefore]

namespace Matches

variable {t : LayoutTrace} {s : Session} (h : t.Matches s)
include h

/-- What is known after a call that gives no command buffer a log. -/
theorem finished_of_continues {d : Device} (hd : s.device.Continues d)
    {handle : Handle .commandBuffer} {log : CommandLog} (hlog : d.registry.log? handle = some log) :
    log.knowledge.Explains (t.finished handle) := by
  rcases hd.registry.logs handle with heq | hnone
  · rw [heq] at hlog
    exact h.device.finished handle log hlog
  · rw [hnone] at hlog
    cases hlog

/-- The key of a new recorder is not that of an open one. -/
theorem recorded_begin_of_open {key : Nat} {recorder : Recorder}
    (hr : s.recorder? key = some recorder) :
    LayoutKnowledge.Explains recorder.recording.localLayout?
      ((t.begin s.nextKey).recorded key) := by
  have hne : key ≠ s.nextKey := by
    intro heq
    have hfree := h.session.keys key (Nat.le_of_eq heq.symm)
    rw [hr] at hfree
    cases hfree
  rw [begin]
  simp only
  rw [if_neg hne]
  exact h.recorded key recorder hr

/-- A new recorder knows nothing, and nothing was recorded yet. -/
theorem recorded_begin {recorder : Recorder} {family : Nat}
    (hrecording : recorder.recording = { family := family }) {d : Device} {key : Nat}
    {other : Recorder}
    (hother : ((s.withDevice d).openRecorder recorder).recorder? key = some other) :
    LayoutKnowledge.Explains other.recording.localLayout? ((t.begin s.nextKey).recorded key) := by
  rw [Session.recorder?_openRecorder, Option.or_eq_some_iff] at hother
  rcases hother with hold | ⟨-, hnew⟩
  · exact h.recorded_begin_of_open hold
  · split at hnew
    · next hkey =>
      obtain rfl := Option.some.inj hnew
      have hkey' : key = s.nextKey := hkey
      rw [begin]
      simp only
      rw [if_pos hkey', hrecording]
      exact LayoutKnowledge.explains_nil
    · cases hnew

/-- A recorder that records a command learns its steps. -/
theorem recorded_record {key : Nat} {recorder : Recorder} (hr : s.recorder? key = some recorder)
    {command : Command}
    (hnone : ∀ diagnostic ∈ (recorder.record s.device command).diagnostics,
      diagnostic.kind ≠ .layoutMismatch)
    (hapart : ∀ dependency, command = .barrier dependency →
      dependency.Apart s.device.registry)
    {k : Nat} {other : Recorder}
    (hother : (s.setRecorder key (recorder.record s.device command).state).recorder? k
      = some other) :
    LayoutKnowledge.Explains other.recording.localLayout?
      ((t.record key (recorder.layoutSteps s.device command)).recorded k) := by
  rw [Session.recorder?_setRecorder] at hother
  rw [record]
  simp only
  split at hother
  · next hk =>
    obtain ⟨old, -, rfl⟩ := Option.map_eq_some_iff.mp hother
    rw [if_pos hk]
    exact Recorder.record_explains (h.session.recordings key recorder hr) h.device.engine hnone
      hapart (h.recorded key recorder hr)
  · next hk =>
    rw [if_neg hk]
    exact h.recorded k other hother

theorem recorded_close {key k : Nat} {other : Recorder}
    (hother : (s.closeRecorder key).recorder? k = some other) :
    LayoutKnowledge.Explains other.recording.localLayout? (t.recorded k) := by
  rw [Session.recorder?_closeRecorder] at hother
  split at hother
  · cases hother
  · exact h.recorded k other hother

/-- The log of a finished recording knows what the recording knew. -/
theorem finished_finish {key : Nat} {recorder : Recorder} (hr : s.recorder? key = some recorder)
    {handle : Handle .commandBuffer} {log : CommandLog}
    (hlog : (s.device.registry.modify recorder.handle fun cb =>
      cb.finish recorder.recording.finish).log? handle = some log) :
    log.knowledge.Explains ((t.finish key recorder.handle).finished handle) := by
  rw [Registry.log?_finish] at hlog
  rw [finish]
  simp only
  split at hlog
  · next hhandle =>
    obtain ⟨cb, -, rfl⟩ := Option.map_eq_some_iff.mp hlog
    have hknown : recorder.recording.finish.knowledge = recorder.recording.localLayout? := by
      funext image i
      exact CommandLog.localLayout?_finish (h.session.recordings key recorder hr) image i
    rw [if_pos hhandle, hknown]
    exact h.recorded key recorder hr
  · next hhandle =>
    rw [if_neg hhandle]
    exact h.device.finished handle log hlog

/-- What is known after a call that submits nothing and emits no layout mismatch. -/
theorem knowledge_of_transition {call : Call} {after : Session}
    (htransition : s.Transition call after) (hsubmit : ∀ batches, call ≠ .submit batches)
    (hnone : ∀ diagnostic ∈ (s.step call).diagnostics, diagnostic.kind ≠ .layoutMismatch)
    (hapart : ∀ key dependency, call = .record key (.barrier dependency) →
      dependency.Apart s.device.registry) :
    (∀ handle log, after.device.registry.log? handle = some log →
        log.knowledge.Explains ((t.call s call).finished handle))
      ∧ ∀ key recorder, after.recorder? key = some recorder →
        LayoutKnowledge.Explains recorder.recording.localLayout?
          ((t.call s call).recorded key) := by
  cases htransition with
  -- In each case the trace branches the same way as the session.
  | plain hplain hd =>
    have htrace : t.call s call = t := by
      cases call <;> first | rfl | cases hplain
    rw [htrace]
    exact ⟨fun handle log hlog => h.finished_of_continues hd.continues hlog, h.recorded⟩
  | beginRejected => exact ⟨h.device.finished, fun key recorder hr => h.recorded_begin_of_open hr⟩
  | begun hd =>
    obtain ⟨family, hrecording⟩ := hd.recording
    exact ⟨fun handle log hlog => h.finished_of_continues hd.continues hlog,
      fun key other hother => h.recorded_begin hrecording hother⟩
  | @recorded key command recorder hr =>
    have htrace : t.call s (.record key command)
        = t.record key (recorder.layoutSteps s.device command) := by
      rw [LayoutTrace.call, hr]
    rw [Session.step_record_diagnostics hr] at hnone
    rw [htrace]
    refine ⟨h.device.finished, fun k other hother => ?_⟩
    refine h.recorded_record hr hnone (fun dependency hcommand => ?_) hother
    exact hapart key dependency (by rw [hcommand])
  | @endRejected key recorder e hr hresult =>
    have htrace : t.call s (.endCommandBuffer key) = t := by
      simp only [LayoutTrace.call, hr, hresult]
    rw [htrace]
    exact ⟨h.device.finished, fun k other hother => h.recorded_close hother⟩
  | @ended key recorder hr hresult =>
    have htrace : t.call s (.endCommandBuffer key) = t.finish key recorder.handle := by
      simp only [LayoutTrace.call, hr, hresult]
    rw [htrace]
    exact ⟨fun handle log hlog => h.finished_finish hr hlog,
      fun k other hother => h.recorded_close hother⟩
  | dropped => exact ⟨h.device.finished, fun k other hother => h.recorded_close hother⟩
  | @recordIgnored key command hr =>
    have htrace : t.call s (.record key command) = t := by
      rw [LayoutTrace.call, hr]
    rw [htrace]
    exact ⟨h.device.finished, h.recorded⟩
  | @endIgnored key hr =>
    have htrace : t.call s (.endCommandBuffer key) = t := by
      rw [LayoutTrace.call, hr]
    rw [htrace]
    exact ⟨h.device.finished, h.recorded⟩
  | submitted => exact absurd rfl (hsubmit _)

omit h in
theorem call_reference {call : Call} (hsubmit : ∀ batches, call ≠ .submit batches) :
    (t.call s call).reference = t.reference := by
  cases call with
  | submit batches => exact absurd rfl (hsubmit batches)
  | record key command =>
    rw [LayoutTrace.call]
    split <;> rfl
  | endCommandBuffer key =>
    rw [LayoutTrace.call]
    split
    · split <;> rfl
    · rfl
  | _ => rfl

/-- Submissions without a layout mismatch are sound. -/
theorem submit {batches : List SubmitBatch}
    (hnone : ∀ diagnostic ∈ (s.step (.submit batches)).diagnostics,
      diagnostic.kind ≠ .layoutMismatch) :
    (t.call s (.submit batches)).MatchesDevice (s.step (.submit batches)).state.device
      ∧ ∀ e ∈ s.device.layoutExecutions t (s.device.submissions batches), e.Sound := by
  rw [Session.step_submit]
  rw [LayoutTrace.call, Session.executions]
  have hdiagnostics : (s.step (.submit batches)).diagnostics
      = (s.device.submit batches).diagnostics := rfl
  rw [hdiagnostics, Device.submit] at hnone
  rw [Device.submissions]
  cases hverdict : verdict (s.device.diagnose (.submitBatches batches)) with
  | error e => exact ⟨h.device, fun e he => by cases he⟩
  | ok u =>
    cases horder : submissionOrder? batches with
    | none => exact ⟨h.device, fun e he => by cases he⟩
    | some order =>
      simp only [hverdict, horder] at hnone
      exact MatchesDevice.submitAll _ _ h.device hnone

/-- Every call without a layout mismatch keeps the match. -/
theorem step {call : Call}
    (hnone : ∀ diagnostic ∈ (s.step call).diagnostics, diagnostic.kind ≠ .layoutMismatch)
    (hapart : ∀ key dependency, call = .record key (.barrier dependency) →
      dependency.Apart s.device.registry) :
    (t.after s call).Matches (s.step call).state := by
  have hsession := h.session.step call
  have hengine : (s.step call).state.device.engine = Standard.engine :=
    (s.step_transition call).engine.trans h.device.engine
  by_cases hsubmit : ∃ batches, call = .submit batches
  · obtain ⟨batches, rfl⟩ := hsubmit
    obtain ⟨hdevice, -⟩ := h.submit hnone
    have hrecorded : (t.call s (.submit batches)).recorded = t.recorded :=
      foldl_keeps LayoutTrace.recorded (f := LayoutTrace.execute) (fun _ _ => rfl) _ t
    -- Nothing is created or destroyed, so that there is nothing to adopt.
    have halive (resource : Resource) :
        (s.step (.submit batches)).state.device.registry.tracked? resource = none
          ↔ s.device.registry.tracked? resource = none := by
      rw [Session.step_submit]
      exact Device.tracked?_submitAll_eq_none h.session.registry _ resource
    refine ⟨⟨hengine, hsession.registry, ?_, hdevice.finished⟩, hsession, ?_⟩
    · exact hdevice.reference.trans (adopt_of_alive hdevice.reference halive).symm
    · intro key recorder hr
      rw [Session.step_submit] at hr
      rw [LayoutTrace.after, hrecorded]
      exact h.recorded key recorder hr
  · have hnot : ∀ batches, call ≠ .submit batches := fun batches heq => hsubmit ⟨batches, heq⟩
    obtain ⟨hfinished, hrecorded⟩ :=
      h.knowledge_of_transition (s.step_transition call) hnot hnone hapart
    refine ⟨⟨hengine, hsession.registry, ?_, hfinished⟩, hsession, hrecorded⟩
    refine layoutAt?_eq_adopt (s.step_resources hnot) ?_
    rw [call_reference hnot]
    exact h.device.reference

/-- A run without a layout mismatch keeps the match, and its executions are sound. -/
theorem run (calls : List Call)
    (hnone : ∀ diagnostic ∈ s.diagnostics calls, diagnostic.kind ≠ .layoutMismatch)
    (hapart : s.BarriersApart calls) :
    (s.layoutTrace t calls).Matches (s.run calls)
      ∧ ∀ e ∈ s.layoutExecutions t calls, e.Sound := by
  induction calls generalizing s t with
  | nil => exact ⟨h, fun e he => by cases he⟩
  | cons call calls ih =>
    obtain ⟨hfirst, hrest⟩ := hapart
    have hcall : ∀ diagnostic ∈ (s.step call).diagnostics, diagnostic.kind ≠ .layoutMismatch :=
      fun diagnostic hmem => hnone diagnostic (List.mem_append_left _ hmem)
    have hlater : ∀ diagnostic ∈ (s.step call).state.diagnostics calls,
        diagnostic.kind ≠ .layoutMismatch :=
      fun diagnostic hmem => hnone diagnostic (List.mem_append_right _ hmem)
    obtain ⟨hlast, hsound⟩ := ih (h.step hcall hfirst) hlater hrest
    refine ⟨hlast, fun e he => ?_⟩
    rcases List.mem_append.mp he with hnow | hthen
    · -- Only submissions execute anything.
      cases call with
      | submit batches => exact (h.submit hcall).2 e hnow
      | _ => cases hnow
    · exact hsound e hthen

end Matches

end LayoutTrace

/-! ## Soundness -/

/-- The layout checks of the standard engine are sound.  In a run without a layout mismatch, in which no
barrier command holds two image barriers that share a subresource, every executed clear, copy and
transition finds the subresources that it covers in the layout that it declares; after every execution
the tracked layouts are those of the reference, and so they are at the end of the run. -/
theorem layout_checks_sound (environment : Environment) (calls : List Call)
    (hnone : ∀ diagnostic ∈ (Session.start environment Standard.engine).diagnostics calls,
      diagnostic.kind ≠ .layoutMismatch)
    (hapart : (Session.start environment Standard.engine).BarriersApart calls) :
    (∀ e ∈ (Session.start environment Standard.engine).layoutExecutions {} calls,
        AllFindDeclared [] e.before e.steps
        ∧ e.registry.layoutAt? = runAll e.before e.steps)
    ∧ ((Session.start environment Standard.engine).run calls).device.registry.layoutAt?
      = ((Session.start environment Standard.engine).layoutTrace {} calls).reference := by
  obtain ⟨hmatches, hsound⟩ := (LayoutTrace.matches_start environment).run calls hnone hapart
  refine ⟨fun e he => ?_, hmatches.device.reference⟩
  exact ⟨(hsound e he).declared, (hsound e he).tracked⟩

/-- A run that moves an image to a layout for transfers in one command buffer, and clears one of its
levels in another, which is submitted twice and expects the layout that the first one leaves. -/
def sharedLevelRun : List Call :=
  [.createImage {
      format := .r8g8b8a8Unorm, extent := ⟨4, 4, 1⟩, mipLevels := 2, usage := .transferDst },
    .allocateMemory { size := 4096 },
    .bindImage (.ofSerial .image 1) (.ofSerial .deviceMemory 2) 0,
    .beginCommandBuffer ⟨0, 0⟩ none .multipleSubmit,
    .record 0 (.barrier { imageBarriers := [{
      image := .ofSerial .image 1, newLayout := .transferDstOptimal, dstStages := .allTransfer,
      range := ⟨.color, ⟨0, 2⟩, ⟨0, 1⟩⟩ }] }),
    .record 0 (.clear { image := .ofSerial .image 1 }),
    .endCommandBuffer 0,
    .beginCommandBuffer ⟨0, 0⟩ none .simultaneousUse,
    .record 1 (.clear {
      image := .ofSerial .image 1, regions := [⟨.color, ⟨1, 2⟩, ⟨0, 1⟩⟩] }),
    .endCommandBuffer 1,
    .submit [{ queue := ⟨0, 0⟩, commandBuffers :=
      [.ofSerial .commandBuffer 3, .ofSerial .commandBuffer 4, .ofSerial .commandBuffer 4] }]]

/-- All three command buffers are executed, and each of them finds what it declares. -/
theorem sharedLevelRun_sound :
    ((Session.start {} Standard.engine).layoutExecutions {} sharedLevelRun).map
        (fun e => e.steps.length) = [2, 1, 1]
    ∧ (∀ e ∈ (Session.start {} Standard.engine).layoutExecutions {} sharedLevelRun,
        AllFindDeclared [] e.before e.steps)
    ∧ ((Session.start {} Standard.engine).run sharedLevelRun).device.registry.layoutAt?
        (.ofSerial .image 1) 1 = some .transferDstOptimal := by
  have hnone : ∀ diagnostic ∈ (Session.start {} Standard.engine).diagnostics sharedLevelRun,
      diagnostic.kind ≠ .layoutMismatch := by
    decide +kernel
  have hapart : (Session.start {} Standard.engine).BarriersApart sharedLevelRun := by
    refine Session.barriersApart_of_length_le_one (fun key dependency hmem => ?_) _
    obtain ⟨-, rfl⟩ : key = 0 ∧ _ := by simpa [sharedLevelRun] using hmem
    exact Nat.le_refl 1
  obtain ⟨hsound, -⟩ := layout_checks_sound {} sharedLevelRun hnone hapart
  exact ⟨by decide +kernel, fun e he => (hsound e he).1, by decide +kernel⟩

end VulkanValidity
