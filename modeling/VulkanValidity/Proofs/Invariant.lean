/-
  VulkanValidity.Proofs.Invariant

  The invariant of sessions: the tracked states of every resource are in canonical form, and the logs
  of command buffers, as well as the recordings that are in progress, are well formed.  It holds of a
  new session, and each of the few ways in which calls change a session keeps it.
-/

import VulkanValidity.Proofs.Subresource

namespace VulkanValidity

/-! ## Registries -/

/-- The invariant of registries. -/
structure Registry.WellFormed (r : Registry) : Prop where
  canonical : ∀ resource t, r.tracked? resource = some t → t.states.Canonical
  logs : ∀ handle log, r.log? handle = some log → log.WellFormed

namespace Registry

theorem canonical_initial {r : Registry} {resource : Resource} {t : Tracked}
    (h : r.tracked? resource = some t) : t.initial.Canonical := by
  cases resource with
  | image handle =>
    obtain ⟨image, -, rfl⟩ := Option.map_eq_some_iff.mp h
    exact RangeMap.canonical_replicate _ _
  | buffer handle =>
    obtain ⟨buffer, -, rfl⟩ := Option.map_eq_some_iff.mp h
    exact RangeMap.canonical_replicate _ _

theorem wellFormed_empty : ({} : Registry).WellFormed where
  canonical resource t h := by cases resource <;> cases h
  logs handle log h := by cases h

theorem WellFormed.continues {r r' : Registry} (h : r.WellFormed) (hc : r.Continues r') :
    r'.WellFormed where
  canonical resource t ht := by
    rcases hc.resources resource with heq | hnone | ⟨-, t', ht', hinitial⟩
    · exact h.canonical resource t (heq ▸ ht)
    · rw [hnone] at ht
      cases ht
    · -- A new resource is in its initial states.
      obtain rfl := Option.some.inj (ht'.symm.trans ht)
      rw [hinitial]
      exact canonical_initial ht
  logs handle log hlog := by
    rcases hc.logs handle with heq | hnone
    · exact h.logs handle log (heq ▸ hlog)
    · rw [hnone] at hlog
      cases hlog

end Registry

/-! ## Executing logs -/

/-- The registry `r'` is `r` after the log was replayed on every resource. -/
def CommandLog.Executes (log : CommandLog) (r r' : Registry) : Prop :=
  ∀ resource, r'.tracked? resource = (r.tracked? resource).map fun t =>
    { t with states := log.statesAfter t.sharing resource t.states }

theorem CommandLog.replay_executes {log : CommandLog} (h : log.WellFormed) (r : Registry) :
    log.Executes r ((log.replay r).apply r) := tracked?_replay h r

theorem Device.execute_executes (d : Device) (queue : Queue) (handle : Handle .commandBuffer)
    {log : CommandLog} (h : log.WellFormed) :
    log.Executes d.registry (d.execute queue handle log (log.replay d.registry)).registry := by
  intro resource
  rw [tracked?_execute]
  exact CommandLog.replay_executes h d.registry resource

namespace CommandLog.Executes

variable {log : CommandLog} {r r' : Registry} (he : log.Executes r r')
include he

/-- Executions neither create nor destroy resources. -/
theorem tracked?_eq_none (resource : Resource) :
    r'.tracked? resource = none ↔ r.tracked? resource = none := by
  rw [he resource, Option.map_eq_none_iff]

theorem sharing?_eq (resource : Resource) : r'.sharing? resource = r.sharing? resource := by
  rw [Registry.sharing?_eq, Registry.sharing?_eq, he resource, Option.map_map]
  rfl

variable (hregistry : r.WellFormed)
include hregistry

theorem canonical (resource : Resource) (t : Registry.Tracked)
    (ht : r'.tracked? resource = some t) : t.states.Canonical := by
  rw [he resource] at ht
  obtain ⟨t', ht', rfl⟩ := Option.map_eq_some_iff.mp ht
  exact canonical_statesAfter (hregistry.canonical resource t' ht') t'.sharing resource

variable (h : log.WellFormed)
include h

/-- An execution changes the state of a subresource as the log does. -/
theorem stateAt?_eq {resource : Resource} {sharing : Sharing}
    (hsharing : r.sharing? resource = some sharing) (i : Nat) :
    r'.stateAt? resource i = (r.stateAt? resource i).map (log.stateAfter sharing resource i) := by
  obtain ⟨t, ht, rfl⟩ := Registry.exists_tracked?_of_sharing? hsharing
  have hafter := he resource
  rw [ht, Option.map_some] at hafter
  rw [Registry.stateAt?_of_tracked? hafter, Registry.stateAt?_of_tracked? ht]
  exact get?_statesAfter h (hregistry.canonical resource t ht) t.sharing resource i

/-- The same for any resource. The sharing makes no difference to one that is not alive. -/
theorem stateAt?_eq_getD (resource : Resource) (i : Nat) :
    r'.stateAt? resource i = (r.stateAt? resource i).map
      (log.stateAfter ((r.sharing? resource).getD .exclusive) resource i) := by
  cases ht : r.tracked? resource with
  | some t =>
    have hsharing := Registry.sharing?_of_tracked? ht
    rw [hsharing]
    exact he.stateAt?_eq hregistry h hsharing i
  | none =>
    have hafter := (he.tracked?_eq_none resource).mpr ht
    rw [Registry.stateAt?_of_tracked?_none hafter, Registry.stateAt?_of_tracked?_none ht]
    rfl

/-- A subresource that the log does not name keeps its state. -/
theorem stateAt?_of_not_names {resource : Resource} {i : Nat} (hnames : ¬ log.Names resource i) :
    r'.stateAt? resource i = r.stateAt? resource i := by
  rw [he.stateAt?_eq_getD hregistry h, stateAfter_of_not_names hnames, Option.map_id, id_eq]

end CommandLog.Executes

/-! ## Submissions -/

theorem Device.execute_wellFormed {d : Device} (h : d.registry.WellFormed) (queue : Queue)
    (handle : Handle .commandBuffer) {log : CommandLog} (hlog : log.WellFormed) :
    (d.execute queue handle log (log.replay d.registry)).registry.WellFormed where
  canonical := (d.execute_executes queue handle hlog).canonical h
  logs other log' hlog' := h.logs other log' (by rwa [log?_execute] at hlog')

theorem Device.submitOne_wellFormed {d : Device} (h : d.registry.WellFormed) (queue : Queue)
    (handle : Handle .commandBuffer) : (d.submitOne queue handle).state.registry.WellFormed := by
  rcases d.submitOne_cases queue handle with ⟨-, hs⟩ | ⟨log, -, hlog, hs⟩
  · rw [hs]
    exact h
  · rw [hs]
    exact execute_wellFormed h queue handle (h.logs handle log hlog)

/-- Submissions do not change how resources are shared. -/
theorem Device.sharing?_submitOne {d : Device} (h : d.registry.WellFormed) (queue : Queue)
    (handle : Handle .commandBuffer) (resource : Resource) :
    (d.submitOne queue handle).state.registry.sharing? resource = d.registry.sharing? resource := by
  rcases d.submitOne_cases queue handle with ⟨-, hs⟩ | ⟨log, -, hlog, hs⟩
  · rw [hs]
  · rw [hs]
    exact (d.execute_executes queue handle (h.logs handle log hlog)).sharing?_eq resource

theorem Device.submitAll_wellFormed {d : Device} (h : d.registry.WellFormed)
    (entries : List (Queue × Handle .commandBuffer)) : (d.submitAll entries).registry.WellFormed :=
  submitAll_keeps (P := fun d => d.registry.WellFormed)
    (fun _ queue handle hd => submitOne_wellFormed hd queue handle) h entries

/-! ## Finished recordings -/

/-- Ending a recording gives one command buffer a log. -/
theorem Registry.log?_finish (r : Registry) (handle : Handle .commandBuffer) (log : CommandLog)
    (other : Handle .commandBuffer) :
    (r.modify handle fun cb => cb.finish log).log? other
      = if other = handle then (r.commandBuffers.get? other).map fun _ => log
        else r.log? other := by
  simp only [log?, modify, setStore, store, Store.get?_modify]
  split
  · cases r.commandBuffers.get? other <;> rfl
  · rfl

theorem Registry.tracked?_finish (r : Registry) (handle : Handle .commandBuffer) (log : CommandLog)
    (resource : Resource) :
    (r.modify handle fun cb => cb.finish log).tracked? resource = r.tracked? resource := by
  cases resource <;> rfl

/-! ## Sessions -/

/-- What a call that submits nothing does to a resource: nothing, unless it destroys it, or creates it
in its initial states. -/
theorem Session.step_resources (s : Session) {call : Call} (h : ∀ batches, call ≠ .submit batches)
    (resource : Resource) :
    (s.step call).state.device.registry.tracked? resource = s.device.registry.tracked? resource
      ∨ (s.step call).state.device.registry.tracked? resource = none
      ∨ (s.device.registry.tracked? resource = none ∧ ∃ t,
          (s.step call).state.device.registry.tracked? resource = some t ∧ t.states = t.initial) := by
  have htransition := s.step_transition call
  generalize (s.step call).state = after at htransition ⊢
  cases htransition with
  | plain _ hd => exact hd.continues.registry.resources resource
  | begun hd => exact hd.continues.registry.resources resource
  | ended => exact Or.inl (Registry.tracked?_finish _ _ _ _)
  | submitted => exact absurd rfl (h _)
  | _ => exact Or.inl rfl

theorem Session.executions_of_not_submit (s : Session) {call : Call}
    (h : ∀ batches, call ≠ .submit batches) : s.executions call = [] := by
  cases call with
  | submit batches => exact absurd rfl (h batches)
  | _ => rfl

/-- The invariant of sessions. -/
structure Session.WellFormed (s : Session) : Prop where
  registry : s.device.registry.WellFormed
  recordings : ∀ key recorder, s.recorder? key = some recorder → recorder.recording.WellFormed
  /-- The keys from the next one on are free. -/
  keys : ∀ key, s.nextKey ≤ key → s.recorder? key = none

namespace Session

theorem wellFormed_start (environment : Environment) (engine : Engine) :
    (start environment engine).WellFormed where
  registry := Registry.wellFormed_empty
  recordings key recorder h := by cases h
  keys _ _ := rfl

namespace WellFormed

variable {s : Session} (h : s.WellFormed)
include h

/-- The key of an open recorder was handed out. -/
theorem key_lt {key : Nat} {recorder : Recorder} (hr : s.recorder? key = some recorder) :
    key < s.nextKey := by
  refine Nat.lt_of_not_le fun hfree => ?_
  rw [h.keys key hfree] at hr
  cases hr

theorem withDevice {d : Device} (hd : d.registry.WellFormed) : (s.withDevice d).WellFormed :=
  ⟨hd, h.recordings, h.keys⟩

theorem openRecorder {recorder : Recorder} (hrecorder : recorder.recording.WellFormed) :
    (s.openRecorder recorder).WellFormed where
  registry := h.registry
  recordings key other hother := by
    rcases recorder?_of_openRecorder hother with hold | rfl
    · exact h.recordings key other hold
    · exact hrecorder
  keys key hkey := by
    have hne : key ≠ s.nextKey := by
      have : s.nextKey + 1 ≤ key := hkey
      omega
    have hle : s.nextKey ≤ key := Nat.le_of_succ_le hkey
    rw [recorder?_openRecorder, h.keys key hle, if_neg hne]
    rfl

theorem setRecorder (key : Nat) {recorder : Recorder}
    (hrecorder : recorder.recording.WellFormed) : (s.setRecorder key recorder).WellFormed where
  registry := h.registry
  recordings other r hr := by
    rcases recorder?_of_setRecorder hr with hold | rfl
    · exact h.recordings other r hold
    · exact hrecorder
  keys other hother := by
    rw [recorder?_setRecorder, h.keys other hother]
    split <;> rfl

theorem closeRecorder (key : Nat) : (s.closeRecorder key).WellFormed where
  registry := h.registry
  recordings other r hr := h.recordings other r (recorder?_of_closeRecorder hr)
  keys other hother := by
    rw [recorder?_closeRecorder, h.keys other hother, ite_self]

theorem finish {key : Nat} {recorder : Recorder} (hr : s.recorder? key = some recorder) :
    (s.device.registry.modify recorder.handle fun cb =>
      cb.finish recorder.recording.finish).WellFormed where
  canonical resource t ht := h.registry.canonical resource t (by rwa [Registry.tracked?_finish] at ht)
  logs other log hlog := by
    rw [Registry.log?_finish] at hlog
    split at hlog
    · obtain ⟨cb, -, rfl⟩ := Option.map_eq_some_iff.mp hlog
      exact CommandLog.finish_wellFormed (h.recordings key recorder hr)
    · exact h.registry.logs other log hlog

/-- Every transition keeps the invariant. -/
theorem transition {call : Call} {after : Session} (htransition : s.Transition call after) :
    after.WellFormed := by
  cases htransition with
  | plain _ hd => exact h.withDevice (h.registry.continues hd.continues.registry)
  | beginRejected => exact h
  | begun hd =>
    obtain ⟨family, hrecording⟩ := hd.recording
    refine (h.withDevice (h.registry.continues hd.continues.registry)).openRecorder ?_
    rw [hrecording]
    exact Recording.wellFormed_begin _
  | recorded hr =>
    exact h.setRecorder _ (Recorder.record_wellFormed (h.recordings _ _ hr) s.device _)
  | endRejected => exact h.closeRecorder _
  | ended hr => exact (h.closeRecorder _).withDevice (h.finish hr)
  | dropped => exact h.closeRecorder _
  | recordIgnored => exact h
  | endIgnored => exact h
  | submitted => exact h.withDevice (Device.submitAll_wellFormed h.registry _)

theorem step (call : Call) : (s.step call).state.WellFormed :=
  h.transition (s.step_transition call)

end WellFormed

theorem Reachable.wellFormed {s : Session} (h : s.Reachable) : s.WellFormed := by
  induction h with
  | start environment engine => exact wellFormed_start environment engine
  | call _ call ih => exact ih.step call
  | submission _ queue handle ih =>
    exact ih.withDevice (Device.submitOne_wellFormed ih.registry queue handle)

end Session

end VulkanValidity
