/-
  VulkanValidity.Proofs.Replay

  What a replay does to a single resource.  A replay goes through the accesses of a log once and keeps
  the states of all resources side by side.  As no access touches two resources, each resource comes
  out as if only its own accesses had been carried out (`CommandLog.statesAfter`), and applying the
  report writes these states into the registry (`CommandLog.tracked?_replay`).
-/

import VulkanValidity.Replay
import VulkanValidity.Proofs.Recording

namespace VulkanValidity

/-! ## Replaying a single resource -/

/-- The states of a resource after accesses to it. -/
def statesAfterAccesses (sharing : Sharing) (family : Nat) (states : RangeMap SubresourceState)
    (accesses : List Access) : RangeMap SubresourceState :=
  accesses.foldl (fun states access => accessStates states sharing family access) states

namespace CommandLog

/-- The accesses of the log to a resource. -/
def accessesTo (log : CommandLog) (resource : Resource) : List Access :=
  log.accesses.filter fun access => access.resource = resource

/-- The states of a resource after the log was replayed on it alone. -/
def statesAfter (log : CommandLog) (sharing : Sharing) (resource : Resource)
    (states : RangeMap SubresourceState) : RangeMap SubresourceState :=
  let accessed := statesAfterAccesses sharing log.family states (log.accessesTo resource)
  (log.layoutsOf? resource).elim accessed (writeLayouts accessed)

theorem mem_resources {log : CommandLog} {resource : Resource} :
    resource ∈ log.resources
      ↔ log.layoutsOf? resource ≠ none ∨ ∃ access ∈ log.accesses, access.resource = resource := by
  have himages : resource ∈ log.layouts.map (fun entry => Resource.image entry.1)
      ↔ log.layoutsOf? resource ≠ none := by
    cases resource with
    | buffer buffer => simp [layoutsOf?]
    | image image =>
      rw [layoutsOf?, ne_eq, lookup_eq_none_iff_not_mem, Classical.not_not]
      simp only [List.mem_map, Resource.image.injEq]
  rw [resources, List.mem_eraseDups, List.mem_append, himages, List.mem_map]

/-- A resource that the log does not touch stays as it is. -/
theorem statesAfter_of_not_mem {log : CommandLog} {resource : Resource}
    (h : resource ∉ log.resources) (sharing : Sharing) (states : RangeMap SubresourceState) :
    log.statesAfter sharing resource states = states := by
  rw [mem_resources, not_or] at h
  have hlayouts : log.layoutsOf? resource = none := Classical.byContradiction h.1
  have haccesses : log.accessesTo resource = [] := by
    rw [accessesTo, List.filter_eq_nil_iff]
    intro access haccess
    simpa using fun heq => h.2 ⟨access, haccess, heq⟩
  rw [statesAfter, hlayouts, haccesses]
  rfl

end CommandLog

/-! ## The states of all resources side by side -/

namespace ReplayState

theorem states?_set (s : ReplayState) (resource : Resource) (states : RangeMap SubresourceState)
    (other : Resource) :
    (s.set resource states).states? other
      = if other = resource then (s.states? other).map fun _ => states else s.states? other := by
  simp only [states?, set]
  induction s.states with
  | nil => simp
  | cons entry entries ih =>
    obtain ⟨r, m⟩ := entry
    rw [List.map_cons]
    by_cases ho : other = r
    · subst ho
      by_cases hr : other = resource <;> simp [hr]
    · by_cases hr : r = resource
      · subst hr
        simp only [if_true, List.lookup_cons, beq_false_of_ne ho, ih]
      · simp only [if_neg hr, List.lookup_cons, beq_false_of_ne ho, ih]

@[simp] theorem states?_find (s : ReplayState) (finding : Finding) (resource : Resource) :
    (s.find finding).states? resource = s.states? resource := by
  unfold find
  split <;> rfl

@[simp] theorem states?_checkLayouts (s : ReplayState)
    (entry : Handle .image × RangeMap LocalLayout) (resource : Resource) :
    (s.checkLayouts entry).states? resource = s.states? resource := by
  unfold checkLayouts
  split <;> rfl

theorem states?_start (registry : Registry) (log : CommandLog) (resource : Resource) :
    (start registry log).states? resource
      = if resource ∈ log.resources then registry.states? resource else none := by
  simp only [states?, start]
  induction log.resources with
  | nil => simp
  | cons r rs ih =>
    rw [List.filterMap_cons]
    by_cases hr : resource = r
    · subst hr
      cases hs : registry.states? resource with
      | none => simp [ih, hs]
      | some states => simp
    · cases hs : registry.states? r with
      | none => simp [ih, hr]
      | some states => simp [List.lookup_cons, beq_false_of_ne hr, ih, hr]

theorem states?_foldl_checkLayouts (s : ReplayState)
    (layouts : List (Handle .image × RangeMap LocalLayout)) (resource : Resource) :
    (layouts.foldl checkLayouts s).states? resource = s.states? resource :=
  foldl_keeps (fun s => s.states? resource)
    (fun s entry => states?_checkLayouts s entry resource) layouts s

section Access

variable (registry : Registry) (family : Nat) {resource : Resource} {sharing : Sharing}

theorem states?_access (hs : registry.sharing? resource = some sharing) (s : ReplayState)
    (access : Access) :
    (s.access registry family access).states? resource
      = (s.states? resource).map fun states =>
          if access.resource = resource then accessStates states sharing family access else states := by
  unfold ReplayState.access
  by_cases hr : access.resource = resource
  · subst hr
    rw [hs]
    cases hstates : s.states? access.resource with
    | none => exact hstates
    | some states =>
      simp only [if_true, Option.map_some]
      split <;> simp [states?_set, hstates]
  · have hset (states) : (s.set access.resource states).states? resource = s.states? resource := by
      rw [states?_set, if_neg (Ne.symm hr)]
    simp only [if_neg hr, Option.map_id']
    split
    · split <;> simp [hset]
    · rfl

/-- No access gives states to a resource that is not alive. -/
theorem states?_foldl_access_none (accesses : List Access) {s : ReplayState}
    (hs : s.states? resource = none) :
    (accesses.foldl (ReplayState.access registry family) s).states? resource = none := by
  induction accesses generalizing s with
  | nil => exact hs
  | cons access accesses ih =>
    have hset (r : Resource) (states) : (s.set r states).states? resource = none := by
      rw [states?_set, hs, Option.map_none, ite_self]
    refine ih ?_
    unfold ReplayState.access
    split
    · split <;> simp [hset]
    · exact hs

/-- The accesses to other resources make no difference. -/
theorem states?_foldl_access (hs : registry.sharing? resource = some sharing)
    (accesses : List Access) (s : ReplayState) :
    (accesses.foldl (ReplayState.access registry family) s).states? resource
      = (s.states? resource).map fun states =>
          statesAfterAccesses sharing family states
            (accesses.filter fun access => access.resource = resource) := by
  induction accesses generalizing s with
  | nil => simp [statesAfterAccesses]
  | cons access accesses ih =>
    rw [List.foldl_cons, ih, states?_access registry family hs, Option.map_map]
    refine congrArg (fun f => (s.states? resource).map f) (funext fun states => ?_)
    by_cases hr : access.resource = resource
    · simp [hr, statesAfterAccesses]
    · simp [hr]

end Access

theorem states?_leaveLayouts (s : ReplayState) (entry : Handle .image × RangeMap LocalLayout)
    (resource : Resource) :
    (s.leaveLayouts entry).states? resource
      = (s.states? resource).map fun states =>
          if resource = .image entry.1 then writeLayouts states entry.2 else states := by
  unfold leaveLayouts
  by_cases hr : resource = .image entry.1
  · subst hr
    cases hs : s.states? (.image entry.1) <;> simp [states?_set, hs]
  · cases hs : s.states? (.image entry.1) <;> simp [states?_set, hr]

/-- Each image has one entry, so that its layouts are written once. -/
theorem states?_foldl_leaveLayouts {layouts : List (Handle .image × RangeMap LocalLayout)}
    (hnodup : (layouts.map Prod.fst).Nodup) (s : ReplayState) (image : Handle .image) :
    (layouts.foldl leaveLayouts s).states? (.image image)
      = (s.states? (.image image)).map fun states =>
          (layouts.lookup image).elim states (writeLayouts states) := by
  induction layouts generalizing s with
  | nil => simp
  | cons entry layouts ih =>
    obtain ⟨other, known⟩ := entry
    obtain ⟨hother, hnodup⟩ := List.nodup_cons.mp hnodup
    rw [List.foldl_cons, ih hnodup, states?_leaveLayouts, Option.map_map, List.lookup_cons]
    by_cases himage : image = other
    · subst himage
      have hnone : layouts.lookup image = none := lookup_eq_none_iff_not_mem.mpr hother
      simp [hnone, Function.comp_def]
    · simp [beq_false_of_ne himage, himage, Function.comp_def]

theorem states?_foldl_leaveLayouts_buffer (layouts : List (Handle .image × RangeMap LocalLayout))
    (s : ReplayState) (buffer : Handle .buffer) :
    (layouts.foldl leaveLayouts s).states? (.buffer buffer) = s.states? (.buffer buffer) := by
  refine foldl_keeps (fun s => s.states? (.buffer buffer)) (fun s entry => ?_) layouts s
  rw [states?_leaveLayouts]
  simp

/-! ### The resources with states -/

/-- The resources that have states. -/
def resources (s : ReplayState) : List Resource := s.states.map Prod.fst

theorem resources_set (s : ReplayState) (resource : Resource) (states : RangeMap SubresourceState) :
    (s.set resource states).resources = s.resources := by
  rw [resources, set, List.map_map]
  refine List.map_congr_left fun entry _ => ?_
  rw [Function.comp_apply]
  split
  · next heq => exact heq.symm
  · rfl

theorem resources_checkLayouts (s : ReplayState) (entry : Handle .image × RangeMap LocalLayout) :
    (s.checkLayouts entry).resources = s.resources := by
  unfold checkLayouts
  split <;> rfl

theorem resources_find (s : ReplayState) (finding : Finding) :
    (s.find finding).resources = s.resources := by
  unfold find
  split <;> rfl

theorem resources_access (registry : Registry) (family : Nat) (s : ReplayState) (access : Access) :
    (s.access registry family access).resources = s.resources := by
  unfold ReplayState.access
  split
  · split <;> simp [resources_find, resources_set]
  · rfl

theorem resources_leaveLayouts (s : ReplayState) (entry : Handle .image × RangeMap LocalLayout) :
    (s.leaveLayouts entry).resources = s.resources := by
  unfold leaveLayouts
  split <;> simp [resources_set]

theorem resources_start (registry : Registry) (log : CommandLog) :
    (start registry log).resources
      = log.resources.filter fun resource => (registry.states? resource).isSome := by
  rw [resources, start, List.map_filterMap]
  induction log.resources with
  | nil => rfl
  | cons r rs ih =>
    rw [List.filterMap_cons, List.filter_cons]
    cases registry.states? r <;> simpa using ih

end ReplayState

namespace CommandLog

/-- The report of a replay holds the states of the live resources of the log, each as if the log had
been replayed on it alone. -/
theorem lookup_replay_states {log : CommandLog} (h : log.WellFormed) (registry : Registry)
    (resource : Resource) :
    (log.replay registry).states.lookup resource
      = if resource ∈ log.resources then
          (registry.tracked? resource).map fun t => log.statesAfter t.sharing resource t.states
        else none := by
  -- Comparing layouts changes no states, and leaving them changes those of their own image.
  have hstart : ((log.layouts.foldl ReplayState.checkLayouts
      (.start registry log)).states? resource)
        = if resource ∈ log.resources then registry.states? resource else none := by
    rw [ReplayState.states?_foldl_checkLayouts, ReplayState.states?_start]
  have hleave (s : ReplayState) : (log.layouts.foldl ReplayState.leaveLayouts s).states? resource
      = (s.states? resource).map fun states =>
          (log.layoutsOf? resource).elim states (writeLayouts states) := by
    cases resource with
    | image image => exact ReplayState.states?_foldl_leaveLayouts h.layouts.nodup s image
    | buffer buffer =>
      rw [ReplayState.states?_foldl_leaveLayouts_buffer]
      cases s.states? (.buffer buffer) <;> rfl
  cases ht : registry.tracked? resource with
  | none =>
    have hnone : registry.states? resource = none := by rw [Registry.states?_eq, ht, Option.map_none]
    rw [hnone, ite_self] at hstart
    rw [Option.map_none, ite_self]
    refine (hleave _).trans ?_
    rw [ReplayState.states?_foldl_access_none registry log.family _ hstart, Option.map_none]
  | some t =>
    refine (hleave _).trans ?_
    rw [ReplayState.states?_foldl_access registry log.family (Registry.sharing?_of_tracked? ht),
      hstart, Registry.states?_of_tracked? ht]
    split <;> simp [statesAfter, accessesTo]

theorem replay_states_nodup (log : CommandLog) (registry : Registry) :
    ((log.replay registry).states.map Prod.fst).Nodup := by
  have hleft (s : ReplayState) : (log.layouts.foldl ReplayState.leaveLayouts s).resources
      = s.resources := foldl_keeps _ ReplayState.resources_leaveLayouts log.layouts s
  have haccessed (s : ReplayState) :
      (log.accesses.foldl (ReplayState.access registry log.family) s).resources = s.resources :=
    foldl_keeps _ (ReplayState.resources_access registry log.family) log.accesses s
  have hchecked (s : ReplayState) : (log.layouts.foldl ReplayState.checkLayouts s).resources
      = s.resources := foldl_keeps _ ReplayState.resources_checkLayouts log.layouts s
  have hstates : (log.replay registry).states.map Prod.fst
      = (ReplayState.start registry log).resources :=
    (hleft _).trans ((haccessed _).trans (hchecked _))
  rw [hstates, ReplayState.resources_start]
  exact (nodup_eraseDups _).filter _

end CommandLog

/-- A reading of the registry that depends on the states of one resource alone sees, once a report is
applied, the entry of the report for that resource. -/
theorem ReplayReport.read_apply {α : Type} (read : Registry → Option α) {resource : Resource}
    {write : RangeMap SubresourceState → α → α}
    (hread : ∀ registry other states, read (registry.setStates other states)
      = if resource = other then (read registry).map (write states) else read registry)
    {report : ReplayReport} (hnodup : (report.states.map Prod.fst).Nodup) (registry : Registry) :
    read (report.apply registry)
      = (read registry).map fun a => (report.states.lookup resource).elim a (write · a) := by
  obtain ⟨findings, states⟩ := report
  simp only [apply] at hnodup ⊢
  induction states generalizing registry with
  | nil => simp
  | cons entry states ih =>
    obtain ⟨other, m⟩ := entry
    obtain ⟨hother, hnodup⟩ := List.nodup_cons.mp hnodup
    rw [List.foldl_cons, ih _ hnodup, hread, List.lookup_cons]
    by_cases hr : resource = other
    · subst hr
      -- The report has no second entry that writes over this one.
      rw [lookup_eq_none_iff_not_mem.mpr hother]
      simp [Function.comp_def]
    · simp [beq_false_of_ne hr, hr]

/-- What a replay leaves of each resource, once its report is applied. -/
theorem CommandLog.tracked?_replay {log : CommandLog} (h : log.WellFormed) (registry : Registry)
    (resource : Resource) :
    ((log.replay registry).apply registry).tracked? resource
      = (registry.tracked? resource).map fun t =>
          { t with states := log.statesAfter t.sharing resource t.states } := by
  have happly := ReplayReport.read_apply (fun r => r.tracked? resource)
    (fun r other states => r.tracked?_setStates other states resource)
    (log.replay_states_nodup registry) registry
  rw [happly, lookup_replay_states h]
  cases ht : registry.tracked? resource with
  | none => rfl
  | some t =>
    by_cases hmem : resource ∈ log.resources
    · simp [hmem]
    · simp [hmem, statesAfter_of_not_mem hmem]

end VulkanValidity
