/-
  VulkanValidity.Proofs.Commutation

  Submissions with disjoint footprints commute.  A replay takes the whole states of every resource that
  it touches and writes all of them back, but what it changes are the subresources that the log names,
  and what it finds depends on these alone (`replay_findings_congr`).  The findings quote clipped
  ranges; as the states are canonical, the parts of two maps on a range are the same segments as soon
  as they hold the same values there, however other submissions split the maps elsewhere.
-/

import VulkanValidity.Proofs.Refinement

namespace VulkanValidity

/-! ## What a replay depends on -/

/-- Two maps of states are canonical and hold the same on the subresources that a log names. -/
structure StatesAgree (log : CommandLog) (resource : Resource)
    (states states' : RangeMap SubresourceState) : Prop where
  canonical : states.Canonical
  canonical' : states'.Canonical
  named : ∀ i, log.Names resource i → states.get? i = states'.get? i

namespace StatesAgree

variable {log : CommandLog} {resource : Resource} {states states' : RangeMap SubresourceState}
  (h : StatesAgree log resource states states')
include h

/-- The parts on a range are the same segments, if the log names all of it. -/
theorem within_eq {r : Interval} (hr : ∀ i, r.contains i = true → log.Names resource i) :
    states.within r = states'.within r :=
  RangeMap.within_congr h.canonical h.canonical' fun i hi => h.named i (hr i hi)

theorem accessProblem?_eq {access : Access} (haccess : access ∈ log.accesses)
    (hresource : access.resource = resource) (sharing : Sharing) (family : Nat) :
    accessProblem? states sharing family access = accessProblem? states' sharing family access := by
  have hparts : access.ranges.flatMap states.within = access.ranges.flatMap states'.within := by
    rw [List.flatMap_def, List.flatMap_def]
    refine congrArg List.flatten (List.map_congr_left fun r hr => h.within_eq fun i hi => ?_)
    have hcovers : access.covers i = true := List.any_eq_true.mpr ⟨r, hr, hi⟩
    exact hresource ▸ CommandLog.names_of_access haccess hcovers
  rw [accessProblem?, accessProblem?, hparts]

theorem accessStates {access : Access} (hlog : log.WellFormed) (haccess : access ∈ log.accesses)
    (sharing : Sharing) : StatesAgree log resource
      (accessStates states sharing log.family access)
      (accessStates states' sharing log.family access) where
  canonical := canonical_accessStates h.canonical sharing log.family access
  canonical' := canonical_accessStates h.canonical' sharing log.family access
  named i hi := by
    have hwell := hlog.accesses access haccess
    rw [get?_accessStates h.canonical sharing log.family hwell,
      get?_accessStates h.canonical' sharing log.family hwell, h.named i hi]

theorem layoutMismatch?_eq {known : RangeMap LocalLayout} (hlog : log.WellFormed)
    (hk : log.layoutsOf? resource = some known) :
    layoutMismatch? states known = layoutMismatch? states' known := by
  rw [layoutMismatch?, layoutMismatch?]
  have hsegment : ∀ segment ∈ known.segments,
      segmentMismatch? states segment = segmentMismatch? states' segment := by
    intro segment hsegment
    have hnamed : ∀ i, segment.range.contains i = true → log.Names resource i := by
      intro i hi
      have hget := RangeMap.mem_segments_get? (hlog.canonical hk) hsegment hi
      -- What a log knows the layout of, it names.
      exact Or.inr (by simp [CommandLog.localLayout?, hk, hget])
    rw [segmentMismatch?, segmentMismatch?, h.within_eq hnamed]
  -- The first mismatch is found in the same segment of both.
  generalize known.segments = segments at hsegment
  induction segments with
  | nil => rfl
  | cons segment segments ih =>
    rw [List.findSome?_cons, List.findSome?_cons, hsegment segment List.mem_cons_self,
      ih fun s hs => hsegment s (List.mem_cons_of_mem _ hs)]

end StatesAgree

/-- Two replays of a log are at points where they found the same and have states that agree. -/
structure ReplaysAgree (log : CommandLog) (s s' : ReplayState) : Prop where
  findings : s.findings = s'.findings
  states : ∀ resource, Option.Rel (StatesAgree log resource) (s.states? resource) (s'.states? resource)

/-- Two registries have the same resources, shared alike, in states that agree where a log names
them. -/
structure RegistriesAgree (log : CommandLog) (r r' : Registry) : Prop where
  sharing : ∀ resource, r.sharing? resource = r'.sharing? resource
  states : ∀ resource, Option.Rel (StatesAgree log resource) (r.states? resource) (r'.states? resource)

namespace ReplaysAgree

variable {log : CommandLog}

theorem start {r r' : Registry} (h : RegistriesAgree log r r') :
    ReplaysAgree log (.start r log) (.start r' log) where
  findings := rfl
  states resource := by
    rw [ReplayState.states?_start, ReplayState.states?_start]
    split
    · exact h.states resource
    · exact Option.Rel.none

variable {s s' : ReplayState} (h : ReplaysAgree log s s')
include h

theorem set {resource : Resource} {states states' : RangeMap SubresourceState}
    (hagree : StatesAgree log resource states states') :
    ReplaysAgree log (s.set resource states) (s'.set resource states') where
  findings := h.findings
  states other := by
    have hother := h.states other
    rw [ReplayState.states?_set, ReplayState.states?_set]
    by_cases heq : other = resource
    · subst heq
      rw [if_pos rfl, if_pos rfl]
      generalize s.states? other = x, s'.states? other = y at hother
      cases hother with
      | none => exact Option.Rel.none
      | some _ => exact Option.Rel.some hagree
    · rwa [if_neg heq, if_neg heq]

theorem find (finding : Finding) : ReplaysAgree log (s.find finding) (s'.find finding) where
  findings := by
    unfold ReplayState.find
    rw [h.findings]
    split
    · exact h.findings
    · rfl
  states resource := by
    rw [ReplayState.states?_find, ReplayState.states?_find]
    exact h.states resource

theorem checkLayouts (hlog : log.WellFormed) {entry : Handle .image × RangeMap LocalLayout}
    (hentry : entry ∈ log.layouts) : ReplaysAgree log (s.checkLayouts entry) (s'.checkLayouts entry) := by
  have hk : log.layoutsOf? (.image entry.1) = some entry.2 :=
    (lookup_eq_some_iff_mem hlog.layouts.nodup).mpr hentry
  have hmismatch : (s.states? (.image entry.1)).bind (layoutMismatch? · entry.2)
      = (s'.states? (.image entry.1)).bind (layoutMismatch? · entry.2) := by
    have hstates := h.states (.image entry.1)
    generalize s.states? (.image entry.1) = states, s'.states? (.image entry.1) = states' at hstates
    cases hstates with
    | none => rfl
    | some hagree => exact hagree.layoutMismatch?_eq hlog hk
  refine ⟨?_, fun resource => ?_⟩
  · unfold ReplayState.checkLayouts
    rw [hmismatch, h.findings]
    split
    · rfl
    · exact h.findings
  · rw [ReplayState.states?_checkLayouts, ReplayState.states?_checkLayouts]
    exact h.states resource

theorem access {r r' : Registry} (hr : RegistriesAgree log r r') (hlog : log.WellFormed)
    {access : Access} (haccess : access ∈ log.accesses) :
    ReplaysAgree log (s.access r log.family access) (s'.access r' log.family access) := by
  have hstates := h.states access.resource
  unfold ReplayState.access
  rw [← hr.sharing]
  generalize s.states? access.resource = states, s'.states? access.resource = states' at hstates
  cases hstates with
  | none => exact h
  | some hagree =>
    cases r.sharing? access.resource with
    | none => exact h
    | some sharing =>
      -- Both replays advance, and then report the same problem or none.
      have hadvanced := h.set (hagree.accessStates hlog haccess sharing)
      simp only
      rw [hagree.accessProblem?_eq haccess rfl sharing log.family]
      split
      · exact hadvanced.find _
      · exact hadvanced

omit h in
theorem foldl {α : Type} {f f' : ReplayState → α → ReplayState} (l : List α) {s s' : ReplayState}
    (h : ReplaysAgree log s s') (hf : ∀ a ∈ l, ∀ s s', ReplaysAgree log s s' →
      ReplaysAgree log (f s a) (f' s' a)) : ReplaysAgree log (l.foldl f s) (l.foldl f' s') := by
  induction l generalizing s s' with
  | nil => exact h
  | cons a l ih =>
    exact ih (hf a List.mem_cons_self s s' h) fun b hb => hf b (List.mem_cons_of_mem a hb)

end ReplaysAgree

/-- What a replay finds, with all messages, depends on the states that the log names. -/
theorem replay_findings_congr {log : CommandLog} (hlog : log.WellFormed) {r r' : Registry}
    (h : RegistriesAgree log r r') : (log.replay r).findings = (log.replay r').findings := by
  have hleft (s : ReplayState) : (log.layouts.foldl ReplayState.leaveLayouts s).findings
      = s.findings := foldl_keeps _ ReplayState.findings_leaveLayouts log.layouts s
  have hchecked : ReplaysAgree log (log.layouts.foldl ReplayState.checkLayouts (.start r log))
      (log.layouts.foldl ReplayState.checkLayouts (.start r' log)) :=
    ReplaysAgree.foldl log.layouts (ReplaysAgree.start h)
      fun _ hentry _ _ hs => hs.checkLayouts hlog hentry
  have haccessed : ReplaysAgree log (log.accesses.foldl (ReplayState.access r log.family) _)
      (log.accesses.foldl (ReplayState.access r' log.family) _) :=
    ReplaysAgree.foldl log.accesses hchecked
      fun _ haccess _ _ hs => hs.access h hlog haccess
  exact (hleft _).trans (haccessed.findings.trans (hleft _).symm)

/-! ## What an execution leaves alone -/

namespace Device

variable {d : Device} (queue : Queue) {handle : Handle .commandBuffer} (log : CommandLog)
  (report : ReplayReport)

/-- After the execution of another command buffer, a command buffer is admitted as before. -/
theorem execution?_execute {other : Handle .commandBuffer} (hne : other ≠ handle) (q : Queue) :
    (d.execute queue handle log report).execution? q other
      = (d.execution? q other).map fun e =>
          { e with registry := (d.execute queue handle log report).registry } := by
  have hcontains : (d.execute queue handle log report).registry.contains = d.registry.contains :=
    funext (d.contains_execute queue handle log report)
  rw [execution?, execution?, d.get?_execute queue handle log report, if_neg hne, Option.map_map]
  cases d.registry.get? other with
  | none => rfl
  | some cb =>
    have hadmitted : (d.execute queue handle log report).admitted? q cb = d.admitted? q cb := by
      rw [admitted?, admitted?, hcontains]
      rfl
    rw [Option.bind_some, Option.bind_some, hadmitted]
    cases d.admitted? q cb <;> rfl

/-! ## Submissions -/

variable {e : Execution} (h : d.execution? queue handle = some e)

include h in
/-- A submission leaves each subresource as the replay of its log does. -/
theorem stateAt?_of_execution? (resource : Resource) (i : Nat) :
    (d.submitOne queue handle).state.registry.stateAt? resource i
      = ((e.log.replay d.registry).apply d.registry).stateAt? resource i := by
  obtain ⟨-, -, -, hstate⟩ := execution?_eq_some h
  rw [hstate, Registry.stateAt?, Registry.stateAt?, Registry.states?_eq, Registry.states?_eq,
    tracked?_execute]

variable (hregistry : d.registry.WellFormed)
include h hregistry

/-- A submission does the same to a subresource of two devices that agree on it. -/
theorem stateAt?_submitOne_congr {d' : Device} {e' : Execution}
    (h' : d'.execution? queue handle = some e') (hregistry' : d'.registry.WellFormed)
    (hlog : e'.log = e.log) {resource : Resource} {i : Nat}
    (hsharing : d'.registry.sharing? resource = d.registry.sharing? resource)
    (hstate : d'.registry.stateAt? resource i = d.registry.stateAt? resource i) :
    (d'.submitOne queue handle).state.registry.stateAt? resource i
      = (d.submitOne queue handle).state.registry.stateAt? resource i := by
  have hexecutes := submitOne_executes queue h hregistry
  have hexecutes' := submitOne_executes queue h' hregistry'
  have hwell := execution_wellFormed queue h hregistry
  have hwell' := execution_wellFormed queue h' hregistry'
  cases hs : d.registry.sharing? resource with
  | none =>
    -- A resource that is not alive stays so.
    have hnone {r : Registry} (hr : r.sharing? resource = none) : r.stateAt? resource i = none := by
      rw [Registry.sharing?_eq] at hr
      exact Registry.stateAt?_of_tracked?_none (Option.map_eq_none_iff.mp hr) i
    rw [hnone ((hexecutes.sharing?_eq resource).trans hs),
      hnone ((hexecutes'.sharing?_eq resource).trans (hsharing.trans hs))]
  | some sharing =>
    rw [hexecutes.stateAt?_eq hregistry hwell hs,
      hexecutes'.stateAt?_eq hregistry' hwell' (hsharing.trans hs), hlog, hstate]

/-- The registries before and after a submission agree for a log that names nothing of it. -/
theorem registriesAgree_submitOne {log : CommandLog}
    (hdisjoint : ∀ resource i, ¬ (log.Names resource i ∧ e.log.Names resource i)) :
    RegistriesAgree log d.registry (d.submitOne queue handle).state.registry where
  sharing resource := ((submitOne_executes queue h hregistry).sharing?_eq resource).symm
  states resource := by
    have hlog := execution_wellFormed queue h hregistry
    rw [Registry.states?_eq, Registry.states?_eq, submitOne_executes queue h hregistry resource]
    cases ht : d.registry.tracked? resource with
    | none => exact Option.Rel.none
    | some t =>
      have hcanonical := hregistry.canonical resource t ht
      refine Option.Rel.some ⟨hcanonical,
        CommandLog.canonical_statesAfter hcanonical t.sharing resource, fun i hi => ?_⟩
      have hnames : ¬ e.log.Names resource i := fun hn => hdisjoint resource i ⟨hi, hn⟩
      rw [CommandLog.get?_statesAfter hlog hcanonical,
        CommandLog.stateAfter_of_not_names hnames, Option.map_id, id_eq]

end Device

/-- Two command buffers that name no common subresource can be submitted in any order.  Both are
executed in either order, with the same findings, and each subresource ends up as after the one
submission that names it, which is as the replay of that one alone leaves it. -/
theorem disjoint_submissions_commute {s : Session} (hs : s.Reachable) {p q : Queue}
    {A B : Handle .commandBuffer} (hne : A ≠ B) {a b : Device.Execution}
    (ha : s.device.execution? p A = some a) (hb : s.device.execution? q B = some b)
    (hdisjoint : ∀ resource i, ¬ (a.log.Names resource i ∧ b.log.Names resource i)) :
    ∃ a' b',
      -- Each is executed after the other as well, and finds the same.
      (s.device.submitOne q B).state.execution? p A = some a'
      ∧ (s.device.submitOne p A).state.execution? q B = some b'
      ∧ a'.log = a.log ∧ b'.log = b.log
      ∧ a'.report.findings = a.report.findings ∧ b'.report.findings = b.report.findings
      -- The order does not show in the states.
      ∧ (∀ resource i,
        ((s.device.submitOne p A).state.submitOne q B).state.registry.stateAt? resource i
          = ((s.device.submitOne q B).state.submitOne p A).state.registry.stateAt? resource i)
      -- No update is lost.
      ∧ (∀ resource i, a.log.Names resource i →
        ((s.device.submitOne p A).state.submitOne q B).state.registry.stateAt? resource i
          = (s.device.submitOne p A).state.registry.stateAt? resource i)
      ∧ (∀ resource i, ¬ a.log.Names resource i →
        ((s.device.submitOne p A).state.submitOne q B).state.registry.stateAt? resource i
          = (s.device.submitOne q B).state.registry.stateAt? resource i)
      -- Each update is that of a replay on the registry before both.
      ∧ (∀ resource i, a.log.Names resource i →
        ((s.device.submitOne p A).state.submitOne q B).state.registry.stateAt? resource i
          = ((a.log.replay s.device.registry).apply s.device.registry).stateAt? resource i)
      ∧ (∀ resource i, b.log.Names resource i →
        ((s.device.submitOne p A).state.submitOne q B).state.registry.stateAt? resource i
          = ((b.log.replay s.device.registry).apply s.device.registry).stateAt? resource i)
      ∧ ∀ resource i, ¬ a.log.Names resource i → ¬ b.log.Names resource i →
        ((s.device.submitOne p A).state.submitOne q B).state.registry.stateAt? resource i
          = s.device.registry.stateAt? resource i := by
  have hregistry := hs.wellFormed.registry
  have hdisjoint' : ∀ resource i, ¬ (b.log.Names resource i ∧ a.log.Names resource i) :=
    fun resource i hn => hdisjoint resource i hn.symm
  obtain ⟨-, har, -, hstateA⟩ := Device.execution?_eq_some ha
  obtain ⟨-, hbr, -, hstateB⟩ := Device.execution?_eq_some hb
  have hregistryA := Device.submitOne_wellFormed hregistry p A
  have hregistryB := Device.submitOne_wellFormed hregistry q B
  -- The second submission executes the same log on the registry that the first one leaves.
  have ha' : (s.device.submitOne q B).state.execution? p A
      = some { a with registry := (s.device.submitOne q B).state.registry } := by
    rw [hstateB, Device.execution?_execute q b.log _ hne, ha, Option.map_some]
  have hb' : (s.device.submitOne p A).state.execution? q B
      = some { b with registry := (s.device.submitOne p A).state.registry } := by
    rw [hstateA, Device.execution?_execute p a.log _ (Ne.symm hne), hb, Option.map_some]
  have hlogA := Device.execution_wellFormed p ha hregistry
  have hlogB := Device.execution_wellFormed q hb hregistry
  have hfindingsA := replay_findings_congr hlogA
    (Device.registriesAgree_submitOne q hb hregistry hdisjoint)
  have hfindingsB := replay_findings_congr hlogB
    (Device.registriesAgree_submitOne p ha hregistry hdisjoint')
  have hexecutesA := Device.submitOne_executes p ha hregistry
  have hexecutesB := Device.submitOne_executes q hb hregistry
  -- Where A names a subresource, B does nothing to it, and A finds it as B did.
  have hnamed (resource : Resource) (i : Nat) (hn : a.log.Names resource i) :
      ((s.device.submitOne p A).state.submitOne q B).state.registry.stateAt? resource i
          = (s.device.submitOne p A).state.registry.stateAt? resource i
        ∧ ((s.device.submitOne q B).state.submitOne p A).state.registry.stateAt? resource i
          = (s.device.submitOne p A).state.registry.stateAt? resource i := by
    have hnot : ¬ b.log.Names resource i := fun hn' => hdisjoint resource i ⟨hn, hn'⟩
    have hsecond := Device.submitOne_executes q hb' hregistryA
    exact ⟨hsecond.stateAt?_of_not_names hregistryA hlogB hnot,
      Device.stateAt?_submitOne_congr p ha hregistry ha' hregistryB rfl
        (hexecutesB.sharing?_eq resource) (hexecutesB.stateAt?_of_not_names hregistry hlogB hnot)⟩
  -- Elsewhere A does nothing.
  have hother (resource : Resource) (i : Nat) (hnot : ¬ a.log.Names resource i) :
      ((s.device.submitOne p A).state.submitOne q B).state.registry.stateAt? resource i
          = (s.device.submitOne q B).state.registry.stateAt? resource i
        ∧ ((s.device.submitOne q B).state.submitOne p A).state.registry.stateAt? resource i
          = (s.device.submitOne q B).state.registry.stateAt? resource i := by
    have hsecond := Device.submitOne_executes p ha' hregistryB
    exact ⟨Device.stateAt?_submitOne_congr q hb hregistry hb' hregistryA rfl
        (hexecutesA.sharing?_eq resource) (hexecutesA.stateAt?_of_not_names hregistry hlogA hnot),
      hsecond.stateAt?_of_not_names hregistryB hlogA hnot⟩
  refine ⟨_, _, ha', hb', rfl, rfl, ?_, ?_, fun resource i => ?_,
    fun resource i hn => (hnamed resource i hn).1, fun resource i hn => (hother resource i hn).1,
    fun resource i hn => ?_, fun resource i hn => ?_, fun resource i hnot hnot' => ?_⟩
  · rw [Device.Execution.report, Device.Execution.report, har]
    exact hfindingsA.symm
  · rw [Device.Execution.report, Device.Execution.report, hbr]
    exact hfindingsB.symm
  · by_cases hn : a.log.Names resource i
    · rw [(hnamed resource i hn).1, (hnamed resource i hn).2]
    · rw [(hother resource i hn).1, (hother resource i hn).2]
  · rw [(hnamed resource i hn).1]
    exact Device.stateAt?_of_execution? p ha resource i
  · have hnot : ¬ a.log.Names resource i := fun hn' => hdisjoint resource i ⟨hn', hn⟩
    rw [(hother resource i hnot).1]
    exact Device.stateAt?_of_execution? q hb resource i
  · rw [(hother resource i hnot).1]
    exact hexecutesB.stateAt?_of_not_names hregistry hlogB hnot'

/-- A session with two command buffers, each of which clears another level of an image. -/
def twoLevels : Session :=
  (Session.start {} {}).run
    [.createImage { format := .r8g8b8a8Unorm, extent := ⟨4, 4, 1⟩, mipLevels := 2 },
      .beginCommandBuffer ⟨0, 0⟩ none .multipleSubmit,
      .record 0 (.clear {
        image := .ofSerial .image 1, regions := [⟨.color, ⟨0, 1⟩, ⟨0, 1⟩⟩] }),
      .endCommandBuffer 0,
      .beginCommandBuffer ⟨0, 0⟩ none .multipleSubmit,
      .record 1 (.clear {
        image := .ofSerial .image 1, regions := [⟨.color, ⟨1, 2⟩, ⟨0, 1⟩⟩] }),
      .endCommandBuffer 1]

/-- The recording of a command buffer of the session. -/
def levelRecording (level : Nat) : Recording where
  family := 0
  layouts := [(.ofSerial .image 1,
    ⟨[⟨⟨level, level + 1⟩, ⟨some .transferDstOptimal, .transferDstOptimal⟩⟩]⟩)]
  accesses := [⟨.image (.ofSerial .image 1), [⟨level, level + 1⟩], Recording.transferEffect true⟩]
  references := [(Resource.image (.ofSerial .image 1)).id]

theorem levelRecording_wellFormed (level : Nat) : (levelRecording level).WellFormed where
  layouts := ⟨List.pairwise_singleton _ _, fun entry hentry => by
    rw [List.mem_singleton.mp hentry]
    exact Nat.lt_succ_self level⟩
  accesses access haccess := by
    rw [List.mem_singleton.mp haccess]
    exact ⟨List.pairwise_singleton _ _, fun _ _ heffect => by cases heffect⟩

/-- The log of such a recording names its level alone. -/
theorem levelRecording_names {level : Nat} {resource : Resource} {i : Nat}
    (h : (levelRecording level).finish.Names resource i) : i = level := by
  rcases h with haccesses | hlayout
  · obtain ⟨access, hmem⟩ := List.exists_mem_of_ne_nil _ haccesses
    obtain ⟨haccess, hcovers⟩ := List.mem_filter.mp hmem
    rw [List.mem_singleton.mp haccess] at hcovers
    simp [Access.covers, Interval.contains] at hcovers
    omega
  · cases resource with
    | buffer buffer => exact absurd rfl hlayout
    | image image =>
      rw [CommandLog.localLayout?_finish (levelRecording_wellFormed level)] at hlayout
      simp only [Recording.localLayout?, Recording.layoutsOf?, levelRecording, List.lookup_cons,
        List.lookup_nil] at hlayout
      split at hlayout
      · simp [RangeMap.get?, Interval.contains] at hlayout
        omega
      · exact absurd rfl hlayout

/-- The two levels are cleared in any order, and no clear is lost. -/
theorem twoLevels_commute :
    ((twoLevels.device.submitOne ⟨0, 0⟩ (.ofSerial .commandBuffer 2)).state.submitOne ⟨0, 0⟩
        (.ofSerial .commandBuffer 3)).state.registry.stateAt? (.image (.ofSerial .image 1)) 0
      = ((twoLevels.device.submitOne ⟨0, 0⟩ (.ofSerial .commandBuffer 3)).state.submitOne ⟨0, 0⟩
        (.ofSerial .commandBuffer 2)).state.registry.stateAt? (.image (.ofSerial .image 1)) 0
    ∧ ((twoLevels.device.submitOne ⟨0, 0⟩ (.ofSerial .commandBuffer 2)).state.submitOne ⟨0, 0⟩
        (.ofSerial .commandBuffer 3)).state.registry.stateAt? (.image (.ofSerial .image 1)) 1
      = ((twoLevels.device.submitOne ⟨0, 0⟩ (.ofSerial .commandBuffer 3)).state.submitOne ⟨0, 0⟩
        (.ofSerial .commandBuffer 2)).state.registry.stateAt? (.image (.ofSerial .image 1)) 1 := by
  have hs : twoLevels.Reachable := (Session.Reachable.start {} {}).run _
  have ha : twoLevels.device.execution? ⟨0, 0⟩ (.ofSerial .commandBuffer 2)
      = some ⟨.ofSerial .commandBuffer 2, (levelRecording 0).finish, twoLevels.device.registry⟩ := rfl
  have hb : twoLevels.device.execution? ⟨0, 0⟩ (.ofSerial .commandBuffer 3)
      = some ⟨.ofSerial .commandBuffer 3, (levelRecording 1).finish, twoLevels.device.registry⟩ := rfl
  have hdisjoint : ∀ resource i, ¬ ((levelRecording 0).finish.Names resource i
      ∧ (levelRecording 1).finish.Names resource i) := by
    rintro resource i ⟨h0, h1⟩
    have := levelRecording_names h0
    have := levelRecording_names h1
    omega
  obtain ⟨-, -, -, -, -, -, -, -, hstates, -⟩ :=
    disjoint_submissions_commute hs (by decide) ha hb hdisjoint
  exact ⟨hstates _ 0, hstates _ 1⟩

end VulkanValidity
