/-
  VulkanValidity.Proofs.TrackedStates

  What the tracked states of a resource look like, whatever calls were made.  Executions replace states
  and never drop or add any, so that the segments of a resource stay a partition of its subresources
  (`RangeMap.Tiles`).  The owners in them name queue families that exist, because the logs do, and a
  resource that is shared has no owner at all, because nothing hands it over.
-/

import VulkanValidity.Proofs.Families
import VulkanValidity.Proofs.Handover

namespace VulkanValidity

/-! ## Partitions -/

namespace RangeMap

variable {α : Type}

/-- The segments partition the numbers from `lo` to `hi`: each one starts where the one before it ends and is
not empty, and no two neighbours carry the same value. -/
def Tiles : Nat → List (Segment α) → Nat → Prop
  | lo, [], hi => lo = hi
  | lo, s :: rest, hi =>
    s.range.start = lo ∧ lo < s.range.stop ∧ (∀ t ∈ rest.head?, s.value ≠ t.value)
      ∧ Tiles s.range.stop rest hi

/-- In a canonical list that gives values to exactly the numbers between two bounds, the first segment starts
at the lower bound, and the rest gives values to exactly the numbers after it. -/
theorem CanonicalList.domain_tail {s : Segment α} {l : List (Segment α)} (h : CanonicalList (s :: l))
    {lo hi : Nat} (hdomain : ∀ i, (valueAt (s :: l) i).isSome = true ↔ lo ≤ i ∧ i < hi) :
    s.range.start = lo ∧ s.range.stop ≤ hi
      ∧ ∀ i, (valueAt l i).isSome = true ↔ s.range.stop ≤ i ∧ i < hi := by
  obtain ⟨hnonempty, hseparated, hrest⟩ := canonicalList_cons.mp h
  have hstart := (hdomain s.range.start).mp (by rw [h.valueAt_start]; rfl)
  have hlo : s.range.start ≤ lo := by
    -- Nothing lies below the first segment, and there is a value at the lower bound.
    refine Nat.le_of_not_lt fun hlt => ?_
    obtain ⟨bound, hordered⟩ := h.exists_ordered s.range.start (by simp)
    have hvalue := (hdomain lo).mpr ⟨Nat.le_refl _, by omega⟩
    rw [hordered.valueAt_eq_none (Or.inl hlt)] at hvalue
    cases hvalue
  have hlast : s.range.contains (s.range.stop - 1) = true := by
    rw [Interval.contains_iff]
    omega
  have hstop := (hdomain (s.range.stop - 1)).mp (by rw [valueAt_cons, if_pos hlast]; rfl)
  refine ⟨by omega, by omega, fun i => ?_⟩
  obtain ⟨bound, hordered⟩ := hrest.exists_ordered s.range.stop fun t ht => (hseparated t ht).le
  have hi := hdomain i
  rw [valueAt_cons] at hi
  by_cases hinside : s.range.contains i = true
  · have hbelow := (Interval.contains_iff.mp hinside).2
    rw [hordered.valueAt_eq_none (Or.inl hbelow)]
    simp only [Option.isSome_none, Bool.false_eq_true, false_iff]
    omega
  · rw [if_neg hinside] at hi
    rw [Interval.contains_iff] at hinside
    constructor
    · intro hvalue
      have hbounds := hi.mp hvalue
      exact ⟨by omega, hbounds.2⟩
    · intro hbounds
      exact hi.mpr ⟨by omega, hbounds.2⟩

/-- A canonical list partitions the numbers that it gives values to. -/
theorem CanonicalList.tiles {l : List (Segment α)} (h : CanonicalList l) {lo hi : Nat} (hle : lo ≤ hi)
    (hdomain : ∀ i, (valueAt l i).isSome = true ↔ lo ≤ i ∧ i < hi) : Tiles lo l hi := by
  induction l generalizing lo with
  | nil =>
    have hnone : ¬ (lo ≤ lo ∧ lo < hi) := fun hbounds => nomatch (hdomain lo).mpr hbounds
    show lo = hi
    omega
  | cons s l ih =>
    obtain ⟨hnonempty, hseparated, hrest⟩ := canonicalList_cons.mp h
    obtain ⟨hstart, hstop, htail⟩ := h.domain_tail hdomain
    have htiles := ih hrest hstop htail
    refine ⟨hstart, by omega, fun t ht => ?_, htiles⟩
    -- The next segment touches this one, and so it carries another value.
    rcases hseparated t ht with hgap | ⟨-, hne⟩
    · cases l with
      | nil => cases ht
      | cons u l =>
        obtain rfl := Option.some.inj ht
        have htouch : u.range.start = s.range.stop := htiles.1
        omega
    · exact hne

/-- A segment of a canonical map is not empty, and its value is that of a number in it. -/
theorem Canonical.exists_get? {m : RangeMap α} (h : m.Canonical) {s : Segment α}
    (hs : s ∈ m.segments) : ∃ i, m.get? i = some s.value := by
  obtain ⟨bound, hordered⟩ := h.ordered
  have hbounds := hordered.mem_bounds hs
  have hstart : s.range.contains s.range.start = true :=
    Interval.contains_iff.mpr ⟨Nat.le_refl _, hbounds.2.1⟩
  exact ⟨s.range.start, mem_segments_get? h hs hstart⟩

end RangeMap

/-! ## What is tracked of all resources -/

namespace Session

/-- What is so of the initial states, and stays so with the execution of every log, is so of all tracked
resources.  A condition on the session may be added, if it was satisfied all the way. -/
theorem Reachable.tracked {C : Session → Prop} {P : Registry.Tracked → Prop}
    (hcall : ∀ s call, C (s.step call).state → C s)
    (hsubmission : ∀ (s : Session) queue handle,
      C (s.withDevice (s.device.submitOne queue handle).state) → C s)
    (hnew : ∀ (r : Registry) resource t, r.tracked? resource = some t → t.states = t.initial → P t)
    (hexecute : ∀ (s : Session) handle log resource t, s.Reachable → C s →
      s.device.registry.log? handle = some log → s.device.registry.tracked? resource = some t → P t →
      P { t with states := log.statesAfter t.sharing resource t.states })
    {s : Session} (h : s.Reachable) (hs : C s) :
    ∀ resource t, s.device.registry.tracked? resource = some t → P t := by
  refine h.keeps (P := fun s => C s →
      ∀ resource t, s.device.registry.tracked? resource = some t → P t)
    (fun environment engine _ resource t ht => ?_) (fun s call _ hsubmit ih hafter resource t ht => ?_)
    (fun s queue handle hreachable ih hafter resource t ht => ?_) hs
  · cases resource <;> cases ht
  · have hbefore := ih (hcall s call hafter) resource
    -- No other call than a submission changes states: it keeps, destroys or creates resources.
    rcases s.step_resources hsubmit resource with hsame | hnone | ⟨-, t', ht', hinitial⟩
    · exact hbefore t (hsame ▸ ht)
    · rw [hnone] at ht
      cases ht
    · obtain rfl := Option.some.inj (ht'.symm.trans ht)
      exact hnew _ resource t' ht' hinitial
  · have hC := hsubmission s queue handle hafter
    have hbefore := ih hC resource
    rcases s.device.submitOne_cases queue handle with ⟨-, hstate⟩ | ⟨log, -, hlog, hstate⟩
    · simp only [withDevice, hstate] at ht
      exact hbefore t ht
    · have hwellFormed := hreachable.wellFormed.registry.logs handle log hlog
      have hexecutes := s.device.execute_executes queue handle hwellFormed resource
      simp only [withDevice, hstate] at ht
      obtain ⟨t', ht', rfl⟩ := Option.map_eq_some_iff.mp (hexecutes.symm.trans ht)
      exact hexecute s handle log resource t' hreachable hC hlog ht' (hbefore t' ht')

end Session

/-! ## Executing logs -/

/-- What all accesses keep of an owner is so after them. -/
theorem SubresourceState.owner_after {P : Owner → Prop} {sharing : Sharing} {family : Nat}
    {accesses : List Access} (hP : ∀ access ∈ accesses, ∀ owner, P owner →
      P (owner.access sharing family access.effect.kind))
    {state : SubresourceState} (h : P state.owner) : P (state.after sharing family accesses).owner := by
  refine List.foldlRecOn (motive := fun state : SubresourceState => P state.owner) accesses _ h
    fun before hbefore access haccess => ?_
  exact hP access haccess before.owner hbefore

namespace CommandLog

variable {log : CommandLog} (hlog : log.WellFormed) {states : RangeMap SubresourceState}
  (hstates : states.Canonical) (sharing : Sharing) (resource : Resource)
include hlog hstates

/-- An execution changes the states of the subresources that have one. -/
theorem isSome_statesAfter (i : Nat) :
    ((log.statesAfter sharing resource states).get? i).isSome = (states.get? i).isSome := by
  rw [get?_statesAfter hlog hstates, Option.isSome_map]

/-- An execution keeps what all accesses to the resource keep of its owners. -/
theorem owner_statesAfter {P : Owner → Prop}
    (hP : ∀ access ∈ log.accesses, access.resource = resource → ∀ owner, P owner →
      P (owner.access sharing log.family access.effect.kind))
    (hbefore : ∀ i state, states.get? i = some state → P state.owner) {i : Nat}
    {state : SubresourceState} (h : (log.statesAfter sharing resource states).get? i = some state) :
    P state.owner := by
  rw [get?_statesAfter hlog hstates] at h
  obtain ⟨before, hget, rfl⟩ := Option.map_eq_some_iff.mp h
  refine SubresourceState.owner_after (fun access haccess => ?_) (hbefore i before hget)
  obtain ⟨hmem, hto⟩ := List.mem_filter.mp haccess
  simp only [Bool.and_eq_true, decide_eq_true_eq] at hto
  exact hP access hmem hto.1

end CommandLog

namespace Session

variable {s : Session}

/-- The subresources that have a state are those that had one at first. -/
theorem Reachable.tracked_domain (h : s.Reachable) {resource : Resource} {t : Registry.Tracked}
    (ht : s.device.registry.tracked? resource = some t) (i : Nat) :
    (t.states.get? i).isSome = (t.initial.get? i).isSome := by
  refine h.tracked (C := fun _ => True)
    (P := fun t => ∀ i, (t.states.get? i).isSome = (t.initial.get? i).isSome)
    (fun _ _ _ => trivial) (fun _ _ _ _ => trivial) (fun r resource t _ hinitial i => by rw [hinitial])
    (fun s handle log resource t hs _ hlog ht ih i => ?_) trivial resource t ht i
  have hwellFormed := hs.wellFormed.registry
  exact (CommandLog.isSome_statesAfter (hwellFormed.logs handle log hlog)
    (hwellFormed.canonical resource t ht) t.sharing resource i).trans (ih i)

theorem Reachable.tiles (h : s.Reachable) {resource : Resource} {t : Registry.Tracked}
    (ht : s.device.registry.tracked? resource = some t) {size : Nat} {value : SubresourceState}
    (hinitial : t.initial = RangeMap.replicate size value) :
    RangeMap.Tiles 0 t.states.segments size := by
  refine RangeMap.CanonicalList.tiles (h.wellFormed.registry.canonical resource t ht)
    (Nat.zero_le _) fun i => ?_
  rw [← RangeMap.get?_eq_valueAt, h.tracked_domain ht, hinitial, RangeMap.get?_replicate]
  by_cases hi : i < size <;> simp [hi]

/-- On the standard engine the families that owners name exist. -/
theorem Reachable.owners_exist (h : s.Reachable) (hengine : s.device.engine = Standard.engine)
    {resource : Resource} {t : Registry.Tracked} (ht : s.device.registry.tracked? resource = some t) :
    ∀ i state, t.states.get? i = some state → state.owner.FamiliesExist s.device.environment := by
  generalize henvironment : s.device.environment = environment
  refine h.tracked (C := fun s => s.device.engine = Standard.engine
      ∧ s.device.environment = environment)
    (P := fun t => ∀ i state, t.states.get? i = some state → state.owner.FamiliesExist environment)
    (fun s call hafter => ?_) (fun s queue handle hafter => ?_)
    (fun r resource t ht hinitial i state hget => ?_)
    (fun s handle log resource t hs hC hlog ht ih i state hget => ?_) ⟨hengine, henvironment⟩ resource t ht
  · have htransition := s.step_transition call
    exact ⟨htransition.engine.symm.trans hafter.1, htransition.environment.symm.trans hafter.2⟩
  · exact ⟨(s.device.submitOne_engine queue handle).symm.trans hafter.1,
      (s.device.submitOne_environment queue handle).symm.trans hafter.2⟩
  · rw [hinitial] at hget
    rw [Tells.initial_owner ht hget]
    trivial
  · have hwellFormed := hs.wellFormed.registry
    have hfamilies := (hs.familiesExist hC.1).logs.logs handle log hlog
    rw [hC.2] at hfamilies
    refine CommandLog.owner_statesAfter (hwellFormed.logs handle log hlog)
      (hwellFormed.canonical resource t ht) t.sharing resource ?_ ih hget
    exact fun access haccess _ owner howner =>
      howner.access hfamilies.family (hfamilies.accesses access haccess) t.sharing

/-- On the standard engine a resource that is shared has no owner. -/
theorem Reachable.shared_ignored (h : s.Reachable) (hengine : s.device.engine = Standard.engine)
    (hfew : s.FewObjects) {resource : Resource} {t : Registry.Tracked}
    (ht : s.device.registry.tracked? resource = some t) {families : List Nat}
    (hsharing : t.sharing = .concurrent families) :
    ∀ i state, t.states.get? i = some state → state.owner = .ignored := by
  refine h.tracked (C := fun s => s.device.engine = Standard.engine ∧ s.FewObjects)
    (P := fun t => ∀ families, t.sharing = .concurrent families →
      ∀ i state, t.states.get? i = some state → state.owner = .ignored)
    (fun s call hafter => ?_) (fun s queue handle hafter => ?_)
    (fun r resource t ht hinitial families _ i state hget => ?_)
    (fun s handle log resource t hs hC hlog ht ih families hsharing i state hget => ?_) ⟨hengine, hfew⟩
    resource t ht families hsharing
  · have htransition := s.step_transition call
    exact ⟨htransition.engine.symm.trans hafter.1, hafter.2.of_changes htransition.changes⟩
  · exact ⟨(s.device.submitOne_engine queue handle).symm.trans hafter.1,
      hafter.2.of_changes (s.device.changes_submitOne queue handle)⟩
  · rw [hinitial] at hget
    exact Tells.initial_owner ht hget
  · have hwellFormed := hs.wellFormed.registry
    refine CommandLog.owner_statesAfter (P := fun owner => owner = .ignored)
      (hwellFormed.logs handle log hlog) (hwellFormed.canonical resource t ht) t.sharing resource
      (fun access haccess hresource owner howner => ?_) (ih families hsharing) hget
    -- An access that hands the resource over would make it exclusive.
    have hkind : access.effect.kind.isTransfer = false := by
      refine Bool.eq_false_iff.mpr fun htransfer => ?_
      have hexclusive := (hs.handsOver hC.1 hC.2).logs handle log hlog access haccess htransfer
      rw [hresource] at hexclusive
      have hsame := hexclusive.alive t.sharing (Registry.sharing?_of_tracked? ht)
      rw [hsharing] at hsame
      cases hsame
    rw [howner, hsharing]
    exact Owner.access_ignored hkind families log.family

end Session

/-! ## Tracked states -/

/-- The tracked states of a reachable session on the standard engine.  The segments of an image partition its
subresources, which are as many as its aspects times its mip levels times its layers, where a 3D image counts
as one layer; a buffer is a single subresource.  A resource that is shared has no owner, as long as fewer
than 2^56 objects were created.  An owner is a family that exists; and what was released is on its way from a
family that exists to another one, or out of the device. -/
theorem tracked_states_well_formed {s : Session} (h : s.Reachable)
    (hengine : s.device.engine = Standard.engine) :
    (∀ (handle : Handle .image) (image : Image), s.device.registry.get? handle = some image →
      RangeMap.Tiles 0 image.states.segments (image.info.aspectList.length * image.info.mipLevels
        * if image.info.imageType = .dim3d then 1 else image.info.arrayLayers))
    ∧ (∀ (handle : Handle .buffer) (buffer : Buffer), s.device.registry.get? handle = some buffer →
      RangeMap.Tiles 0 buffer.states.segments 1)
    ∧ (s.device.registry.createdIds.length ≤ ObjectId.maxSerial → ∀ resource families states,
      s.device.registry.sharing? resource = some (.concurrent families) →
      s.device.registry.states? resource = some states →
      ∀ segment ∈ states.segments, segment.value.owner = .ignored)
    ∧ ∀ resource states, s.device.registry.states? resource = some states →
      ∀ segment ∈ states.segments,
        (∀ family, segment.value.owner = .owned family →
          family < s.device.environment.queueFamilies.length)
        ∧ ∀ src dst, segment.value.owner = .released src dst →
          src ≠ dst ∧ src < s.device.environment.queueFamilies.length
          ∧ (dst < s.device.environment.queueFamilies.length
            ∨ dst = QueueFamily.external ∨ dst = QueueFamily.foreign) := by
  refine ⟨fun handle image hget => ?_, fun handle buffer hget => ?_, ?_, ?_⟩
  -- The states started as one value for all subresources, and none of them is lost or added.
  · have ht : s.device.registry.tracked? (.image handle)
        = some ⟨image.info.sharing, (Image.ofInfo image.info).states, image.states⟩ :=
      congrArg (Option.map _) hget
    exact h.tiles ht rfl
  · have ht : s.device.registry.tracked? (.buffer handle)
        = some ⟨buffer.info.sharing, (Buffer.ofInfo buffer.info).states, buffer.states⟩ :=
      congrArg (Option.map _) hget
    exact h.tiles ht rfl
  · intro hfew resource families states hsharing hstates segment hsegment
    obtain ⟨t, ht, rfl⟩ := Registry.exists_tracked?_of_states? hstates
    have hshared : t.sharing = .concurrent families :=
      Option.some.inj ((Registry.sharing?_of_tracked? ht).symm.trans hsharing)
    obtain ⟨i, hget⟩ := (h.wellFormed.registry.canonical resource t ht).exists_get? hsegment
    exact h.shared_ignored hengine hfew ht hshared i segment.value hget
  · intro resource states hstates segment hsegment
    obtain ⟨t, ht, rfl⟩ := Registry.exists_tracked?_of_states? hstates
    obtain ⟨i, hget⟩ := (h.wellFormed.registry.canonical resource t ht).exists_get? hsegment
    have hexist := h.owners_exist hengine ht i segment.value hget
    refine ⟨fun family howner => ?_, fun src dst howner => ?_⟩
    · rw [howner] at hexist
      exact hexist
    · rw [howner] at hexist
      obtain ⟨hne, hsrc, hdst⟩ := hexist
      simp only [QueueFamily.isOutside, Bool.or_eq_true, beq_iff_eq] at hdst
      exact ⟨hne, hsrc, hdst⟩

/-- A shared buffer is filled, and the middle one of three mip levels of an image is released to another
family. -/
def releaseLevel : List Call :=
  [.createImage {
      format := .r8g8b8a8Unorm, extent := ⟨4, 4, 1⟩, mipLevels := 3, arrayLayers := 2
      usage := .transferDst },
    .createBuffer { size := 64, usage := .transferDst, sharing := .concurrent [0, 1] },
    .allocateMemory { size := 65536 },
    .bindImage (.ofSerial .image 1) (.ofSerial .deviceMemory 3) 0,
    .bindBuffer (.ofSerial .buffer 2) (.ofSerial .deviceMemory 3) 32768,
    .beginCommandBuffer ⟨0, 0⟩ none .multipleSubmit,
    .record 0 (.fill (.ofSerial .buffer 2) 0),
    .record 0 (.barrier { imageBarriers := [{
      image := .ofSerial .image 1, newLayout := .transferDstOptimal
      transfer := some (.exclusiveBetweenLocal 0 1), range := ⟨.color, ⟨1, 2⟩, ⟨0, 2⟩⟩ }] }),
    .endCommandBuffer 0,
    .submit [{ queue := ⟨0, 0⟩, commandBuffers := [.ofSerial .commandBuffer 4] }]]

/-- The image is left in three segments, of which the second is on its way, and the buffer has no owner. -/
theorem releaseLevel_well_formed :
    let s := (Session.start {} Standard.engine).run releaseLevel
    s.device.engine = Standard.engine
    ∧ (∃ image, s.device.registry.get? (.ofSerial .image 1) = some image
      ∧ image.states.segments.map (fun segment => (segment.range, segment.value.owner))
        = [(⟨0, 2⟩, .ignored), (⟨2, 4⟩, .released 0 1), (⟨4, 6⟩, .ignored)]
      ∧ RangeMap.Tiles 0 image.states.segments 6)
    ∧ ∃ states, s.device.registry.states? (.buffer (.ofSerial .buffer 2)) = some states
      ∧ states.segments.length = 1
      ∧ ∀ segment ∈ states.segments, segment.value.owner = .ignored := by
  intro s
  have hreachable : s.Reachable := (Session.Reachable.start {} Standard.engine).run releaseLevel
  have hengine : s.device.engine = Standard.engine :=
    Session.run_engine (.start {} Standard.engine) releaseLevel
  obtain ⟨himages, -, hshared, -⟩ := tracked_states_well_formed hreachable hengine
  refine ⟨hengine, ?_, ?_⟩
  · have halive : (s.device.registry.get? (.ofSerial .image 1)).isSome = true := by decide +kernel
    obtain ⟨image, himage⟩ := Option.isSome_iff_exists.mp halive
    have hsegments : (s.device.registry.get? (.ofSerial .image 1)).map (fun image : Image =>
        image.states.segments.map fun segment => (segment.range, segment.value.owner))
        = some [(⟨0, 2⟩, .ignored), (⟨2, 4⟩, .released 0 1), (⟨4, 6⟩, .ignored)] := by
      decide +kernel
    have hsize : (s.device.registry.get? (.ofSerial .image 1)).map (fun image : Image =>
        image.info.aspectList.length * image.info.mipLevels
          * if image.info.imageType = .dim3d then 1 else image.info.arrayLayers) = some 6 := by
      decide +kernel
    have htiles := himages _ image himage
    rw [himage] at hsegments hsize
    exact ⟨image, himage, Option.some.inj hsegments, (Option.some.inj hsize) ▸ htiles⟩
  · have halive : (s.device.registry.states? (.buffer (.ofSerial .buffer 2))).isSome = true := by
      decide +kernel
    obtain ⟨states, hstates⟩ := Option.isSome_iff_exists.mp halive
    have hlength : (s.device.registry.states? (.buffer (.ofSerial .buffer 2))).map
        (fun states => states.segments.length) = some 1 := by
      decide +kernel
    have hsharing : s.device.registry.sharing? (.buffer (.ofSerial .buffer 2))
        = some (.concurrent [0, 1]) := by
      decide +kernel
    have hfew : s.device.registry.createdIds.length ≤ ObjectId.maxSerial := by decide +kernel
    rw [hstates] at hlength
    exact ⟨states, hstates, Option.some.inj hlength, hshared hfew _ _ states hsharing hstates⟩

end VulkanValidity
