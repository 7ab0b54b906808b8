/-
  VulkanValidity.Proofs.Handshake

  How two queue families hand an image over.  The same barrier is recorded twice: in a command buffer of the
  source it is a release, and in one of the destination an acquisition.  It names its layout transition in
  both, but only the acquisition carries it out.  What a log with nothing but such a barrier does to a
  subresource is worked out first (`ImageBarrier.stateAfter_source`, `ImageBarrier.stateAfter_destination`);
  the handshake follows, whatever happens to other subresources between the two (`ownership_handshake`).
-/

import VulkanValidity.Proofs.BarrierSequences
import VulkanValidity.Proofs.Boundaries
import VulkanValidity.Proofs.Coverage
import VulkanValidity.Proofs.ProblemKinds
import VulkanValidity.Proofs.TrackedStates

namespace VulkanValidity

/-! ## Logs with a single barrier -/

/-- A log runs cleanly on what it does not name. -/
theorem CommandLog.runsCleanly_of_not_names {log : CommandLog} {resource : Resource} {i : Nat}
    (h : ¬ log.Names resource i) (sharing : Sharing) (state : SubresourceState) :
    log.RunsCleanly sharing resource i state := by
  rw [Names, not_or, not_not, not_not] at h
  rw [RunsCleanly, h.1, h.2]
  exact ⟨rfl, fun l expected hl => by cases hl⟩

namespace ImageBarrier

variable (barrier : ImageBarrier) (info : ImageInfo) (family : Nat)

/-- What the barrier does in a command buffer of `family` to an image that was created with `info`. -/
def access : Access where
  resource := .image barrier.image
  ranges := info.indexRanges barrier.range
  effect := ⟨(barrierRole barrier.transfer family).kind, barrier.dstStages, false⟩

/-- The log of a command buffer of `family` with nothing but the barrier. -/
def log : CommandLog := (({ family := family } : Recording).imageBarrier info barrier).finish

/-- The subresource is one that the barrier covers. -/
def Touches (resource : Resource) (i : Nat) : Prop :=
  resource = .image barrier.image ∧ info.Covers barrier.range i

instance (resource : Resource) (i : Nat) : Decidable (barrier.Touches info resource i) :=
  inferInstanceAs (Decidable (_ ∧ _))

@[simp] theorem log_family : (barrier.log info family).family = family :=
  Recorder.imageBarrier_family _ _ _

theorem log_accesses : (barrier.log info family).accesses = [barrier.access info family] := by
  rw [log, Recording.finish, Recording.imageBarrier]
  cases (barrierRole barrier.transfer family).transitions <;> rfl

theorem log_references : (barrier.log info family).references = [barrier.image.erase] := by
  rw [log, Recording.finish, Recording.imageBarrier]
  cases (barrierRole barrier.transfer family).transitions <;> rfl

theorem wellFormed_log : (barrier.log info family).WellFormed :=
  CommandLog.finish_wellFormed ((Recording.wellFormed_begin family).imageBarrier info barrier)

theorem covers_access (i : Nat) :
    (barrier.access info family).covers i = decide (info.Covers barrier.range i) := by
  rw [Bool.eq_iff_iff, decide_eq_true_iff]
  exact info.any_contains_indexRanges barrier.range i

theorem accessesAt_log (resource : Resource) (i : Nat) :
    (barrier.log info family).accessesAt resource i
      = if barrier.Touches info resource i then [barrier.access info family] else [] := by
  have hselected : (decide ((barrier.access info family).resource = resource)
      && (barrier.access info family).covers i) = decide (barrier.Touches info resource i) := by
    rw [Bool.eq_iff_iff, Bool.and_eq_true, decide_eq_true_iff, decide_eq_true_iff, covers_access,
      decide_eq_true_iff]
    exact and_congr_left' eq_comm
  rw [CommandLog.accessesAt, log_accesses, List.filter_singleton, hselected]
  simp

theorem localLayout?_log (resource : Resource) (i : Nat) :
    (barrier.log info family).localLayout? resource i
      = if (barrierRole barrier.transfer family).transitions = true ∧ barrier.Touches info resource i then
          some ⟨barrier.oldLayout.declares, barrier.newLayout⟩ else none := by
  cases resource with
  | buffer buffer => simp [CommandLog.localLayout?, CommandLog.layoutsOf?, Touches]
  | image image =>
    have hnew := Recording.wellFormed_begin family
    have hcovers : (LayoutStep.ofBarrier info barrier).covers image i
        = decide (barrier.Touches info (.image image) i) := by
      rw [Bool.eq_iff_iff, LayoutStep.covers_iff, decide_eq_true_iff, Touches, Resource.image.injEq]
      exact and_congr_right' (info.any_contains_indexRanges barrier.range i)
    rw [log, CommandLog.localLayout?_finish (hnew.imageBarrier info barrier),
      Recording.localLayout?_imageBarrier hnew]
    cases (barrierRole barrier.transfer family).transitions with
    | false => rfl
    | true =>
      show (LayoutStep.ofBarrier info barrier).learn _ image i = _
      rw [LayoutStep.learn, hcovers]
      simp only [decide_eq_true_eq, true_and]
      rfl

theorem touches_of_names {resource : Resource} {i : Nat}
    (h : (barrier.log info family).Names resource i) : barrier.Touches info resource i := by
  by_contra hnot
  rw [CommandLog.Names, accessesAt_log, localLayout?_log, if_neg hnot, if_neg fun hand => hnot hand.2] at h
  exact h.elim (fun hne => hne rfl) fun hne => hne rfl

/-- A log with a single barrier runs cleanly if its access does not meet a problem, and the layout is the old
one of a barrier that changes it here. -/
theorem runsCleanly_log {resource : Resource} {i : Nat} {sharing : Sharing} {state : SubresourceState}
    (hproblem : state.owner.accessProblem? sharing family (barrierRole barrier.transfer family).kind = none)
    (hlayout : (barrierRole barrier.transfer family).transitions = true →
      barrier.oldLayout = .undefined ∨ state.layout = barrier.oldLayout) :
    (barrier.log info family).RunsCleanly sharing resource i state := by
  by_cases htouches : barrier.Touches info resource i
  · rw [CommandLog.RunsCleanly, accessesAt_log, if_pos htouches, log_family, localLayout?_log]
    refine ⟨?_, fun l expected hl hexpected => ?_⟩
    · show (state.owner.accessProblem? sharing family (barrierRole barrier.transfer family).kind).toList
        ++ [] = []
      rw [hproblem]
      rfl
    · obtain ⟨hhere, hl⟩ := Option.ite_none_right_eq_some.mp hl
      obtain rfl := Option.some.inj hl
      have hdeclares : barrier.oldLayout.declares = some expected := hexpected
      rw [ImageLayout.declares] at hdeclares
      split at hdeclares
      · cases hdeclares
      · next hdefined =>
        obtain rfl := Option.some.inj hdeclares
        exact (hlayout hhere.1).resolve_left hdefined
  · exact CommandLog.runsCleanly_of_not_names (fun h => htouches (touches_of_names barrier info family h))
      sharing state

/-! ### The two halves of a transfer -/

section Transfer

variable {barrier} {p q : Nat} (htransfer : barrier.transfer = some (.exclusiveBetweenLocal p q))
  (hne : p ≠ q)
include htransfer hne

theorem role_source : barrierRole barrier.transfer p = ⟨.release p q, false⟩ := by
  rw [htransfer, barrierRole, if_neg hne, if_neg hne]

theorem role_destination : barrierRole barrier.transfer q = ⟨.acquire p q, true⟩ := by
  rw [htransfer, barrierRole, if_neg hne, if_pos rfl]

variable {info} {resource : Resource} {i : Nat}

/-- The source lets go of what the barrier covers, and leaves the layout as it is. -/
theorem stateAfter_source (htouches : barrier.Touches info resource i) (sharing : Sharing)
    (state : SubresourceState) :
    (barrier.log info p).stateAfter sharing resource i state
      = { state with owner := .released p q, lastRead := state.lastRead ∪ barrier.dstStages } := by
  rw [CommandLog.stateAfter, accessesAt_log, if_pos htouches, log_family, localLayout?_log,
    role_source htransfer hne, if_neg fun hhere => Bool.false_ne_true hhere.1]
  simp only [SubresourceState.after, List.foldl_cons, List.foldl_nil, access, role_source htransfer hne]
  rfl

/-- The destination takes what the barrier covers, and changes the layout. -/
theorem stateAfter_destination (htouches : barrier.Touches info resource i) (sharing : Sharing)
    (state : SubresourceState) :
    (barrier.log info q).stateAfter sharing resource i state
      = { state with
          layout := barrier.newLayout
          owner := .owned q
          lastRead := state.lastRead ∪ barrier.dstStages } := by
  rw [CommandLog.stateAfter, accessesAt_log, if_pos htouches, log_family, localLayout?_log,
    role_destination htransfer hne, if_pos ⟨rfl, htouches⟩]
  simp only [SubresourceState.after, List.foldl_cons, List.foldl_nil, access,
    role_destination htransfer hne]
  rfl

/-- The source finds nothing wrong with what nobody has used, or it owns. -/
theorem runsCleanly_source {state : SubresourceState}
    (howner : state.owner = .ignored ∨ state.owner = .owned p) (sharing : Sharing) :
    (barrier.log info p).RunsCleanly sharing resource i state := by
  refine runsCleanly_log barrier info p ?_ fun hhere => ?_
  · rw [role_source htransfer hne, Owner.accessProblem?]
    rcases howner with hignored | howned
    · rw [hignored]
      rfl
    · rw [howned, Owner.releaseProblem?, if_pos rfl]
  · rw [role_source htransfer hne] at hhere
    cases hhere

/-- The destination finds nothing wrong with what was released to it and is in the old layout. -/
theorem runsCleanly_destination {state : SubresourceState} (howner : state.owner = .released p q)
    (hlayout : barrier.oldLayout = .undefined ∨ state.layout = barrier.oldLayout) (sharing : Sharing) :
    (barrier.log info q).RunsCleanly sharing resource i state := by
  refine runsCleanly_log barrier info q ?_ fun _ => hlayout
  rw [role_destination htransfer hne, howner, Owner.accessProblem?, Owner.acquireProblem?,
    if_pos (by simp)]

end Transfer

end ImageBarrier

/-! ## Executing a single barrier -/

namespace Device

variable {d : Device} {queue : Queue} {handle : Handle .commandBuffer} {log : CommandLog}

theorem admits_iff : d.Admits queue handle log
    ↔ (d.registry.get? handle).bind (d.admitted? queue) = some log := by
  rw [Option.bind_eq_some_iff]
  constructor
  · intro h
    have ⟨cb, hget, _⟩ := h
    exact ⟨cb, hget, (admitted?_iff hget).mpr h⟩
  · rintro ⟨cb, hget, hadmitted⟩
    exact (admitted?_iff hget).mp hadmitted

instance : Decidable (d.Admits queue handle log) := decidable_of_iff _ admits_iff.symm

/-- What a submission executes is the log that it admits. -/
theorem execution?_iff_admits :
    d.execution? queue handle = some ⟨handle, log, d.registry⟩ ↔ d.Admits queue handle log := by
  rw [execution?, Option.map_eq_some_iff, admits_iff]
  constructor
  · rintro ⟨log', hlog', heq⟩
    cases heq
    exact hlog'
  · exact fun hlog => ⟨log, hlog, rfl⟩

end Device

namespace ImageBarrier

variable {barrier : ImageBarrier} {info : ImageInfo} {family : Nat}

/-- Replaying the log finds nothing if it runs cleanly on what the barrier covers. -/
theorem replay_findings_eq_nil {r : Registry} (h : r.WellFormed)
    (hexclusive : r.sharing? (.image barrier.image) = some .exclusive)
    (hruns : ∀ i state, info.Covers barrier.range i → r.stateAt? (.image barrier.image) i = some state →
      (barrier.log info family).RunsCleanly .exclusive (.image barrier.image) i state) :
    ((barrier.log info family).replay r).findings = [] := by
  refine List.isEmpty_iff.mp ((CommandLog.replay_isClean_iff (wellFormed_log barrier info family) h).mpr
    fun resource sharing i state hsharing hstate => ?_)
  by_cases hnames : (barrier.log info family).Names resource i
  · obtain ⟨rfl, hcovers⟩ := touches_of_names barrier info family hnames
    obtain rfl := Option.some.inj (hsharing.symm.trans hexclusive)
    exact hruns i state hcovers hstate
  · exact CommandLog.runsCleanly_of_not_names hnames sharing state

theorem stateAt?_submitOne {d : Device} (h : d.registry.WellFormed) {queue : Queue}
    {handle : Handle .commandBuffer} (hadmits : d.Admits queue handle (barrier.log info family))
    (hexclusive : d.registry.sharing? (.image barrier.image) = some .exclusive) (i : Nat) :
    (d.submitOne queue handle).state.registry.stateAt? (.image barrier.image) i
      = (d.registry.stateAt? (.image barrier.image) i).map
        ((barrier.log info family).stateAfter .exclusive (.image barrier.image) i) :=
  (Device.submitOne_executes queue (Device.execution?_iff_admits.mpr hadmits) h).stateAt?_eq h
    (wellFormed_log barrier info family) hexclusive i

/-- An acquisition of what was not released to the destination is found. -/
theorem finds_acquireUnreleased {r : Registry} (h : r.WellFormed)
    (hexclusive : r.sharing? (.image barrier.image) = some .exclusive) {p q : Nat}
    (htransfer : barrier.transfer = some (.exclusiveBetweenLocal p q)) (hne : p ≠ q)
    (hlocal : QueueFamily.isOutside p = false) {i : Nat} (hcovers : info.Covers barrier.range i)
    {state : SubresourceState} (hstate : r.stateAt? (.image barrier.image) i = some state)
    (howner : state.owner ≠ .released p q) :
    (barrier.log info q).Finds r (.image barrier.image) .acquireUnreleased := by
  refine (CommandLog.finds_acquireUnreleased_iff (wellFormed_log barrier info q) h).mpr
    ⟨0, i, .notReleased p q state.owner, ?_, rfl⟩
  have hcovered : (barrier.access info q).covers i = true := by
    rw [covers_access, decide_eq_true_iff]
    exact hcovers
  have hresource : (barrier.access info q).resource = .image barrier.image := rfl
  have hkind : (barrier.access info q).effect.kind = .acquire p q := by
    rw [access, role_destination htransfer hne]
  have hproblem : state.owner.acquireProblem? p q = some (.notReleased p q state.owner) := by
    rw [Owner.acquireProblem?, hlocal, if_neg (by simpa using howner)]
  -- No access comes before this one.
  have hbefore : ((barrier.log info q).upTo 0).accessesAt (.image barrier.image) i = [] := rfl
  simp only [CommandLog.problemAt?, log_accesses, List.getElem?_cons_zero, hexclusive, hstate,
    Option.bind_eq_bind, Option.bind_some, hbefore, hcovered, hresource, hkind, decide_true, Bool.and_self,
    if_true]
  exact hproblem

end ImageBarrier

/-! ## Recording a single barrier -/

/-- If the families of a transfer exist, there is nothing to say about them. -/
theorem BarrierRules.transferFamilies_of_hasFamily {env : Environment}
    {transfer : Option OwnershipTransfer}
    (h : ∀ f ∈ (transfer.map OwnershipTransfer.localFamilies).getD [], env.HasFamily f) (field : String)
    (object : ObjectId) : transferFamilies env field transfer object = [] := by
  have hnone : (((transfer.map OwnershipTransfer.localFamilies).getD []).find?
      (env.queueFamilies.length ≤ ·)) = none := by
    refine List.find?_eq_none.mpr fun f hf => ?_
    simpa [Environment.HasFamily] using h f hf
  rw [transferFamilies]
  simp only [hnone]

section Recording

variable {d : Device} {barrier : ImageBarrier} {image : Image}
  (himage : d.registry.get? barrier.image = some image)
  (halive : d.registry.isDestroyed barrier.image.erase = false)
  (hexclusive : image.info.sharing = .exclusive) {p q : Nat}
  (htransfer : barrier.transfer = some (.exclusiveBetweenLocal p q))
  (hp : d.environment.HasFamily p) (hq : d.environment.HasFamily q) (family : Nat)
include himage halive hexclusive htransfer hp hq

/-- At the beginning of a command buffer, the rules have nothing to say about the barrier but that its new
layout is none that images can be moved to. -/
theorem Standard.evaluate_alone :
    engine.evaluate (d.commandContext { family := family } (.barrier barrier.alone)) = []
      ↔ barrier.newLayout ≠ .undefined ∧ barrier.newLayout ≠ .preinitialized := by
  rw [evaluate_barrier_eq, Rule.flatMap_diagnostics_eq_nil]
  generalize hctx : d.commandContext { family := family } (.barrier barrier.alone) = ctx
  have hget : ctx.registry.get? barrier.image = some image := hctx ▸ himage
  have hobjects : ctx.operation.objects = [barrier.image.erase] := hctx ▸ rfl
  have houtside : BarrierRules.isInside ctx = false := hctx ▸ rfl
  -- There is one image barrier to check, and no buffer barrier.
  have himages (check : Context → ImageBarrier → Nat → List Violation) :
      BarrierRules.onImages check ctx = check ctx barrier 0 := by
    rw [← hctx]
    exact List.append_nil _
  have hbuffers (check : Context → BufferBarrier → Nat → List Violation) :
      BarrierRules.onBuffers check ctx = [] := hctx ▸ rfl
  have hdestroyed : ObjectRules.objectDestroyed ctx = [] := by
    rw [ObjectRules.objectDestroyed_eq_nil, hobjects, List.forall_mem_singleton]
    exact hctx ▸ halive
  have hunknown : ObjectRules.objectUnknown ctx = [] := by
    rw [ObjectRules.objectUnknown_eq_nil, hobjects, List.forall_mem_singleton]
    exact Registry.isKnown_of_contains (Registry.contains_of_get? hget)
  have hsharing : BarrierRules.imageSharing ctx = [] := by
    rw [BarrierRules.imageSharing, himages, htransfer, hget]
    simp only [BarrierRules.transferSharing, hexclusive]
    rfl
  have hfamilies : BarrierRules.imageFamilies ctx = [] := by
    have henvironment : ctx.environment = d.environment := hctx ▸ rfl
    rw [BarrierRules.imageFamilies, himages, henvironment]
    refine BarrierRules.transferFamilies_of_hasFamily (fun f hf => ?_) _ _
    rw [htransfer] at hf
    rcases List.mem_pair.mp hf with rfl | rfl
    · exact hp
    · exact hq
  have hlayoutInside : BarrierRules.layoutInside ctx = [] := by
    rw [BarrierRules.layoutInside, himages, houtside]
    rfl
  have hownershipInside : BarrierRules.ownershipInside ctx = [] := by
    rw [BarrierRules.ownershipInside, himages, hbuffers, BarrierRules.transferOutside, houtside]
    rfl
  have holdLayout : BarrierRules.oldLayout ctx = [] := by
    rw [BarrierRules.oldLayout, himages, hget, ← hctx]
    simp [Device.commandContext, Recording.layoutMismatch?, Recording.layoutsOf?]
  have hrules : (∀ rule ∈ structuralRules ++ [oldLayoutRule], rule.predicate.check ctx = [])
      ↔ BarrierRules.newLayout ctx = [] := by
    simp only [structuralRules, oldLayoutRule, objectRules, barrierRules, rule, everywhere,
      List.take_succ_cons, List.take_zero, List.cons_append, List.nil_append, List.forall_mem_cons,
      List.not_mem_nil, false_implies, implies_true, and_true, List.getElem_cons_succ,
      List.getElem_cons_zero, hdestroyed, hunknown, hsharing, hfamilies, hlayoutInside, hownershipInside,
      holdLayout, BarrierRules.bufferSharing, BarrierRules.bufferFamilies, hbuffers, true_and]
  rw [hrules, BarrierRules.newLayout, himages, violationIf_eq_nil]
  simp

/-- The barrier can be recorded into an empty command buffer exactly if its new layout is one that images can
be moved to, and then it is all that the command buffer holds. -/
theorem Recorder.record_alone (hengine : d.engine = Standard.engine) (handle : Handle .commandBuffer) :
    (RecordsAll d ⟨handle, { family := family }⟩ [.barrier barrier.alone]
        ↔ barrier.newLayout ≠ .undefined ∧ barrier.newLayout ≠ .preinitialized)
      ∧ (RecordsAll d ⟨handle, { family := family }⟩ [.barrier barrier.alone] →
        recordAll ⟨handle, { family := family }⟩ d [.barrier barrier.alone]
          = ⟨handle, ({ family := family } : Recording).imageBarrier image.info barrier⟩) := by
  have hevaluate := Standard.evaluate_alone himage halive hexclusive htransfer hp hq family
  have haccepted : verdict (d.diagnoseRecording { family := family } (.record (.barrier barrier.alone)))
      = .ok () ↔ Standard.engine.evaluate
        (d.commandContext { family := family } (.barrier barrier.alone)) = [] := by
    rw [Device.diagnoseRecording, hengine]
    exact ⟨Standard.evaluate_eq_nil, fun hnone => congrArg verdict hnone⟩
  have hrecords : RecordsAll d ⟨handle, { family := family }⟩ [.barrier barrier.alone]
      ↔ verdict (d.diagnoseRecording { family := family } (.record (.barrier barrier.alone))) = .ok () :=
    ⟨fun hall => accepted_of_ok hall.1, fun hok => ⟨(record_barrier_of_accepted hengine hok).2, trivial⟩⟩
  refine ⟨hrecords.trans (haccepted.trans hevaluate), fun hall => ?_⟩
  refine (record_barrier_of_accepted hengine (hrecords.mp hall)).1.trans ?_
  simp only [withRecording, Recording.withBarriers, ImageBarrier.alone, List.foldl_cons, List.foldl_nil,
    himage]

end Recording

/-- The calls that record the barrier and nothing else succeed exactly if its new layout is one that images
can be moved to.  They leave the command buffer with the log of the barrier. -/
theorem Session.Opens.alone {s : Session} (hs : s.Reachable) (hengine : s.device.engine = Standard.engine)
    (hfew : s.FewObjects) {opening : Opening} {handle : Handle .commandBuffer} {family : Nat}
    (h : s.Opens opening handle family) {barrier : ImageBarrier} {image : Image}
    (himage : s.device.registry.get? barrier.image = some image)
    (hexclusive : image.info.sharing = .exclusive) {p q : Nat}
    (htransfer : barrier.transfer = some (.exclusiveBetweenLocal p q))
    (hp : s.device.environment.HasFamily p) (hq : s.device.environment.HasFamily q) :
    (s.succeeds (s.bufferCalls opening [.barrier barrier.alone]) = true
        ↔ barrier.newLayout ≠ .undefined ∧ barrier.newLayout ≠ .preinitialized)
      ∧ (s.succeeds (s.bufferCalls opening [.barrier barrier.alone]) = true →
        s.device.Records handle (barrier.log image.info family)
          (s.recordBuffer opening [.barrier barrier.alone]).device) := by
  obtain ⟨d, hd, hrecords⟩ := h.exists_records hs.wellFormed hengine
  obtain ⟨-, hsucceeds, hrecords⟩ := hrecords [.barrier barrier.alone]
  -- Beginning the command buffer has left the image as it was.
  obtain ⟨states, hget⟩ := hd.registry.images barrier.image
  rw [himage, Option.map_some] at hget
  have halive : d.registry.isDestroyed barrier.image.erase = false := by
    rw [Registry.isDestroyed, hd.registry.tombstones]
    exact (hs.feedTells hfew).disjoint _ (Registry.contains_of_get? himage)
  obtain ⟨hall, hrecorded⟩ := Recorder.record_alone hget halive hexclusive htransfer
    (hd.environment ▸ hp) (hd.environment ▸ hq) family (hd.engine.trans hengine) handle
  have hpass (hall : Recorder.RecordsAll d ⟨handle, { family := family }⟩ [.barrier barrier.alone]) :
      (Recorder.recordAll ⟨handle, { family := family }⟩ d [.barrier barrier.alone]).recording.renderPass
        = none := by
    rw [hrecorded hall]
    exact Recording.imageBarrier_renderPass _ _ _
  refine ⟨hsucceeds.trans (Iff.trans ⟨And.left, fun hall => ⟨hall, hpass hall⟩⟩ hall), fun hok => ?_⟩
  have hlog := hrecords hok
  rw [hrecorded (hsucceeds.mp hok).1] at hlog
  exact hlog

/-! ## Between the two halves -/

namespace Session

/-- A call that submits nothing leaves alone what is alive before and after it. -/
theorem tracked?_step_of_contains (s : Session) {call : Call} (hsubmit : ∀ batches, call ≠ .submit batches)
    {resource : Resource} (hbefore : s.device.registry.contains resource.id = true)
    (hafter : (s.step call).state.device.registry.contains resource.id = true) :
    (s.step call).state.device.registry.tracked? resource = s.device.registry.tracked? resource := by
  rw [Registry.contains_resource, Registry.sharing?_eq, Option.isSome_map] at hbefore hafter
  rcases s.step_resources hsubmit resource with hsame | hnone | ⟨hnone, -⟩
  · exact hsame
  · rw [hnone] at hafter
    cases hafter
  · rw [hnone] at hbefore
    cases hbefore

/-- The session after a command buffer is submitted alone. -/
def submitOne (s : Session) (queue : Queue) (handle : Handle .commandBuffer) : Session :=
  s.withDevice (s.device.submitOne queue handle).state

/-- The session `s` leads to another one by calls and by submissions of command buffers, and all logs that are
executed on the way satisfy `P`. -/
inductive Leads (P : CommandLog → Prop) (s : Session) : Session → Prop
  | here : Leads P s s
  | call {s' : Session} (h : Leads P s s') {call : Call} (hsubmit : ∀ batches, call ≠ .submit batches) :
    Leads P s (s'.step call).state
  | submission {s' : Session} (h : Leads P s s') {queue : Queue} {handle : Handle .commandBuffer}
      (hP : ∀ log, s'.device.Admits queue handle log → P log) :
    Leads P s (s'.submitOne queue handle)

namespace Leads

variable {P : CommandLog → Prop} {s s' : Session}

theorem reachable (h : Leads P s s') (hs : s.Reachable) : s'.Reachable := by
  induction h with
  | here => exact hs
  | @call _ _ call _ ih => exact ih.call call
  | @submission _ _ queue handle _ ih => exact ih.submission queue handle

theorem changes (h : Leads P s s') :
    Registry.Changes ([], s.device.registry) ([], s'.device.registry) := by
  induction h with
  | here => exact .refl
  | @call s' _ call _ ih => exact ih.trans (s'.step_transition call).changes
  | @submission s' _ queue handle _ ih => exact ih.trans (s'.device.changes_submitOne queue handle)

/-- A resource that stays alive keeps its sharing mode, and a subresource that no log names keeps its
state. -/
theorem keeps (h : Leads P s s') (hs : s.Reachable) (hfew : s'.FewObjects) {resource : Resource}
    (halive : s.device.registry.contains resource.id = true)
    (hafter : s'.device.registry.contains resource.id = true) :
    s'.device.registry.sharing? resource = s.device.registry.sharing? resource
      ∧ ∀ i, (∀ log, P log → ¬ log.Names resource i) →
        s'.device.registry.stateAt? resource i = s.device.registry.stateAt? resource i := by
  induction h with
  | here => exact ⟨rfl, fun i _ => rfl⟩
  | @call s' h call hsubmit ih =>
    have hreachable := h.reachable hs
    have hstep := (s'.step_transition call).changes
    have hfew' := hfew.of_changes hstep
    have hknown := h.changes.isKnown (Registry.isKnown_of_contains halive)
    -- What is alive before and after was alive in between, for no handle is used twice.
    have halive' := (hreachable.feedTells hfew').contains_of_later ((hreachable.call call).feedTells hfew)
      hstep hknown hafter
    obtain ⟨hsharing, hstates⟩ := ih hfew' halive'
    have htracked := s'.tracked?_step_of_contains hsubmit halive' hafter
    refine ⟨?_, fun i hspares => ?_⟩
    · rw [Registry.sharing?_eq, htracked, ← Registry.sharing?_eq, hsharing]
    · rw [Registry.stateAt?, Registry.states?_eq, htracked, ← Registry.states?_eq, ← Registry.stateAt?,
        hstates i hspares]
  | @submission s' h queue handle hP ih =>
    have hregistry := (h.reachable hs).wellFormed.registry
    have halive' := (s'.device.contains_submitOne queue handle resource.id).symm.trans hafter
    obtain ⟨hsharing, hstates⟩ := ih (hfew.of_changes (s'.device.changes_submitOne queue handle)) halive'
    refine ⟨(Device.sharing?_submitOne hregistry queue handle resource).trans hsharing,
      fun i hspares => Eq.trans ?_ (hstates i hspares)⟩
    rcases s'.device.submitOne_cases queue handle with ⟨-, hstate⟩ | ⟨log, he, -, -⟩
    · rw [submitOne, withDevice, hstate]
    · exact (Device.submitOne_executes queue he hregistry).stateAt?_of_not_names hregistry
        (Device.execution_wellFormed queue he hregistry)
        (hspares log (hP log (Device.execution?_iff_admits.mp he)))

theorem submitAll (h : Leads P s s') (entries : List (Queue × Handle .commandBuffer))
    (hP : ∀ e ∈ s'.device.executions entries, P e.log) :
    Leads P s (s'.withDevice (s'.device.submitAll entries)) := by
  induction entries generalizing s' with
  | nil => exact h
  | cons entry entries ih =>
    have hfirst : Leads P s (s'.submitOne entry.1 entry.2) := h.submission fun log hadmits => by
      have he := Device.execution?_iff_admits.mpr hadmits
      exact hP _ (List.mem_append_left _ (Option.mem_toList.mpr he))
    exact ih hfirst fun e he => hP e (List.mem_append_right _ he)

/-- A run leads on if all that it executes is so. -/
theorem run (h : Leads P s s') {calls : List Call} (hP : ∀ e ∈ s'.executed calls, P e.log) :
    Leads P s (s'.run calls) := by
  induction calls generalizing s' with
  | nil => exact h
  | cons call calls ih =>
    have hfirst (e : Device.Execution) (he : e ∈ s'.executions call) : P e.log :=
      hP e (List.mem_append_left _ he)
    have hcall : Leads P s (s'.step call).state := by
      by_cases hsubmit : ∃ batches, call = .submit batches
      · obtain ⟨batches, rfl⟩ := hsubmit
        rw [s'.step_submit batches]
        exact h.submitAll _ hfirst
      · exact h.call fun batches heq => hsubmit ⟨batches, heq⟩
    exact ih hcall fun e he => hP e (List.mem_append_right _ he)

end Leads

end Session

/-! ## The handshake -/

namespace ImageBarrier

variable (barrier : ImageBarrier) (info : ImageInfo)

/-- The log names nothing of what the barrier covers. -/
def Spares (log : CommandLog) : Prop :=
  ∀ i, info.Covers barrier.range i → ¬ log.Names (.image barrier.image) i

/-- What the barrier covers can be handed over by `p`: nobody has used it, or `p` owns it, and it is in the
old layout, if there is one. -/
def CanRelease (p : Nat) (r : Registry) : Prop :=
  ∀ i state, info.Covers barrier.range i → r.stateAt? (.image barrier.image) i = some state →
    (state.owner = .ignored ∨ state.owner = .owned p)
      ∧ (barrier.oldLayout = .undefined ∨ state.layout = barrier.oldLayout)

/-- What the barrier covers is on its way from `p` to `q`, and in the old layout, if there is one. -/
def UnderWay (p q : Nat) (r : Registry) : Prop :=
  ∀ i, info.Covers barrier.range i → ∃ state, r.stateAt? (.image barrier.image) i = some state
    ∧ state.owner = .released p q ∧ (barrier.oldLayout = .undefined ∨ state.layout = barrier.oldLayout)

end ImageBarrier

/-- What a range of a live image covers is tracked. -/
theorem Session.Reachable.exists_stateAt? {s : Session} (h : s.Reachable) {handle : Handle .image}
    {image : Image} (hget : s.device.registry.get? handle = some image) {range : SubresourceRange} {i : Nat}
    (hcovers : image.info.Covers range i) :
    ∃ state, s.device.registry.stateAt? (.image handle) i = some state := by
  have ht : s.device.registry.tracked? (.image handle)
      = some ⟨image.info.sharing, (Image.ofInfo image.info).states, image.states⟩ :=
    congrArg (Option.map _) hget
  have hinitial : ((Image.ofInfo image.info).states.get? i).isSome = true := by
    rw [Image.ofInfo, RangeMap.get?_replicate, if_pos hcovers.lt_trackedSize]
    rfl
  rw [Registry.stateAt?_of_tracked? ht, ← Option.isSome_iff_exists, h.tracked_domain ht]
  exact hinitial

namespace ImageBarrier

variable {barrier : ImageBarrier} {p q : Nat}
  (htransfer : barrier.transfer = some (.exclusiveBetweenLocal p q)) (hne : p ≠ q)
include htransfer hne

/-- The first half of the handshake. -/
theorem CanRelease.release {s : Session} (hs : s.Reachable) {image : Image}
    (himage : s.device.registry.get? barrier.image = some image)
    (hexclusive : s.device.registry.sharing? (.image barrier.image) = some .exclusive)
    (h : barrier.CanRelease image.info p s.device.registry) {queue : Queue} {handle : Handle .commandBuffer}
    (hadmits : s.device.Admits queue handle (barrier.log image.info p)) :
    ((barrier.log image.info p).replay s.device.registry).findings = []
      ∧ ∀ i, image.info.Covers barrier.range i → ∃ before after,
        s.device.registry.stateAt? (.image barrier.image) i = some before
        ∧ (s.submitOne queue handle).device.registry.stateAt? (.image barrier.image) i = some after
        ∧ after.owner = .released p q ∧ after.layout = before.layout := by
  have hwell := hs.wellFormed.registry
  refine ⟨replay_findings_eq_nil hwell hexclusive fun i state hcovers hstate =>
    runsCleanly_source htransfer hne (h i state hcovers hstate).1 .exclusive, fun i hcovers => ?_⟩
  obtain ⟨before, hbefore⟩ := hs.exists_stateAt? himage hcovers
  have hafter := stateAt?_submitOne hwell hadmits hexclusive i
  rw [hbefore, Option.map_some, stateAfter_source htransfer hne ⟨rfl, hcovers⟩] at hafter
  exact ⟨before, _, hbefore, hafter, rfl, rfl⟩

/-- The second half of the handshake. -/
theorem UnderWay.acquire {s : Session} (hs : s.Reachable) {info : ImageInfo}
    (hexclusive : s.device.registry.sharing? (.image barrier.image) = some .exclusive)
    (h : barrier.UnderWay info p q s.device.registry) {queue : Queue} {handle : Handle .commandBuffer}
    (hadmits : s.device.Admits queue handle (barrier.log info q)) :
    ((barrier.log info q).replay s.device.registry).findings = []
      ∧ ∀ i, info.Covers barrier.range i → ∃ after,
        (s.submitOne queue handle).device.registry.stateAt? (.image barrier.image) i = some after
        ∧ after.owner = .owned q ∧ after.layout = barrier.newLayout := by
  have hwell := hs.wellFormed.registry
  refine ⟨replay_findings_eq_nil hwell hexclusive fun i state hcovers hstate => ?_, fun i hcovers => ?_⟩
  · obtain ⟨state', hstate', howner, hlayout⟩ := h i hcovers
    obtain rfl := Option.some.inj (hstate.symm.trans hstate')
    exact runsCleanly_destination htransfer hne howner hlayout .exclusive
  · obtain ⟨state, hstate, -, -⟩ := h i hcovers
    have hafter := stateAt?_submitOne hwell hadmits hexclusive i
    rw [hstate, Option.map_some, stateAfter_destination htransfer hne ⟨rfl, hcovers⟩] at hafter
    exact ⟨_, hafter, rfl, rfl⟩

end ImageBarrier

/-- What a standard rule has to complain about is reported. -/
theorem Standard.mem_evaluate (subject : List Rule) (hsubject : subject ∈ subjects) {rule : Rule}
    (hrule : rule ∈ subject) {ctx : Context} (happlies : rule.appliesTo ctx.operation.checkpoint = true)
    {violation : Violation} (h : violation ∈ rule.predicate.check ctx) :
    rule.diagnostic violation ∈ engine.evaluate ctx := by
  refine List.mem_flatMap.mpr ⟨rule, List.mem_filter.mpr ⟨mem_rules hsubject hrule, happlies⟩, ?_⟩
  exact List.mem_map_of_mem h

/-- The rule about images that are acquired without a release. -/
def Standard.acquireRule : Rule := replayRules[2]

/-- On the standard engine a submission reports the images that it acquires without a release. -/
theorem Device.reports_acquireUnreleased {d : Device} (hengine : d.engine = Standard.engine) {queue : Queue}
    {handle : Handle .commandBuffer} {log : CommandLog} (hadmits : d.Admits queue handle log)
    {finding : Finding} (hmem : finding ∈ (log.replay d.registry).findings)
    (hkind : finding.kind = .acquireUnreleased) (himage : finding.resource.isImage = true) :
    Standard.acquireRule.diagnostic ⟨finding.message, [finding.resource.id]⟩
      ∈ (d.submitOne queue handle).diagnostics := by
  obtain ⟨cb, hget, hlog, -⟩ := hadmits
  rw [submitOne_diagnostics hget, hengine]
  refine Standard.mem_evaluate Standard.replayRules (by simp [Standard.subjects]) (List.getElem_mem _) rfl ?_
  have hlisted : finding ∈ (log.replay d.registry).findingsOf .acquireUnreleased true := by
    refine List.mem_filter.mpr ⟨hmem, ?_⟩
    rw [hkind, himage]
    rfl
  show _ ∈ ((SubmissionContext.of d.registry queue handle cb).report.findingsOf _ _).map _
  rw [SubmissionContext.of, hlog]
  exact List.mem_map_of_mem hlisted

/-- The handshake that hands an exclusive image over transfers it once.  On the standard engine, let `p` and
`q` be two different families that exist, and let a barrier be a transfer from `p` to `q`.  It can be recorded
into a command buffer of its own exactly if its new layout is one that images can be moved to.  If what it
covers is unused or owned by `p`, and is in the old layout or the old layout is undefined, then submitting it
in a command buffer of `p` finds nothing, releases what it covers from `p` to `q` and leaves the layout alone;
and submitting it in a command buffer of `q` after that finds nothing, makes `q` the owner and changes the
layout.  In between the session may go on as it likes, as long as no log that is executed names what the
barrier covers.  If the command buffer of `q` comes first, and covers anything at all, the acquisition is
reported; `p` is not one of the two numbers that stand for families outside of the device here. -/
theorem ownership_handshake {s : Session} (hs : s.Reachable) (hengine : s.device.engine = Standard.engine)
    (hfew : s.FewObjects) {p q : Nat} (hp : s.device.environment.HasFamily p)
    (hq : s.device.environment.HasFamily q) (hne : p ≠ q) {barrier : ImageBarrier}
    (htransfer : barrier.transfer = some (.exclusiveBetweenLocal p q)) {image : Image}
    (himage : s.device.registry.get? barrier.image = some image)
    (hexclusive : image.info.sharing = .exclusive) :
    -- The barrier can be recorded alone, in command buffers of both families.
    (∀ opening handle family, s.Opens opening handle family →
      (s.succeeds (s.bufferCalls opening [.barrier barrier.alone]) = true
        ↔ barrier.newLayout ≠ .undefined ∧ barrier.newLayout ≠ .preinitialized)
      ∧ (s.succeeds (s.bufferCalls opening [.barrier barrier.alone]) = true →
        s.device.Records handle (barrier.log image.info family)
          (s.recordBuffer opening [.barrier barrier.alone]).device))
    ∧ (barrier.CanRelease image.info p s.device.registry →
      -- The source comes first, and then, after submissions that have nothing to do with it, the destination.
      (∀ queue a, s.device.Admits queue a (barrier.log image.info p) →
        ((barrier.log image.info p).replay s.device.registry).findings = []
        ∧ (∀ i, image.info.Covers barrier.range i → ∃ before after,
          s.device.registry.stateAt? (.image barrier.image) i = some before
          ∧ (s.submitOne queue a).device.registry.stateAt? (.image barrier.image) i = some after
          ∧ after.owner = .released p q ∧ after.layout = before.layout)
        ∧ ∀ s', (s.submitOne queue a).Leads (barrier.Spares image.info) s' → s'.FewObjects →
          ∀ queue' b, s'.device.Admits queue' b (barrier.log image.info q) →
            ((barrier.log image.info q).replay s'.device.registry).findings = []
            ∧ ∀ i, image.info.Covers barrier.range i → ∃ after,
              (s'.submitOne queue' b).device.registry.stateAt? (.image barrier.image) i = some after
              ∧ after.owner = .owned q ∧ after.layout = barrier.newLayout)
      -- The destination comes first.
      ∧ (QueueFamily.isOutside p = false → (∃ i, image.info.Covers barrier.range i) →
        ∀ queue b, s.device.Admits queue b (barrier.log image.info q) →
          ∃ finding ∈ ((barrier.log image.info q).replay s.device.registry).findings,
            finding.resource = .image barrier.image ∧ finding.kind = .acquireUnreleased
            ∧ ∃ diagnostic ∈ (s.device.submitOne queue b).diagnostics,
              diagnostic.vuid = "UNASSIGNED-VkImageMemoryBarrier-image-00004"
              ∧ diagnostic.message = finding.message)) := by
  have hwell := hs.wellFormed.registry
  have hsharing : s.device.registry.sharing? (.image barrier.image) = some .exclusive := by
    rw [← hexclusive]
    exact congrArg (Option.map fun image : Image => image.info.sharing) himage
  refine ⟨fun opening handle family hopens =>
    hopens.alone hs hengine hfew himage hexclusive htransfer hp hq, fun hready => ⟨?_, ?_⟩⟩
  · intro queue a hadmits
    obtain ⟨hclean, hreleased⟩ := hready.release htransfer hne hs himage hsharing hadmits
    refine ⟨hclean, hreleased, fun s' hleads hfew' queue' b hadmits' => ?_⟩
    have hs₁ : (s.submitOne queue a).Reachable := hs.submission queue a
    -- The image is alive before and after what comes in between, as both submissions refer to it.
    have halive : (s.submitOne queue a).device.registry.contains (Resource.image barrier.image).id = true :=
      (s.device.contains_submitOne queue a _).trans (Registry.contains_of_get? himage)
    have halive' : s'.device.registry.contains (Resource.image barrier.image).id = true := by
      obtain ⟨_, -, -, -, -, -, hall⟩ := hadmits'
      refine hall _ ?_
      rw [ImageBarrier.log_references]
      exact List.mem_cons_self
    obtain ⟨hsharing', hstates⟩ := hleads.keeps hs₁ hfew' halive halive'
    have hunderWay : barrier.UnderWay image.info p q s'.device.registry := by
      intro i hcovers
      obtain ⟨before, after, hbefore, hafter, howner, hlayout⟩ := hreleased i hcovers
      rw [← hstates i fun log hspares => hspares i hcovers] at hafter
      exact ⟨after, hafter, howner, hlayout ▸ (hready i before hcovers hbefore).2⟩
    exact hunderWay.acquire htransfer hne (hleads.reachable hs₁)
      (hsharing'.trans ((Device.sharing?_submitOne hwell queue a _).trans hsharing)) hadmits'
  · intro hlocal ⟨i, hcovers⟩ queue b hadmits
    obtain ⟨state, hstate⟩ := hs.exists_stateAt? himage hcovers
    have howner : state.owner ≠ .released p q := by
      rcases (hready i state hcovers hstate).1 with hignored | howned
      · rw [hignored]
        exact fun h => by cases h
      · rw [howned]
        exact fun h => by cases h
    obtain ⟨finding, hmem, hresource, hkind⟩ :=
      ImageBarrier.finds_acquireUnreleased hwell hsharing htransfer hne hlocal hcovers hstate howner
    have hreported := Device.reports_acquireUnreleased hengine hadmits hmem hkind (by rw [hresource]; rfl)
    exact ⟨finding, hmem, hresource, hkind, _, hreported, rfl, rfl⟩

/-- A transfer of the first two of three mip levels from family 0 to family 1. -/
def levelsTransfer : ImageBarrier where
  image := .ofSerial .image 1
  oldLayout := .transferDstOptimal
  newLayout := .general
  transfer := some (.exclusiveBetweenLocal 0 1)
  range := ⟨.color, ⟨0, 2⟩, ⟨0, 1⟩⟩

/-- A small image with three mip levels. -/
def threeLevels : ImageInfo where
  format := .r8g8b8a8Unorm
  extent := ⟨4, 4, 1⟩
  mipLevels := 3
  usage := .transferDst

/-- A session in which two levels of an image are in the layout for transfers.  Only the first one was
cleared, so that family 0 owns it and nobody owns the second one.  The transfer was recorded for family 0. -/
def clearedLevel : Session :=
  (Session.start {} Standard.engine).run
    [.createImage threeLevels,
      .allocateMemory { size := 65536 },
      .bindImage (.ofSerial .image 1) (.ofSerial .deviceMemory 2) 0,
      .beginCommandBuffer ⟨0, 0⟩ none .multipleSubmit,
      .record 0 (.barrier { imageBarriers := [{
        image := .ofSerial .image 1, newLayout := .transferDstOptimal
        range := ⟨.color, ⟨0, 2⟩, ⟨0, 1⟩⟩ }] }),
      .record 0 (.clear { image := .ofSerial .image 1, regions := [⟨.color, ⟨0, 1⟩, ⟨0, 1⟩⟩] }),
      .endCommandBuffer 0,
      .submit [{ queue := ⟨0, 0⟩, commandBuffers := [.ofSerial .commandBuffer 3] }],
      .beginCommandBuffer ⟨0, 0⟩ none .multipleSubmit,
      .record 1 (.barrier levelsTransfer.alone),
      .endCommandBuffer 1,
      .beginCommandBuffer ⟨1, 0⟩ none .multipleSubmit,
      .record 2 (.barrier levelsTransfer.alone),
      .endCommandBuffer 2]

/-- A barrier that moves the last level of the first image. -/
def lastLevel : ImageBarrier where
  image := .ofSerial .image 1
  newLayout := .general
  range := ⟨.color, ⟨2, 3⟩, ⟨0, 1⟩⟩

/-- The third level is moved to another layout. -/
def moveLastLevel : List Call :=
  [.beginCommandBuffer ⟨0, 0⟩ none .multipleSubmit,
    .record 3 (.barrier lastLevel.alone),
    .endCommandBuffer 3,
    .submit [{ queue := ⟨0, 0⟩, commandBuffers := [.ofSerial .commandBuffer 6] }]]

/-- The session after family 0 has released both levels, and the third one was moved. -/
def releasedLevels : Session :=
  (clearedLevel.submitOne ⟨0, 0⟩ (.ofSerial .commandBuffer 4)).run moveLastLevel

/-- The transfer covers the first two subresources. -/
theorem covers_levelsTransfer (i : Nat) : threeLevels.Covers levelsTransfer.range i ↔ i < 2 := by
  have hranges : threeLevels.indexRanges levelsTransfer.range = [⟨0, 2⟩] := by decide +kernel
  rw [← threeLevels.any_contains_indexRanges, hranges]
  simp [Interval.contains]

theorem clearedLevel_canRelease :
    levelsTransfer.CanRelease threeLevels 0 clearedLevel.device.registry := by
  have hstates : ∀ i < 2, ∀ state ∈ clearedLevel.device.registry.stateAt? (.image (.ofSerial .image 1)) i,
      (state.owner = .ignored ∨ state.owner = .owned 0)
        ∧ (levelsTransfer.oldLayout = .undefined ∨ state.layout = levelsTransfer.oldLayout) := by
    decide +kernel
  exact fun i state hi hstate => hstates i ((covers_levelsTransfer i).mp hi) state hstate

/-- The third level is none of those that are handed over. -/
theorem levelsTransfer_spares_lastLevel : levelsTransfer.Spares threeLevels (lastLevel.log threeLevels 0) := by
  intro i hi hnames
  have hranges : threeLevels.indexRanges lastLevel.range = [⟨2, 3⟩] := by decide +kernel
  obtain ⟨-, hlast⟩ := lastLevel.touches_of_names threeLevels 0 hnames
  rw [← threeLevels.any_contains_indexRanges, hranges] at hlast
  have hlt := (covers_levelsTransfer i).mp hi
  simp [Interval.contains] at hlast
  omega

theorem leads_releasedLevels : (clearedLevel.submitOne ⟨0, 0⟩ (.ofSerial .commandBuffer 4)).Leads
    (levelsTransfer.Spares threeLevels) releasedLevels := by
  have hbetween : ((clearedLevel.submitOne ⟨0, 0⟩ (.ofSerial .commandBuffer 4)).executed moveLastLevel).map
      Device.Execution.log = [lastLevel.log threeLevels 0] := by
    decide +kernel
  refine Session.Leads.here.run fun e he => ?_
  have hlog : e.log ∈ [lastLevel.log threeLevels 0] := hbetween ▸ List.mem_map_of_mem he
  rw [List.mem_singleton.mp hlog]
  exact levelsTransfer_spares_lastLevel

/-- Both levels are handed over, while the third one is moved in between. -/
theorem levelsTransfer_handshake :
    ((levelsTransfer.log threeLevels 0).replay clearedLevel.device.registry).findings = []
      ∧ ((levelsTransfer.log threeLevels 1).replay releasedLevels.device.registry).findings = []
      ∧ (∀ i < 2, ∃ state,
        (releasedLevels.submitOne ⟨1, 0⟩ (.ofSerial .commandBuffer 5)).device.registry.stateAt?
          (.image (.ofSerial .image 1)) i = some state ∧ state.owner = .owned 1 ∧ state.layout = .general)
      ∧ ∃ diagnostic ∈ (clearedLevel.device.submitOne ⟨1, 0⟩ (.ofSerial .commandBuffer 5)).diagnostics,
        diagnostic.vuid = "UNASSIGNED-VkImageMemoryBarrier-image-00004" := by
  have hs : clearedLevel.Reachable := (Session.Reachable.start {} Standard.engine).run _
  have hengine : clearedLevel.device.engine = Standard.engine := by
    rw [clearedLevel]
    exact Session.run_engine _ _
  have hfew : clearedLevel.FewObjects := by
    unfold Session.FewObjects
    decide +kernel
  have hfew' : releasedLevels.FewObjects := by
    unfold Session.FewObjects
    decide +kernel
  have hfamilies : clearedLevel.device.environment.HasFamily 0
      ∧ clearedLevel.device.environment.HasFamily 1 := by
    unfold Environment.HasFamily
    decide +kernel
  obtain ⟨image, himage, hinfo⟩ : ∃ image, clearedLevel.device.registry.get? levelsTransfer.image = some image
      ∧ image.info = threeLevels := by
    refine Option.map_eq_some_iff.mp ?_
    decide +kernel
  have hrelease : clearedLevel.device.Admits ⟨0, 0⟩ (.ofSerial .commandBuffer 4)
      (levelsTransfer.log threeLevels 0) := by
    decide +kernel
  have hacquire : releasedLevels.device.Admits ⟨1, 0⟩ (.ofSerial .commandBuffer 5)
      (levelsTransfer.log threeLevels 1) := by
    decide +kernel
  have htooEarly : clearedLevel.device.Admits ⟨1, 0⟩ (.ofSerial .commandBuffer 5)
      (levelsTransfer.log threeLevels 1) := by
    decide +kernel
  obtain ⟨-, hhandshake⟩ := ownership_handshake hs hengine hfew hfamilies.1 hfamilies.2 (by decide)
    (show levelsTransfer.transfer = some (.exclusiveBetweenLocal 0 1) from rfl) himage (by rw [hinfo]; rfl)
  rw [hinfo] at hhandshake
  obtain ⟨hforward, hbackward⟩ := hhandshake clearedLevel_canRelease
  obtain ⟨hreleases, -, hlater⟩ := hforward _ _ hrelease
  obtain ⟨hacquires, howned⟩ := hlater _ leads_releasedLevels hfew' _ _ hacquire
  obtain ⟨-, -, -, -, diagnostic, hmem, hvuid, -⟩ :=
    hbackward (by decide) ⟨0, (covers_levelsTransfer 0).mpr (by decide)⟩ _ _ htooEarly
  exact ⟨hreleases, hacquires, fun i hi => howned i ((covers_levelsTransfer i).mpr hi), diagnostic, hmem, hvuid⟩

end VulkanValidity
