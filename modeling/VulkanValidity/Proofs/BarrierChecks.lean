/-
  VulkanValidity.Proofs.BarrierChecks

  What the standard engine has to say about barrier commands.  The rules about old layouts aside, a rule
  looks at each barrier on its own, and of the recording it sees only whether a render pass is active.  So
  if these rules have nothing to say about a command, they have nothing to say about some of its barriers
  either, wherever in the render pass these are recorded (`Standard.structural_part`).  All that is left
  to report are old layouts, which are compared with the recording before the command
  (`Standard.evaluate_barrier`).
-/

import VulkanValidity.Proofs.CommandChecks
import VulkanValidity.Proofs.Families

namespace VulkanValidity

/-! ## Parts of commands -/

/-- The barriers of a command are among those of another one. -/
structure Dependency.IsPart (part whole : Dependency) : Prop where
  images : ∀ barrier ∈ part.imageBarriers, barrier ∈ whole.imageBarriers
  buffers : ∀ barrier ∈ part.bufferBarriers, barrier ∈ whole.bufferBarriers

theorem Dependency.IsPart.refl (dependency : Dependency) : dependency.IsPart dependency :=
  ⟨fun _ h => h, fun _ h => h⟩

/-- The contexts show a barrier command, and then a part of it that is recorded in the same render pass. -/
inductive Context.ShowsPart : Context → Context → Prop
  | barriers (d : Device) {recording recording' : Recording}
      (hpass : recording'.renderPass = recording.renderPass) {whole part : Dependency}
      (hpart : part.IsPart whole) :
    ShowsPart (d.commandContext recording (.barrier whole)) (d.commandContext recording' (.barrier part))

/-- A check that finds nothing wrong with a barrier command finds nothing wrong with its parts. -/
def Check.PassesParts (check : Check) : Prop :=
  ∀ ctx ctx' : Context, ctx.ShowsPart ctx' → check ctx = [] → check ctx' = []

namespace Context.ShowsPart

variable {ctx ctx' : Context} (h : ctx.ShowsPart ctx')
include h

theorem registry : ctx'.registry = ctx.registry := by
  cases h with
  | barriers => rfl

theorem environment : ctx'.environment = ctx.environment := by
  cases h with
  | barriers => rfl

theorem isInside : BarrierRules.isInside ctx' = BarrierRules.isInside ctx := by
  cases h with
  | barriers _ hpass => exact congrArg Option.isSome hpass

theorem subset_objects : ∀ id ∈ ctx'.operation.objects, id ∈ ctx.operation.objects := by
  cases h with
  | barriers _ _ hpart =>
    intro id hid
    rcases List.mem_append.mp hid with hid | hid
    · obtain ⟨barrier, hbarrier, rfl⟩ := List.mem_map.mp hid
      exact List.mem_append_left _ (List.mem_map_of_mem (hpart.images barrier hbarrier))
    · obtain ⟨barrier, hbarrier, rfl⟩ := List.mem_map.mp hid
      exact List.mem_append_right _ (List.mem_map_of_mem (hpart.buffers barrier hbarrier))

end Context.ShowsPart

/-! ## Rules that pass parts -/

theorem ObjectRules.passesParts_objectDestroyed : Check.PassesParts objectDestroyed := by
  intro ctx ctx' hctx hnone
  refine objectDestroyed_eq_nil.mpr fun id hid => ?_
  rw [hctx.registry]
  exact objectDestroyed_eq_nil.mp hnone id (hctx.subset_objects id hid)

theorem ObjectRules.passesParts_objectUnknown : Check.PassesParts objectUnknown := by
  intro ctx ctx' hctx hnone
  refine objectUnknown_eq_nil.mpr fun id hid => ?_
  rw [hctx.registry]
  exact objectUnknown_eq_nil.mp hnone id (hctx.subset_objects id hid)

namespace BarrierRules

/-- The index of a barrier is only told, so that it may be another one in the part. -/
theorem passesParts_onImages {check : Context → ImageBarrier → Nat → List Violation}
    (h : ∀ {ctx ctx' : Context}, ctx.ShowsPart ctx' → ∀ barrier index index',
      check ctx barrier index = [] → check ctx' barrier index' = []) :
    Check.PassesParts (onImages check) := by
  intro ctx ctx' hctx hnone
  have hcheck := fun barrier index index' => h hctx barrier index index'
  cases hctx with
  | barriers d _ hpart =>
    refine List.flatMap_eq_nil_iff.mpr fun ⟨barrier, index'⟩ hmem => ?_
    have hbarrier := hpart.images barrier (List.fst_mem_of_mem_zipIdx hmem)
    obtain ⟨index, hindex⟩ := exists_of_onImages_eq_nil rfl hnone hbarrier
    exact hcheck barrier index index' hindex

theorem passesParts_onBuffers {check : Context → BufferBarrier → Nat → List Violation}
    (h : ∀ {ctx ctx' : Context}, ctx.ShowsPart ctx' → ∀ barrier index index',
      check ctx barrier index = [] → check ctx' barrier index' = []) :
    Check.PassesParts (onBuffers check) := by
  intro ctx ctx' hctx hnone
  have hcheck := fun barrier index index' => h hctx barrier index index'
  cases hctx with
  | barriers d _ hpart =>
    refine List.flatMap_eq_nil_iff.mpr fun ⟨barrier, index'⟩ hmem => ?_
    have hbarrier := hpart.buffers barrier (List.fst_mem_of_mem_zipIdx hmem)
    obtain ⟨index, hindex⟩ := exists_of_onBuffers_eq_nil rfl hnone hbarrier
    exact hcheck barrier index index' hindex

theorem transferSharing_eq_nil {field field' : String} {transfer : OwnershipTransfer} {sharing : Sharing}
    {object : ObjectId} (hnone : transferSharing field transfer sharing object = []) :
    transferSharing field' transfer sharing object = [] :=
  violationIf_eq_nil.mpr (violationIf_eq_nil.mp hnone)

theorem transferFamilies_eq_nil {env : Environment} {field field' : String}
    {transfer : Option OwnershipTransfer} {object : ObjectId}
    (hnone : transferFamilies env field transfer object = []) :
    transferFamilies env field' transfer object = [] := by
  unfold transferFamilies at hnone ⊢
  dsimp only at hnone ⊢
  split at hnone
  · cases hnone
  · rfl

theorem passesParts_newLayout : Check.PassesParts newLayout :=
  passesParts_onImages fun _ _ _ _ hnone => violationIf_eq_nil.mpr (violationIf_eq_nil.mp hnone)

theorem passesParts_imageSharing : Check.PassesParts imageSharing := by
  refine passesParts_onImages fun hctx barrier index index' hnone => ?_
  rw [hctx.registry]
  split at hnone
  · exact transferSharing_eq_nil hnone
  · rfl

theorem passesParts_bufferSharing : Check.PassesParts bufferSharing := by
  refine passesParts_onBuffers fun hctx barrier index index' hnone => ?_
  rw [hctx.registry]
  split at hnone
  · exact transferSharing_eq_nil hnone
  · rfl

theorem passesParts_imageFamilies : Check.PassesParts imageFamilies :=
  passesParts_onImages fun hctx _ _ _ hnone => by
    rw [hctx.environment]
    exact transferFamilies_eq_nil hnone

theorem passesParts_bufferFamilies : Check.PassesParts bufferFamilies :=
  passesParts_onBuffers fun hctx _ _ _ hnone => by
    rw [hctx.environment]
    exact transferFamilies_eq_nil hnone

theorem passesParts_layoutInside : Check.PassesParts layoutInside :=
  passesParts_onImages fun hctx _ _ _ hnone => by
    rw [hctx.isInside]
    exact violationIf_eq_nil.mpr (violationIf_eq_nil.mp hnone)

theorem passesParts_ownershipInside : Check.PassesParts ownershipInside := by
  -- The rule goes through both lists of barriers.
  intro ctx ctx' hctx hnone
  obtain ⟨himages, hbuffers⟩ := List.append_eq_nil_iff.mp hnone
  refine List.append_eq_nil_iff.mpr ⟨?_, ?_⟩
  · refine passesParts_onImages (fun hctx barrier index index' hnone => ?_) ctx ctx' hctx himages
    rw [transferOutside, hctx.isInside]
    exact violationIf_eq_nil.mpr (violationIf_eq_nil.mp hnone)
  · refine passesParts_onBuffers (fun hctx barrier index index' hnone => ?_) ctx ctx' hctx hbuffers
    rw [transferOutside, hctx.isInside]
    exact violationIf_eq_nil.mpr (violationIf_eq_nil.mp hnone)

end BarrierRules

/-! ## The standard rules -/

namespace Standard

/-- The rule about old layouts. -/
def oldLayoutRule : Rule := barrierRules[7]

/-- The rules about barrier commands other than the one about old layouts. -/
def structuralRules : List Rule := objectRules.take 2 ++ barrierRules.take 7

theorem passesParts_structuralRules : ∀ rule ∈ structuralRules, rule.predicate.check.PassesParts := by
  simp only [structuralRules, objectRules, barrierRules, rule, everywhere, List.take_succ_cons,
    List.take_zero, List.cons_append, List.nil_append, List.forall_mem_cons, List.not_mem_nil,
    false_implies, implies_true, and_true]
  exact ⟨ObjectRules.passesParts_objectDestroyed, ObjectRules.passesParts_objectUnknown,
    BarrierRules.passesParts_newLayout, BarrierRules.passesParts_imageSharing,
    BarrierRules.passesParts_bufferSharing, BarrierRules.passesParts_imageFamilies,
    BarrierRules.passesParts_bufferFamilies, BarrierRules.passesParts_layoutInside,
    BarrierRules.passesParts_ownershipInside⟩

theorem kind_of_mem_structuralRules : ∀ rule ∈ structuralRules, rule.kind ≠ .layoutMismatch := by
  decide

section Barrier

variable (d : Device) (recording : Recording) (dependency : Dependency)

/-- The rules about other commands, and those about queues, have nothing to say about barriers. -/
theorem evaluate_barrier_eq :
    engine.evaluate (d.commandContext recording (.barrier dependency))
      = (structuralRules ++ [oldLayoutRule]).flatMap fun rule =>
          rule.diagnostics (d.commandContext recording (.barrier dependency)) := by
  show (engine.rules.filter fun rule => rule.appliesTo .commandRecording).flatMap _ = _
  rw [recordingRules_eq]
  rfl

variable {d recording dependency}

/-- A barrier command has no error other than with layouts if the other rules have nothing to say. -/
theorem not_structural_iff :
    hasStructuralError (engine.evaluate (d.commandContext recording (.barrier dependency))) = false
      ↔ ∀ rule ∈ structuralRules,
        rule.predicate.check (d.commandContext recording (.barrier dependency)) = [] := by
  rw [evaluate_barrier_eq]
  constructor
  · intro h rule hrule
    -- Whatever one of these rules has to say is of another kind, and would count.
    refine List.eq_nil_iff_forall_not_mem.mpr fun violation hviolation => ?_
    have hmem : rule.diagnostic violation ∈ (structuralRules ++ [oldLayoutRule]).flatMap fun rule =>
        rule.diagnostics (d.commandContext recording (.barrier dependency)) :=
      List.mem_flatMap.mpr ⟨rule, List.mem_append_left _ hrule, List.mem_map_of_mem hviolation⟩
    rw [← evaluate_barrier_eq] at h hmem
    exact kind_of_mem_structuralRules rule hrule (kind_of_not_structural h hmem)
  · intro h
    -- An error that counts comes from one of the rules, and not from the one about old layouts.
    refine Bool.eq_false_iff.mpr fun herror => ?_
    obtain ⟨diagnostic, hmem, -, hkind⟩ := hasStructuralError_eq_true.mp herror
    obtain ⟨rule, hrule, hmem⟩ := List.mem_flatMap.mp hmem
    obtain ⟨violation, hviolation, rfl⟩ := List.mem_map.mp hmem
    rcases List.mem_append.mp hrule with hrule | hrule
    · rw [h rule hrule] at hviolation
      cases hviolation
    · obtain rfl := List.mem_singleton.mp hrule
      exact hkind rfl

/-- Then all that it is reported for is old layouts. -/
theorem evaluate_barrier
    (h : hasStructuralError (engine.evaluate (d.commandContext recording (.barrier dependency))) = false) :
    engine.evaluate (d.commandContext recording (.barrier dependency))
      = oldLayoutRule.diagnostics (d.commandContext recording (.barrier dependency)) := by
  have hsilent : (structuralRules.flatMap fun rule =>
      rule.diagnostics (d.commandContext recording (.barrier dependency))) = [] :=
    Rule.flatMap_diagnostics_eq_nil.mpr (not_structural_iff.mp h)
  rw [evaluate_barrier_eq, List.flatMap_append, hsilent, List.nil_append, List.flatMap_singleton]

/-- If only its old layouts can be at fault, then so it is with each of its parts. -/
theorem structural_part
    (h : hasStructuralError (engine.evaluate (d.commandContext recording (.barrier dependency))) = false)
    {recording' : Recording} (hpass : recording'.renderPass = recording.renderPass) {part : Dependency}
    (hpart : part.IsPart dependency) :
    hasStructuralError (engine.evaluate (d.commandContext recording' (.barrier part))) = false :=
  not_structural_iff.mpr fun rule hrule => passesParts_structuralRules rule hrule _ _
    (.barriers d hpass hpart) (not_structural_iff.mp h rule hrule)

end Barrier

end Standard

/-! ## Old layouts -/

/-- A layout that contradicts the old layout of a barrier: one that a subresource under the barrier is
known to be in. An old layout that is undefined stands for any layout. -/
def Recording.contradiction? (recording : Recording) (registry : Registry) (barrier : ImageBarrier) :
    Option ImageLayout := do
  let image ← registry.get? barrier.image
  if barrier.oldLayout = .undefined then none
  else recording.layoutMismatch? barrier.image image.info barrier.range barrier.oldLayout

/-- The violation of a barrier with the given index, while the image is known to be in `current`. -/
def BarrierRules.oldLayoutViolation (barrier : ImageBarrier) (index : Nat) (current : ImageLayout) :
    Violation :=
  ⟨s!"`{imageField index}.old_layout` is `{barrier.oldLayout}`, but the subresources are " ++
    s!"in layout `{current}` at this point of the command buffer", [barrier.image.erase]⟩

/-- What is reported of the old layouts of a barrier command that is added to a recording. -/
def Recording.mismatches (recording : Recording) (registry : Registry) (dependency : Dependency) :
    List Diagnostic :=
  dependency.imageBarriers.zipIdx.flatMap fun (barrier, index) =>
    (recording.contradiction? registry barrier).toList.map fun current =>
      Standard.oldLayoutRule.diagnostic (BarrierRules.oldLayoutViolation barrier index current)

theorem Standard.oldLayoutRule_diagnostics (d : Device) (recording : Recording)
    (dependency : Dependency) :
    oldLayoutRule.diagnostics (d.commandContext recording (.barrier dependency))
      = recording.mismatches d.registry dependency := by
  -- Both sides go through the barriers with their indices, so that one of them is enough.
  show (dependency.imageBarriers.zipIdx.flatMap _).map _ = _
  rw [List.map_flatMap, Recording.mismatches]
  refine congrArg (fun f => dependency.imageBarriers.zipIdx.flatMap f) (funext fun (barrier, index) => ?_)
  simp only [Recording.contradiction?, Device.commandContext, Device.context]
  cases himage : d.registry.get? barrier.image with
  | none => rfl
  | some image =>
    by_cases hold : barrier.oldLayout = .undefined
    · simp [hold]
    · simp only [hold, if_false, Option.bind_eq_bind, Option.bind_some]
      cases recording.layoutMismatch? barrier.image image.info barrier.range barrier.oldLayout <;> rfl

namespace Recorder

variable {recorder : Recorder} {d : Device} (hengine : d.engine = Standard.engine)
  {dependency : Dependency}
  (h : hasStructuralError (recorder.record d (.barrier dependency)).diagnostics = false)
include hengine h

/-- A barrier command without any other error is reported for its old layouts, which are compared with
what was recorded before. -/
theorem barrier_diagnostics : (recorder.record d (.barrier dependency)).diagnostics
    = recorder.recording.mismatches d.registry dependency := by
  rw [record_diagnostics, Device.diagnoseRecording, hengine] at h ⊢
  exact (Standard.evaluate_barrier h).trans (Standard.oldLayoutRule_diagnostics d _ dependency)

theorem not_structural_part {recorder' : Recorder}
    (hpass : recorder'.recording.renderPass = recorder.recording.renderPass) {part : Dependency}
    (hpart : part.IsPart dependency) :
    hasStructuralError (recorder'.record d (.barrier part)).diagnostics = false := by
  rw [record_diagnostics, Device.diagnoseRecording, hengine] at h ⊢
  exact Standard.structural_part h hpass hpart

end Recorder

end VulkanValidity
