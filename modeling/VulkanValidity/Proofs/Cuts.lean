/-
  VulkanValidity.Proofs.Cuts

  Recordings that are cut in two.  The commands of a recording can be recorded into two command buffers
  instead, if no render pass is active at the cut.  The second recording starts with nothing: it does not
  know the layouts that the first one leaves, expects layouts of its own, and uses what the joint recording
  has known for long as if for the first time.  Still each subresource is in the end in the layout of the
  joint recording (`LayoutKnowledge.Joins`), because every step that takes a layout for granted was
  checked, and so determines the layout of all that it covers (`LayoutStep.Fixes`).

  `Recording.Joins` relates the three recordings.  One command keeps it (`Recorder.record_joins`), and so
  do all of them.
-/

import VulkanValidity.Proofs.Accesses
import VulkanValidity.Proofs.CommandChecks

namespace VulkanValidity

/-! ## Steps that determine layouts -/

namespace LayoutStep

variable {step : LayoutStep} {layout : ImageLayout} {known : LayoutKnowledge}

/-- The step leaves all subresources that it covers in one layout, be they known or not: it moves them
there, or they are known to be there already. -/
def Fixes (step : LayoutStep) (layout : ImageLayout) (known : LayoutKnowledge) : Prop :=
  step.sets.or step.declared = some layout
    ∧ ∀ image i l, step.covers image i = true → known image i = some l →
      step.sets.getD l.current = layout

theorem Fixes.current_learned (h : step.Fixes layout known) {image : Handle .image} {i : Nat}
    (hc : step.covers image i = true) :
    (step.learned (known image i)).map LocalLayout.current = some layout := by
  cases hk : known image i with
  | none =>
    rw [learned, h.1]
    rfl
  | some l => exact congrArg some (h.2 image i l hc hk)

theorem fixes_of_sets (hsets : step.sets = some layout) (known : LayoutKnowledge) :
    step.Fixes layout known := by
  refine ⟨by rw [hsets, Option.some_or], fun _ _ _ _ _ => ?_⟩
  rw [hsets, Option.getD_some]

theorem fixes_of_agrees (hsets : step.sets = none) (hattachment : step.attachment = false)
    (hdeclared : step.declared = some layout) (hagrees : step.Agrees known) :
    step.Fixes layout known := by
  refine ⟨by rw [hsets, hdeclared, Option.none_or], fun image i l hc hl => ?_⟩
  rw [hsets, Option.getD_none]
  rcases hagrees with hbegins | hagrees
  · rw [hattachment] at hbegins
    cases hbegins
  · exact hagrees image i l layout hc hl hdeclared

/-- Each of the steps, one after the other, leaves what it covers in one layout. -/
def FixAll : LayoutKnowledge → List LayoutStep → Prop
  | _, [] => True
  | known, step :: rest => (∃ layout, step.Fixes layout known) ∧ FixAll (step.learn known) rest

theorem fixAll_of_sets {steps : List LayoutStep} (h : ∀ step ∈ steps, ∃ layout, step.sets = some layout)
    (known : LayoutKnowledge) : FixAll known steps := by
  induction steps generalizing known with
  | nil => trivial
  | cons step steps ih =>
    obtain ⟨⟨layout, hsets⟩, hrest⟩ := List.forall_mem_cons.mp h
    exact ⟨⟨layout, fixes_of_sets hsets known⟩, ih hrest _⟩

/-- Steps that set nothing, but agree with what is known and with one another. -/
theorem fixAll_of_agree {steps : List LayoutStep}
    (h : ∀ step ∈ steps, step.sets = none ∧ step.attachment = false ∧ ∃ layout, step.declared = some layout)
    (hagree : ∀ step ∈ steps, step.Agrees known) (hafter : steps.Pairwise AgreesAfter) :
    FixAll known steps := by
  induction steps generalizing known with
  | nil => trivial
  | cons step steps ih =>
    obtain ⟨⟨hsets, hattachment, layout, hdeclared⟩, hrest⟩ := List.forall_mem_cons.mp h
    obtain ⟨hstep, hagree⟩ := List.forall_mem_cons.mp hagree
    obtain ⟨hfirst, hafter⟩ := List.pairwise_cons.mp hafter
    refine ⟨⟨layout, fixes_of_agrees hsets hattachment hdeclared hstep⟩, ih hrest ?_ hafter⟩
    exact fun other hother => hfirst other hother known (hagree other hother)

end LayoutStep

/-- On the standard engine the steps of a command without a layout mismatch determine layouts. -/
theorem Recorder.layoutSteps_fixAll {recorder : Recorder} (h : recorder.recording.WellFormed) {d : Device}
    (hengine : d.engine = Standard.engine) {command : Command}
    (hnone : ∀ diagnostic ∈ (recorder.record d command).diagnostics, diagnostic.kind ≠ .layoutMismatch)
    (after : Recording) :
    LayoutStep.FixAll recorder.recording.localLayout?
      (command.layoutSteps d.registry recorder.recording after) := by
  have hagree (step : LayoutStep)
      (hstep : step ∈ command.layoutSteps d.registry recorder.recording after) :
      step.Agrees recorder.recording.localLayout? :=
    layoutSteps_agree h hengine hnone after hstep
  have hregions (handle : Handle .image) (layout : ImageLayout) (regions : List SubresourceRange) :
      ∀ step ∈ regionSteps d.registry handle layout regions,
        step.sets = none ∧ step.attachment = false ∧ ∃ layout, step.declared = some layout := by
    unfold regionSteps
    split
    · exact fun _ hstep => absurd hstep List.not_mem_nil
    · intro step hstep
      obtain ⟨region, -, rfl⟩ := List.mem_map.mp hstep
      exact ⟨rfl, rfl, layout, rfl⟩
  -- Barriers and render passes move what they cover. Clears and copies do not, but what they cover was
  -- checked to be in the layout that they declare.
  cases command with
  | barrier dependency =>
    refine LayoutStep.fixAll_of_sets (fun step hstep => ?_) _
    obtain ⟨barrier, -, image, -, rfl⟩ := exists_of_mem_imageBarrierSteps hstep
    exact ⟨barrier.newLayout, rfl⟩
  | beginRenderPass info =>
    refine LayoutStep.fixAll_of_sets (fun step hstep => ?_) _
    rw [Command.layoutSteps] at hstep
    cases hinst : after.renderPass with
    | none =>
      rw [hinst] at hstep
      cases hstep
    | some inst =>
      rw [hinst] at hstep
      obtain ⟨attachment, -, rfl⟩ := List.mem_map.mp hstep
      exact ⟨_, rfl⟩
  | endRenderPass =>
    refine LayoutStep.fixAll_of_sets (fun step hstep => ?_) _
    rw [Command.layoutSteps] at hstep
    cases hinst : recorder.recording.renderPass with
    | none =>
      rw [hinst] at hstep
      cases hstep
    | some inst =>
      rw [hinst] at hstep
      obtain ⟨attachment, -, rfl⟩ := List.mem_map.mp hstep
      exact ⟨_, rfl⟩
  | clear info =>
    exact LayoutStep.fixAll_of_agree (hregions _ _ _) hagree
      (layoutSteps_agreesAfter (fun _ hbarrier => by cases hbarrier) recorder.recording after)
  | copy info =>
    exact LayoutStep.fixAll_of_agree (hregions _ _ _) hagree
      (layoutSteps_agreesAfter (fun _ hbarrier => by cases hbarrier) recorder.recording after)
  | fill buffer data => trivial

/-! ## Knowledge that is cut in two -/

namespace LayoutKnowledge

/-- Each subresource is left in the same layout by `joint` as by `second` after `first`. -/
def Joins (first second joint : LayoutKnowledge) : Prop :=
  ∀ image i, (joint image i).map LocalLayout.current
    = ((second image i).map LocalLayout.current).or ((first image i).map LocalLayout.current)

variable {first second joint : LayoutKnowledge} (h : Joins first second joint)
include h

/-- What the second part knows is known to the whole. -/
theorem Joins.exists_known {image : Handle .image} {i : Nat} {l : LocalLayout}
    (hl : second image i = some l) : ∃ l', joint image i = some l' ∧ l'.current = l.current := by
  have hjoint := h image i
  rw [hl, Option.map_some, Option.some_or] at hjoint
  exact Option.map_eq_some_iff.mp hjoint

theorem Joins.learn {step : LayoutStep} {layout : ImageLayout} (hfixes : step.Fixes layout joint) :
    Joins first (step.learn second) (step.learn joint) := by
  -- What the second part knows agrees with what the whole knows, and that is what the step is about.
  have hsecond : step.Fixes layout second := by
    refine ⟨hfixes.1, fun image i l hc hl => ?_⟩
    obtain ⟨l', hl', heq⟩ := h.exists_known hl
    rw [← heq]
    exact hfixes.2 image i l' hc hl'
  intro image i
  cases hc : step.covers image i with
  | false =>
    rw [LayoutStep.learn_of_not_covers hc, LayoutStep.learn_of_not_covers hc]
    exact h image i
  | true =>
    rw [LayoutStep.learn_of_covers hc, LayoutStep.learn_of_covers hc, hfixes.current_learned hc,
      hsecond.current_learned hc, Option.some_or]

theorem Joins.learnAll {steps : List LayoutStep} (hfix : LayoutStep.FixAll joint steps) :
    Joins first (LayoutStep.learnAll second steps) (LayoutStep.learnAll joint steps) := by
  induction steps generalizing second joint with
  | nil => exact h
  | cons step steps ih =>
    obtain ⟨⟨layout, hstep⟩, hrest⟩ := hfix
    exact ih (h.learn hstep) hrest

end LayoutKnowledge

/-! ## Commands on devices that are alike -/

namespace Registry.Alike

variable {r r' : Registry} (h : r.Alike r')
include h

theorem exists_get_image {handle : Handle .image} {image : Image} (hget : r.get handle = .ok image) :
    ∃ states, r'.get handle = .ok { image with states := states } := by
  obtain ⟨states, hget'⟩ := h.images handle
  rw [get_eq_ok.mp hget] at hget'
  exact ⟨states, get_eq_ok.mpr hget'⟩

theorem exists_get_buffer {handle : Handle .buffer} {buffer : Buffer}
    (hget : r.get handle = .ok buffer) :
    ∃ states, r'.get handle = .ok { buffer with states := states } := by
  obtain ⟨states, hget'⟩ := h.buffers handle
  rw [get_eq_ok.mp hget] at hget'
  exact ⟨states, get_eq_ok.mpr hget'⟩

theorem get_eq {t : ObjectType} (handle : Handle t) (hi : t ≠ .image) (hb : t ≠ .buffer)
    (hc : t ≠ .commandBuffer) : r'.get handle = r.get handle := by
  rw [get, get, h.others handle hi hb hc]

theorem beginViews_eq (framebuffer : Framebuffer) (info : RenderPassBegin) :
    Recorder.beginViews r' framebuffer info = Recorder.beginViews r framebuffer info := by
  have hviews (handle : Handle .imageView) : r'.get handle = r.get handle :=
    h.get_eq handle (by decide) (by decide) (by decide)
  simp only [Recorder.beginViews, hviews]

theorem imageBarrierSteps_eq (family : Nat) (barriers : List ImageBarrier) :
    imageBarrierSteps r' family barriers = imageBarrierSteps r family barriers := by
  induction barriers with
  | nil => rfl
  | cons barrier barriers ih =>
    obtain ⟨states, hget⟩ := h.images barrier.image
    rw [imageBarrierSteps, imageBarrierSteps, ih, get, get, hget]
    cases r.get? barrier.image <;> rfl

theorem regionSteps_eq (handle : Handle .image) (layout : ImageLayout)
    (regions : List SubresourceRange) :
    regionSteps r' handle layout regions = regionSteps r handle layout regions := by
  obtain ⟨states, hget⟩ := h.images handle
  rw [regionSteps, regionSteps, hget]
  cases r.get? handle <;> rfl

theorem regionAccesses_eq (handle : Handle .image) (regions : List SubresourceRange) :
    regionAccesses r' handle regions = regionAccesses r handle regions := by
  obtain ⟨states, hget⟩ := h.images handle
  rw [regionAccesses, regionAccesses, hget]
  cases r.get? handle <;> rfl

/-- The steps of a command are the same in recordings of the same family and with the same render pass. -/
theorem layoutSteps_eq {before before' after after' : Recording} (hfamily : before'.family = before.family)
    (hbefore : before'.renderPass = before.renderPass) (hafter : after'.renderPass = after.renderPass)
    (command : Command) : command.layoutSteps r' before' after' = command.layoutSteps r before after := by
  cases command with
  | barrier dependency =>
    rw [Command.layoutSteps, Command.layoutSteps, hfamily]
    exact h.imageBarrierSteps_eq _ _
  | beginRenderPass info => rw [Command.layoutSteps, Command.layoutSteps, hafter]
  | endRenderPass => rw [Command.layoutSteps, Command.layoutSteps, hbefore]
  | clear info => exact h.regionSteps_eq _ _ _
  | copy info => exact h.regionSteps_eq _ _ _
  | fill buffer data => rfl

/-- And so are its accesses. -/
theorem accesses_eq {after after' : Recording} (hfamily : after'.family = after.family)
    (hafter : after'.renderPass = after.renderPass) (command : Command) :
    command.accesses r' after' = command.accesses r after := by
  cases command with
  | barrier dependency =>
    rw [Command.accesses, Command.accesses, hfamily, Dependency.accesses, Dependency.accesses]
    refine congrArg (· ++ _) (List.flatMap_congr fun barrier _ => ?_)
    obtain ⟨states, hget⟩ := h.images barrier.image
    rw [hget, Option.map_map]
    rfl
  | beginRenderPass info => rw [Command.accesses, Command.accesses, hafter]
  | endRenderPass => rfl
  | clear info => exact h.regionAccesses_eq _ _
  | copy info => rw [Command.accesses, Command.accesses, h.regionAccesses_eq]
  | fill buffer data => rfl

end Registry.Alike

/-! ### Render passes -/

namespace Recording

theorem access_renderPass (recording : Recording) (access : Access) :
    (recording.access access).renderPass = recording.renderPass :=
  recording.reference_renderPass _

theorem imageBarrier_renderPass (recording : Recording) (info : ImageInfo) (barrier : ImageBarrier) :
    (recording.imageBarrier info barrier).renderPass = recording.renderPass := by
  unfold imageBarrier
  simp only
  rw [accessImage, access_renderPass]
  split <;> rfl

theorem writeRegions_renderPass (recording : Recording) (image : Handle .image) (info : ImageInfo)
    (layout : ImageLayout) (regions : List SubresourceRange) :
    (recording.writeRegions image info layout regions).renderPass = recording.renderPass :=
  foldl_keeps Recording.renderPass (f := fun recording region =>
    recording.writeRegion image info layout region) (fun _ _ => access_renderPass _ _) _ recording

theorem withBarriers_renderPass (recording : Recording) (registry : Registry) (dependency : Dependency) :
    (recording.withBarriers registry dependency).renderPass = recording.renderPass := by
  refine (foldl_keeps Recording.renderPass (fun recording _ => access_renderPass _ _) _ _).trans ?_
  refine foldl_keeps Recording.renderPass (fun recording barrier => ?_) _ _
  split
  · exact imageBarrier_renderPass _ _ _
  · rfl

theorem endRenderPass_renderPass (recording : Recording) : recording.endRenderPass.renderPass = none := by
  unfold endRenderPass
  split
  · assumption
  · exact foldl_keeps Recording.renderPass (f := endAttachment) (fun _ _ => rfl) _ _

end Recording

/-- Where there is no error, there is none of a structural kind. -/
theorem not_structural_of_none {diagnostics : List Diagnostic} (h : firstError? diagnostics = none) :
    hasStructuralError diagnostics = false := by
  refine List.any_eq_false.mpr fun diagnostic hmem herror => ?_
  exact List.find?_eq_none.mp h diagnostic hmem (Bool.and_eq_true_iff.mp herror).1

namespace Recorder

/-- What can be performed on a device can be performed on one that is alike, and leads to the same render
pass. -/
theorem perform_alike {r r' : Registry} (h : r.Alike r') {recording recording' after : Recording}
    {command : Command} (hrenderPass : recording'.renderPass = recording.renderPass)
    (hperform : perform r recording command = .ok after) :
    ∃ after', perform r' recording' command = .ok after' ∧ after'.renderPass = after.renderPass := by
  cases command with
  | barrier dependency =>
    obtain rfl := Except.ok.inj hperform
    exact ⟨recording', rfl, hrenderPass⟩
  | clear info =>
    obtain ⟨image, hget, hperform⟩ := bind_eq_ok.mp hperform
    obtain rfl := pure_eq_ok.mp hperform
    obtain ⟨states, hget'⟩ := h.exists_get_image hget
    refine ⟨_, bind_eq_ok.mpr ⟨_, hget', rfl⟩, ?_⟩
    rw [Recording.writeRegions_renderPass, Recording.writeRegions_renderPass, hrenderPass]
  | copy info =>
    obtain ⟨buffer, hbuffer, hperform⟩ := bind_eq_ok.mp hperform
    obtain ⟨image, hget, hperform⟩ := bind_eq_ok.mp hperform
    obtain rfl := pure_eq_ok.mp hperform
    obtain ⟨_, hbuffer'⟩ := h.exists_get_buffer hbuffer
    obtain ⟨states, hget'⟩ := h.exists_get_image hget
    refine ⟨_, bind_eq_ok.mpr ⟨_, hbuffer', bind_eq_ok.mpr ⟨_, hget', rfl⟩⟩, ?_⟩
    rw [Recording.writeRegions_renderPass, Recording.writeRegions_renderPass, Recording.accessBuffer,
      Recording.accessBuffer, Recording.access_renderPass, Recording.access_renderPass, hrenderPass]
  | fill handle data =>
    obtain ⟨buffer, hbuffer, hperform⟩ := bind_eq_ok.mp hperform
    obtain rfl := pure_eq_ok.mp hperform
    obtain ⟨_, hbuffer'⟩ := h.exists_get_buffer hbuffer
    refine ⟨_, bind_eq_ok.mpr ⟨_, hbuffer', rfl⟩, ?_⟩
    rw [Recording.accessBuffer, Recording.accessBuffer, Recording.access_renderPass,
      Recording.access_renderPass, hrenderPass]
  | beginRenderPass info =>
    obtain ⟨renderPass, hpass, hperform⟩ := bind_eq_ok.mp hperform
    obtain ⟨framebuffer, hframebuffer, hperform⟩ := bind_eq_ok.mp hperform
    obtain ⟨views, hviews, hperform⟩ := bind_eq_ok.mp hperform
    obtain rfl := pure_eq_ok.mp hperform
    -- What a render pass begins with is the same in both registries, and so is its instance.
    rw [← h.get_eq info.renderPass (by decide) (by decide) (by decide)] at hpass
    rw [← h.get_eq info.framebuffer (by decide) (by decide) (by decide)] at hframebuffer
    rw [← h.beginViews_eq] at hviews
    exact ⟨_, bind_eq_ok.mpr ⟨_, hpass, bind_eq_ok.mpr ⟨_, hframebuffer,
      bind_eq_ok.mpr ⟨_, hviews, rfl⟩⟩⟩, rfl⟩
  | endRenderPass =>
    obtain rfl := Except.ok.inj hperform
    refine ⟨_, rfl, ?_⟩
    rw [Recording.endRenderPass_renderPass, Recording.endRenderPass_renderPass]

/-- A command that succeeds is accepted by the rules. -/
theorem accepted_of_ok {recorder : Recorder} {d : Device} {command : Command}
    (hok : (recorder.record d command).result = .ok ()) :
    verdict (d.diagnoseRecording recorder.recording (.record command)) = .ok () := by
  cases command with
  | barrier dependency =>
    simp only [record, recordBarrier] at hok
    split at hok
    · exact hok
    · obtain ⟨_, -, hverdict⟩ := bind_eq_ok.mp hok
      exact hverdict
  | _ =>
    rcases Outcome.guarded_cases recorder _ _ with ⟨-, e, he⟩ | ⟨_, _, haccepted, -⟩
    · exact absurd (he.symm.trans hok) (fun h => by cases h)
    · exact haccepted

/-- A command that the rules accept is recorded if it can be performed. -/
theorem record_of_perform {recorder : Recorder} {d : Device} {command : Command} {after : Recording}
    (hbarrier : ∀ dependency, command ≠ .barrier dependency)
    (haccepted : verdict (d.diagnoseRecording recorder.recording (.record command)) = .ok ())
    (hperform : perform d.registry recorder.recording command = .ok after) :
    (recorder.record d command).state = recorder.withRecording after
      ∧ (recorder.record d command).result = .ok () := by
  have hdone : (do
      let recording ← perform d.registry recorder.recording command
      pure ((), recorder.withRecording recording) : Except Error (Unit × Recorder))
        = .ok ((), recorder.withRecording after) := bind_eq_ok.mpr ⟨after, hperform, rfl⟩
  cases command with
  | barrier dependency => exact absurd rfl (hbarrier dependency)
  | _ =>
    simp only [record, Outcome.guarded, haccepted, hdone]
    exact ⟨trivial, trivial⟩

/-- On the standard engine a barrier command that the rules accept is recorded. -/
theorem record_barrier_of_accepted {recorder : Recorder} {d : Device}
    (hengine : d.engine = Standard.engine) {dependency : Dependency}
    (haccepted : verdict (d.diagnoseRecording recorder.recording (.record (.barrier dependency))) = .ok ()) :
    (recorder.record d (.barrier dependency)).state
        = recorder.withRecording (recorder.recording.withBarriers d.registry dependency)
      ∧ (recorder.record d (.barrier dependency)).result = .ok () := by
  have htold := recorder.record_told hengine (.barrier dependency) fun _ h => by cases h
  have hnone : firstError? (recorder.record d (.barrier dependency)).diagnostics = none := by
    rw [record_diagnostics]
    exact verdict_eq_ok.mp haccepted
  obtain ⟨_, hok⟩ := htold.ok hnone
  exact ⟨(record_barrier_of_not_structural hengine (not_structural_of_none hnone)).2, hok⟩

/-- A command that succeeds is recorded. -/
theorem records_of_ok {recorder : Recorder} {d : Device} {command : Command}
    (hok : (recorder.record d command).result = .ok ()) : recorder.records d command = true := by
  cases command with
  | barrier dependency =>
    have hnone := verdict_eq_ok.mp (accepted_of_ok hok)
    rw [records, record_diagnostics, Bool.not_eq_true']
    exact not_structural_of_none hnone
  | _ =>
    rw [records_eq_isOk recorder d (fun _ h => by cases h), hok]
    rfl

end Recorder

/-! ## Recordings that are cut in two -/

/-- The recording `joint` leaves everything as `second` after `first`, and is in the same render pass as
`second`. -/
structure Recording.Joins (first second joint : Recording) : Prop where
  first_family : first.family = joint.family
  second_family : second.family = joint.family
  accesses : joint.accesses = first.accesses ++ second.accesses
  layouts : LayoutKnowledge.Joins first.localLayout? second.localLayout? joint.localLayout?
  renderPass : second.renderPass = joint.renderPass

namespace Recording.Joins

variable {first second joint : Recording}

/-- A recording that begins is like another one that begins. -/
theorem start (family : Nat) :
    Joins { family := family } { family := family } { family := family } :=
  ⟨rfl, rfl, rfl, fun _ _ => rfl, rfl⟩

/-- Outside of render passes the first part can end, and the second one begin. -/
theorem cut {family : Nat} (h : Joins { family := family } first joint) (hcut : joint.renderPass = none) :
    Joins first { family := family } joint where
  first_family := h.second_family
  second_family := h.first_family
  accesses := by
    rw [h.accesses]
    exact (List.append_nil _).symm
  layouts image i := (h.layouts image i).trans Option.or_none
  renderPass := hcut.symm

variable (h : Joins first second joint)
include h

theorem knowsLess (hjoint : joint.WellFormed) (hsecond : second.WellFormed) :
    second.KnowsLess joint where
  wellFormed := hjoint
  wellFormed' := hsecond
  renderPass := h.renderPass
  known _ _ _ hl := h.layouts.exists_known hl

end Recording.Joins

namespace Recorder

section Device

variable {d d' : Device} (hd : d.Alike d') (hengine : d.engine = Standard.engine)
include hd hengine

/-- A command that the joint recording accepts can be recorded into the second part as well. -/
theorem accepted_of_knowsLess {joint second : Recorder} {command : Command}
    (hknows : second.recording.KnowsLess joint.recording)
    (haccepted : verdict (d.diagnoseRecording joint.recording (.record command)) = .ok ()) :
    verdict (d'.diagnoseRecording second.recording (.record command)) = .ok () := by
  rw [Device.diagnoseRecording, hengine] at haccepted
  have hnone := Standard.evaluate_relaxes (.command hd hknows command)
    (Standard.evaluate_eq_nil haccepted)
  rw [Device.diagnoseRecording, hd.engine, hengine]
  exact (congrArg verdict hnone).trans rfl

/-- The two recordings record a command with the same render pass. -/
theorem record_alike {joint second : Recorder} {command : Command}
    (hknows : second.recording.KnowsLess joint.recording)
    (hok : (joint.record d command).result = .ok ()) :
    (second.record d' command).result = .ok ()
      ∧ (second.record d' command).state.recording.renderPass
        = (joint.record d command).state.recording.renderPass := by
  have haccepted := accepted_of_ok hok
  have haccepted' := accepted_of_knowsLess hd hengine hknows haccepted
  -- Barrier commands are recorded in a way of their own, for they are recorded even if they fail.
  by_cases hbarrier : ∃ dependency, command = .barrier dependency
  · obtain ⟨dependency, rfl⟩ := hbarrier
    obtain ⟨hstate, -⟩ := record_barrier_of_accepted hengine haccepted
    obtain ⟨hstate', hok'⟩ := record_barrier_of_accepted (hd.engine.trans hengine) haccepted'
    refine ⟨hok', ?_⟩
    rw [hstate, hstate', withRecording, withRecording, Recording.withBarriers_renderPass,
      Recording.withBarriers_renderPass, hknows.renderPass]
  · have hcommand := not_exists.mp hbarrier
    rcases joint.record_cases d hcommand with ⟨-, e, he⟩ | ⟨after, hperform, hstate, -⟩
    · exact absurd (he.symm.trans hok) fun h => by cases h
    · obtain ⟨after', hperform', hpass⟩ := perform_alike hd.registry hknows.renderPass hperform
      obtain ⟨hstate', hok'⟩ := record_of_perform hcommand haccepted' hperform'
      rw [hstate, hstate']
      exact ⟨hok', hpass⟩

/-- One command that is recorded into the whole and into its second part. -/
theorem record_joins {first : Recording} {second joint : Recorder} (hjoint : joint.recording.WellFormed)
    (hsecond : second.recording.WellFormed) (h : first.Joins second.recording joint.recording)
    {command : Command} (hok : (joint.record d command).result = .ok ()) :
    (second.record d' command).result = .ok ()
      ∧ first.Joins (second.record d' command).state.recording
        (joint.record d command).state.recording := by
  have hengine' := hd.engine.trans hengine
  obtain ⟨hok', hpass⟩ := record_alike hd hengine (h.knowsLess hjoint hsecond) hok
  have haccepted := accepted_of_ok hok
  have hrecords := records_of_ok hok
  have hrecords' := records_of_ok hok'
  have happends := record_appends hengine joint command
  have happends' := record_appends hengine' second command
  have hlearns := record_learns hjoint d command
  have hlearns' := record_learns hsecond d' command
  rw [accesses, if_pos hrecords] at happends
  rw [accesses, if_pos hrecords'] at happends'
  rw [layoutSteps, if_pos hrecords] at hlearns
  rw [layoutSteps, if_pos hrecords'] at hlearns'
  -- Both record the same accesses, and learn the same steps.
  have hfamily : (second.record d' command).state.recording.family
      = (joint.record d command).state.recording.family :=
    happends'.family.trans (h.second_family.trans happends.family.symm)
  rw [hd.registry.accesses_eq hfamily hpass] at happends'
  rw [hd.registry.layoutSteps_eq h.second_family h.renderPass hpass] at hlearns'
  refine ⟨hok', h.first_family.trans happends.family.symm, hfamily, ?_, ?_, hpass⟩
  · rw [happends.accesses, happends'.accesses, h.accesses, List.append_assoc]
  · rw [hlearns, hlearns']
    refine h.layouts.learnAll (layoutSteps_fixAll hjoint hengine (fun diagnostic hmem => ?_) _)
    rw [record_diagnostics, Device.diagnoseRecording, hengine] at hmem
    rw [Device.diagnoseRecording, hengine] at haccepted
    rw [Standard.evaluate_eq_nil haccepted] at hmem
    cases hmem

end Device

/-! ### Sequences of commands -/

/-- The recorder after commands. -/
def recordAll (recorder : Recorder) (d : Device) (commands : List Command) : Recorder :=
  commands.foldl (fun recorder command => (recorder.record d command).state) recorder

/-- Whether each command of a sequence succeeds. -/
def RecordsAll (d : Device) : Recorder → List Command → Prop
  | _, [] => True
  | recorder, command :: rest =>
    (recorder.record d command).result = .ok () ∧ RecordsAll d (recorder.record d command).state rest

theorem recordAll_append (recorder : Recorder) (d : Device) (commands rest : List Command) :
    recorder.recordAll d (commands ++ rest) = (recorder.recordAll d commands).recordAll d rest :=
  List.foldl_append

theorem recordsAll_append {recorder : Recorder} {d : Device} {commands rest : List Command} :
    recorder.RecordsAll d (commands ++ rest)
      ↔ recorder.RecordsAll d commands ∧ (recorder.recordAll d commands).RecordsAll d rest := by
  induction commands generalizing recorder with
  | nil => exact (iff_of_eq (true_and _)).symm
  | cons command commands ih =>
    rw [List.cons_append, RecordsAll, RecordsAll, ih, and_assoc]
    rfl

theorem recordAll_wellFormed {recorder : Recorder} (h : recorder.recording.WellFormed) (d : Device)
    (commands : List Command) : (recorder.recordAll d commands).recording.WellFormed :=
  List.foldlRecOn (motive := fun recorder : Recorder => recorder.recording.WellFormed) commands _ h
    fun _ hbefore command _ => record_wellFormed hbefore d command

theorem recordAll_handle (recorder : Recorder) (d : Device) (commands : List Command) :
    (recorder.recordAll d commands).handle = recorder.handle :=
  foldl_keeps Recorder.handle (f := fun recorder command => (recorder.record d command).state)
    (fun recorder command => recorder.record_handle d command) commands recorder

section Device

variable {d d' : Device} (hd : d.Alike d') (hengine : d.engine = Standard.engine)
include hd hengine

/-- Commands that are recorded into the whole can be recorded into its second part. -/
theorem recordAll_joins {first : Recording} {second joint : Recorder}
    (hjoint : joint.recording.WellFormed) (hsecond : second.recording.WellFormed)
    (h : first.Joins second.recording joint.recording) {commands : List Command}
    (hall : joint.RecordsAll d commands) :
    second.RecordsAll d' commands
      ∧ first.Joins (second.recordAll d' commands).recording
        (joint.recordAll d commands).recording := by
  induction commands generalizing second joint with
  | nil => exact ⟨trivial, h⟩
  | cons command commands ih =>
    obtain ⟨hok, hrest⟩ := hall
    obtain ⟨hok', hjoins⟩ := record_joins hd hengine hjoint hsecond h hok
    obtain ⟨hrest', hjoins'⟩ := ih (record_wellFormed hjoint d command)
      (record_wellFormed hsecond d' command) hjoins hrest
    exact ⟨⟨hok', hrest'⟩, hjoins'⟩

end Device

section Cut

variable {d d' : Device} (hd : d.Alike d') (hengine : d.engine = Standard.engine)
  {joint : Handle .commandBuffer} (part : Handle .commandBuffer) {family : Nat}
  {commands rest : List Command}
include hd hengine

/-- The commands up to the cut can be recorded into a command buffer of their own. -/
theorem recordAll_first (hall : RecordsAll d ⟨joint, { family := family }⟩ commands) :
    RecordsAll d' ⟨part, { family := family }⟩ commands
      ∧ Recording.Joins { family := family }
        (recordAll ⟨part, { family := family }⟩ d' commands).recording
        (recordAll ⟨joint, { family := family }⟩ d commands).recording := by
  have hnew := Recording.wellFormed_begin family
  exact recordAll_joins hd hengine hnew hnew (.start family) hall

/-- The commands after the cut can be recorded into another one, if no render pass is active there. -/
theorem recordAll_second {first : Recording}
    (hall : RecordsAll d ⟨joint, { family := family }⟩ (commands ++ rest))
    (hfirst : Recording.Joins { family := family } first
      (recordAll ⟨joint, { family := family }⟩ d commands).recording)
    (hcut : (recordAll ⟨joint, { family := family }⟩ d commands).recording.renderPass = none) :
    RecordsAll d' ⟨part, { family := family }⟩ rest
      ∧ first.Joins (recordAll ⟨part, { family := family }⟩ d' rest).recording
        (recordAll ⟨joint, { family := family }⟩ d (commands ++ rest)).recording := by
  have hnew := Recording.wellFormed_begin family
  rw [recordAll_append]
  exact recordAll_joins hd hengine
    (recordAll_wellFormed hnew d commands) hnew (hfirst.cut hcut) (recordsAll_append.mp hall).2

end Cut

end Recorder

/-! ## Logs that are cut in two -/

/-- Accesses leave the layout alone, and do not depend on it. -/
theorem SubresourceState.after_withLayout (sharing : Sharing) (family : Nat) (state : SubresourceState)
    (layout : ImageLayout) (accesses : List Access) :
    SubresourceState.after sharing family { state with layout := layout } accesses
      = { SubresourceState.after sharing family state accesses with layout := layout } := by
  induction accesses generalizing state with
  | nil => rfl
  | cons access accesses ih => exact ih (state.access sharing family access.effect)

theorem SubresourceState.after_append (sharing : Sharing) (family : Nat) (state : SubresourceState)
    (accesses more : List Access) : SubresourceState.after sharing family state (accesses ++ more)
      = SubresourceState.after sharing family (SubresourceState.after sharing family state accesses) more :=
  List.foldl_append

/-- Executing both parts changes a subresource like executing the whole. -/
theorem Recording.Joins.stateAfter {first second joint : Recording} (h : Joins first second joint)
    (hfirst : first.WellFormed) (hsecond : second.WellFormed) (hjoint : joint.WellFormed)
    (sharing : Sharing) (resource : Resource) (i : Nat) (state : SubresourceState) :
    joint.finish.stateAfter sharing resource i state
      = second.finish.stateAfter sharing resource i (first.finish.stateAfter sharing resource i state) := by
  have haccesses : joint.finish.accessesAt resource i
      = first.finish.accessesAt resource i ++ second.finish.accessesAt resource i := by
    simp only [CommandLog.accessesAt, finish, h.accesses, List.filter_append]
  -- The last part that knows a layout decides it; buffers have none.
  have hlayout : (joint.finish.localLayout? resource i).elim state.layout LocalLayout.current
      = (second.finish.localLayout? resource i).elim
        ((first.finish.localLayout? resource i).elim state.layout LocalLayout.current)
        LocalLayout.current := by
    cases resource with
    | buffer buffer => rfl
    | image image =>
      rw [CommandLog.localLayout?_finish hfirst, CommandLog.localLayout?_finish hsecond,
        CommandLog.localLayout?_finish hjoint]
      have helim (known : Option LocalLayout) (layout : ImageLayout) :
          known.elim layout LocalLayout.current = (known.map LocalLayout.current).getD layout := by
        cases known <;> rfl
      rw [helim, helim, helim, h.layouts image i, Option.getD_or]
  have hfamily : first.finish.family = joint.finish.family := h.first_family
  have hfamily' : second.finish.family = joint.finish.family := h.second_family
  have hafter := SubresourceState.after_withLayout sharing joint.finish.family
    (SubresourceState.after sharing joint.finish.family state (first.finish.accessesAt resource i))
    ((first.finish.localLayout? resource i).elim state.layout LocalLayout.current)
    (second.finish.accessesAt resource i)
  rw [CommandLog.stateAfter, CommandLog.stateAfter, CommandLog.stateAfter, hlayout, haccesses, hfamily,
    hfamily', SubresourceState.after_append, hafter]

end VulkanValidity
