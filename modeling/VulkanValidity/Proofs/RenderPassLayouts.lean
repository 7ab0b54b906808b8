/-
  VulkanValidity.Proofs.RenderPassLayouts

  What a render pass does to layouts.  Where the attachments share no subresource, the begin moves each of
  them to the layout of its first use and the end to its final layout, and nothing else is moved.  Other
  commands can come in between, and other calls of the session, too; what they cannot do is to change the
  instance that is active, or an expectation (`Recorder.Inside`).
-/

import VulkanValidity.Proofs.Attachments
import VulkanValidity.Proofs.LocalLayouts

namespace VulkanValidity

/-! ## Steps that share no subresource -/

namespace LayoutStep

/-- Of steps of which a single one covers a subresource, only that one counts. -/
theorem learnAll_of_only {steps : List LayoutStep} {image : Handle .image} {i k : Nat} {step : LayoutStep}
    (hk : steps[k]? = some step) (hcovers : step.covers image i = true)
    (honly : ∀ (l : Nat) (other : LayoutStep), steps[l]? = some other → other.covers image i = true → l = k)
    (known : LayoutKnowledge) : learnAll known steps image i = step.learned (known image i) := by
  induction steps generalizing k known with
  | nil => cases hk
  | cons first rest ih =>
    show learnAll (first.learn known) rest image i = _
    cases k with
    | zero =>
      obtain rfl := Option.some.inj hk
      have hrest : ∀ other ∈ rest, other.covers image i = false := by
        intro other hmem
        obtain ⟨l, hl⟩ := List.mem_iff_getElem?.mp hmem
        refine Bool.eq_false_iff.mpr fun hother => ?_
        cases honly (l + 1) other hl hother
      rw [learnAll_of_not_covers hrest, learn_of_covers hcovers]
    | succ k =>
      have hfirst : first.covers image i = false := by
        refine Bool.eq_false_iff.mpr fun hother => ?_
        cases honly 0 first rfl hother
      rw [ih hk (fun l other hl hother => Nat.succ.inj (honly (l + 1) other hl hother)),
        learn_of_not_covers hfirst]

end LayoutStep

/-! ## Attachments -/

/-- The view covers a subresource. -/
def BoundView.Covers (bound : BoundView) (image : Handle .image) (i : Nat) : Prop :=
  bound.view.image = image ∧ bound.view.imageInfo.Covers bound.view.range i

namespace LayoutStep

theorem covers_ofBegin {renderPass : RenderPassInfo}
    {attachment : (BoundView × AttachmentDescription) × Nat} {image : Handle .image} {i : Nat} :
    (ofBegin renderPass attachment).covers image i = true ↔ attachment.1.1.Covers image i := by
  rw [covers_iff, BoundView.Covers, @eq_comm _ image]
  exact and_congr_right' (ImageInfo.any_contains_indexRanges _ _ i)

theorem covers_ofEnd {attachment : BoundView × AttachmentDescription} {image : Handle .image} {i : Nat} :
    (ofEnd attachment).covers image i = true ↔ attachment.1.Covers image i := by
  rw [covers_iff, BoundView.Covers, @eq_comm _ image]
  exact and_congr_right' (ImageInfo.any_contains_indexRanges _ _ i)

end LayoutStep

/-! ## First references -/

/-- Among the references is one to the attachment, and the first of them has the layout. -/
def RefersFirst (references : List AttachmentReference) (k : ℕ) (layout : ImageLayout) : Prop :=
  ∃ earlier later, references = earlier ++ ⟨k, layout⟩ :: later ∧ ∀ other ∈ earlier, other.attachment ≠ k

namespace Subpass

/-- The subpass refers to the attachment, be it as color, as depth and stencil, or as input. -/
def RefersTo (subpass : Subpass) (k : ℕ) : Prop :=
  (∃ reference ∈ subpass.color, reference.attachment = k)
    ∨ (∃ reference, subpass.depthStencil = some reference ∧ reference.attachment = k)
    ∨ ∃ reference ∈ subpass.input, reference.attachment = k

/-- The first reference of a subpass to an attachment is one as color, if there is any, or else the one as
depth and stencil, or else one as input. -/
inductive FirstReference (subpass : Subpass) (k : ℕ) (layout : ImageLayout) : Prop
  | color (h : RefersFirst subpass.color k layout)
  | depthStencil (hcolor : ∀ reference ∈ subpass.color, reference.attachment ≠ k)
      (h : subpass.depthStencil = some ⟨k, layout⟩)
  | input (hcolor : ∀ reference ∈ subpass.color, reference.attachment ≠ k)
      (hdepthStencil : ∀ reference, subpass.depthStencil = some reference → reference.attachment ≠ k)
      (h : RefersFirst subpass.input k layout)

end Subpass

/-- The first reference to an attachment is in the first of the subpasses that refer to it. -/
def RenderPassInfo.FirstReference (info : RenderPassInfo) (k : ℕ) (layout : ImageLayout) : Prop :=
  ∃ earlier subpass later, info.subpasses = earlier ++ subpass :: later
    ∧ (∀ other ∈ earlier, ¬ other.RefersTo k) ∧ subpass.FirstReference k layout

theorem find?_attachment_eq_some_iff {references : List AttachmentReference} {k : ℕ}
    {layout : ImageLayout} :
    (references.find? (·.attachment == k)).map AttachmentReference.layout = some layout
      ↔ RefersFirst references k layout := by
  rw [Option.map_eq_some_iff, RefersFirst]
  constructor
  · rintro ⟨⟨attachment, layout⟩, hfind, rfl⟩
    obtain ⟨hattachment, earlier, later, hsplit, hearlier⟩ := List.find?_eq_some_iff_append.mp hfind
    obtain rfl := beq_iff_eq.mp hattachment
    exact ⟨earlier, later, hsplit, fun other hother => by simpa using hearlier other hother⟩
  · rintro ⟨earlier, later, hsplit, hearlier⟩
    have hfind : references.find? (·.attachment == k) = some ⟨k, layout⟩ :=
      List.find?_eq_some_iff_append.mpr ⟨beq_self_eq_true k, earlier, later, hsplit, fun other hother => by
        simpa using hearlier other hother⟩
    exact ⟨_, hfind, rfl⟩

theorem find?_attachment_eq_none_iff {references : List AttachmentReference} {k : ℕ} :
    (references.find? (·.attachment == k)).map AttachmentReference.layout = none
      ↔ ∀ reference ∈ references, reference.attachment ≠ k := by
  simp

theorem refersFirst_toList_iff {reference : Option AttachmentReference} {k : ℕ} {layout : ImageLayout} :
    RefersFirst reference.toList k layout ↔ reference = some ⟨k, layout⟩ := by
  rw [← find?_attachment_eq_some_iff]
  cases reference with
  | none => simp
  | some reference =>
    obtain ⟨attachment, found⟩ := reference
    by_cases h : attachment = k <;> simp [h]

namespace Subpass

variable {subpass : Subpass} {k : ℕ}

theorem find?_references_eq_none_iff :
    (subpass.references.find? (·.attachment == k)).map AttachmentReference.layout = none
      ↔ ¬ subpass.RefersTo k := by
  rw [find?_attachment_eq_none_iff, references, RefersTo, List.forall_mem_append, List.forall_mem_append]
  simp [and_assoc]

/-- The search goes through the color attachments, then depth and stencil, then the input attachments. -/
theorem find?_references_eq_some_iff {layout : ImageLayout} :
    (subpass.references.find? (·.attachment == k)).map AttachmentReference.layout = some layout
      ↔ subpass.FirstReference k layout := by
  rw [references, List.find?_append, List.find?_append, Option.map_or, Option.map_or,
    Option.or_eq_some_iff, Option.or_eq_some_iff, Option.or_eq_none_iff]
  simp only [find?_attachment_eq_some_iff, find?_attachment_eq_none_iff, refersFirst_toList_iff]
  constructor
  · rintro ((h | ⟨hcolor, h⟩) | ⟨⟨hcolor, hdepthStencil⟩, h⟩)
    · exact .color h
    · exact .depthStencil hcolor h
    · exact .input hcolor (fun reference hsome => hdepthStencil reference (Option.mem_toList.mpr hsome)) h
  · rintro (h | ⟨hcolor, h⟩ | ⟨hcolor, hdepthStencil, h⟩)
    · exact Or.inl (Or.inl h)
    · exact Or.inl (Or.inr ⟨hcolor, h⟩)
    · refine Or.inr ⟨⟨hcolor, fun reference hmem => ?_⟩, h⟩
      exact hdepthStencil reference (Option.mem_toList.mp hmem)

end Subpass

namespace RenderPassInfo

variable {info : RenderPassInfo} {k : ℕ}

theorem firstLayout?_eq_findSome? (info : RenderPassInfo) (k : ℕ) :
    info.firstLayout? k = info.subpasses.findSome? fun subpass =>
      (subpass.references.find? (·.attachment == k)).map AttachmentReference.layout := by
  rw [firstLayout?, List.find?_flatMap, List.map_findSome?]
  rfl

theorem firstLayout?_eq_some_iff {layout : ImageLayout} :
    info.firstLayout? k = some layout ↔ info.FirstReference k layout := by
  rw [firstLayout?_eq_findSome?, List.findSome?_eq_some_iff, FirstReference]
  simp only [Subpass.find?_references_eq_some_iff, Subpass.find?_references_eq_none_iff]
  refine exists₃_congr fun earlier subpass later => and_congr_right fun _ => and_comm

theorem firstLayout?_eq_none_iff :
    info.firstLayout? k = none ↔ ∀ subpass ∈ info.subpasses, ¬ subpass.RefersTo k := by
  rw [firstLayout?_eq_findSome?, List.findSome?_eq_none_iff]
  simp only [Subpass.find?_references_eq_none_iff]

end RenderPassInfo

namespace RenderPassInstance

/-- No subresource is covered by two attachments. -/
def Disjoint (inst : RenderPassInstance) : Prop :=
  ∀ (k l : Nat) (a b : BoundView × AttachmentDescription) (image : Handle .image) (i : Nat),
    inst.attachments[k]? = some a → inst.attachments[l]? = some b → a.1.Covers image i →
    b.1.Covers image i → k = l

end RenderPassInstance

namespace Recording

open LayoutStep

section Instance

variable {recording : Recording} (h : recording.WellFormed) {inst : RenderPassInstance}
include h

/-- When a render pass begins, each attachment is moved from its initial layout to the layout of its first
use. -/
theorem localLayout?_begin_of_covers (hdisjoint : inst.Disjoint) {k : Nat} {bound : BoundView}
    {description : AttachmentDescription} (hk : inst.attachments[k]? = some (bound, description))
    {image : Handle .image} {i : Nat} (hcovers : bound.Covers image i) :
    (recording.beginRenderPass inst).localLayout? image i
      = some ⟨(recording.localLayout? image i).elim description.initialLayout.declares
          LocalLayout.expected,
        (inst.renderPassInfo.firstLayout? k).getD description.finalLayout⟩ := by
  have hstep (l : Nat) : (inst.attachments.zipIdx.map (ofBegin inst.renderPassInfo))[l]?
      = inst.attachments[l]?.map fun attachment => ofBegin inst.renderPassInfo (attachment, l) := by
    rw [List.getElem?_map, List.getElem?_zipIdx, Option.map_map, Nat.zero_add]
    rfl
  have hkstep := (hstep k).trans (congrArg (Option.map _) hk)
  rw [localLayout?_beginRenderPass h, learnAll_of_only hkstep (covers_ofBegin.mpr hcovers)]
  · cases recording.localLayout? image i <;> rfl
  · intro l other hl hother
    obtain ⟨attachment, hattachment, rfl⟩ := Option.map_eq_some_iff.mp ((hstep l).symm.trans hl)
    exact hdisjoint l k attachment _ image i hattachment hk (covers_ofBegin.mp hother) hcovers

theorem localLayout?_begin_of_not_covers {image : Handle .image} {i : Nat}
    (hnot : ∀ attachment ∈ inst.attachments, ¬ attachment.1.Covers image i) :
    (recording.beginRenderPass inst).localLayout? image i = recording.localLayout? image i := by
  rw [localLayout?_beginRenderPass h]
  refine learnAll_of_not_covers (fun step hstep => ?_) _
  obtain ⟨⟨attachment, l⟩, hmem, rfl⟩ := List.mem_map.mp hstep
  refine Bool.eq_false_iff.mpr fun hcovers => ?_
  exact hnot attachment (List.fst_mem_of_mem_zipIdx hmem) (covers_ofBegin.mp hcovers)

/-- When it ends, each attachment is moved to its final layout. -/
theorem localLayout?_end_of_covers (hinst : recording.renderPass = some inst)
    (hdisjoint : inst.Disjoint) {k : Nat} {bound : BoundView} {description : AttachmentDescription}
    (hk : inst.attachments[k]? = some (bound, description)) {image : Handle .image} {i : Nat}
    (hcovers : bound.Covers image i) {l : LocalLayout} (hl : recording.localLayout? image i = some l) :
    recording.endRenderPass.localLayout? image i
      = some { l with current := description.finalLayout } := by
  have hkstep : (inst.attachments.map ofEnd)[k]? = some (ofEnd (bound, description)) := by
    rw [List.getElem?_map, hk]
    rfl
  rw [localLayout?_endRenderPass h, hinst]
  show learnAll _ (inst.attachments.map ofEnd) image i = _
  rw [learnAll_of_only hkstep (covers_ofEnd.mpr hcovers), hl]
  · rfl
  · intro m other hm hother
    rw [List.getElem?_map] at hm
    obtain ⟨attachment, hattachment, rfl⟩ := Option.map_eq_some_iff.mp hm
    exact hdisjoint m k attachment _ image i hattachment hk (covers_ofEnd.mp hother) hcovers

theorem localLayout?_end_of_not_covers (hinst : recording.renderPass = some inst)
    {image : Handle .image} {i : Nat}
    (hnot : ∀ attachment ∈ inst.attachments, ¬ attachment.1.Covers image i) :
    recording.endRenderPass.localLayout? image i = recording.localLayout? image i := by
  rw [localLayout?_endRenderPass h, hinst]
  refine learnAll_of_not_covers (fun step hstep => ?_) _
  obtain ⟨attachment, hmem, rfl⟩ := List.mem_map.mp hstep
  exact Bool.eq_false_iff.mpr fun hcovers => hnot attachment hmem (covers_ofEnd.mp hcovers)

end Instance

end Recording

/-! ## Between the begin and the end -/

namespace Standard

theorem reports_insideRenderPass :
    engine.Reports .commandRecording .invalidParams RenderPassBeginRules.insideRenderPass :=
  reports_rule renderPassBeginRules 15

end Standard

namespace Recorder

/-- A recorder in the middle of a render pass: the instance is active, and what was known after its begin
keeps its expectations. -/
structure Inside (recorder : Recorder) (inst : RenderPassInstance) (begun : Recording) : Prop where
  renderPass : recorder.recording.renderPass = some inst
  expected : ∀ image i l, begun.localLayout? image i = some l →
    ∃ l', recorder.recording.localLayout? image i = some l' ∧ l'.expected = l.expected

variable {d : Device} (hengine : d.engine = Standard.engine)
include hengine

/-- Another render pass cannot begin. -/
theorem Inside.not_begins {recorder : Recorder} {inst : RenderPassInstance} {begun : Recording}
    (h : recorder.Inside inst begun) (info : RenderPassBegin) :
    (recorder.record d (.beginRenderPass info)).result ≠ .ok () := by
  intro hok
  have haccepted := accepted_of_ok hok
  rw [Device.diagnoseRecording, hengine] at haccepted
  have hcheck := Standard.check_eq_nil Standard.reports_insideRenderPass rfl haccepted
  simp only [RenderPassBeginRules.insideRenderPass, Device.context, h.renderPass] at hcheck
  cases hcheck

/-- No command but the end changes the instance that is active. -/
theorem Inside.record_renderPass {recorder : Recorder} {inst : RenderPassInstance} {begun : Recording}
    (h : recorder.Inside inst begun) {command : Command} (hend : command ≠ .endRenderPass) :
    (recorder.record d command).state.recording.renderPass = some inst := by
  by_cases hbarrier : ∃ dependency, command = .barrier dependency
  · obtain ⟨dependency, rfl⟩ := hbarrier
    cases hstructural : hasStructuralError (recorder.record d (.barrier dependency)).diagnostics with
    | true => rw [record_barrier_of_structural hstructural, h.renderPass]
    | false =>
      rw [(record_barrier_of_not_structural hengine hstructural).2]
      exact (Recording.withBarriers_renderPass _ _ _).trans h.renderPass
  · rcases recorder.record_cases d (not_exists.mp hbarrier) with ⟨hs, -⟩ | ⟨after, hperform, hs, hok⟩
    · rw [hs, h.renderPass]
    rw [hs]
    show after.renderPass = some inst
    rw [← h.renderPass]
    cases command with
    | barrier dependency => exact absurd ⟨dependency, rfl⟩ hbarrier
    | endRenderPass => exact absurd rfl hend
    | beginRenderPass info => exact absurd hok (h.not_begins hengine info)
    | clear info =>
      obtain ⟨image, -, hperform⟩ := bind_eq_ok.mp hperform
      obtain rfl := pure_eq_ok.mp hperform
      exact Recording.writeRegions_renderPass _ _ _ _ _
    | copy info =>
      obtain ⟨buffer, -, hperform⟩ := bind_eq_ok.mp hperform
      obtain ⟨image, -, hperform⟩ := bind_eq_ok.mp hperform
      obtain rfl := pure_eq_ok.mp hperform
      exact (Recording.writeRegions_renderPass _ _ _ _ _).trans (Recording.access_renderPass _ _)
    | fill buffer data =>
      obtain ⟨_, -, hperform⟩ := bind_eq_ok.mp hperform
      obtain rfl := pure_eq_ok.mp hperform
      exact Recording.access_renderPass _ _

theorem Inside.record {recorder : Recorder} {inst : RenderPassInstance} {begun : Recording}
    (h : recorder.Inside inst begun) (hwell : recorder.recording.WellFormed) {command : Command}
    (hend : command ≠ .endRenderPass) : (recorder.record d command).state.Inside inst begun where
  renderPass := h.record_renderPass hengine hend
  expected image i l hl := by
    obtain ⟨known, hknown, hexpected⟩ := h.expected image i l hl
    rw [record_learns hwell, LayoutStep.learnAll_of_some hknown]
    exact ⟨_, rfl, hexpected⟩

/-- The end of a render pass that is active is accepted and recorded. -/
theorem record_endRenderPass {recorder : Recorder} {inst : RenderPassInstance}
    (hinst : recorder.recording.renderPass = some inst) :
    (recorder.record d .endRenderPass).result = .ok ()
      ∧ (recorder.record d .endRenderPass).state
        = recorder.withRecording recorder.recording.endRenderPass := by
  have hdiagnose : d.diagnoseRecording recorder.recording (.record .endRenderPass) = [] := by
    obtain ⟨handle, family, layouts, accesses, references, renderPass⟩ := recorder
    obtain rfl : renderPass = some inst := hinst
    rw [Device.diagnoseRecording, hengine]
    -- No rule has anything else to say about the end of a render pass.
    rfl
  have hrecord : recorder.record d .endRenderPass = .guarded recorder
      (d.diagnoseRecording recorder.recording (.record .endRenderPass))
      (.ok ((), recorder.withRecording recorder.recording.endRenderPass)) := rfl
  rw [hrecord, hdiagnose]
  exact ⟨rfl, rfl⟩

end Recorder

namespace Session

/-- The recorder with the key, if it is open, is in the middle of the render pass. -/
structure InsidePass (s : Session) (key : ℕ) (inst : RenderPassInstance) (begun : Recording) : Prop where
  used : key < s.nextKey
  recorder : ∀ recorder, s.recorder? key = some recorder → recorder.Inside inst begun

theorem InsidePass.step {s : Session} (hs : s.Reachable) (hengine : s.device.engine = Standard.engine)
    {key : ℕ} {inst : RenderPassInstance} {begun : Recording} (h : s.InsidePass key inst begun)
    {call : Call} (hend : call ≠ .record key .endRenderPass) :
    (s.step call).state.InsidePass key inst begun where
  used := Nat.lt_of_lt_of_le h.used (s.step_transition call).nextKey_le
  recorder after hafter := by
    obtain ⟨before, hbefore, rfl | ⟨command, rfl, rfl⟩⟩ :=
      (s.step_transition call).recorder_of_lt h.used hafter
    · exact h.recorder after hbefore
    · refine (h.recorder before hbefore).record hengine (hs.wellFormed.recordings key before hbefore) ?_
      exact fun heq => hend (congrArg (Call.record key) heq)

theorem InsidePass.run {s : Session} (hs : s.Reachable) (hengine : s.device.engine = Standard.engine)
    {key : ℕ} {inst : RenderPassInstance} {begun : Recording} (h : s.InsidePass key inst begun)
    {calls : List Call} (hend : .record key .endRenderPass ∉ calls) :
    (s.run calls).InsidePass key inst begun := by
  induction calls generalizing s with
  | nil => exact h
  | cons call calls ih =>
    refine ih (hs.call call) ((s.step_transition call).engine.trans hengine) ?_
      (List.not_mem_of_not_mem_cons hend)
    exact h.step hs hengine (Ne.symm (List.ne_of_not_mem_cons hend))

/-- A recorder with an active instance is in the middle of a render pass. -/
theorem InsidePass.start {s : Session} (hs : s.Reachable) {key : ℕ} {recorder : Recorder}
    (hr : s.recorder? key = some recorder) {inst : RenderPassInstance}
    (hinst : recorder.recording.renderPass = some inst) :
    s.InsidePass key inst recorder.recording where
  used := hs.wellFormed.key_lt hr
  recorder found hfound := by
    obtain rfl := Option.some.inj (hr.symm.trans hfound)
    exact ⟨hinst, fun image i l hl => ⟨l, hl, rfl⟩⟩

/-- A call that ends the render pass of an open recorder succeeds. -/
theorem step_endRenderPass {s : Session} (hengine : s.device.engine = Standard.engine) {key : ℕ}
    {recorder : Recorder} (hr : s.recorder? key = some recorder) {inst : RenderPassInstance}
    (hinst : recorder.recording.renderPass = some inst) :
    (s.step (.record key .endRenderPass)).result = .ok .done
      ∧ (s.step (.record key .endRenderPass)).state.recorder? key
        = some (recorder.withRecording recorder.recording.endRenderPass) := by
  obtain ⟨hresult, hstate⟩ := Recorder.record_endRenderPass hengine hinst
  rw [step_record hr, hresult, hstate, recorder?_setRecorder, if_pos rfl, hr]
  exact ⟨rfl, rfl⟩

end Session

/-! ## The effect of a render pass -/

namespace RenderPassInstance

/-- What the begin of a render pass does to the layouts that a command buffer knows. -/
structure BeginEffect (inst : RenderPassInstance) (before begun : Recording) : Prop where
  covered : ∀ (k : ℕ) bound description image i, inst.attachments[k]? = some (bound, description) →
    bound.Covers image i → ∃ l, begun.localLayout? image i = some l
      -- The initial layout is expected, if there is one and nothing touched the subresource before.
      ∧ (before.localLayout? image i = none → l.expected = description.initialLayout.declares)
      ∧ (∀ known, before.localLayout? image i = some known → l.expected = known.expected)
      -- The first reference says where the attachment is moved to.
      ∧ (inst.renderPassInfo.FirstReference k l.current
        ∨ (∀ subpass ∈ inst.renderPassInfo.subpasses, ¬ subpass.RefersTo k)
          ∧ l.current = description.finalLayout)
  elsewhere : ∀ image i, (∀ attachment ∈ inst.attachments, ¬ attachment.1.Covers image i) →
    begun.localLayout? image i = before.localLayout? image i

/-- What the end of a render pass does to the layouts that a command buffer knows. -/
structure EndEffect (inst : RenderPassInstance) (begun ending ended : Recording) : Prop where
  covered : ∀ (k : ℕ) bound description image i, inst.attachments[k]? = some (bound, description) →
    bound.Covers image i → ∃ l, begun.localLayout? image i = some l
      ∧ ended.localLayout? image i = some ⟨l.expected, description.finalLayout⟩
  elsewhere : ∀ image i, (∀ attachment ∈ inst.attachments, ¬ attachment.1.Covers image i) →
    ended.localLayout? image i = ending.localLayout? image i

theorem beginEffect {inst : RenderPassInstance} (hdisjoint : inst.Disjoint) {before : Recording}
    (h : before.WellFormed) : inst.BeginEffect before (before.beginRenderPass inst) where
  covered k bound description image i hk hcovers := by
    refine ⟨_, Recording.localLayout?_begin_of_covers h hdisjoint hk hcovers, fun hnone => ?_,
      fun known hknown => ?_, ?_⟩
    · rw [hnone]
      rfl
    · rw [hknown]
      rfl
    · cases hfirst : inst.renderPassInfo.firstLayout? k with
      | some layout => exact Or.inl (RenderPassInfo.firstLayout?_eq_some_iff.mp hfirst)
      | none => exact Or.inr ⟨RenderPassInfo.firstLayout?_eq_none_iff.mp hfirst, rfl⟩
  elsewhere image i := Recording.localLayout?_begin_of_not_covers h

theorem endEffect {inst : RenderPassInstance} (hdisjoint : inst.Disjoint) {before begun : Recording}
    (hbegun : inst.BeginEffect before begun) {ending : Recorder} (h : ending.recording.WellFormed)
    (hinside : ending.Inside inst begun) :
    inst.EndEffect begun ending.recording ending.recording.endRenderPass where
  covered k bound description image i hk hcovers := by
    obtain ⟨l, hl, -⟩ := hbegun.covered k bound description image i hk hcovers
    obtain ⟨known, hknown, hexpected⟩ := hinside.expected image i l hl
    refine ⟨l, hl, ?_⟩
    rw [Recording.localLayout?_end_of_covers h hinside.renderPass hdisjoint hk hcovers hknown, hexpected]
  elsewhere image i := Recording.localLayout?_end_of_not_covers h hinside.renderPass

end RenderPassInstance

/-- The instance is of the render pass and the framebuffer that a command names.  Its views are alive, and
they are those of the framebuffer, or, if that is imageless, those that the command names. -/
structure RenderPassInstance.BegunBy (inst : RenderPassInstance) (r : Registry) (info : RenderPassBegin)
    (framebuffer : Framebuffer) : Prop where
  ofRenderPass : inst.renderPass = info.renderPass
  ofFramebuffer : inst.framebuffer = info.framebuffer
  getRenderPass : r.get? info.renderPass = some inst.renderPassInfo
  getFramebuffer : r.get? info.framebuffer = some framebuffer
  ownViews : ∀ handles, framebuffer.info.attachments = .views handles →
    inst.views.map BoundView.handle = handles
  givenViews : ∀ infos, framebuffer.info.attachments = .imageless infos →
    inst.views.map BoundView.handle = info.views
  getView : ∀ bound ∈ inst.views, r.get? bound.handle = some bound.view

theorem Recorder.Begins.begunBy {recorder : Recorder} {d : Device} {info : RenderPassBegin}
    {inst : RenderPassInstance} {framebuffer : Framebuffer}
    (h : recorder.Begins d info inst framebuffer) : inst.BegunBy d.registry info framebuffer where
  ofRenderPass := h.ofRenderPass
  ofFramebuffer := h.ofFramebuffer
  getRenderPass := h.getRenderPass
  getFramebuffer := h.getFramebuffer
  ownViews handles hviews := by
    rw [h.handles, beginHandles, hviews]
  givenViews infos himageless := by
    rw [h.handles, beginHandles, himageless]
  getView _ := h.get?_view

/-- A render pass whose attachments share no subresource has its declared effect on layouts and no other.
The views of the framebuffer become the attachments of the render pass in order, and each is moved to the
layout of the first reference to it when the pass begins, and to its final layout when it ends.  Whatever is
recorded between its begin and its end, and whatever else happens in the session meanwhile, the end is
accepted as long as the recorder is open. -/
theorem render_pass_has_declared_effect {s : Session} (h : s.Reachable)
    (hengine : s.device.engine = Standard.engine) {key : ℕ} {before : Recorder}
    (hr : s.recorder? key = some before) {info : RenderPassBegin}
    (hok : (s.step (.record key (.beginRenderPass info))).result = .ok .done) :
    ∃ begun inst framebuffer,
      (s.step (.record key (.beginRenderPass info))).state.recorder? key = some begun
      ∧ begun.recording.renderPass = some inst
      ∧ inst.BegunBy s.device.registry info framebuffer
      ∧ (inst.Disjoint → inst.BeginEffect before.recording begun.recording
        ∧ ∀ between, .record key .endRenderPass ∉ between → ∀ ending,
          ((s.step (.record key (.beginRenderPass info))).state.run between).recorder? key = some ending →
          let last := ((s.step (.record key (.beginRenderPass info))).state.run between).step
            (.record key .endRenderPass)
          last.result = .ok .done ∧ ∃ ended, last.state.recorder? key = some ended
            ∧ inst.EndEffect begun.recording ending.recording ended.recording) := by
  obtain ⟨inst, framebuffer, hbegins, hbegun⟩ := Session.exists_begins hr hok
  have hinst : (before.record s.device (.beginRenderPass info)).state.recording.renderPass = some inst := by
    rw [hbegins.recording]
    rfl
  refine ⟨_, inst, framebuffer, hbegun, hinst, hbegins.begunBy, fun hdisjoint => ?_⟩
  have hbegin : inst.BeginEffect before.recording
      (before.record s.device (.beginRenderPass info)).state.recording := by
    rw [hbegins.recording]
    exact RenderPassInstance.beginEffect hdisjoint (h.wellFormed.recordings key before hr)
  refine ⟨hbegin, fun between hend ending hending => ?_⟩
  -- The calls in between start from a recorder that has learned nothing yet.
  have hreachable := h.call (.record key (.beginRenderPass info))
  have hengine' := (s.step_transition (.record key (.beginRenderPass info))).engine.trans hengine
  have hpass := Session.InsidePass.start hreachable hbegun hinst
  have hinside := (hpass.run hreachable hengine' hend).recorder ending hending
  obtain ⟨hresult, hended⟩ :=
    Session.step_endRenderPass ((Session.run_engine _ between).trans hengine') hending hinside.renderPass
  exact ⟨hresult, _, hended, RenderPassInstance.endEffect hdisjoint hbegin
    ((hreachable.run between).wellFormed.recordings key ending hending) hinside⟩

/-- Views of different images share no subresource. -/
theorem RenderPassInstance.disjoint_of_nodup {inst : RenderPassInstance}
    (h : (inst.views.map fun bound => bound.view.image).Nodup) : inst.Disjoint := by
  intro k l a b image i hk hl ha hb
  have himage (m : ℕ) (c : BoundView × AttachmentDescription) (hm : inst.attachments[m]? = some c)
      (hc : c.1.Covers image i) : (inst.views.map fun bound => bound.view.image)[m]? = some image := by
    rw [List.getElem?_map, (List.getElem?_zip_eq_some.mp hm).1, Option.map_some, hc.1]
  have hk' := himage k a hk ha
  have hl' := himage l b hl hb
  exact (List.getElem?_inj (List.getElem?_eq_some_iff.mp hk').1 h).mp (hk'.trans hl'.symm)

/-- A render pass with three attachments.  The first subpass draws to the first of them; the second one tests
depth in the second, and reads both in layouts of their own.  Nothing refers to the third. -/
def threeAttachments : RenderPassInfo where
  attachments := [
    { format := .r8g8b8a8Unorm, finalLayout := .presentSrc },
    { format := .d16Unorm, initialLayout := .general, finalLayout := .depthStencilReadOnlyOptimal },
    { format := .r8g8b8a8Unorm, initialLayout := .general, finalLayout := .transferSrcOptimal }]
  subpasses := [
    { color := [⟨0, .colorAttachmentOptimal⟩] },
    { depthStencil := some ⟨1, .depthStencilAttachmentOptimal⟩
      input := [⟨1, .depthStencilReadOnlyOptimal⟩, ⟨0, .shaderReadOnlyOptimal⟩] }]

/-- Views of three images, a framebuffer with them, and a command buffer to record. -/
def threeViews : Session :=
  (Session.start {} Standard.engine).run
    [.createRenderPass threeAttachments,
      .createImage { format := .r8g8b8a8Unorm, extent := ⟨4, 4, 1⟩
                     usage := .colorAttachment ∪ .inputAttachment },
      .createImage { format := .d16Unorm, extent := ⟨4, 4, 1⟩
                     usage := .depthStencilAttachment ∪ .inputAttachment },
      .createImage { format := .r8g8b8a8Unorm, extent := ⟨4, 4, 1⟩, usage := .transferSrc },
      .allocateMemory { size := 65536 },
      .bindImage (.ofSerial .image 2) (.ofSerial .deviceMemory 5) 0,
      .bindImage (.ofSerial .image 3) (.ofSerial .deviceMemory 5) 8192,
      .bindImage (.ofSerial .image 4) (.ofSerial .deviceMemory 5) 16384,
      .createImageView { image := .ofSerial .image 2 },
      .createImageView { image := .ofSerial .image 3, range := ⟨.depth, ⟨0, 1⟩, ⟨0, 1⟩⟩ },
      .createImageView { image := .ofSerial .image 4 },
      .createFramebuffer {
        renderPass := .ofSerial .renderPass 1
        attachments := .views [.ofSerial .imageView 6, .ofSerial .imageView 7, .ofSerial .imageView 8]
        width := 4, height := 4 },
      .beginCommandBuffer ⟨0, 0⟩ none .multipleSubmit]

/-- The render pass with three attachments, on the framebuffer with three views. -/
def threeAttachmentsPass : RenderPassBegin where
  renderPass := .ofSerial .renderPass 1
  framebuffer := .ofSerial .framebuffer 9

/-- The layouts that a recorder knows of the three images. -/
def threeLayouts (recorder : Recorder) : List (Option LocalLayout) :=
  [2, 3, 4].map fun serial => recorder.recording.localLayout? (.ofSerial .image serial) 0

/-- The attachments are moved to the layouts of their first references, which are as color and as depth and
stencil, and the third one straight to its final layout.  After an empty barrier the render pass ends. -/
theorem threeAttachments_have_declared_effect :
    ∃ (before begun ending ended : Recorder) (inst : RenderPassInstance) (framebuffer : Framebuffer),
      threeViews.recorder? 0 = some before
      ∧ (threeViews.step (.record 0 (.beginRenderPass threeAttachmentsPass))).state.recorder? 0 = some begun
      ∧ inst.BegunBy threeViews.device.registry threeAttachmentsPass framebuffer
      ∧ inst.BeginEffect before.recording begun.recording
      ∧ inst.EndEffect begun.recording ending.recording ended.recording
      ∧ threeLayouts begun = [some ⟨none, .colorAttachmentOptimal⟩,
        some ⟨some .general, .depthStencilAttachmentOptimal⟩, some ⟨some .general, .transferSrcOptimal⟩]
      ∧ threeLayouts ended = [some ⟨none, .presentSrc⟩, some ⟨some .general, .depthStencilReadOnlyOptimal⟩,
        some ⟨some .general, .transferSrcOptimal⟩] := by
  have hreachable : threeViews.Reachable := (Session.Reachable.start {} Standard.engine).run _
  have hengine : threeViews.device.engine = Standard.engine := by
    rw [threeViews, Session.run_engine]
    rfl
  obtain ⟨before, hbefore⟩ : ∃ before, threeViews.recorder? 0 = some before :=
    Option.isSome_iff_exists.mp (by decide +kernel)
  have hok : (threeViews.step (.record 0 (.beginRenderPass threeAttachmentsPass))).result = .ok .done :=
    Outcome.value?_eq_some.mp (by decide +kernel)
  obtain ⟨begun, inst, framebuffer, hbegun, hinst, hby, heffect⟩ :=
    render_pass_has_declared_effect hreachable hengine hbefore hok
  -- The views are of three images, so that no subresource has two of them.
  have himages : ((threeViews.step (.record 0 (.beginRenderPass threeAttachmentsPass))).state.recorder? 0).bind
      (fun recorder => recorder.recording.renderPass.map fun inst =>
        inst.views.map fun bound => bound.view.image)
      = some [.ofSerial .image 2, .ofSerial .image 3, .ofSerial .image 4] := by
    decide +kernel
  rw [hbegun, Option.bind_some, hinst, Option.map_some] at himages
  have hdisjoint : inst.Disjoint := by
    refine RenderPassInstance.disjoint_of_nodup ?_
    rw [Option.some.inj himages]
    decide +kernel
  obtain ⟨hbegin, hend⟩ := heffect hdisjoint
  obtain ⟨ending, hending⟩ : ∃ ending,
      ((threeViews.step (.record 0 (.beginRenderPass threeAttachmentsPass))).state.run
        [.record 0 (.barrier {})]).recorder? 0 = some ending :=
    Option.isSome_iff_exists.mp (by decide +kernel)
  obtain ⟨-, ended, hended, hendEffect⟩ := hend [.record 0 (.barrier {})] (by decide) ending hending
  -- What the theorem says of the layouts is seen on the first subresource of each image.
  have hlayouts : ((threeViews.step (.record 0 (.beginRenderPass threeAttachmentsPass))).state.recorder? 0).map
      threeLayouts = some [some ⟨none, .colorAttachmentOptimal⟩,
        some ⟨some .general, .depthStencilAttachmentOptimal⟩,
        some ⟨some .general, .transferSrcOptimal⟩] := by
    decide +kernel
  rw [hbegun] at hlayouts
  have hfinal : ((((threeViews.step (.record 0 (.beginRenderPass threeAttachmentsPass))).state.run
      [.record 0 (.barrier {})]).step (.record 0 .endRenderPass)).state.recorder? 0).map threeLayouts
      = some [some ⟨none, .presentSrc⟩, some ⟨some .general, .depthStencilReadOnlyOptimal⟩,
        some ⟨some .general, .transferSrcOptimal⟩] := by
    decide +kernel
  rw [hended] at hfinal
  exact ⟨before, begun, ending, ended, inst, framebuffer, hbefore, hbegun, hby, hbegin, hendEffect,
    Option.some.inj hlayouts, Option.some.inj hfinal⟩

end VulkanValidity
