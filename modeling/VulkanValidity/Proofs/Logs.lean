/-
  VulkanValidity.Proofs.Logs

  What commands add to a recording, and what therefore holds of every log.  A command appends accesses
  and references and takes none back (`Recording.Adds`).  The objects that it refers to are reached
  through handles that lead somewhere (`Registry.Reaches`), and an access that is no use is the role of a
  barrier (`Command.Kinds`).  What holds of all open recordings and of all logs (`Session.AllLogs`) then
  has to be shown of a new recording and of single commands only.
-/

import VulkanValidity.Proofs.Invariant

namespace VulkanValidity

/-! ## Adding to recordings -/

/-- The recording `recording'` is `recording` with accesses of some kinds, and references to some objects,
added to it. -/
structure Recording.Adds (kinds : AccessKind → Prop) (ids : ObjectId → Prop)
    (recording recording' : Recording) : Prop where
  family : recording'.family = recording.family
  accesses : ∀ access ∈ recording'.accesses, access ∈ recording.accesses ∨ kinds access.effect.kind
  references : ∀ id ∈ recording'.references, id ∈ recording.references ∨ ids id

namespace Recording.Adds

variable {kinds : AccessKind → Prop} {ids : ObjectId → Prop}
  {recording recording' recording'' : Recording}

theorem refl (recording : Recording) : Adds kinds ids recording recording :=
  ⟨rfl, fun _ h => Or.inl h, fun _ h => Or.inl h⟩

theorem trans (h : Adds kinds ids recording recording')
    (h' : Adds kinds ids recording' recording'') : Adds kinds ids recording recording'' where
  family := h'.family.trans h.family
  accesses access haccess := (h'.accesses access haccess).elim (h.accesses access) Or.inr
  references id hid := (h'.references id hid).elim (h.references id) Or.inr

theorem reference (recording : Recording) {id : ObjectId} (hid : ids id) :
    Adds kinds ids recording (recording.reference id) := by
  refine ⟨recording.reference_family id, fun access haccess => ?_, fun other hother => ?_⟩
  · rw [Recording.reference_accesses] at haccess
    exact Or.inl haccess
  · rw [Recording.reference] at hother
    split at hother
    · exact Or.inl hother
    · rcases List.mem_append.mp hother with hold | hnew
      · exact Or.inl hold
      · rw [List.mem_singleton.mp hnew]
        exact Or.inr hid

theorem access (recording : Recording) {access : Access} (hkind : kinds access.effect.kind)
    (hid : ids access.resource.id) : Adds kinds ids recording (recording.access access) := by
  have hreference : Adds kinds ids recording (recording.reference access.resource.id) :=
    reference recording hid
  refine ⟨recording.access_family access, fun other hother => ?_, hreference.references⟩
  rw [Recording.access_accesses] at hother
  rcases List.mem_append.mp hother with hold | hnew
  · exact Or.inl hold
  · rw [List.mem_singleton.mp hnew]
    exact Or.inr hkind

/-- What is known of layouts has to do with neither accesses nor references. -/
theorem updateLayouts (recording : Recording) (image : Handle .image) (info : ImageInfo)
    (range : SubresourceRange) (f : Option LocalLayout → Option LocalLayout) :
    Adds kinds ids recording (recording.updateLayouts image info range f) :=
  ⟨rfl, fun _ h => Or.inl h, fun _ h => Or.inl h⟩

theorem foldl {α : Type} {f : Recording → α → Recording} {l : List α}
    (hf : ∀ recording, ∀ a ∈ l, Adds kinds ids recording (f recording a)) (recording : Recording) :
    Adds kinds ids recording (l.foldl f recording) := by
  refine List.foldlRecOn (motive := Adds kinds ids recording) l f (refl recording)
    fun before hbefore a ha => ?_
  exact hbefore.trans (hf before a ha)

/-! ### Commands on known objects -/

theorem imageBarrier (recording : Recording) (info : ImageInfo) (barrier : ImageBarrier)
    (hkind : kinds (barrierRole barrier.transfer recording.family).kind)
    (hid : ids barrier.image.erase) :
    Adds kinds ids recording (recording.imageBarrier info barrier) := by
  unfold Recording.imageBarrier
  simp only
  split
  · exact (updateLayouts recording barrier.image info barrier.range _).trans (access _ hkind hid)
  · exact access recording hkind hid

theorem bufferBarrier (recording : Recording) (barrier : BufferBarrier)
    (hkind : kinds (barrierRole barrier.transfer recording.family).kind)
    (hid : ids barrier.buffer.erase) :
    Adds kinds ids recording (recording.bufferBarrier barrier) :=
  access recording hkind hid

variable (huse : kinds .use)
include huse

theorem writeRegions (recording : Recording) (image : Handle .image) (info : ImageInfo)
    (layout : ImageLayout) (regions : List SubresourceRange) (hid : ids image.erase) :
    Adds kinds ids recording (recording.writeRegions image info layout regions) :=
  foldl (fun recording region _ =>
    (updateLayouts recording image info region _).trans (access _ huse hid)) recording

theorem beginRenderPass (recording : Recording) (inst : RenderPassInstance)
    (hrenderPass : ids inst.renderPass.erase) (hframebuffer : ids inst.framebuffer.erase)
    (hviews : ∀ bound ∈ inst.views, ids bound.handle.erase ∧ ids bound.view.image.erase) :
    Adds kinds ids recording (recording.beginRenderPass inst) := by
  have hreferenced : Adds kinds ids recording
      ((recording.reference inst.renderPass.erase).reference inst.framebuffer.erase) :=
    (reference recording hrenderPass).trans (reference _ hframebuffer)
  have hattachments (recording : Recording) (attachment : (BoundView × AttachmentDescription) × Nat)
      (hmem : attachment ∈ inst.attachments.zipIdx) :
      Adds kinds ids recording (recording.beginAttachment inst.renderPassInfo attachment) := by
    have hbound : attachment.1.1 ∈ inst.views := (List.of_mem_zip (List.fst_mem_of_mem_zipIdx hmem)).1
    obtain ⟨hview, himage⟩ := hviews _ hbound
    exact ((reference recording hview).trans (updateLayouts _ _ _ _ _)).trans (access _ huse himage)
  have hbegun := hreferenced.trans (foldl hattachments _)
  exact ⟨hbegun.family, hbegun.accesses, hbegun.references⟩

omit huse

theorem endRenderPass (recording : Recording) : Adds kinds ids recording recording.endRenderPass := by
  unfold Recording.endRenderPass
  split
  · exact refl recording
  · next inst _ =>
    have hclosed : Adds kinds ids recording { recording with renderPass := none } :=
      ⟨rfl, fun _ h => Or.inl h, fun _ h => Or.inl h⟩
    exact hclosed.trans (foldl (fun recording attachment _ => updateLayouts recording _ _ _ _) _)

end Recording.Adds

/-! ## What commands add -/

/-- The transfers of the barriers of a command, `none` for a barrier without one. -/
def Dependency.transfers (dependency : Dependency) : List (Option OwnershipTransfer) :=
  dependency.imageBarriers.map ImageBarrier.transfer
    ++ dependency.bufferBarriers.map BufferBarrier.transfer

/-- The kinds of the accesses that a command records in a command buffer of `family`. -/
def Command.Kinds (command : Command) (family : Nat) (kind : AccessKind) : Prop :=
  kind = .use ∨ ∃ dependency, command = .barrier dependency
    ∧ ∃ transfer ∈ dependency.transfers, kind = (barrierRole transfer family).kind

/-- The object is alive, or it is the image that a live view shows. -/
def Registry.Reaches (r : Registry) (id : ObjectId) : Prop :=
  r.contains id = true
    ∨ ∃ (handle : Handle .imageView) (view : ImageView), r.get? handle = some view
      ∧ id = view.image.erase

theorem Registry.Reaches.of_get {r : Registry} {t : ObjectType} {handle : Handle t}
    {object : t.Object} (h : r.get handle = .ok object) : r.Reaches handle.erase :=
  Or.inl (contains_of_get? (get_eq_ok.mp h))

namespace Recorder

open Recording

variable {kinds : AccessKind → Prop}

theorem imageBarriers_adds (registry : Registry) (recording : Recording)
    (barriers : List ImageBarrier)
    (hkinds : ∀ barrier ∈ barriers, kinds (barrierRole barrier.transfer recording.family).kind) :
    Adds kinds registry.Reaches recording (imageBarriers registry recording barriers).1 := by
  induction barriers generalizing recording with
  | nil => exact .refl recording
  | cons barrier barriers ih =>
    rw [imageBarriers]
    cases himage : registry.get barrier.image with
    | error e => exact .refl recording
    | ok image =>
      have hfirst : Adds kinds registry.Reaches recording
          (recording.imageBarrier image.info barrier) :=
        .imageBarrier recording image.info barrier (hkinds barrier List.mem_cons_self) (.of_get himage)
      refine hfirst.trans (ih _ fun other hother => ?_)
      rw [hfirst.family]
      exact hkinds other (List.mem_cons_of_mem barrier hother)

theorem bufferBarriers_adds (registry : Registry) (recording : Recording)
    (barriers : List BufferBarrier)
    (hkinds : ∀ barrier ∈ barriers, kinds (barrierRole barrier.transfer recording.family).kind) :
    Adds kinds registry.Reaches recording (bufferBarriers registry recording barriers).1 := by
  induction barriers generalizing recording with
  | nil => exact .refl recording
  | cons barrier barriers ih =>
    rw [bufferBarriers]
    cases hbuffer : registry.get barrier.buffer with
    | error e => exact .refl recording
    | ok buffer =>
      have hfirst : Adds kinds registry.Reaches recording (recording.bufferBarrier barrier) :=
        .bufferBarrier recording barrier (hkinds barrier List.mem_cons_self) (.of_get hbuffer)
      refine hfirst.trans (ih _ fun other hother => ?_)
      rw [hfirst.family]
      exact hkinds other (List.mem_cons_of_mem barrier hother)

theorem barriers_adds (registry : Registry) (recording : Recording) (dependency : Dependency) :
    Adds (Command.Kinds (.barrier dependency) recording.family) registry.Reaches recording
      (barriers registry recording dependency).1 := by
  have hkinds (transfer : Option OwnershipTransfer) (hmem : transfer ∈ dependency.transfers) :
      Command.Kinds (.barrier dependency) recording.family
        (barrierRole transfer recording.family).kind :=
    Or.inr ⟨dependency, rfl, transfer, hmem, rfl⟩
  have himages : Adds (Command.Kinds (.barrier dependency) recording.family) registry.Reaches recording
      (imageBarriers registry recording dependency.imageBarriers).1 :=
    imageBarriers_adds registry recording _ fun barrier hbarrier =>
      hkinds _ (List.mem_append_left _ (List.mem_map_of_mem hbarrier))
  rw [barriers]
  split
  · next heq => rwa [heq] at himages
  · next heq =>
    rw [heq] at himages
    refine himages.trans (bufferBarriers_adds registry _ _ fun barrier hbarrier => ?_)
    rw [himages.family]
    exact hkinds _ (List.mem_append_right _ (List.mem_map_of_mem hbarrier))

theorem mem_beginViews {registry : Registry} {framebuffer : Framebuffer} {info : RenderPassBegin}
    {views : List BoundView} (h : beginViews registry framebuffer info = .ok views)
    {bound : BoundView} (hbound : bound ∈ views) :
    registry.get? bound.handle = some bound.view := by
  obtain ⟨k, hk⟩ := List.mem_iff_getElem?.mp hbound
  obtain ⟨handle, -, h⟩ := exists_getElem?_of_forall₂ (mapM_eq_ok_iff.mp h) hk
  obtain ⟨view, hview, h⟩ := bind_eq_ok.mp h
  obtain rfl := pure_eq_ok.mp h
  exact Registry.get_eq_ok.mp hview

theorem perform_adds {registry : Registry} {recording recording' : Recording} {command : Command}
    (huse : kinds .use) (hp : perform registry recording command = .ok recording') :
    Adds kinds registry.Reaches recording recording' := by
  cases command with
  | barrier dependency =>
    obtain rfl := Except.ok.inj hp
    exact .refl recording
  | clear info =>
    obtain ⟨image, himage, hp⟩ := bind_eq_ok.mp hp
    obtain rfl := pure_eq_ok.mp hp
    exact .writeRegions huse recording _ _ _ _ (.of_get himage)
  | copy info =>
    obtain ⟨buffer, hbuffer, hp⟩ := bind_eq_ok.mp hp
    obtain ⟨image, himage, hp⟩ := bind_eq_ok.mp hp
    obtain rfl := pure_eq_ok.mp hp
    have hread : Adds kinds registry.Reaches recording
        (recording.accessBuffer info.buffer (transferEffect false)) :=
      .access recording huse (.of_get hbuffer)
    exact hread.trans (.writeRegions huse _ _ _ _ _ (.of_get himage))
  | fill buffer data =>
    obtain ⟨_, hbuffer, hp⟩ := bind_eq_ok.mp hp
    obtain rfl := pure_eq_ok.mp hp
    exact .access recording huse (.of_get hbuffer)
  | beginRenderPass info =>
    obtain ⟨renderPass, hrenderPass, hp⟩ := bind_eq_ok.mp hp
    obtain ⟨framebuffer, hframebuffer, hp⟩ := bind_eq_ok.mp hp
    obtain ⟨views, hviews, hp⟩ := bind_eq_ok.mp hp
    obtain rfl := pure_eq_ok.mp hp
    refine .beginRenderPass huse recording _ (.of_get hrenderPass) (.of_get hframebuffer)
      fun bound hbound => ?_
    have hview := mem_beginViews hviews hbound
    exact ⟨Or.inl (Registry.contains_of_get? hview), Or.inr ⟨bound.handle, bound.view, hview, rfl⟩⟩
  | endRenderPass =>
    obtain rfl := Except.ok.inj hp
    exact .endRenderPass recording

/-- What recording a command adds to a recording, whether the command is rejected or not. -/
theorem record_adds (recorder : Recorder) (d : Device) (command : Command) :
    Adds (command.Kinds recorder.recording.family) d.registry.Reaches recorder.recording
      (recorder.record d command).state.recording := by
  -- Barriers are recorded up to the first that fails, other commands as a whole.
  by_cases hbarrier : ∃ dependency, command = .barrier dependency
  · obtain ⟨dependency, rfl⟩ := hbarrier
    simp only [record, recordBarrier]
    split
    · exact .refl recorder.recording
    · exact barriers_adds d.registry recorder.recording dependency
  · rcases recorder.record_cases d (not_exists.mp hbarrier) with ⟨hs, -⟩ | ⟨_, hperform, hs, -⟩
    · rw [hs]
      exact .refl recorder.recording
    · rw [hs]
      exact perform_adds (Or.inl rfl) hperform

end Recorder

/-! ## What holds of all logs -/

namespace Device

theorem log?_submitOne (d : Device) (queue : Queue) (handle other : Handle .commandBuffer) :
    (d.submitOne queue handle).state.registry.log? other = d.registry.log? other := by
  rcases d.submitOne_cases queue handle with ⟨-, hs⟩ | ⟨log, -, -, hs⟩
  · rw [hs]
  · rw [hs, log?_execute]

theorem log?_submitAll (d : Device) (entries : List (Queue × Handle .commandBuffer))
    (other : Handle .commandBuffer) :
    (d.submitAll entries).registry.log? other = d.registry.log? other :=
  foldl_keeps (fun d : Device => d.registry.log? other)
    (f := fun d (entry : Queue × Handle .commandBuffer) => (d.submitOne entry.1 entry.2).state)
    (fun d entry => d.log?_submitOne entry.1 entry.2 other) entries d

end Device

namespace Session

/-- Something holds of what is recorded in open recorders and in command buffers. -/
structure AllLogs (P : Registry → CommandLog → Prop) (s : Session) : Prop where
  recordings : ∀ key recorder, s.recorder? key = some recorder →
    P s.device.registry recorder.recording.finish
  logs : ∀ handle log, s.device.registry.log? handle = some log → P s.device.registry log

variable {P : Registry → CommandLog → Prop}

theorem allLogs_start (environment : Environment) (engine : Engine) :
    (start environment engine).AllLogs P where
  recordings key recorder h := by cases h
  logs handle log h := by cases h

namespace AllLogs

variable {s : Session} (h : s.AllLogs P)
include h

/-- A call keeps what holds of all logs if the change of the registry does, and if it holds of what begins
to be recorded and after the command that is recorded. -/
theorem transition_of_begins {call : Call} {after : Session} (htransition : s.Transition call after)
    (hregistry : ∀ log, P s.device.registry log → P after.device.registry log)
    (hbegin : ∀ queue again usage recorder, s.device.Begins queue usage again recorder after.device →
      P after.device.registry recorder.recording.finish)
    (hrecord : ∀ key command recorder, call = .record key command →
      s.recorder? key = some recorder →
        P s.device.registry (recorder.record s.device command).state.recording.finish) :
    after.AllLogs P := by
  -- Apart from the end of a recording, a log after the call was one before it.
  have hlogs {r : Registry} {handle : Handle .commandBuffer} {log : CommandLog}
      (hkept : r.log? handle = s.device.registry.log? handle ∨ r.log? handle = none)
      (hlog : r.log? handle = some log) : P s.device.registry log := by
    rcases hkept with heq | hnone
    · exact h.logs handle log (heq ▸ hlog)
    · rw [hnone] at hlog
      cases hlog
  refine ⟨fun key recorder hr => ?_, fun handle log hlog => ?_⟩
  · rcases htransition.recorders hr with
      hold | ⟨queue, again, usage, hd⟩ | ⟨k, command, before, hcall, hbefore, rfl⟩
    · exact hregistry _ (h.recordings key recorder hold)
    · exact hbegin queue again usage recorder hd
    · exact hregistry _ (hrecord k command before hcall hbefore)
  · cases htransition with
    | plain _ hd => exact hregistry _ (hlogs (hd.continues.registry.logs handle) hlog)
    | begun hd => exact hregistry _ (hlogs (hd.continues.registry.logs handle) hlog)
    | @ended key recorder hr =>
      have hlog := (Registry.log?_finish _ _ _ handle).symm.trans hlog
      split at hlog
      · obtain ⟨cb, -, rfl⟩ := Option.map_eq_some_iff.mp hlog
        exact hregistry _ (h.recordings key recorder hr)
      · exact hregistry _ (h.logs handle log hlog)
    | submitted =>
      exact hregistry _ (hlogs (Or.inl (s.device.log?_submitAll _ handle)) hlog)
    | _ => exact h.logs handle log hlog

/-- The same for what holds of a new recording of any family. -/
theorem transition {call : Call} {after : Session} (htransition : s.Transition call after)
    (hregistry : ∀ log, P s.device.registry log → P after.device.registry log)
    (hbegin : ∀ family, P after.device.registry ({ family := family } : Recording).finish)
    (hrecord : ∀ key command recorder, call = .record key command →
      s.recorder? key = some recorder →
        P s.device.registry (recorder.record s.device command).state.recording.finish) :
    after.AllLogs P := by
  refine h.transition_of_begins htransition hregistry (fun queue again usage recorder hd => ?_) hrecord
  obtain ⟨family, hrecording⟩ := hd.recording
  rw [hrecording]
  exact hbegin family

/-- A submission keeps what holds of all logs if the change of the registry does. -/
theorem submission (queue : Queue) (handle : Handle .commandBuffer)
    (hregistry : ∀ log, P s.device.registry log →
      P (s.device.submitOne queue handle).state.registry log) :
    (s.withDevice (s.device.submitOne queue handle).state).AllLogs P := by
  refine ⟨fun key recorder hr => hregistry _ (h.recordings key recorder hr), fun other log hlog => ?_⟩
  have hbefore := (s.device.log?_submitOne queue handle other).symm.trans hlog
  exact hregistry log (h.logs other log hbefore)

end AllLogs

end Session

end VulkanValidity
