/-
  VulkanValidity.Proofs.Attachments

  The views that render passes begin with.  No single rule says that each of them suits its attachment: a
  framebuffer is compared with its views when it is created, an imageless one with the views of each
  begin, and the render passes of the two moments are only compared with one another.  That this is
  enough is an invariant of sessions (`Registry.AttachmentsFit`): views stay what they were, for no
  handle is used twice, and so a framebuffer goes on to suit the render pass that it was created for.
-/

import VulkanValidity.Proofs.Cuts
import VulkanValidity.Proofs.SwapchainImages

namespace VulkanValidity

/-! ## What fits -/

/-- The view can be used as the attachment: it has its format, and its image has its sample count. -/
structure ImageView.Suits (view : ImageView) (description : AttachmentDescription) : Prop where
  format : view.format = description.format
  samples : view.imageInfo.samples = description.samples

namespace Registry

/-- The framebuffer has as many attachments as the render pass that it was created for, and the views that
it was created with are known, and suit the attachments for as long as they are alive. -/
structure FramebufferFits (r : Registry) (framebuffer : Framebuffer) : Prop where
  count : framebuffer.info.attachments.count = framebuffer.renderPassInfo.attachments.length
  known : ∀ handles, framebuffer.info.attachments = .views handles →
    ∀ handle ∈ handles, r.isKnown handle.erase = true
  suits : ∀ handles, framebuffer.info.attachments = .views handles →
    ∀ (k : Nat) (handle : Handle .imageView) (view : ImageView) description, handles[k]? = some handle →
      r.get? handle = some view →
      framebuffer.renderPassInfo.attachments[k]? = some description → view.Suits description

/-- The image of the view is known, and while it is alive it is as the view says. -/
structure ViewFits (r : Registry) (view : ImageView) : Prop where
  known : r.isKnown view.image.erase = true
  image : ∀ image : Image, r.get? view.image = some image → image.info = view.imageInfo

/-- All framebuffers of a registry suit the render passes that they were created for, and all views their
images. -/
structure AttachmentsFit (r : Registry) : Prop where
  framebuffers : ∀ (handle : Handle .framebuffer) (framebuffer : Framebuffer),
    r.get? handle = some framebuffer →
    r.FramebufferFits framebuffer
  views : ∀ (handle : Handle .imageView) (view : ImageView), r.get? handle = some view → r.ViewFits view

/-- What was known before is known afterwards, and a view or an image that was known and is alive has the
properties that it had. -/
structure KeepsViews (r r' : Registry) : Prop where
  known : ∀ id, r.isKnown id = true → r'.isKnown id = true
  view : ∀ (handle : Handle .imageView) (view : ImageView),
    r.isKnown handle.erase = true → r'.get? handle = some view →
    r.get? handle = some view
  image : ∀ (handle : Handle .image) (image : Image),
    r.isKnown handle.erase = true → r'.get? handle = some image →
    ∃ before : Image, r.get? handle = some before ∧ before.info = image.info

namespace KeepsViews

variable {r r' : Registry} (h : r.KeepsViews r')
include h

theorem framebufferFits {framebuffer : Framebuffer} (hfits : r.FramebufferFits framebuffer) :
    r'.FramebufferFits framebuffer where
  count := hfits.count
  known handles hhandles handle hmem := h.known _ (hfits.known handles hhandles handle hmem)
  suits handles hhandles k handle view description hk hget hdescription := by
    have hknown := hfits.known handles hhandles handle (List.mem_of_getElem? hk)
    exact hfits.suits handles hhandles k handle view description hk (h.view handle view hknown hget)
      hdescription

theorem viewFits {view : ImageView} (hfits : r.ViewFits view) : r'.ViewFits view where
  known := h.known _ hfits.known
  image image hget := by
    obtain ⟨before, hbefore, hinfo⟩ := h.image view.image image hfits.known hget
    exact hinfo.symm.trans (hfits.image before hbefore)

/-- All attachments fit if those fit that are new. -/
theorem attachmentsFit (hfits : r.AttachmentsFit)
    (hframebuffer : ∀ (handle : Handle .framebuffer) (framebuffer : Framebuffer),
      r'.get? handle = some framebuffer →
      r.get? handle = some framebuffer ∨ r.FramebufferFits framebuffer)
    (hview : ∀ (handle : Handle .imageView) (view : ImageView), r'.get? handle = some view →
      r.get? handle = some view ∨ r.ViewFits view) : r'.AttachmentsFit where
  framebuffers handle framebuffer hget := by
    rcases hframebuffer handle framebuffer hget with hold | hnew
    · exact h.framebufferFits (hfits.framebuffers handle framebuffer hold)
    · exact h.framebufferFits hnew
  views handle view hget := by
    rcases hview handle view hget with hold | hnew
    · exact h.viewFits (hfits.views handle view hold)
    · exact h.viewFits hnew

end KeepsViews

/-- An object that is known and will be alive is alive. -/
theorem exists_get?_of_get? {r r' : Registry} (htells : r.FeedTells) (htells' : r'.FeedTells)
    (hchanges : Changes ([], r) ([], r')) {t : ObjectType} {handle : Handle t} {after : t.Object}
    (hknown : r.isKnown handle.erase = true) (hget : r'.get? handle = some after) :
    ∃ before, r.get? handle = some before :=
  exists_get?_of_contains (htells.contains_of_later htells' hchanges hknown (contains_of_get? hget))

/-- Views and images that are alive before and after some changes are what matters: what is gone does not
come back. -/
theorem keepsViews_of_changes {r r' : Registry} (htells : r.FeedTells) (htells' : r'.FeedTells)
    (hchanges : Changes ([], r) ([], r'))
    (hview : ∀ (handle : Handle .imageView) (view : ImageView), r'.get? handle = some view →
      r.get? handle = some view ∨ r.get? handle = none)
    (himage : ∀ (handle : Handle .image) (before after : Image), r.get? handle = some before →
      r'.get? handle = some after → before.info = after.info) : r.KeepsViews r' where
  known id hid := hchanges.isKnown hid
  view handle view hknown hget := by
    obtain ⟨before, hbefore⟩ := exists_get?_of_get? htells htells' hchanges hknown hget
    rcases hview handle view hget with hold | hnone
    · exact hold
    · rw [hbefore] at hnone
      cases hnone
  image handle image hknown hget := by
    obtain ⟨before, hbefore⟩ := exists_get?_of_get? htells htells' hchanges hknown hget
    exact ⟨before, hbefore, himage handle before image hbefore hget⟩

theorem attachmentsFit_empty : ({} : Registry).AttachmentsFit where
  framebuffers handle framebuffer hget := by cases hget
  views handle view hget := by cases hget

end Registry

/-! ## Framebuffers that the rules accept -/

namespace Standard

theorem reports_framebufferCount :
    engine.Reports .resourceCreation .invalidParams FramebufferRules.attachmentCount :=
  reports_rule framebufferRules 3

theorem reports_framebufferImagelessCount :
    engine.Reports .resourceCreation .invalidParams FramebufferRules.imagelessCount :=
  reports_rule framebufferRules 14

theorem reports_framebufferFormat : engine.Reports .resourceCreation .invalidParams FramebufferRules.format :=
  reports_rule framebufferRules 7

theorem reports_framebufferSamples :
    engine.Reports .resourceCreation .invalidParams FramebufferRules.samples :=
  reports_rule framebufferRules 8

section Creation

variable {d : Device} (hengine : d.engine = engine) {info : FramebufferInfo}
  (haccepted : verdict (d.diagnose (.createFramebuffer info)) = .ok ()) {renderPass : RenderPassInfo}
  (hget : d.registry.get? info.renderPass = some renderPass)
include hengine haccepted hget

theorem framebuffer_check_eq_nil {check : FramebufferRules.Target → List Violation}
    (hreports : engine.Reports .resourceCreation .invalidParams (FramebufferRules.onCreate check)) :
    check ⟨info, renderPass⟩ = [] := by
  rw [Device.diagnose, hengine] at haccepted
  have hcheck := check_eq_nil hreports rfl haccepted
  simpa only [FramebufferRules.onCreate, Device.context, hget] using hcheck

/-- What a rule about the views of a framebuffer says of each of them. -/
theorem framebuffer_view_check_eq_none {handles : List (Handle .imageView)}
    (hhandles : info.attachments = .views handles)
    {check : AttachmentDescription → FramebufferRules.ViewAttachment → Option String}
    (hreports : engine.Reports .resourceCreation .invalidParams (FramebufferRules.onDescribedView check))
    {k : Nat} {handle : Handle .imageView} {view : ImageView} {description : AttachmentDescription}
    (hk : handles[k]? = some handle) (hview : d.registry.get? handle = some view)
    (hdescription : renderPass.attachments[k]? = some description) :
    check description ⟨k, handle, view⟩ = none := by
  rw [Device.diagnose, hengine] at haccepted
  -- All views are alive, so that the rule looks at them.
  obtain ⟨attachments, hall⟩ : ∃ attachments,
      List.Forall₂ (fun entry attachment => (d.registry.get? entry.1).map
        (fun view => (⟨entry.2, entry.1, view⟩ : FramebufferRules.ViewAttachment)) = some attachment)
        handles.zipIdx attachments := by
    refine exists_forall₂_iff.mpr fun entry hentry => ?_
    have hmem : entry.1.erase ∈ (Operation.createFramebuffer info).objects := by
      rw [Operation.objects, hhandles]
      exact List.mem_cons_of_mem _ (List.mem_map_of_mem (List.fst_mem_of_mem_zipIdx hentry))
    obtain ⟨found, hfound⟩ := Registry.exists_get?_of_contains (contains_of_accepted haccepted hmem)
    exact ⟨⟨entry.2, entry.1, found⟩, congrArg (Option.map _) hfound⟩
  have hmade : FramebufferRules.liveViews? d.registry handles = some attachments :=
    mapM_eq_some_iff.mpr hall
  have hcheck := check_eq_nil hreports rfl haccepted
  simp only [FramebufferRules.onDescribedView, FramebufferRules.onView, FramebufferRules.onCreate,
    Device.context, hget, hhandles, hmade, Option.getD_some, List.filterMap_eq_nil_iff] at hcheck
  have hmem : (⟨k, handle, view⟩ : FramebufferRules.ViewAttachment) ∈ attachments := by
    have hentry : handles.zipIdx[k]? = some (handle, k) := by
      rw [List.getElem?_zipIdx, hk, Option.map_some, Nat.zero_add]
    obtain ⟨attachment, hattachment, hmade⟩ := exists_getElem?_of_forall₂ hall.flip hentry
    rw [hview] at hmade
    obtain rfl := Option.some.inj hmade
    exact List.mem_of_getElem? hattachment
  have hnone := Option.map_eq_none_iff.mp (hcheck _ hmem)
  rwa [hdescription] at hnone

theorem framebufferFits_of_accepted : d.registry.FramebufferFits ⟨info, renderPass⟩ := by
  refine ⟨?_, fun handles hhandles handle hmem => ?_,
    fun handles hhandles k handle view description hk hview hdescription => ⟨?_, ?_⟩⟩
  · -- One of the two rules is about the attachments that the framebuffer has.
    have hviewCount := framebuffer_check_eq_nil hengine haccepted hget reports_framebufferCount
    have himagelessCount := framebuffer_check_eq_nil hengine haccepted hget reports_framebufferImagelessCount
    show info.attachments.count = renderPass.attachments.length
    cases hattachments : info.attachments with
    | views handles =>
      simp only [hattachments] at hviewCount
      simpa [FramebufferAttachments.count] using violationIf_eq_nil.mp hviewCount
    | imageless infos =>
      simp only [hattachments] at himagelessCount
      simpa [FramebufferAttachments.count] using violationIf_eq_nil.mp himagelessCount
  · rw [Device.diagnose, hengine] at haccepted
    refine Registry.isKnown_of_contains (contains_of_accepted haccepted ?_)
    show handle.erase ∈ (Operation.createFramebuffer info).objects
    rw [Operation.objects, show info.attachments = .views handles from hhandles]
    exact List.mem_cons_of_mem _ (List.mem_map_of_mem hmem)
  · have hnone := framebuffer_view_check_eq_none hengine haccepted hget hhandles reports_framebufferFormat hk
      hview hdescription
    simpa [FramebufferRules.messageIf] using hnone
  · have hnone := framebuffer_view_check_eq_none hengine haccepted hget hhandles reports_framebufferSamples hk
      hview hdescription
    simpa [FramebufferRules.messageIf] using hnone

end Creation

end Standard

/-! ## Steps -/

namespace Device

/-- A device that has one more object has the objects that it had, and that one. -/
theorem get?_insert_cases (d : Device) {t : ObjectType} (object : t.Object) {handle : Handle t}
    {found : t.Object} (h : (d.insert t object).2.registry.get? handle = some found) :
    d.registry.get? handle = some found ∨ (d.registry.get? handle = none ∧ found = object) := by
  have hadd := Registry.get?_add (d.registry.reserve t).2 (d.registry.reserve t).1 object handle
  rw [(Registry.sameObjects_reserve d.registry t).get?_eq] at hadd
  rcases Option.or_eq_some_iff.mp (hadd.symm.trans h) with hold | ⟨hnone, hnew⟩
  · exact Or.inl hold
  · split at hnew
    · exact Or.inr ⟨hnone, (Option.some.inj hnew).symm⟩
    · cases hnew

/-- An object after an operation that looks something up and adds an object is one from before, or the new
one, and then the rules have accepted the operation. -/
theorem get?_guarded_insert (d : Device) (operation : Operation) {α : Type} {looked : Except Error α}
    {t : ObjectType} {object : α → t.Object} {handle : Handle t} {found : t.Object}
    (h : (d.guarded operation (looked >>= fun a => pure (d.insert t (object a)))).state.registry.get? handle
      = some found) :
    d.registry.get? handle = some found ∨ (d.registry.get? handle = none
      ∧ verdict (d.diagnose operation) = .ok () ∧ ∃ a, looked = .ok a ∧ found = object a) := by
  rcases Outcome.guarded_cases d (d.diagnose operation)
    (looked >>= fun a => pure (d.insert t (object a))) with ⟨hs, -⟩ | ⟨_, _, haccepted, hperform, hs, -⟩
  · rw [guarded, hs] at h
    exact Or.inl h
  · obtain ⟨a, ha, hinsert⟩ := bind_eq_ok.mp hperform
    obtain rfl := congrArg Prod.snd (pure_eq_ok.mp hinsert)
    rw [guarded, hs] at h
    rcases d.get?_insert_cases _ h with hold | ⟨hnone, hnew⟩
    · exact Or.inl hold
    · exact Or.inr ⟨hnone, haccepted, a, ha, hnew⟩

/-- The images that are alive before and after a step have the same properties. -/
theorem Remakes.info_eq {d d' : Device} (h : d.Remakes d') (hagrees : d.registry.Agrees [])
    (hfits : d'.registry.nextSerial ≤ ObjectId.maxSerial + 1) {handle : Handle .image}
    {before after : Image} (hbefore : d.registry.get? handle = some before)
    (hafter : d'.registry.get? handle = some after) : before.info = after.info := by
  have horigin : d.registry.imageOrigin? handle = some (before.info, before.memory) :=
    congrArg (Option.map _) hbefore
  have horigin' : d'.registry.imageOrigin? handle = some (after.info, after.memory) :=
    congrArg (Option.map _) hafter
  have hsame (heq : d'.registry.imageOrigin? handle = d.registry.imageOrigin? handle) :
      before.info = after.info :=
    (Prod.mk.inj (Option.some.inj (horigin.symm.trans (heq.symm.trans horigin')))).1
  cases h with
  | same h => exact hsame (h.images handle)
  | @imageCreated info =>
    rcases d.get?_insert_cases _ hafter with hold | ⟨hnone, -⟩
    · rw [Option.some.inj (hbefore.symm.trans hold)]
    · rw [hbefore] at hnone
      cases hnone
  | @imageBound bound found binding hget hunbound =>
    have hbind := (Registry.imageOrigin?_bind hget binding handle).symm.trans horigin'
    split at hbind
    · next heq =>
      subst heq
      obtain rfl := Option.some.inj (hbefore.symm.trans hget)
      exact (Prod.mk.inj (Option.some.inj hbind)).1
    · exact (Prod.mk.inj (Option.some.inj (horigin.symm.trans hbind))).1
  | @imageDestroyed destroyed =>
    have hremove := (d.registry.imageOrigin?_remove destroyed handle).symm.trans horigin'
    split at hremove
    · cases hremove
    · exact (Prod.mk.inj (Option.some.inj (horigin.symm.trans hremove))).1
  | swapchainCreated =>
    obtain ⟨images, hnew⟩ := Device.hasNewSwapchain hagrees hfits
    -- The image is none of the new ones, for it was there before.
    have hold : handle ∉ images := fun hmem => by
      rw [hnew.fresh handle hmem] at hbefore
      cases hbefore
    rw [hnew.otherImages handle hold, hbefore] at hafter
    rw [Option.some.inj hafter]
  | @swapchainDestroyed destroyed swapchain =>
    have hremove := (d.imageOrigin?_removeSwapchain destroyed swapchain.images handle).symm.trans horigin'
    split at hremove
    · cases hremove
    · exact (Prod.mk.inj (Option.some.inj (horigin.symm.trans hremove))).1

end Device

namespace Session

/-- A view after a call is one from before, or one that the rules have accepted, of an image that was alive. -/
theorem imageView_step (s : Session) (call : Call) {handle : Handle .imageView} {view : ImageView}
    (h : (s.step call).state.device.registry.get? handle = some view) :
    s.device.registry.get? handle = some view ∨ (s.device.registry.get? handle = none
      ∧ ∃ (info : ImageViewInfo) (image : Image),
        verdict (s.device.diagnose (.createImageView info)) = .ok ()
        ∧ s.device.registry.get? info.image = some image ∧ view = .ofInfo info image.info) := by
  by_cases htype : ObjectType.imageView ∈ call.footprint
  · cases call with
    | createImageView info =>
      refine (s.device.get?_guarded_insert (.createImageView info) h).imp_right ?_
      rintro ⟨hnone, haccepted, image, himage, hnew⟩
      exact ⟨hnone, info, image, haccepted, Registry.get_eq_ok.mp himage, hnew⟩
    | destroy type destroyed =>
      cases type with
      | imageView => exact Or.inl (s.device.get?_of_destroy destroyed h)
      | _ => simp [Call.footprint] at htype
    | _ => simp [Call.footprint] at htype
  · have hsame : (s.step call).state.device.registry.get? handle = s.device.registry.get? handle :=
      congrArg (Store.get? · handle) (s.objects_step htype)
    exact Or.inl (hsame.symm.trans h)

/-- A framebuffer after a call is one from before, or one that the rules have accepted. -/
theorem framebuffer_step (s : Session) (call : Call) {handle : Handle .framebuffer}
    {framebuffer : Framebuffer}
    (h : (s.step call).state.device.registry.get? handle = some framebuffer) :
    s.device.registry.get? handle = some framebuffer
      ∨ ∃ info renderPass, verdict (s.device.diagnose (.createFramebuffer info)) = .ok ()
        ∧ s.device.registry.get? info.renderPass = some renderPass
        ∧ framebuffer = ⟨info, renderPass⟩ := by
  by_cases htype : ObjectType.framebuffer ∈ call.footprint
  · cases call with
    | createFramebuffer info =>
      refine (s.device.get?_guarded_insert (.createFramebuffer info) h).imp_right ?_
      rintro ⟨-, haccepted, renderPass, hrenderPass, hnew⟩
      exact ⟨info, renderPass, haccepted, Registry.get_eq_ok.mp hrenderPass, hnew⟩
    | destroy type destroyed =>
      cases type with
      | framebuffer => exact Or.inl (s.device.get?_of_destroy destroyed h)
      | _ => simp [Call.footprint] at htype
    | _ => simp [Call.footprint] at htype
  · have hsame : (s.step call).state.device.registry.get? handle = s.device.registry.get? handle :=
      congrArg (Store.get? · handle) (s.objects_step htype)
    exact Or.inl (hsame.symm.trans h)

/-- On the standard engine, and as long as no handle is used twice, the views of framebuffers suit their
attachments. -/
theorem Reachable.attachmentsFit {s : Session} (h : s.Reachable)
    (hengine : s.device.engine = Standard.engine) (hfew : s.FewObjects) :
    s.device.registry.AttachmentsFit := by
  refine h.keeps_few (P := fun s => s.device.registry.AttachmentsFit)
    (fun _ => Registry.attachmentsFit_empty) (fun s call hs hbefore hfewBefore hfew hsubmit ih => ?_)
    (fun s queue handle hs _ hfewBefore hfew ih => ?_) hengine hfew
  · have hchanges := (s.step_transition call).changes
    have hkeeps := Registry.keepsViews_of_changes (hs.feedTells hfewBefore)
      ((hs.call call).feedTells hfew) hchanges
      (fun handle view hget => (s.imageView_step call hget).imp_right And.left)
      fun handle image after hget hafter => (s.remakes_step hsubmit).info_eq
        (hs.changes.agrees_of_empty hfewBefore) ((hs.call call).changes.serials_fit hfew) hget hafter
    refine hkeeps.attachmentsFit ih (fun handle framebuffer hget => ?_) fun handle view hget => ?_
    · refine (s.framebuffer_step call hget).imp_right ?_
      rintro ⟨info, renderPass, haccepted, hrenderPass, rfl⟩
      exact Standard.framebufferFits_of_accepted hbefore haccepted hrenderPass
    · refine (s.imageView_step call hget).imp_right ?_
      rintro ⟨-, info, image, -, himage, rfl⟩
      refine ⟨Registry.isKnown_of_contains (Registry.contains_of_get? himage), fun found hfound => ?_⟩
      rw [Option.some.inj (hfound.symm.trans himage)]
      rfl
  · -- An execution makes no view and no framebuffer.
    have hview (view : Handle .imageView) :
        (s.device.submitOne queue handle).state.registry.get? view = s.device.registry.get? view :=
      congrArg (Store.get? · view) (Device.objects_submitOne (by decide) (by decide) (by decide)
        s.device queue handle)
    have hframebuffer (framebuffer : Handle .framebuffer) :
        (s.device.submitOne queue handle).state.registry.get? framebuffer
          = s.device.registry.get? framebuffer :=
      congrArg (Store.get? · framebuffer) (Device.objects_submitOne (by decide) (by decide) (by decide)
        s.device queue handle)
    have hkeeps := Registry.keepsViews_of_changes (hs.feedTells hfewBefore)
      ((hs.submission queue handle).feedTells hfew) (s.device.changes_submitOne queue handle)
      (fun view found hget => Or.inl ((hview view).symm.trans hget))
      fun image before after hget hafter => (s.device.remakes_submitOne queue handle).info_eq
        (hs.changes.agrees_of_empty hfewBefore)
        ((hs.submission queue handle).changes.serials_fit hfew) hget hafter
    exact hkeeps.attachmentsFit ih
      (fun framebuffer found hget => Or.inl ((hframebuffer framebuffer).symm.trans hget))
      fun view found hget => Or.inl ((hview view).symm.trans hget)

end Session

/-! ## Beginning a render pass -/

namespace Standard

theorem reports_beginCompatible :
    engine.Reports .commandRecording .invalidParams RenderPassBeginRules.compatible :=
  reports_rule renderPassBeginRules 14

theorem reports_beginAttachmentCount :
    engine.Reports .commandRecording .invalidParams RenderPassBeginRules.attachmentCount :=
  reports_rule renderPassBeginRules 1

theorem reports_beginAttachmentFormat :
    engine.Reports .commandRecording .invalidParams RenderPassBeginRules.attachmentFormat :=
  reports_rule renderPassBeginRules 9

theorem reports_beginAttachmentSamples :
    engine.Reports .commandRecording .invalidParams RenderPassBeginRules.attachmentSamples :=
  reports_rule renderPassBeginRules 10

end Standard

/-- Compatible render passes have the same attachments, as far as views have to suit them. -/
theorem RenderPassInfo.forall₂_of_isCompatible {a b : RenderPassInfo} (h : a.isCompatible b = true) :
    List.Forall₂ (fun x y => y.format = x.format ∧ y.samples = x.samples) a.attachments b.attachments := by
  have heq := beq_iff_eq.mp h
  rw [← List.forall₂_eq_eq_eq, List.forall₂_map_left_iff, List.forall₂_map_right_iff] at heq
  refine heq.imp fun x y hxy => ?_
  obtain ⟨hformat, hsamples⟩ := Prod.mk.inj hxy
  exact ⟨hformat.symm, hsamples.symm⟩

namespace Recorder

/-- The handles of the views that a render pass begins with. -/
def beginHandles (framebuffer : Framebuffer) (info : RenderPassBegin) : List (Handle .imageView) :=
  match framebuffer.info.attachments with
  | .views handles => handles
  | .imageless _ => info.views

theorem beginViews_forall₂ {registry : Registry} {framebuffer : Framebuffer} {info : RenderPassBegin}
    {views : List BoundView} (h : beginViews registry framebuffer info = .ok views) :
    List.Forall₂ (fun handle bound => bound.handle = handle ∧ registry.get? handle = some bound.view)
      (beginHandles framebuffer info) views := by
  refine (mapM_eq_ok_iff.mp h).imp fun handle bound hbound => ?_
  obtain ⟨view, hview, hbound⟩ := bind_eq_ok.mp hbound
  obtain rfl := pure_eq_ok.mp hbound
  exact ⟨rfl, Registry.get_eq_ok.mp hview⟩

/-- A render pass that has begun, and what its instance consists of. -/
structure Begins (recorder : Recorder) (d : Device) (info : RenderPassBegin)
    (inst : RenderPassInstance) (framebuffer : Framebuffer) : Prop where
  accepted : verdict (d.diagnoseRecording recorder.recording (.record (.beginRenderPass info))) = .ok ()
  ofRenderPass : inst.renderPass = info.renderPass
  ofFramebuffer : inst.framebuffer = info.framebuffer
  getRenderPass : d.registry.get? info.renderPass = some inst.renderPassInfo
  getFramebuffer : d.registry.get? info.framebuffer = some framebuffer
  views : beginViews d.registry framebuffer info = .ok inst.views
  recording : (recorder.record d (.beginRenderPass info)).state.recording
    = recorder.recording.beginRenderPass inst

theorem exists_begins {recorder : Recorder} {d : Device} {info : RenderPassBegin}
    (h : (recorder.record d (.beginRenderPass info)).result = .ok ()) :
    ∃ inst framebuffer, recorder.Begins d info inst framebuffer := by
  have hbarrier (dependency : Dependency) : Command.beginRenderPass info ≠ .barrier dependency :=
    Command.noConfusion
  have haccepted := accepted_of_ok h
  rcases recorder.record_cases d hbarrier with ⟨-, e, he⟩ | ⟨recording, hperform, hs, -⟩
  · cases he.symm.trans h
  · obtain ⟨renderPass, hrenderPass, hperform⟩ := bind_eq_ok.mp hperform
    obtain ⟨framebuffer, hframebuffer, hperform⟩ := bind_eq_ok.mp hperform
    obtain ⟨views, hviews, hperform⟩ := bind_eq_ok.mp hperform
    obtain rfl := pure_eq_ok.mp hperform
    exact ⟨⟨info.renderPass, renderPass, info.framebuffer, views⟩, framebuffer, haccepted, rfl, rfl,
      Registry.get_eq_ok.mp hrenderPass, Registry.get_eq_ok.mp hframebuffer, hviews,
      congrArg Recorder.recording hs⟩

namespace Begins

variable {recorder : Recorder} {d : Device} {info : RenderPassBegin} {inst : RenderPassInstance}
  {framebuffer : Framebuffer} (h : recorder.Begins d info inst framebuffer)
include h

theorem handles : inst.views.map BoundView.handle = beginHandles framebuffer info := by
  have hall := (beginViews_forall₂ h.views).imp fun handle bound hbound => hbound.1.symm
  rw [← List.forall₂_map_right_iff, List.forall₂_eq_eq_eq] at hall
  exact hall.symm

theorem get?_view {bound : BoundView} (hmem : bound ∈ inst.views) :
    d.registry.get? bound.handle = some bound.view := by
  obtain ⟨k, hk⟩ := List.mem_iff_getElem?.mp hmem
  obtain ⟨handle, -, rfl, hview⟩ := exists_getElem?_of_forall₂ (beginViews_forall₂ h.views) hk
  exact hview

variable (hengine : d.engine = Standard.engine)
include hengine

theorem check_eq_nil {check : Context → RenderPassBegin → Framebuffer → List Violation}
    (hreports : Standard.engine.Reports .commandRecording .invalidParams
      (RenderPassBeginRules.onBegin check)) :
    check { d.context (.record (.beginRenderPass info)) with recording := some recorder.recording } info
      framebuffer = [] := by
  have haccepted := h.accepted
  rw [Device.diagnoseRecording, hengine] at haccepted
  have hcheck := Standard.check_eq_nil hreports rfl haccepted
  simpa only [RenderPassBeginRules.onBegin, Device.context, h.getFramebuffer] using hcheck

/-- What a rule about the attachments of an imageless framebuffer says of each of them. -/
theorem actual_eq_expected {infos : List AttachmentImageInfo}
    (himageless : framebuffer.info.attachments = .imageless infos) {α : Type} [DecidableEq α]
    {actual expected : RenderPassBeginRules.ImagelessAttachment → α}
    {message : RenderPassBeginRules.ImagelessAttachment → String}
    (hreports : Standard.engine.Reports .commandRecording .invalidParams
      (RenderPassBeginRules.onEqual actual expected message))
    {k : Nat} {handle : Handle .imageView} {view : ImageView} {imageInfo : AttachmentImageInfo}
    {description : AttachmentDescription} (hhandle : info.views[k]? = some handle)
    (hview : d.registry.get? handle = some view) (hinfo : infos[k]? = some imageInfo)
    (hdescription : framebuffer.renderPassInfo.attachments[k]? = some description) :
    actual ⟨k, view, imageInfo, description⟩ = expected ⟨k, view, imageInfo, description⟩ := by
  have hcheck := h.check_eq_nil hengine hreports
  simp only [himageless, List.filterMap_eq_nil_iff] at hcheck
  have hmem : (handle, (imageInfo, description), k)
      ∈ info.views.zip (infos.zip framebuffer.renderPassInfo.attachments).zipIdx := by
    refine List.mem_of_getElem? (i := k) ?_
    have hplace : (infos.zip framebuffer.renderPassInfo.attachments)[k]? = some (imageInfo, description) :=
      List.getElem?_zip_eq_some.mpr ⟨hinfo, hdescription⟩
    rw [List.getElem?_zip_eq_some, List.getElem?_zipIdx, hplace]
    exact ⟨hhandle, by rw [Option.map_some, Nat.zero_add]⟩
  have hnone := hcheck _ hmem
  simp only [Device.context, hview, Option.bind_some, Option.map_eq_none_iff, ite_eq_left_iff,
    reduceCtorEq, imp_false, Decidable.not_not] at hnone
  exact hnone

/-- The render pass is compatible with the one that the framebuffer was created for. -/
theorem compatible : inst.renderPassInfo.isCompatible framebuffer.renderPassInfo = true := by
  have hcheck := h.check_eq_nil hengine Standard.reports_beginCompatible
  simp only [Device.context, h.getRenderPass] at hcheck
  simpa using violationIf_eq_nil.mp hcheck

/-- There is a view for each attachment. -/
theorem length_views (hfits : d.registry.AttachmentsFit) :
    inst.views.length = inst.renderPassInfo.attachments.length := by
  have hcount := (hfits.framebuffers _ _ h.getFramebuffer).count
  have hviews := (beginViews_forall₂ h.views).length_eq
  have hcompatible := (RenderPassInfo.forall₂_of_isCompatible (h.compatible hengine)).length_eq
  have hhandles : (beginHandles framebuffer info).length = framebuffer.info.attachments.count := by
    rw [beginHandles]
    cases hattachments : framebuffer.info.attachments with
    | views handles => rfl
    | imageless infos =>
      -- The command names as many views as the framebuffer is to have.
      have hcheck := h.check_eq_nil hengine Standard.reports_beginAttachmentCount
      simp only [hattachments] at hcheck
      simpa [FramebufferAttachments.count] using violationIf_eq_nil.mp hcheck
  omega

theorem suits (hfits : d.registry.AttachmentsFit) {k : Nat} {bound : BoundView}
    {description : AttachmentDescription} (hbound : inst.views[k]? = some bound)
    (hdescription : inst.renderPassInfo.attachments[k]? = some description) :
    d.registry.get? bound.handle = some bound.view ∧ bound.view.Suits description := by
  obtain ⟨handle, hhandle, rfl, hview⟩ := exists_getElem?_of_forall₂ (beginViews_forall₂ h.views) hbound
  refine ⟨hview, ?_⟩
  -- The render pass of the framebuffer has an attachment of this format and sample count.
  obtain ⟨created, hcreated, hformat, hsamples⟩ := exists_getElem?_of_forall₂
    (RenderPassInfo.forall₂_of_isCompatible (h.compatible hengine)).flip hdescription
  have hsuits : bound.view.Suits created := by
    rw [beginHandles] at hhandle
    cases hattachments : framebuffer.info.attachments with
    | views handles =>
      rw [hattachments] at hhandle
      exact (hfits.framebuffers _ _ h.getFramebuffer).suits handles hattachments k _ _ _ hhandle hview
        hcreated
    | imageless infos =>
      rw [hattachments] at hhandle
      have hcount := (hfits.framebuffers _ _ h.getFramebuffer).count
      rw [hattachments, FramebufferAttachments.count] at hcount
      have hlt : k < infos.length := by
        rw [hcount]
        exact (List.getElem?_eq_some_iff.mp hcreated).1
      have hinfo := List.getElem?_eq_getElem hlt
      exact ⟨h.actual_eq_expected hengine hattachments Standard.reports_beginAttachmentFormat hhandle hview
          hinfo hcreated,
        h.actual_eq_expected hengine hattachments Standard.reports_beginAttachmentSamples hhandle hview
          hinfo hcreated⟩
  exact ⟨hsuits.format.trans hformat, hsuits.samples.trans hsamples⟩

end Begins

end Recorder

/-- A call that begins a render pass and succeeds leaves its recorder with the instance. -/
theorem Session.exists_begins {s : Session} {key : ℕ} {recorder : Recorder}
    (hr : s.recorder? key = some recorder) {info : RenderPassBegin}
    (hok : (s.step (.record key (.beginRenderPass info))).result = .ok .done) :
    ∃ inst framebuffer, recorder.Begins s.device info inst framebuffer
      ∧ (s.step (.record key (.beginRenderPass info))).state.recorder? key
        = some (recorder.record s.device (.beginRenderPass info)).state := by
  have hstep := Session.step_record hr (.beginRenderPass info)
  rw [hstep] at hok ⊢
  have hrecorded : (recorder.record s.device (.beginRenderPass info)).result = .ok () := by
    cases hresult : (recorder.record s.device (.beginRenderPass info)).result with
    | ok value => rfl
    | error e =>
      rw [hresult] at hok
      cases hok
  obtain ⟨inst, framebuffer, hbegins⟩ := Recorder.exists_begins hrecorded
  refine ⟨inst, framebuffer, hbegins, ?_⟩
  rw [Session.recorder?_setRecorder, if_pos rfl, hr, Option.map_some]

/-- A render pass begins with a view for each of its attachments, whatever compatible render pass the
framebuffer was created for, and whether or not it is imageless.  The view at each place is alive, has the
format of the attachment there, and its image, which may be gone by now, has the sample count. -/
theorem render_pass_begins_complete {s : Session} (h : s.Reachable)
    (hengine : s.device.engine = Standard.engine) (hfew : s.FewObjects) {key : ℕ} {recorder : Recorder}
    (hr : s.recorder? key = some recorder) {info : RenderPassBegin}
    (hok : (s.step (.record key (.beginRenderPass info))).result = .ok .done) :
    ∃ after inst, (s.step (.record key (.beginRenderPass info))).state.recorder? key = some after
      ∧ after.recording.renderPass = some inst
      ∧ s.device.registry.get? info.renderPass = some inst.renderPassInfo
      ∧ inst.views.length = inst.renderPassInfo.attachments.length
      ∧ ∀ (k : ℕ) (bound : BoundView) (description : AttachmentDescription), inst.views[k]? = some bound →
        inst.renderPassInfo.attachments[k]? = some description →
        s.device.registry.get? bound.handle = some bound.view
          ∧ bound.view.format = description.format
          ∧ bound.view.imageInfo.samples = description.samples
          ∧ ∀ image : Image, s.device.registry.get? bound.view.image = some image →
            image.info.samples = description.samples := by
  have hfits := h.attachmentsFit hengine hfew
  obtain ⟨inst, framebuffer, hbegins, hafter⟩ := Session.exists_begins hr hok
  refine ⟨_, inst, hafter, ?_, hbegins.getRenderPass, hbegins.length_views hengine hfits,
    fun k bound description hbound hdescription => ?_⟩
  · rw [hbegins.recording]
    rfl
  · obtain ⟨hview, hsuits⟩ := hbegins.suits hengine hfits hbound hdescription
    refine ⟨hview, hsuits.format, hsuits.samples, fun image himage => ?_⟩
    rw [(hfits.views _ _ hview).image image himage]
    exact hsuits.samples

/-- A framebuffer for the first of two render passes that differ in the layout that they leave, and a command
buffer to record. -/
def compatiblePasses : Session :=
  (Session.start {} Standard.engine).run
    [.createRenderPass {
        attachments := [{ format := .r8g8b8a8Unorm, finalLayout := .general }]
        subpasses := [{ color := [⟨0, .general⟩] }] },
      .createRenderPass {
        attachments := [{ format := .r8g8b8a8Unorm, finalLayout := .presentSrc }]
        subpasses := [{ color := [⟨0, .general⟩] }] },
      .createImage { format := .r8g8b8a8Unorm, extent := ⟨4, 4, 1⟩, usage := .colorAttachment },
      .allocateMemory { size := 65536 },
      .bindImage (.ofSerial .image 3) (.ofSerial .deviceMemory 4) 0,
      .createImageView { image := .ofSerial .image 3 },
      .createFramebuffer {
        renderPass := .ofSerial .renderPass 1, attachments := .views [.ofSerial .imageView 5]
        width := 4, height := 4 },
      .beginCommandBuffer ⟨0, 0⟩ none .multipleSubmit]

/-- The second render pass, with the framebuffer of the first. -/
def secondPass : RenderPassBegin where
  renderPass := .ofSerial .renderPass 2
  framebuffer := .ofSerial .framebuffer 6

theorem secondPass_begins_complete :
    ∃ after inst,
      (compatiblePasses.step (.record 0 (.beginRenderPass secondPass))).state.recorder? 0 = some after
        ∧ after.recording.renderPass = some inst ∧ inst.views.length = 1 := by
  have hreachable : compatiblePasses.Reachable := (Session.Reachable.start {} Standard.engine).run _
  have hfew : compatiblePasses.FewObjects := by
    unfold Session.FewObjects
    decide +kernel
  obtain ⟨recorder, hr⟩ : ∃ recorder, compatiblePasses.recorder? 0 = some recorder :=
    Option.isSome_iff_exists.mp (by decide +kernel)
  have hok : (compatiblePasses.step (.record 0 (.beginRenderPass secondPass))).result = .ok .done :=
    Outcome.value?_eq_some.mp (by decide +kernel)
  obtain ⟨after, inst, hafter, hinst, hget, hlength, -⟩ :=
    render_pass_begins_complete hreachable (Session.run_engine (.start {} Standard.engine) _) hfew hr hok
  refine ⟨after, inst, hafter, hinst, hlength.trans ?_⟩
  have hattachments : (compatiblePasses.device.registry.get? secondPass.renderPass).map
      (fun found : RenderPassInfo => found.attachments.length) = some 1 := by decide +kernel
  rw [hget] at hattachments
  exact Option.some.inj hattachments

end VulkanValidity
