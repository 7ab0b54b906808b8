/-
  VulkanValidity.Proofs.Recording

  What holds of every recording.  Each image has one entry among the known layouts, whose map is in
  canonical form, and no access covers a subresource twice.  The layouts that a command leaves alone
  are the ones that it does not cover (`localLayout?_updateLayouts`); finishing a recording only puts
  the images in order.
-/

import VulkanValidity.Device.Recording
import VulkanValidity.Proofs.IndexRanges
import VulkanValidity.Proofs.Session

namespace VulkanValidity

/-! ## Lists of entries -/

section Lists

variable {κ α : Type}

theorem nodup_eraseDups [DecidableEq α] (l : List α) : l.eraseDups.Nodup := by
  match l with
  | [] => exact List.Pairwise.nil
  | a :: l =>
    rw [List.eraseDups_cons, List.nodup_cons]
    refine ⟨fun hmem => ?_, nodup_eraseDups (l.filter fun b => !b == a)⟩
    simpa using (List.mem_filter.mp (List.mem_eraseDups.mp hmem)).2
termination_by l.length
decreasing_by exact Nat.lt_succ_of_le (List.length_filter_le _ l)

theorem lookup_perm [DecidableEq κ] {l l' : List (κ × α)} (h : l.Perm l')
    (hnodup : (l'.map Prod.fst).Nodup) (key : κ) : l.lookup key = l'.lookup key := by
  have hl : (l.map Prod.fst).Nodup := (h.map Prod.fst).nodup_iff.mpr hnodup
  refine Option.ext fun value => ?_
  rw [lookup_eq_some_iff_mem hl, lookup_eq_some_iff_mem hnodup, h.mem_iff]

end Lists

/-! ## Well-formed accesses -/

/-- The access covers its subresources in increasing order, and none of them twice. What it acquires goes
to the family of the command buffer, or comes from outside of the device. -/
structure Access.WellFormed (family : Nat) (access : Access) : Prop where
  increasing : Interval.Increasing access.ranges
  acquired : ∀ src dst, access.effect.kind = .acquire src dst →
    family = dst ∨ QueueFamily.isOutside src = true

theorem increasing_bufferRange : Interval.Increasing [bufferRange] := List.pairwise_singleton _ _

/-- A barrier acquires for the family of the command buffer, or from outside of the device. -/
theorem barrierRole_acquire {transfer : Option OwnershipTransfer} {family src dst : Nat}
    (h : (barrierRole transfer family).kind = .acquire src dst) :
    family = dst ∨ QueueFamily.isOutside src = true := by
  cases transfer with
  | none => cases h
  | some transfer =>
    cases transfer with
    | exclusiveBetweenLocal s d =>
      simp only [barrierRole] at h
      split at h
      · cases h
      · split at h
        · next hfamily =>
          -- Only the family that takes over acquires.
          obtain ⟨-, rfl⟩ := AccessKind.acquire.inj h
          exact Or.inl hfamily
        · cases h
    | exclusiveFromExternal d =>
      simp only [barrierRole] at h
      split at h
      · cases h
      · obtain ⟨rfl, -⟩ := AccessKind.acquire.inj h
        exact Or.inr rfl
    | exclusiveFromForeign d =>
      simp only [barrierRole] at h
      split at h
      · cases h
      · obtain ⟨rfl, -⟩ := AccessKind.acquire.inj h
        exact Or.inr rfl
    | exclusiveToExternal s =>
      simp only [barrierRole] at h
      split at h <;> cases h
    | exclusiveToForeign s =>
      simp only [barrierRole] at h
      split at h <;> cases h
    | _ => cases h

/-! ## Well-formed layouts -/

/-- Each image has one entry, and its map is in canonical form. -/
structure LayoutsWellFormed (layouts : List (Handle .image × RangeMap LocalLayout)) : Prop where
  nodup : (layouts.map Prod.fst).Nodup
  canonical : ∀ entry ∈ layouts, entry.2.Canonical

theorem LayoutsWellFormed.canonical_of_lookup
    {layouts : List (Handle .image × RangeMap LocalLayout)} (h : LayoutsWellFormed layouts)
    {image : Handle .image} {known : RangeMap LocalLayout} (hk : layouts.lookup image = some known) :
    known.Canonical :=
  h.canonical _ ((lookup_eq_some_iff_mem h.nodup).mp hk)

namespace Recording

section Upsert

variable {κ α : Type} [DecidableEq κ] (f : Option α → α) (key : κ)

theorem lookup_upsert (l : List (κ × α)) (k : κ) :
    (upsert f key l).lookup k = if k = key then some (f (l.lookup key)) else l.lookup k := by
  induction l with
  | nil =>
    by_cases hk : k = key <;> simp [upsert, List.lookup_cons, hk, beq_false_of_ne]
  | cons entry l ih =>
    obtain ⟨k', v⟩ := entry
    rw [upsert]
    by_cases hk' : k' = key
    · subst hk'
      by_cases hk : k = k' <;> simp [List.lookup_cons, hk, beq_false_of_ne]
    · have hne : (key == k') = false := beq_false_of_ne (Ne.symm hk')
      rw [if_neg hk', List.lookup_cons, List.lookup_cons, List.lookup_cons, hne, ih]
      by_cases hk : k = k'
      · subst hk
        simp [hk']
      · simp [beq_false_of_ne hk]

theorem mem_keys_upsert (l : List (κ × α)) (k : κ) :
    k ∈ (upsert f key l).map Prod.fst ↔ k = key ∨ k ∈ l.map Prod.fst := by
  induction l with
  | nil => simp [upsert]
  | cons entry l ih =>
    obtain ⟨k', v⟩ := entry
    rw [upsert]
    split
    · next hk' => simp [hk']
    · rw [List.map_cons, List.map_cons, List.mem_cons, List.mem_cons, ih]
      exact or_left_comm

theorem nodup_keys_upsert {l : List (κ × α)} (h : (l.map Prod.fst).Nodup) :
    ((upsert f key l).map Prod.fst).Nodup := by
  induction l with
  | nil => simp [upsert]
  | cons entry l ih =>
    obtain ⟨k, v⟩ := entry
    obtain ⟨hk, hl⟩ := List.nodup_cons.mp h
    rw [upsert]
    split
    · exact List.nodup_cons.mpr ⟨hk, hl⟩
    · next hne =>
      refine List.nodup_cons.mpr ⟨fun hmem => ?_, ih hl⟩
      rcases (mem_keys_upsert f key l k).mp hmem with rfl | hmem
      · exact hne rfl
      · exact hk hmem

end Upsert

theorem layoutsWellFormed_upsert {layouts : List (Handle .image × RangeMap LocalLayout)}
    (h : LayoutsWellFormed layouts) (image : Handle .image)
    {f : Option (RangeMap LocalLayout) → RangeMap LocalLayout}
    (hf : ∀ known, (∀ m ∈ known, m.Canonical) → (f known).Canonical) :
    LayoutsWellFormed (upsert f image layouts) := by
  have hnodup := nodup_keys_upsert f image h.nodup
  refine ⟨hnodup, fun entry hentry => ?_⟩
  have hlookup := (lookup_eq_some_iff_mem hnodup).mpr hentry
  rw [lookup_upsert] at hlookup
  split at hlookup
  · rw [← Option.some.inj hlookup]
    exact hf _ fun m hm => h.canonical_of_lookup hm
  · exact h.canonical_of_lookup hlookup

/-! ## Well-formed recordings -/

/-- The invariant of recordings. -/
structure WellFormed (recording : Recording) : Prop where
  layouts : LayoutsWellFormed recording.layouts
  accesses : ∀ access ∈ recording.accesses, access.WellFormed recording.family

theorem wellFormed_begin (family : Nat) : ({ family := family } : Recording).WellFormed :=
  ⟨⟨List.Pairwise.nil, fun _ h => by cases h⟩, fun _ h => by cases h⟩

/-! ### Referring to objects -/

section Reference

variable (recording : Recording) (id : ObjectId)

@[simp] theorem reference_family : (recording.reference id).family = recording.family := by
  unfold reference
  split <;> rfl

@[simp] theorem reference_layouts : (recording.reference id).layouts = recording.layouts := by
  unfold reference
  split <;> rfl

@[simp] theorem reference_accesses : (recording.reference id).accesses = recording.accesses := by
  unfold reference
  split <;> rfl

end Reference

theorem WellFormed.reference {recording : Recording} (h : recording.WellFormed) (id : ObjectId) :
    (recording.reference id).WellFormed :=
  ⟨by simpa using h.layouts, by simpa using h.accesses⟩

/-! ### Accesses -/

section Access

variable (recording : Recording) (access : Access)

@[simp] theorem access_family : (recording.access access).family = recording.family :=
  recording.reference_family _

@[simp] theorem access_layouts : (recording.access access).layouts = recording.layouts :=
  recording.reference_layouts _

@[simp] theorem access_accesses :
    (recording.access access).accesses = recording.accesses ++ [access] :=
  congrArg (· ++ [access]) (recording.reference_accesses _)

end Access

theorem WellFormed.access {recording : Recording} (h : recording.WellFormed) {access : Access}
    (ha : access.WellFormed recording.family) : (recording.access access).WellFormed := by
  refine ⟨by simpa using h.layouts, fun other hother => ?_⟩
  rw [access_family]
  rw [access_accesses] at hother
  rcases List.mem_append.mp hother with hold | hnew
  · exact h.accesses other hold
  · rw [List.mem_singleton.mp hnew]
    exact ha

theorem wellFormed_imageAccess (image : Handle .image) (info : ImageInfo) (range : SubresourceRange)
    {family : Nat} {effect : AccessEffect} (h : ∀ src dst, effect.kind = .acquire src dst →
      family = dst ∨ QueueFamily.isOutside src = true) :
    (Access.mk (.image image) (info.indexRanges range) effect).WellFormed family :=
  ⟨info.indexRanges_increasing range, h⟩

theorem wellFormed_bufferAccess (buffer : Handle .buffer) {family : Nat} {effect : AccessEffect}
    (h : ∀ src dst, effect.kind = .acquire src dst →
      family = dst ∨ QueueFamily.isOutside src = true) :
    (Access.mk (.buffer buffer) [bufferRange] effect).WellFormed family :=
  ⟨increasing_bufferRange, h⟩

/-! ### Layouts -/

theorem WellFormed.updateLayouts {recording : Recording} (h : recording.WellFormed)
    (image : Handle .image) (info : ImageInfo) (range : SubresourceRange)
    (f : Option LocalLayout → Option LocalLayout) :
    (recording.updateLayouts image info range f).WellFormed := by
  refine ⟨layoutsWellFormed_upsert h.layouts image fun known hknown => ?_, h.accesses⟩
  refine RangeMap.canonical_updateAll ?_ _ f
  cases known with
  | none => exact RangeMap.canonical_empty
  | some m => exact hknown m rfl

/-- What an update of layouts changes: the subresources of the image that it covers. -/
theorem localLayout?_updateLayouts {recording : Recording} (h : LayoutsWellFormed recording.layouts)
    (image : Handle .image) (info : ImageInfo) (range : SubresourceRange)
    (f : Option LocalLayout → Option LocalLayout) (other : Handle .image) (i : Nat) :
    (recording.updateLayouts image info range f).localLayout? other i
      = if other = image ∧ (info.indexRanges range).any (·.contains i) = true then
          (f (recording.localLayout? image i)).or (recording.localLayout? image i)
        else recording.localLayout? other i := by
  have hlookup : (recording.updateLayouts image info range f).layoutsOf? other
      = if other = image then
          some (((recording.layoutsOf? image).getD .empty).updateAll (info.indexRanges range) f)
        else recording.layoutsOf? other :=
    lookup_upsert _ image recording.layouts other
  by_cases hother : other = image
  · subst hother
    -- An image that was not touched before starts from the empty map.
    have hcanonical : ((recording.layoutsOf? other).getD .empty).Canonical := by
      cases hk : recording.layoutsOf? other with
      | none => exact RangeMap.canonical_empty
      | some known => exact h.canonical_of_lookup hk
    have hget : ((recording.layoutsOf? other).getD .empty).get? i
        = recording.localLayout? other i := by
      rw [localLayout?]
      cases recording.layoutsOf? other <;> rfl
    rw [localLayout?, hlookup, if_pos rfl, Option.bind_some, RangeMap.get?_updateAll hcanonical
      (info.indexRanges_increasing range).apart, hget]
    simp
  · rw [localLayout?, hlookup, if_neg hother]
    simp [hother, localLayout?]

/-! ### Commands -/

section Commands

variable {recording : Recording} (h : recording.WellFormed)
include h

theorem WellFormed.imageBarrier (info : ImageInfo) (barrier : ImageBarrier) :
    (recording.imageBarrier info barrier).WellFormed := by
  unfold Recording.imageBarrier
  -- Whether the barrier performs its transition makes no difference to the access after it.
  have hmoved := h.updateLayouts barrier.image info barrier.range
    (LocalLayout.transition barrier.oldLayout barrier.newLayout)
  have hacquire (src dst : Nat)
      (hkind : (barrierRole barrier.transfer recording.family).kind = .acquire src dst) :
      recording.family = dst ∨ QueueFamily.isOutside src = true :=
    barrierRole_acquire hkind
  simp only
  split
  · exact hmoved.access (wellFormed_imageAccess _ info _ hacquire)
  · exact h.access (wellFormed_imageAccess _ info _ hacquire)

theorem WellFormed.accessBuffer (buffer : Handle .buffer) {effect : AccessEffect}
    (heffect : ∀ src dst, effect.kind = .acquire src dst →
      recording.family = dst ∨ QueueFamily.isOutside src = true) :
    (recording.accessBuffer buffer effect).WellFormed :=
  h.access (wellFormed_bufferAccess buffer heffect)

theorem WellFormed.bufferBarrier (barrier : BufferBarrier) :
    (recording.bufferBarrier barrier).WellFormed :=
  h.accessBuffer barrier.buffer fun _ _ => barrierRole_acquire

theorem WellFormed.writeRegion (image : Handle .image) (info : ImageInfo) (layout : ImageLayout)
    (region : SubresourceRange) : (recording.writeRegion image info layout region).WellFormed :=
  (h.updateLayouts image info region _).access
    (wellFormed_imageAccess image info region fun _ _ heffect => by cases heffect)

theorem WellFormed.beginAttachment (renderPass : RenderPassInfo)
    (attachment : (BoundView × AttachmentDescription) × Nat) :
    (recording.beginAttachment renderPass attachment).WellFormed :=
  ((h.reference attachment.1.1.handle.erase).updateLayouts attachment.1.1.view.image
    attachment.1.1.view.imageInfo attachment.1.1.view.range _).access
    (wellFormed_imageAccess _ _ _ fun _ _ heffect => by cases heffect)

theorem WellFormed.endAttachment (attachment : BoundView × AttachmentDescription) :
    (recording.endAttachment attachment).WellFormed :=
  h.updateLayouts _ _ _ _

theorem WellFormed.foldl {α : Type} {f : Recording → α → Recording}
    (hf : ∀ recording a, recording.WellFormed → (f recording a).WellFormed) (l : List α) :
    (l.foldl f recording).WellFormed := by
  induction l generalizing recording with
  | nil => exact h
  | cons a l ih => exact ih (hf recording a h)

theorem WellFormed.beginRenderPass (inst : RenderPassInstance) :
    (recording.beginRenderPass inst).WellFormed := by
  have hreferenced := (h.reference inst.renderPass.erase).reference inst.framebuffer.erase
  have hbegun := hreferenced.foldl
    (fun _ attachment hr => hr.beginAttachment inst.renderPassInfo attachment)
    inst.attachments.zipIdx
  exact ⟨hbegun.layouts, hbegun.accesses⟩

theorem WellFormed.endRenderPass : recording.endRenderPass.WellFormed := by
  unfold Recording.endRenderPass
  split
  · exact h
  · next inst _ =>
    have hclosed : ({ recording with renderPass := none } : Recording).WellFormed :=
      ⟨h.layouts, h.accesses⟩
    exact hclosed.foldl (fun _ attachment hr => hr.endAttachment attachment) inst.attachments

end Commands

end Recording

/-! ## Recorders -/

/-- A property of recordings that every part of a command keeps. -/
structure Recording.KeptByCommands (P : Recording → Prop) : Prop where
  imageBarrier : ∀ recording info barrier, P recording → P (recording.imageBarrier info barrier)
  bufferBarrier : ∀ recording barrier, P recording → P (recording.bufferBarrier barrier)
  transfer : ∀ recording buffer write, P recording →
    P (recording.accessBuffer buffer (transferEffect write))
  writeRegion : ∀ recording image info layout region, P recording →
    P (recording.writeRegion image info layout region)
  beginRenderPass : ∀ recording inst, P recording → P (recording.beginRenderPass inst)
  endRenderPass : ∀ recording, P recording → P recording.endRenderPass

namespace Recorder

/-- A command other than a barrier is rejected, or recorded as a whole. -/
theorem record_cases (recorder : Recorder) (d : Device) {command : Command}
    (h : ∀ dependency, command ≠ .barrier dependency) :
    ((recorder.record d command).state = recorder
        ∧ ∃ e, (recorder.record d command).result = .error e)
      ∨ ∃ recording, perform d.registry recorder.recording command = .ok recording
        ∧ (recorder.record d command).state = recorder.withRecording recording
        ∧ (recorder.record d command).result = .ok () := by
  have hrecord : recorder.record d command = .guarded recorder
      (d.diagnoseRecording recorder.recording (.record command)) (do
        let recording ← perform d.registry recorder.recording command
        pure ((), recorder.withRecording recording)) := by
    cases command with
    | barrier dependency => exact absurd rfl (h dependency)
    | _ => rfl
  rw [hrecord]
  rcases Outcome.guarded_cases recorder _ _ with hrejected | ⟨value, after, -, hdone, hs, hv⟩
  · exact Or.inl hrejected
  · obtain ⟨recording, hperform, hafter⟩ := bind_eq_ok.mp hdone
    obtain ⟨rfl, rfl⟩ := Prod.mk.inj (pure_eq_ok.mp hafter)
    exact Or.inr ⟨recording, hperform, hs, hv⟩

/-- A recorder stays with its command buffer. -/
theorem record_handle (recorder : Recorder) (d : Device) (command : Command) :
    (recorder.record d command).state.handle = recorder.handle := by
  by_cases hbarrier : ∀ dependency, command ≠ .barrier dependency
  · rcases recorder.record_cases d hbarrier with ⟨hs, -⟩ | ⟨recording, -, hs, -⟩
    · rw [hs]
    · rw [hs]
      rfl
  · obtain ⟨dependency, hcommand⟩ := Classical.not_forall.mp hbarrier
    obtain rfl := Classical.not_not.mp hcommand
    simp only [record, recordBarrier]
    split <;> rfl

section Keeps

variable {P : Recording → Prop} (h : Recording.KeptByCommands P)
include h

theorem imageBarriers_keep (registry : Registry) {recording : Recording} (hrecording : P recording)
    (barriers : List ImageBarrier) : P (imageBarriers registry recording barriers).1 := by
  induction barriers generalizing recording with
  | nil => exact hrecording
  | cons barrier barriers ih =>
    rw [imageBarriers]
    cases registry.get barrier.image with
    | error e => exact hrecording
    | ok image => exact ih (h.imageBarrier recording image.info barrier hrecording)

theorem bufferBarriers_keep (registry : Registry) {recording : Recording} (hrecording : P recording)
    (barriers : List BufferBarrier) : P (bufferBarriers registry recording barriers).1 := by
  induction barriers generalizing recording with
  | nil => exact hrecording
  | cons barrier barriers ih =>
    rw [bufferBarriers]
    cases registry.get barrier.buffer with
    | error e => exact hrecording
    | ok buffer => exact ih (h.bufferBarrier recording barrier hrecording)

theorem barriers_keep (registry : Registry) {recording : Recording} (hrecording : P recording)
    (dependency : Dependency) : P (barriers registry recording dependency).1 := by
  have himages := imageBarriers_keep h registry hrecording dependency.imageBarriers
  rw [barriers]
  split
  · next heq => rwa [heq] at himages
  · next heq =>
    rw [heq] at himages
    exact bufferBarriers_keep h registry himages dependency.bufferBarriers

theorem perform_keeps {registry : Registry} {recording recording' : Recording}
    (hrecording : P recording) {command : Command}
    (hp : perform registry recording command = .ok recording') : P recording' := by
  have hwrite {recording : Recording} (hrecording : P recording) (image : Handle .image)
      (info : ImageInfo) (layout : ImageLayout) (regions : List SubresourceRange) :
      P (recording.writeRegions image info layout regions) :=
    List.foldlRecOn (motive := P) _ _ hrecording fun before hbefore region _ =>
      h.writeRegion before image info layout region hbefore
  cases command with
  | barrier dependency =>
    obtain rfl := Except.ok.inj hp
    exact hrecording
  | clear info =>
    obtain ⟨image, -, hp⟩ := bind_eq_ok.mp hp
    obtain rfl := pure_eq_ok.mp hp
    exact hwrite hrecording _ _ _ _
  | copy info =>
    obtain ⟨buffer, -, hp⟩ := bind_eq_ok.mp hp
    obtain ⟨image, -, hp⟩ := bind_eq_ok.mp hp
    obtain rfl := pure_eq_ok.mp hp
    exact hwrite (h.transfer recording info.buffer false hrecording) _ _ _ _
  | fill buffer data =>
    obtain ⟨_, -, hp⟩ := bind_eq_ok.mp hp
    obtain rfl := pure_eq_ok.mp hp
    exact h.transfer recording buffer true hrecording
  | beginRenderPass info =>
    obtain ⟨renderPass, -, hp⟩ := bind_eq_ok.mp hp
    obtain ⟨framebuffer, -, hp⟩ := bind_eq_ok.mp hp
    obtain ⟨views, -, hp⟩ := bind_eq_ok.mp hp
    obtain rfl := pure_eq_ok.mp hp
    exact h.beginRenderPass recording _ hrecording
  | endRenderPass =>
    obtain rfl := Except.ok.inj hp
    exact h.endRenderPass recording hrecording

/-- What every part of a command keeps is kept by commands, whether they are rejected or not. -/
theorem record_keeps {recorder : Recorder} (hrecorder : P recorder.recording) (d : Device)
    (command : Command) : P (recorder.record d command).state.recording := by
  by_cases hbarrier : ∃ dependency, command = .barrier dependency
  · obtain ⟨dependency, rfl⟩ := hbarrier
    simp only [record, recordBarrier]
    split
    · exact hrecorder
    · exact barriers_keep h d.registry hrecorder dependency
  · rcases recorder.record_cases d (not_exists.mp hbarrier) with ⟨hs, -⟩ | ⟨_, hperform, hs, -⟩
    · rw [hs]
      exact hrecorder
    · rw [hs]
      exact perform_keeps h hrecorder hperform

end Keeps

/-- Recording a command keeps a recording well formed. -/
theorem record_wellFormed {recorder : Recorder} (h : recorder.recording.WellFormed) (d : Device)
    (command : Command) : (recorder.record d command).state.recording.WellFormed := by
  refine record_keeps ⟨?_, ?_, ?_, ?_, ?_, ?_⟩ h d command
  · exact fun _ info barrier hr => hr.imageBarrier info barrier
  · exact fun _ barrier hr => hr.bufferBarrier barrier
  · exact fun _ buffer _ hr => hr.accessBuffer buffer fun _ _ heffect => by cases heffect
  · exact fun _ image info layout region hr => hr.writeRegion image info layout region
  · exact fun _ inst hr => hr.beginRenderPass inst
  · exact fun _ hr => hr.endRenderPass

end Recorder

/-! ## Logs -/

namespace CommandLog

/-- What the log knows of the layouts of a resource, which is nothing if that is a buffer. -/
def layoutsOf? (log : CommandLog) : Resource → Option (RangeMap LocalLayout)
  | .image image => log.layouts.lookup image
  | .buffer _ => none

/-- What the log knows of the layout of a subresource. -/
def localLayout? (log : CommandLog) (resource : Resource) (i : Nat) : Option LocalLayout :=
  (log.layoutsOf? resource).bind fun known => known.get? i

/-- The invariant of logs. -/
structure WellFormed (log : CommandLog) : Prop where
  layouts : LayoutsWellFormed log.layouts
  accesses : ∀ access ∈ log.accesses, access.WellFormed log.family

theorem WellFormed.canonical {log : CommandLog} (h : log.WellFormed) {resource : Resource}
    {known : RangeMap LocalLayout} (hk : log.layoutsOf? resource = some known) :
    known.Canonical := by
  cases resource with
  | image image => exact h.layouts.canonical_of_lookup hk
  | buffer buffer => cases hk

theorem finish_wellFormed {recording : Recording} (h : recording.WellFormed) :
    recording.finish.WellFormed := by
  have hperm : recording.finish.layouts.Perm recording.layouts := List.mergeSort_perm _ _
  refine ⟨⟨?_, fun entry hentry => ?_⟩, h.accesses⟩
  · exact (hperm.map Prod.fst).nodup_iff.mpr h.layouts.nodup
  · exact h.layouts.canonical entry (hperm.mem_iff.mp hentry)

/-- A log knows what its recording knew. -/
theorem localLayout?_finish {recording : Recording} (h : recording.WellFormed)
    (image : Handle .image) (i : Nat) :
    recording.finish.localLayout? (.image image) i = recording.localLayout? image i := by
  have hperm : recording.finish.layouts.Perm recording.layouts := List.mergeSort_perm _ _
  rw [localLayout?, layoutsOf?, lookup_perm hperm h.layouts.nodup]
  rfl

end CommandLog

end VulkanValidity
