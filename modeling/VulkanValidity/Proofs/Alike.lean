/-
  VulkanValidity.Proofs.Alike

  What recordings see of a device.  Commands look at the objects that they name: at what images and
  buffers were created with and are bound to, and at views, render passes and framebuffers as a whole.
  They see neither the states that submissions leave images and buffers in nor any command buffer.
  Devices that are the same but for these are alike, and command buffers can begin, end and be submitted
  without anyone seeing it who records another one.
-/

import VulkanValidity.Proofs.Admission

namespace VulkanValidity

/-! ## Registries -/

/-- The registries hold the same objects, except for the states of images and buffers and for command
buffers. -/
structure Registry.Alike (r r' : Registry) : Prop where
  images : ∀ handle : Handle .image, ∃ states,
    r'.get? handle = (r.get? handle).map fun image => { image with states := states }
  buffers : ∀ handle : Handle .buffer, ∃ states,
    r'.get? handle = (r.get? handle).map fun buffer => { buffer with states := states }
  others : ∀ {t : ObjectType} (handle : Handle t), t ≠ .image → t ≠ .buffer → t ≠ .commandBuffer →
    r'.get? handle = r.get? handle
  tombstones : r'.tombstones = r.tombstones

namespace Registry

/-- Registries with the same images, buffers and other objects are alike. -/
theorem alike_of_get?_eq {r r' : Registry}
    (h : ∀ {t : ObjectType} (handle : Handle t), t ≠ .commandBuffer → r'.get? handle = r.get? handle)
    (htombstones : r'.tombstones = r.tombstones) : r.Alike r' where
  images handle := by
    rw [h handle (by decide)]
    cases r.get? handle with
    | none => exact ⟨.empty, rfl⟩
    | some image => exact ⟨image.states, rfl⟩
  buffers handle := by
    rw [h handle (by decide)]
    cases r.get? handle with
    | none => exact ⟨.empty, rfl⟩
    | some buffer => exact ⟨buffer.states, rfl⟩
  others handle _ _ ht := h handle ht
  tombstones := htombstones

namespace Alike

theorem refl (r : Registry) : r.Alike r := alike_of_get?_eq (fun _ _ => rfl) rfl

theorem trans {r r' r'' : Registry} (h : r.Alike r') (h' : r'.Alike r'') : r.Alike r'' where
  images handle := by
    obtain ⟨_, hget⟩ := h.images handle
    obtain ⟨states, hget'⟩ := h'.images handle
    exact ⟨states, by rw [hget', hget, Option.map_map]; rfl⟩
  buffers handle := by
    obtain ⟨_, hget⟩ := h.buffers handle
    obtain ⟨states, hget'⟩ := h'.buffers handle
    exact ⟨states, by rw [hget', hget, Option.map_map]; rfl⟩
  others handle hi hb hc := (h'.others handle hi hb hc).trans (h.others handle hi hb hc)
  tombstones := h'.tombstones.trans h.tombstones

theorem symm {r r' : Registry} (h : r.Alike r') : r'.Alike r where
  images handle := by
    obtain ⟨_, hget⟩ := h.images handle
    rw [hget]
    cases r.get? handle with
    | none => exact ⟨.empty, rfl⟩
    | some image => exact ⟨image.states, rfl⟩
  buffers handle := by
    obtain ⟨_, hget⟩ := h.buffers handle
    rw [hget]
    cases r.get? handle with
    | none => exact ⟨.empty, rfl⟩
    | some buffer => exact ⟨buffer.states, rfl⟩
  others handle hi hb hc := (h.others handle hi hb hc).symm
  tombstones := h.tombstones.symm

variable {r r' : Registry} (h : r.Alike r')
include h

theorem contains_eq {t : ObjectType} (ht : t ≠ .commandBuffer) (handle : Handle t) :
    r'.contains handle.erase = r.contains handle.erase := by
  rw [contains_erase, contains_erase]
  cases t with
  | image =>
    obtain ⟨states, hget⟩ := h.images handle
    rw [hget, Option.isSome_map]
  | buffer =>
    obtain ⟨states, hget⟩ := h.buffers handle
    rw [hget, Option.isSome_map]
  | commandBuffer => exact absurd rfl ht
  | _ => rw [h.others handle (by decide) (by decide) (by decide)]

theorem isKnown_eq {t : ObjectType} (ht : t ≠ .commandBuffer) (handle : Handle t) :
    r'.isKnown handle.erase = r.isKnown handle.erase := by
  rw [isKnown, isKnown, h.contains_eq ht, isDestroyed, h.tombstones, isDestroyed]

theorem sharing?_eq (resource : Resource) : r'.sharing? resource = r.sharing? resource := by
  cases resource with
  | image handle =>
    obtain ⟨states, hget⟩ := h.images handle
    have himages : r'.images.get? handle = (r.images.get? handle).map fun image =>
      { image with states := states } := hget
    rw [sharing?, sharing?, himages, Option.map_map]
    rfl
  | buffer handle =>
    obtain ⟨states, hget⟩ := h.buffers handle
    have hbuffers : r'.buffers.get? handle = (r.buffers.get? handle).map fun buffer =>
      { buffer with states := states } := hget
    rw [sharing?, sharing?, hbuffers, Option.map_map]
    rfl

end Alike

/-! ### Changing command buffers -/

theorem alike_modify (r : Registry) (handle : Handle .commandBuffer)
    (f : CommandBuffer → CommandBuffer) : r.Alike (r.modify handle f) :=
  alike_of_get?_eq (fun other ht => r.get?_modify_of_ne handle f ht other) rfl

theorem alike_insert (r : Registry) (cb : CommandBuffer) :
    r.Alike (r.insert .commandBuffer cb).2 := by
  refine alike_of_get?_eq (fun other ht => ?_) rfl
  exact (get?_add_of_ne _ _ cb ht other).trans
    ((r.sameObjects_reserve .commandBuffer).get?_eq other)

end Registry

/-! ## Devices -/

/-- The devices have the same rules and the same environment, and their registries are alike. -/
structure Device.Alike (d d' : Device) : Prop where
  engine : d'.engine = d.engine
  environment : d'.environment = d.environment
  registry : d.registry.Alike d'.registry

namespace Device

namespace Alike

theorem refl (d : Device) : d.Alike d := ⟨rfl, rfl, .refl d.registry⟩

theorem trans {d d' d'' : Device} (h : d.Alike d') (h' : d'.Alike d'') : d.Alike d'' :=
  ⟨h'.engine.trans h.engine, h'.environment.trans h.environment, h.registry.trans h'.registry⟩

theorem symm {d d' : Device} (h : d.Alike d') : d'.Alike d :=
  ⟨h.engine.symm, h.environment.symm, h.registry.symm⟩

end Alike

theorem Begins.alike {d d' : Device} {queue : Queue} {again : Option (Handle .commandBuffer)}
    {usage : CommandBufferUsage} {recorder : Recorder} (h : d.Begins queue usage again recorder d') :
    d.Alike d' := by
  cases h with
  | fresh => exact ⟨rfl, rfl, d.registry.alike_insert _⟩
  | again => exact ⟨rfl, rfl, d.registry.alike_modify _ _⟩

theorem alike_execute (d : Device) (queue : Queue) (handle : Handle .commandBuffer) (log : CommandLog) :
    d.Alike (d.execute queue handle log (log.replay d.registry)) where
  engine := rfl
  environment := rfl
  registry :=
    { images := fun image => by
        have himages := d.images_execute queue handle log image
        -- A dead image has no states, and is dead afterwards.
        cases hget : d.registry.get? image with
        | none => exact ⟨.empty, himages.trans (congrArg (Option.map _) hget)⟩
        | some object => exact ⟨_, himages.trans (congrArg (Option.map _) hget)⟩
      buffers := fun buffer => by
        have hbuffers := d.buffers_execute queue handle log buffer
        cases hget : d.registry.get? buffer with
        | none => exact ⟨.empty, hbuffers.trans (congrArg (Option.map _) hget)⟩
        | some object => exact ⟨_, hbuffers.trans (congrArg (Option.map _) hget)⟩
      others := fun {t} other hi hb hc => by
        obtain ⟨images, buffers, commandBuffers, hexecute⟩ := d.exists_execute_eq queue handle log
        rw [hexecute]
        cases t with
        | image => exact absurd rfl hi
        | buffer => exact absurd rfl hb
        | commandBuffer => exact absurd rfl hc
        | _ => rfl
      tombstones := by
        obtain ⟨images, buffers, commandBuffers, hexecute⟩ := d.exists_execute_eq queue handle log
        rw [hexecute] }

theorem alike_submitOne (d : Device) (queue : Queue) (handle : Handle .commandBuffer) :
    d.Alike (d.submitOne queue handle).state := by
  rcases d.submitOne_cases queue handle with ⟨-, hs⟩ | ⟨log, -, -, hs⟩
  · rw [hs]
    exact .refl d
  · rw [hs]
    exact d.alike_execute queue handle log

theorem alike_submitAll (d : Device) (entries : List (Queue × Handle .commandBuffer)) :
    d.Alike (d.submitAll entries) :=
  submitAll_keeps (P := fun after => d.Alike after)
    (fun before queue handle hbefore => hbefore.trans (before.alike_submitOne queue handle))
    (.refl d) entries

end Device

end VulkanValidity
