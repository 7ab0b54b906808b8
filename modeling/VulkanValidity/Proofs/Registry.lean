/-
  VulkanValidity.Proofs.Registry

  What can be looked up in a registry after it changed.  Most of what is proved about devices looks at
  two things only: the tracked resources, each with its sharing mode, its initial states and its states
  (`Registry.tracked?`), and the logs of the command buffers (`Registry.log?`).  A change that executes
  nothing and finishes no recording leaves both alone, loses some of them, or adds resources in their
  initial states; that is `Registry.Continues`, in terms of which the calls of a session are described.
-/

import VulkanValidity.Registry

namespace VulkanValidity

/-! ## Lists of pairs -/

section Pairs

variable {κ α : Type} [DecidableEq κ]

theorem lookup_cons_eq_ite (key other : κ) (value : α) (l : List (κ × α)) :
    ((key, value) :: l).lookup other = if other = key then some value else l.lookup other := by
  rw [List.lookup_cons]
  by_cases h : other = key
  · simp [h]
  · simp [h, beq_false_of_ne h]

theorem lookup_eq_none_iff_not_mem {l : List (κ × α)} {key : κ} :
    l.lookup key = none ↔ key ∉ l.map Prod.fst := by
  rw [List.lookup_eq_none_iff, List.mem_map]
  simp only [bne_iff_ne, not_exists, not_and]
  exact forall₂_congr fun entry _ => ne_comm

theorem lookup_eq_some_iff_mem {l : List (κ × α)} (h : (l.map Prod.fst).Nodup)
    {key : κ} {value : α} : l.lookup key = some value ↔ (key, value) ∈ l := by
  induction l with
  | nil => simp
  | cons entry l ih =>
    obtain ⟨k, v⟩ := entry
    obtain ⟨hk, hl⟩ := List.nodup_cons.mp h
    rw [lookup_cons_eq_ite, List.mem_cons, Prod.mk.injEq]
    by_cases hkey : key = k
    · subst hkey
      have hnot : (key, value) ∉ l := fun hmem => hk (List.mem_map.mpr ⟨_, hmem, rfl⟩)
      simp only [if_true, Option.some.injEq, true_and, hnot, or_false]
      exact eq_comm
    · simp [hkey, ih hl]

/-- In a list of pairs without those of one key, the other keys are found as before. -/
theorem lookup_filter_ne (l : List (κ × α)) (key other : κ) :
    (l.filter fun entry => entry.1 != key).lookup other = if other = key then none else l.lookup other := by
  induction l with
  | nil => simp
  | cons entry entries ih =>
    obtain ⟨k, value⟩ := entry
    by_cases hk : k = key
    · subst hk
      rw [List.filter_cons_of_neg (by simp), ih]
      by_cases ho : other = k <;> simp [ho, lookup_cons_eq_ite]
    · rw [List.filter_cons_of_pos (by simpa using hk), lookup_cons_eq_ite, lookup_cons_eq_ite, ih]
      by_cases ho : other = k
      · subst ho
        simp [hk]
      · simp [ho]

end Pairs

/-! ## Stores -/

namespace Store

variable {t : ObjectType} {α : Type}

theorem get?_insert (s : Store t α) (handle : Handle t) (object : α) (other : Handle t) :
    (s.insert handle object).get? other
      = (s.get? other).or (if other = handle then some object else none) := by
  rw [get?, insert, List.lookup_append, List.lookup_cons]
  by_cases h : other = handle <;> simp [h, get?, beq_false_of_ne]

theorem get?_erase (s : Store t α) (handle other : Handle t) :
    (s.erase handle).get? other = if other = handle then none else s.get? other :=
  lookup_filter_ne s.entries handle other

theorem get?_modify (s : Store t α) (handle : Handle t) (f : α → α) (other : Handle t) :
    (s.modify handle f).get? other
      = if other = handle then (s.get? other).map f else s.get? other := by
  simp only [get?, modify]
  induction s.entries with
  | nil => simp
  | cons entry entries ih =>
    obtain ⟨h, object⟩ := entry
    rw [List.map_cons]
    by_cases ho : other = h
    · subst ho
      by_cases hh : other = handle <;> simp [hh]
    · by_cases hh : h = handle
      · simp only [if_pos hh, List.lookup_cons, beq_false_of_ne ho, ih]
      · simp only [if_neg hh, List.lookup_cons, beq_false_of_ne ho, ih]

/-! What an insertion, a removal or a change does to one handle, whatever else the store holds. -/

theorem get?_insert_cases (s : Store t α) (handle : Handle t) (object : α) (other : Handle t) :
    (s.insert handle object).get? other = s.get? other
      ∨ (s.get? other = none ∧ (s.insert handle object).get? other = some object) := by
  rw [get?_insert]
  cases s.get? other with
  | some old => exact Or.inl rfl
  | none =>
    by_cases h : other = handle
    · exact Or.inr ⟨rfl, by rw [if_pos h, Option.none_or]⟩
    · exact Or.inl (by rw [if_neg h, Option.none_or])

theorem get?_erase_cases (s : Store t α) (handle other : Handle t) :
    (s.erase handle).get? other = s.get? other ∨ (s.erase handle).get? other = none := by
  rw [get?_erase]
  split
  · exact Or.inr rfl
  · exact Or.inl rfl

theorem get?_modify_cases (s : Store t α) (handle : Handle t) (f : α → α) (other : Handle t) :
    (s.modify handle f).get? other = s.get? other
      ∨ ∃ object, s.get? other = some object ∧ (s.modify handle f).get? other = some (f object) := by
  rw [get?_modify]
  split
  · -- An object that is not alive is not changed.
    cases s.get? other with
    | none => exact Or.inl rfl
    | some object => exact Or.inr ⟨object, rfl, rfl⟩
  · exact Or.inl rfl

end Store

namespace Registry

/-! ## Tracked resources and logs -/

/-- What is tracked of a resource: how it is shared, the states that it began with, and the states that
it is in. -/
structure Tracked where
  sharing : Sharing
  initial : RangeMap SubresourceState
  states : RangeMap SubresourceState

/-- What is tracked of a resource, if it is alive. -/
def tracked? (r : Registry) : Resource → Option Tracked
  | .image handle => (r.images.get? handle).map fun image =>
      ⟨image.info.sharing, (Image.ofInfo image.info).states, image.states⟩
  | .buffer handle => (r.buffers.get? handle).map fun buffer =>
      ⟨buffer.info.sharing, (Buffer.ofInfo buffer.info).states, buffer.states⟩

/-- The state of a subresource of a live resource. -/
def stateAt? (r : Registry) (resource : Resource) (i : Nat) : Option SubresourceState :=
  (r.states? resource).bind fun states => states.get? i

/-- The log of a live command buffer, if a recording of it was finished. -/
def log? (r : Registry) (handle : Handle .commandBuffer) : Option CommandLog :=
  (r.commandBuffers.get? handle).bind CommandBuffer.log

theorem states?_eq (r : Registry) (resource : Resource) :
    r.states? resource = (r.tracked? resource).map Tracked.states := by
  cases resource <;> simp [states?, tracked?, Option.map_map, Function.comp_def]

theorem sharing?_eq (r : Registry) (resource : Resource) :
    r.sharing? resource = (r.tracked? resource).map Tracked.sharing := by
  cases resource <;> simp [sharing?, tracked?, Option.map_map, Function.comp_def]

theorem states?_of_tracked? {r : Registry} {resource : Resource} {t : Tracked}
    (h : r.tracked? resource = some t) : r.states? resource = some t.states := by
  rw [states?_eq, h, Option.map_some]

theorem sharing?_of_tracked? {r : Registry} {resource : Resource} {t : Tracked}
    (h : r.tracked? resource = some t) : r.sharing? resource = some t.sharing := by
  rw [sharing?_eq, h, Option.map_some]

theorem stateAt?_of_tracked? {r : Registry} {resource : Resource} {t : Tracked}
    (h : r.tracked? resource = some t) (i : Nat) : r.stateAt? resource i = t.states.get? i := by
  rw [stateAt?, states?_of_tracked? h, Option.bind_some]

theorem stateAt?_of_tracked?_none {r : Registry} {resource : Resource}
    (h : r.tracked? resource = none) (i : Nat) : r.stateAt? resource i = none := by
  rw [stateAt?, states?_eq, h]
  rfl

theorem exists_tracked?_of_states? {r : Registry} {resource : Resource}
    {states : RangeMap SubresourceState} (h : r.states? resource = some states) :
    ∃ t, r.tracked? resource = some t ∧ t.states = states := by
  rw [states?_eq] at h
  exact Option.map_eq_some_iff.mp h

theorem exists_tracked?_of_sharing? {r : Registry} {resource : Resource} {sharing : Sharing}
    (h : r.sharing? resource = some sharing) :
    ∃ t, r.tracked? resource = some t ∧ t.sharing = sharing := by
  rw [sharing?_eq] at h
  exact Option.map_eq_some_iff.mp h

theorem log?_of_get? {r : Registry} {handle : Handle .commandBuffer} {cb : CommandBuffer}
    (h : r.get? handle = some cb) : r.log? handle = cb.log := by
  rw [log?, show r.commandBuffers.get? handle = some cb from h, Option.bind_some]

/-! ## Replacing states -/

theorem tracked?_setStates (r : Registry) (resource : Resource)
    (states : RangeMap SubresourceState) (other : Resource) :
    (r.setStates resource states).tracked? other
      = if other = resource then (r.tracked? other).map fun t => { t with states := states }
        else r.tracked? other := by
  cases resource with
  | image handle =>
    cases other with
    | image h =>
      simp only [setStates, tracked?, Store.get?_modify, Resource.image.injEq]
      split <;> simp [Option.map_map, Function.comp_def]
    | buffer h => simp [setStates, tracked?]
  | buffer handle =>
    cases other with
    | image h => simp [setStates, tracked?]
    | buffer h =>
      simp only [setStates, tracked?, Store.get?_modify, Resource.buffer.injEq]
      split <;> simp [Option.map_map, Function.comp_def]

@[simp] theorem commandBuffers_setStates (r : Registry) (resource : Resource)
    (states : RangeMap SubresourceState) :
    (r.setStates resource states).commandBuffers = r.commandBuffers := by
  cases resource <;> rfl

/-! ## Changes that execute nothing -/

/-- The registry `r'` goes on from `r` without an execution and without a finished recording: each
resource is as before, lost, or new and in its initial states, and each log is as before or lost. -/
structure Continues (r r' : Registry) : Prop where
  resources : ∀ resource, r'.tracked? resource = r.tracked? resource
    ∨ r'.tracked? resource = none
    ∨ (r.tracked? resource = none ∧ ∃ t, r'.tracked? resource = some t ∧ t.states = t.initial)
  logs : ∀ handle, r'.log? handle = r.log? handle ∨ r'.log? handle = none

/-- Nothing is lost: each resource is as before, or new and in its initial states. -/
structure Grows (r r' : Registry) : Prop where
  resources : ∀ resource, r'.tracked? resource = r.tracked? resource
    ∨ (r.tracked? resource = none ∧ ∃ t, r'.tracked? resource = some t ∧ t.states = t.initial)
  logs : ∀ handle, r'.log? handle = r.log? handle

/-- Nothing is new: each resource and each log is as before, or lost. -/
structure Shrinks (r r' : Registry) : Prop where
  resources : ∀ resource, r'.tracked? resource = r.tracked? resource ∨ r'.tracked? resource = none
  logs : ∀ handle, r'.log? handle = r.log? handle ∨ r'.log? handle = none

theorem Grows.continues {r r' : Registry} (h : r.Grows r') : r.Continues r' where
  resources resource := (h.resources resource).imp id Or.inr
  logs handle := Or.inl (h.logs handle)

theorem Shrinks.continues {r r' : Registry} (h : r.Shrinks r') : r.Continues r' where
  resources resource := (h.resources resource).imp id Or.inl
  logs := h.logs

/-- Registries with the same stores of images, buffers and command buffers. -/
theorem Shrinks.of_stores_eq {r r' : Registry} (hi : r'.images = r.images)
    (hb : r'.buffers = r.buffers) (hc : r'.commandBuffers = r.commandBuffers) : r.Shrinks r' where
  resources resource := by
    left
    cases resource with
    | image handle => simp only [tracked?, hi]
    | buffer handle => simp only [tracked?, hb]
  logs handle := by
    left
    simp only [log?, hc]

theorem Shrinks.refl (r : Registry) : r.Shrinks r := .of_stores_eq rfl rfl rfl

theorem shrinks_record (r : Registry) (id : ObjectId) (change : ObjectChange) :
    r.Shrinks (r.record id change) := .of_stores_eq rfl rfl rfl

theorem Shrinks.trans {r r' r'' : Registry} (h : r.Shrinks r') (h' : r'.Shrinks r'') :
    r.Shrinks r'' where
  resources resource := by
    rcases h'.resources resource with he | hn
    · rw [he]
      exact h.resources resource
    · exact Or.inr hn
  logs handle := by
    rcases h'.logs handle with he | hn
    · rw [he]
      exact h.logs handle
    · exact Or.inr hn

theorem Shrinks.foldl {α : Type} {f : Registry → α → Registry} (h : ∀ r a, Shrinks r (f r a))
    (l : List α) (r : Registry) : r.Shrinks (l.foldl f r) := by
  refine List.foldlRecOn (motive := r.Shrinks) l f (.refl r) fun r' hbefore a _ => ?_
  exact hbefore.trans (h r' a)

theorem Grows.refl (r : Registry) : r.Grows r := ⟨fun _ => Or.inl rfl, fun _ => rfl⟩

theorem Grows.trans {r r' r'' : Registry} (h : r.Grows r') (h' : r'.Grows r'') : r.Grows r'' where
  resources resource := by
    rcases h'.resources resource with he | ⟨hn, hs⟩
    · rw [he]
      exact h.resources resource
    · rcases h.resources resource with he | ⟨-, t, ht, -⟩
      · exact Or.inr ⟨he ▸ hn, hs⟩
      · rw [ht] at hn
        cases hn
  logs handle := (h'.logs handle).trans (h.logs handle)

/-! ## Adding, removing and changing objects -/

/-- A new object: a resource is in its initial states, a view shows an image that is known, a command
buffer has no log, and a swapchain tells of each of its images whether it is acquired. -/
def IsNew (r : Registry) : (t : ObjectType) → t.Object → Prop
  | .image, image => image.states = (Image.ofInfo image.info).states
  | .imageView, view => r.isKnown view.image.erase = true
  | .buffer, buffer => buffer.states = (Buffer.ofInfo buffer.info).states
  | .commandBuffer, cb => cb.log = none
  | .swapchain, swapchain => swapchain.acquired.length = swapchain.images.length
  | _, _ => True

theorem grows_add {t : ObjectType} (r : Registry) (handle : Handle t) {object : t.Object}
    (hnew : IsNew r t object) : r.Grows (r.add handle object) := by
  constructor
  · intro resource
    cases t with
    | image =>
      cases resource with
      | buffer other => exact Or.inl rfl
      | image other =>
        rcases r.images.get?_insert_cases handle object other with hsame | ⟨hnone, hsome⟩
        · exact Or.inl (congrArg (Option.map _) hsame)
        · exact Or.inr ⟨congrArg (Option.map _) hnone, _, congrArg (Option.map _) hsome, hnew⟩
    | buffer =>
      cases resource with
      | image other => exact Or.inl rfl
      | buffer other =>
        rcases r.buffers.get?_insert_cases handle object other with hsame | ⟨hnone, hsome⟩
        · exact Or.inl (congrArg (Option.map _) hsame)
        · exact Or.inr ⟨congrArg (Option.map _) hnone, _, congrArg (Option.map _) hsome, hnew⟩
    | _ => left; cases resource <;> rfl
  · intro other
    cases t with
    | commandBuffer =>
      rcases r.commandBuffers.get?_insert_cases handle object other with hsame | ⟨hnone, hsome⟩
      · exact congrArg (Option.bind · CommandBuffer.log) hsame
      · -- A new command buffer has no log, like one that is not alive.
        have hbefore : r.log? other = none := congrArg (Option.bind · CommandBuffer.log) hnone
        have hafter : (r.add handle object).log? other = object.log :=
          congrArg (Option.bind · CommandBuffer.log) hsome
        exact hafter.trans ((show object.log = none from hnew).trans hbefore.symm)
    | _ => rfl

theorem shrinks_remove {t : ObjectType} (r : Registry) (handle : Handle t) :
    r.Shrinks (r.remove handle) := by
  rw [remove]
  split
  · constructor
    · intro resource
      cases t with
      | image =>
        cases resource with
        | buffer other => exact Or.inl rfl
        | image other =>
          exact (r.images.get?_erase_cases handle other).imp (congrArg (Option.map _))
            (congrArg (Option.map _))
      | buffer =>
        cases resource with
        | image other => exact Or.inl rfl
        | buffer other =>
          exact (r.buffers.get?_erase_cases handle other).imp (congrArg (Option.map _))
            (congrArg (Option.map _))
      | _ => left; cases resource <;> rfl
    · intro other
      cases t with
      | commandBuffer =>
        exact (r.commandBuffers.get?_erase_cases handle other).imp
          (congrArg (Option.bind · CommandBuffer.log)) (congrArg (Option.bind · CommandBuffer.log))
      | _ => exact Or.inl rfl
  · exact Shrinks.refl r

/-- A change of an object that nothing tracked depends on: a resource keeps its properties and states, a
view its image, a swapchain its images, and a command buffer keeps its log or loses it. -/
def IsKept : (t : ObjectType) → t.Object → t.Object → Prop
  | .image, image, image' => image'.info = image.info ∧ image'.states = image.states
  | .imageView, view, view' => view'.image = view.image
  | .buffer, buffer, buffer' => buffer'.info = buffer.info ∧ buffer'.states = buffer.states
  | .commandBuffer, cb, cb' => cb'.log = cb.log ∨ cb'.log = none
  | .swapchain, swapchain, swapchain' =>
    swapchain'.images = swapchain.images ∧ swapchain'.acquired.length = swapchain.acquired.length
  | _, _, _ => True

section Modify

variable {t : ObjectType} (r : Registry) (handle : Handle t) {f : t.Object → t.Object}
  (hf : ∀ object, IsKept t object (f object))
include hf

theorem tracked?_modify (resource : Resource) :
    (r.modify handle f).tracked? resource = r.tracked? resource := by
  cases t with
  | image =>
    cases resource with
    | buffer other => rfl
    | image other =>
      rcases r.images.get?_modify_cases handle f other with hsame | ⟨image, hbefore, hafter⟩
      · exact congrArg (Option.map _) hsame
      · obtain ⟨hinfo, hstates⟩ := hf image
        refine (congrArg (Option.map _) hafter).trans (.trans ?_ (congrArg (Option.map _) hbefore).symm)
        rw [Option.map_some, Option.map_some, hinfo, hstates]
  | buffer =>
    cases resource with
    | image other => rfl
    | buffer other =>
      rcases r.buffers.get?_modify_cases handle f other with hsame | ⟨buffer, hbefore, hafter⟩
      · exact congrArg (Option.map _) hsame
      · obtain ⟨hinfo, hstates⟩ := hf buffer
        refine (congrArg (Option.map _) hafter).trans (.trans ?_ (congrArg (Option.map _) hbefore).symm)
        rw [Option.map_some, Option.map_some, hinfo, hstates]
  | _ => cases resource <;> rfl

theorem shrinks_modify : r.Shrinks (r.modify handle f) := by
  refine ⟨fun resource => Or.inl (r.tracked?_modify handle hf resource), fun other => ?_⟩
  cases t with
  | commandBuffer =>
    rcases r.commandBuffers.get?_modify_cases handle f other with hsame | ⟨cb, hbefore, hafter⟩
    · exact Or.inl (congrArg (Option.bind · CommandBuffer.log) hsame)
    · -- The log of the changed command buffer is the one before, or none.
      exact (show (f cb).log = cb.log ∨ (f cb).log = none from hf cb).imp
        (fun hkept => (congrArg (Option.bind · CommandBuffer.log) hafter).trans
          (hkept.trans (congrArg (Option.bind · CommandBuffer.log) hbefore).symm))
        ((congrArg (Option.bind · CommandBuffer.log) hafter).trans ·)
  | _ => exact Or.inl rfl

/-- The change of an object other than a command buffer leaves the logs alone. -/
theorem grows_modify (ht : t ≠ .commandBuffer) : r.Grows (r.modify handle f) := by
  refine ⟨fun resource => Or.inl (r.tracked?_modify handle hf resource), fun other => ?_⟩
  cases t with
  | commandBuffer => exact absurd rfl ht
  | _ => rfl

end Modify

end Registry

end VulkanValidity
