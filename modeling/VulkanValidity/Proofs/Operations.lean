/-
  VulkanValidity.Proofs.Operations

  What the operations of a device do to it.  Most of them are made of small changes (`Device.Edit`):
  they reserve handles, add objects, change objects in ways that nothing tracked depends on, bind memory,
  or note something beside the objects.  Such operations destroy nothing, and they leave command buffers
  and pending submissions alone.  What is left are destructions, waits, and the beginning and the end of
  recordings, each of which is described on its own; submissions follow in Proofs/Session.

  An edit is seen in two ways.  For what is tracked it is a quiet change of the device (`Device.Quiet`),
  and for the change feed it is a change of the registry (`Registry.Change`).
-/

import Mathlib.Data.List.Forall2
import Mathlib.Logic.Relation
import VulkanValidity.Proofs.Changes
import VulkanValidity.Session

namespace VulkanValidity

/-! ## Outcomes -/

theorem bind_eq_ok {ε α β : Type} {x : Except ε α} {f : α → Except ε β} {b : β} :
    (x >>= f) = .ok b ↔ ∃ a, x = .ok a ∧ f a = .ok b := by
  cases x with
  | error e => simp [bind, Except.bind]
  | ok a => simp [bind, Except.bind]

theorem pure_eq_ok {ε α : Type} {a b : α} : (pure a : Except ε α) = .ok b ↔ a = b := by
  simp [pure, Except.pure]

section Mapping

variable {α β : Type} {l : List α}

/-- Mapping by a function that can fail gives the values that the function gives for the elements.  The
two hypotheses say of the monad what `pure_eq_ok` and `bind_eq_ok` say of results. -/
theorem mapM_eq_pure_iff {m : Type → Type} [Monad m] [LawfulMonad m]
    (hpure : ∀ {γ : Type} {a b : γ}, (pure a : m γ) = pure b ↔ a = b)
    (hbind : ∀ {γ δ : Type} {x : m γ} {g : γ → m δ} {b : δ},
      (x >>= g) = pure b ↔ ∃ a, x = pure a ∧ g a = pure b)
    {f : α → m β} {made : List β} :
    l.mapM f = pure made ↔ List.Forall₂ (fun a b => f a = pure b) l made := by
  induction l generalizing made with
  | nil => rw [List.mapM_nil, hpure, List.forall₂_nil_left_iff, eq_comm]
  | cons a l ih =>
    rw [List.mapM_cons, hbind, List.forall₂_cons_left_iff]
    refine exists_congr fun b => ?_
    rw [hbind]
    constructor
    · rintro ⟨hb, rest, hrest, hmade⟩
      exact ⟨rest, hb, ih.mp hrest, (hpure.mp hmade).symm⟩
    · rintro ⟨rest, hb, hrest, rfl⟩
      exact ⟨hb, rest, ih.mpr hrest, rfl⟩

theorem mapM_eq_ok_iff {ε : Type} {f : α → Except ε β} {made : List β} :
    l.mapM f = .ok made ↔ List.Forall₂ (fun a b => f a = .ok b) l made :=
  mapM_eq_pure_iff pure_eq_ok bind_eq_ok

theorem mapM_eq_some_iff {f : α → Option β} {made : List β} :
    l.mapM f = some made ↔ List.Forall₂ (fun a b => f a = some b) l made :=
  mapM_eq_pure_iff Option.some_inj Option.bind_eq_some_iff

theorem exists_forall₂_iff {R : α → β → Prop} :
    (∃ made, List.Forall₂ R l made) ↔ ∀ a ∈ l, ∃ b, R a b := by
  induction l with
  | nil => exact iff_of_true ⟨[], .nil⟩ fun a ha => absurd ha List.not_mem_nil
  | cons a l ih =>
    rw [List.forall_mem_cons, ← ih]
    constructor
    · rintro ⟨_, _ | ⟨hab, hrest⟩⟩
      exact ⟨⟨_, hab⟩, _, hrest⟩
    · rintro ⟨⟨b, hab⟩, rest, hrest⟩
      exact ⟨b :: rest, .cons hab hrest⟩

/-- Mapping by a function that can fail succeeds exactly if the function does for every element. -/
theorem exists_mapM_ok {ε : Type} {f : α → Except ε β} :
    (∃ made, l.mapM f = .ok made) ↔ ∀ a ∈ l, ∃ b, f a = .ok b := by
  simp only [mapM_eq_ok_iff, exists_forall₂_iff]

theorem exists_getElem?_of_forall₂ {R : α → β → Prop} {made : List β}
    (h : List.Forall₂ R l made) {k : Nat} {b : β} (hb : made[k]? = some b) :
    ∃ a, l[k]? = some a ∧ R a b := by
  induction h generalizing k with
  | nil => cases hb
  | cons hab _ ih =>
    cases k with
    | zero =>
      obtain rfl := Option.some.inj hb
      exact ⟨_, rfl, hab⟩
    | succ k => exact ih hb

end Mapping

theorem Registry.get_eq_ok {t : ObjectType} {r : Registry} {handle : Handle t} {object : t.Object} :
    r.get handle = .ok object ↔ r.get? handle = some object := by
  unfold Registry.get
  cases r.get? handle <;> simp

/-- A guarded operation leaves the state alone, or is accepted and does what it is to perform. -/
theorem Outcome.guarded_cases {σ α : Type} (state : σ) (diagnostics : List Diagnostic)
    (perform : Except Error (α × σ)) :
    ((Outcome.guarded state diagnostics perform).state = state
        ∧ ∃ e, (Outcome.guarded state diagnostics perform).result = .error e)
      ∨ ∃ value after, verdict diagnostics = .ok () ∧ perform = .ok (value, after)
        ∧ (Outcome.guarded state diagnostics perform).state = after
        ∧ (Outcome.guarded state diagnostics perform).result = .ok value := by
  unfold Outcome.guarded
  cases verdict diagnostics with
  | error e => exact Or.inl ⟨rfl, e, rfl⟩
  | ok u =>
    cases perform with
    | error e => exact Or.inl ⟨rfl, e, rfl⟩
    | ok result =>
      obtain ⟨value, after⟩ := result
      exact Or.inr ⟨value, after, rfl, rfl, rfl, rfl⟩

/-- What the performing keeps, a guarded operation keeps. -/
theorem Outcome.guarded_keeps {σ α β : Type} (g : σ → β) {state : σ} {diagnostics : List Diagnostic}
    {perform : Except Error (α × σ)} (h : ∀ value after, perform = .ok (value, after) → g after = g state) :
    g (Outcome.guarded state diagnostics perform).state = g state := by
  rcases guarded_cases state diagnostics perform with ⟨hs, -⟩ | ⟨value, after, -, hperform, hs, -⟩
  · rw [hs]
  · rw [hs]
    exact h value after hperform

@[simp] theorem Outcome.guarded_diagnostics {σ α : Type} (state : σ) (diagnostics : List Diagnostic)
    (perform : Except Error (α × σ)) :
    (Outcome.guarded state diagnostics perform).diagnostics = diagnostics := by
  unfold Outcome.guarded
  cases verdict diagnostics with
  | error e => rfl
  | ok u => cases perform <;> rfl

namespace Device

/-! ## Quiet changes -/

/-- A small change of a device, which destroys nothing and leaves command buffers and pending submissions
alone. -/
inductive Quiet (d : Device) : Device → Prop
  /-- Something beside the objects changes. -/
  | aside {d' : Device} (hobjects : d.registry.SameObjects d'.registry)
      (hpending : d'.pending = d.pending) (hengine : d'.engine = d.engine)
      (henvironment : d'.environment = d.environment) : Quiet d d'
  | add {t : ObjectType} (handle : Handle t) {object : t.Object} (ht : t ≠ .commandBuffer)
      (hnew : d.registry.IsNew t object) :
    Quiet d (d.withRegistry (d.registry.add handle object))
  | modify {t : ObjectType} (handle : Handle t) {f : t.Object → t.Object} (ht : t ≠ .commandBuffer)
      (hkept : ∀ object, Registry.IsKept t object (f object)) :
    Quiet d (d.withRegistry (d.registry.modify handle f))

/-- A device goes on by small changes. -/
abbrev Quietly : Device → Device → Prop := Relation.ReflTransGen Quiet

/-- What every small change keeps is kept. -/
theorem Quietly.keeps {P : Device → Prop} (hP : ∀ d d', Quiet d d' → P d → P d') {d d' : Device}
    (h : d.Quietly d') (hd : P d) : P d' := by
  induction h with
  | refl => exact hd
  | tail _ hlast ih => exact hP _ _ hlast ih

/-- A small change of a device, as it is made by operations, with the handles that are reserved before and
after it.  It is quiet, and beside that it keeps the agreement of the registry with its feed. -/
inductive Edit : List ObjectId × Device → List ObjectId × Device → Prop
  /-- Something beside the objects and their events changes. -/
  | aside {reserved : List ObjectId} {d d' : Device} (hsame : d.registry.SameRecords d'.registry)
      (huses : d'.registry.uses = d.registry.uses) (hpending : d'.pending = d.pending)
      (hengine : d'.engine = d.engine) (henvironment : d'.environment = d.environment) :
    Edit (reserved, d) (reserved, d')
  | reserve {reserved : List ObjectId} {d : Device} (t : ObjectType)
      (hfree : ∀ id ∈ reserved, id.type? ≠ some t) :
    Edit (reserved, d)
      ((d.registry.reserve t).1.erase :: reserved, d.withRegistry (d.registry.reserve t).2)
  | add {reserved : List ObjectId} {d : Device} {t : ObjectType} (handle : Handle t)
      {object : t.Object} (ht : t ≠ .commandBuffer) (hnew : d.registry.IsNew t object)
      (hunbound : t.binding? object = none) :
    Edit (handle.erase :: reserved, d) (reserved, d.withRegistry (d.registry.add handle object))
  | modify {reserved : List ObjectId} {d : Device} {t : ObjectType} (handle : Handle t)
      {f : t.Object → t.Object} (ht : t ≠ .commandBuffer)
      (hkept : ∀ object, Registry.IsKept t object (f object))
      (hbinding : ∀ object, t.binding? (f object) = t.binding? object) :
    Edit (reserved, d) (reserved, d.withRegistry (d.registry.modify handle f))
  | bind {reserved : List ObjectId} {d : Device} {t : ObjectType} {handle : Handle t}
      {object : t.Object} {f : t.Object → t.Object} (ht : t ≠ .commandBuffer)
      (hkept : ∀ object, Registry.IsKept t object (f object))
      (hget : d.registry.get? handle = some object) (hunbound : t.binding? object = none)
      (hbound : (t.binding? (f object)).isSome = true) :
    Edit (reserved, d) (reserved, d.withRegistry
      ((d.registry.modify handle f).record handle.erase .bound))

/-- A device goes on by the small changes that operations make. -/
abbrev Edits : List ObjectId × Device → List ObjectId × Device → Prop := Relation.ReflTransGen Edit

theorem Edit.quietly {before after : List ObjectId × Device} (h : Edit before after) :
    before.2.Quietly after.2 := by
  cases h with
  | aside hsame huses hpending hengine henvironment =>
    exact .single (.aside (hsame.sameObjects huses) hpending hengine henvironment)
  | @reserve _ d t => exact .single (.aside (Registry.sameObjects_reserve d.registry t) rfl rfl rfl)
  | add handle ht hnew => exact .single (.add handle ht hnew)
  | modify handle ht hkept => exact .single (.modify handle ht hkept)
  | @bind _ d t handle object f ht hkept =>
    have hmodify : d.Quiet (d.withRegistry (d.registry.modify handle f)) := .modify handle ht hkept
    have hrecord := Registry.sameObjects_record (d.registry.modify handle f) handle.erase .bound
    exact .head hmodify (.single (.aside hrecord rfl rfl rfl))

theorem Edit.change {before after : List ObjectId × Device} (h : Edit before after) :
    Registry.Change (before.1, before.2.registry) (after.1, after.2.registry) := by
  cases h with
  | aside hsame => exact .aside hsame
  | reserve t hfree => exact .reserve t hfree
  | add handle _ _ hunbound => exact .add handle hunbound
  | modify handle _ _ hbinding => exact .modify handle hbinding
  | bind _ _ hget hunbound hbound => exact .bind hget hunbound hbound

theorem Edits.quietly {before after : List ObjectId × Device} (h : Edits before after) :
    before.2.Quietly after.2 := by
  induction h with
  | refl => exact .refl
  | tail _ hlast ih => exact ih.trans hlast.quietly

theorem Edits.changes {before after : List ObjectId × Device} (h : Edits before after) :
    Registry.Changes (before.1, before.2.registry) (after.1, after.2.registry) := by
  induction h with
  | refl => exact .refl
  | tail _ hlast ih => exact ih.tail hlast.change

/-- A new object takes the next serial, and is added at once. -/
theorem edits_insert {t : ObjectType} {reserved : List ObjectId} (d : Device) {object : t.Object}
    (hfree : ∀ id ∈ reserved, id.type? ≠ some t) (ht : t ≠ .commandBuffer)
    (hnew : d.registry.IsNew t object) (hunbound : t.binding? object = none) :
    Edits (reserved, d) (reserved, (d.insert t object).2) := by
  have hreserve := Registry.sameObjects_reserve d.registry t
  let next := d.withRegistry (d.registry.reserve t).2
  have hadd : Edit ((d.registry.reserve t).1.erase :: reserved, next)
      (reserved, (d.insert t object).2) :=
    .add (d.registry.reserve t).1 ht (hreserve.isNew hnew) hunbound
  exact .head (.reserve t hfree) (.single hadd)

theorem edits_guarded {α : Type} {d : Device} {diagnostics : List Diagnostic}
    {perform : Except Error (α × Device)}
    (h : ∀ value after, perform = .ok (value, after) → Edits ([], d) ([], after)) :
    Edits ([], d) ([], (Outcome.guarded d diagnostics perform).state) := by
  rcases Outcome.guarded_cases d diagnostics perform with ⟨he, -⟩ | ⟨value, after, -, hp, he, -⟩
  · rw [he]
  · rw [he]
    exact h value after hp

/-! ### Creation -/

/-- A new object that is made while no handle is reserved. -/
theorem edits_create {t : ObjectType} (d : Device) {object : t.Object} (ht : t ≠ .commandBuffer)
    (hnew : d.registry.IsNew t object) (hunbound : t.binding? object = none) :
    Edits ([], d) ([], (d.insert t object).2) :=
  edits_insert d (fun _ hid => absurd hid List.not_mem_nil) ht hnew hunbound

theorem createImage_edits (d : Device) (info : ImageInfo) :
    Edits ([], d) ([], (d.createImage info).state) := by
  refine edits_guarded fun handle after h => ?_
  obtain rfl := congrArg Prod.snd (Except.ok.inj h)
  exact edits_create d (t := .image) (by decide) rfl rfl

theorem createImageView_edits (d : Device) (info : ImageViewInfo) :
    Edits ([], d) ([], (d.createImageView info).state) := by
  refine edits_guarded fun handle after h => ?_
  obtain ⟨image, himage, h⟩ := bind_eq_ok.mp h
  obtain rfl := congrArg Prod.snd (pure_eq_ok.mp h)
  have halive := Registry.contains_of_get? (Registry.get_eq_ok.mp himage)
  exact edits_create d (t := .imageView) (by decide) (Registry.isKnown_of_contains halive) rfl

theorem createBuffer_edits (d : Device) (info : BufferInfo) :
    Edits ([], d) ([], (d.createBuffer info).state) := by
  refine edits_guarded fun handle after h => ?_
  obtain rfl := congrArg Prod.snd (Except.ok.inj h)
  exact edits_create d (t := .buffer) (by decide) rfl rfl

theorem createRenderPass_edits (d : Device) (info : RenderPassInfo) :
    Edits ([], d) ([], (d.createRenderPass info).state) := by
  refine edits_guarded fun handle after h => ?_
  obtain rfl := congrArg Prod.snd (Except.ok.inj h)
  exact edits_create d (t := .renderPass) (by decide) trivial rfl

theorem createFramebuffer_edits (d : Device) (info : FramebufferInfo) :
    Edits ([], d) ([], (d.createFramebuffer info).state) := by
  refine edits_guarded fun handle after h => ?_
  obtain ⟨renderPass, -, h⟩ := bind_eq_ok.mp h
  obtain rfl := congrArg Prod.snd (pure_eq_ok.mp h)
  exact edits_create d (t := .framebuffer) (by decide) trivial rfl

/-! ### Swapchains -/

theorem insertImages_edits {reserved : List ObjectId} (d : Device) (info : SwapchainInfo)
    (swapchain : Handle .swapchain) (hfree : ∀ id ∈ reserved, id.type? ≠ some .image) :
    Edits (reserved, d)
      (reserved, d.withRegistry (insertImages info swapchain d.registry).2) := by
  unfold insertImages
  refine List.foldlRecOn (motive := fun made : List (Handle .image) × Registry =>
    Edits (reserved, d) (reserved, d.withRegistry made.2)) _ _ .refl fun made hbefore index _ => ?_
  exact hbefore.trans (edits_insert (d.withRegistry made.2) hfree (by decide) rfl rfl)

theorem createSwapchain_edits (d : Device) (info : SwapchainInfo) :
    Edits ([], d) ([], (d.createSwapchain info).state) := by
  refine edits_guarded fun handle after h => ?_
  obtain rfl := congrArg Prod.snd (Except.ok.inj h)
  -- The images are made for the reserved handle, before the swapchain is added.
  let swapchain := (d.registry.reserve .swapchain).1
  let reserved := d.withRegistry (d.registry.reserve .swapchain).2
  let images := insertImages info swapchain reserved.registry
  have hreserve : Edit ([], d) ([swapchain.erase], reserved) :=
    .reserve .swapchain fun _ hid => absurd hid List.not_mem_nil
  have hfree : ∀ id ∈ [swapchain.erase], id.type? ≠ some .image := by
    intro id hid
    rw [List.mem_singleton.mp hid, swapchain.type?_erase]
    decide
  have himages : Edits ([swapchain.erase], reserved)
      ([swapchain.erase], reserved.withRegistry images.2) :=
    insertImages_edits reserved info swapchain hfree
  have hnew : images.2.IsNew .swapchain (Swapchain.ofImages info images.1) := List.length_map _
  exact (Relation.ReflTransGen.head hreserve himages).tail
    (.add (t := .swapchain) swapchain (by decide) hnew rfl)

theorem acquireImage_edits (d : Device) (handle : Handle .swapchain) :
    Edits ([], d) ([], (d.acquireImage handle).state) := by
  refine edits_guarded fun value after h => ?_
  obtain ⟨swapchain, -, h⟩ := bind_eq_ok.mp h
  cases hn : swapchain.nextIndex? with
  | none =>
    rw [hn] at h
    cases h
  | some index =>
    rw [hn] at h
    obtain rfl := congrArg Prod.snd (pure_eq_ok.mp h)
    exact .single (.modify (t := .swapchain) handle (by decide) (fun _ =>
      ⟨rfl, List.length_set⟩) fun _ => rfl)

theorem releaseImages_edits (d : Device) (images : List PresentedImage) :
    Edits ([], d) ([], d.withRegistry (releaseImages d.registry images).1) := by
  induction images generalizing d with
  | nil => exact .refl
  | cons image images ih =>
    rw [releaseImages]
    cases d.registry.get image.swapchain with
    | error e => exact .refl
    | ok swapchain =>
      have hrelease : Edit ([], d) ([], d.withRegistry (d.registry.modify image.swapchain
          fun swapchain => swapchain.release image.index)) :=
        .modify (t := .swapchain) image.swapchain (by decide) (fun _ => ⟨rfl, List.length_set⟩)
          fun _ => rfl
      exact .head hrelease (ih _)

theorem present_edits (d : Device) (images : List PresentedImage) :
    Edits ([], d) ([], (d.present images).state) := by
  unfold present
  simp only
  split
  · exact .refl
  · exact releaseImages_edits d images

/-! ### Memory -/

theorem allocateHardwareBuffer_edits (d : Device) (info : HardwareBufferInfo) :
    Edits ([], d) ([], (d.allocateHardwareBuffer info).state) := by
  refine edits_guarded fun value after h => ?_
  split at h
  · cases h
  · split at h
    · cases h
    · obtain rfl := congrArg Prod.snd (Except.ok.inj h)
      exact .single (.aside (.refl d.registry) rfl rfl rfl rfl)

theorem hardwareBufferProperties_edits (d : Device) (buffer : HardwareBuffer) :
    Edits ([], d) ([], (d.hardwareBufferProperties buffer).state) := by
  refine edits_guarded fun value after h => ?_
  obtain rfl := congrArg Prod.snd (Except.ok.inj h)
  exact .single (.aside ⟨fun t => by cases t <;> rfl, rfl, rfl, rfl⟩ rfl rfl rfl rfl)

theorem takeImport_edit (d : Device) (source : Option MemoryImport) :
    Edit ([], d) ([], d.withRegistry (takeImport d.registry source)) := by
  unfold takeImport
  split <;> exact .aside ⟨fun t => by cases t <;> rfl, rfl, rfl, rfl⟩ rfl rfl rfl rfl

theorem allocateMemory_edits (d : Device) (info : AllocationInfo) :
    Edits ([], d) ([], (d.allocateMemory info).state) := by
  refine edits_guarded fun handle after h => ?_
  obtain ⟨size, -, h⟩ := bind_eq_ok.mp h
  obtain rfl := congrArg Prod.snd (pure_eq_ok.mp h)
  exact .head (takeImport_edit d info.source)
    (edits_create _ (t := .deviceMemory) (by decide) trivial rfl)

theorem exportMemory_edits (d : Device) (handle : Handle .deviceMemory)
    (handleType : ExternalHandleTypes) :
    Edits ([], d) ([], (d.exportMemory handle handleType).state) := by
  refine edits_guarded fun value after h => ?_
  obtain ⟨memory, -, h⟩ := bind_eq_ok.mp h
  obtain rfl := congrArg Prod.snd (pure_eq_ok.mp h)
  exact .single (.aside ⟨fun t => by cases t <;> rfl, rfl, rfl, rfl⟩ rfl rfl rfl rfl)

theorem bindImage_edits (d : Device) (handle : Handle .image) (memory : Handle .deviceMemory)
    (offset : Nat) : Edits ([], d) ([], (d.bindImage handle memory offset).state) := by
  refine edits_guarded fun value after h => ?_
  obtain ⟨image, himage, h⟩ := bind_eq_ok.mp h
  obtain ⟨allocation, -, h⟩ := bind_eq_ok.mp h
  split at h
  · cases h
  · next hbound =>
    obtain rfl := congrArg Prod.snd (pure_eq_ok.mp h)
    have hmemory : image.memory = none := Option.not_isSome_iff_eq_none.mp hbound
    have hunbound : image.binding? = none := by rw [Image.binding?, hmemory]
    exact .single (.bind (t := .image) (by decide) (fun _ => ⟨rfl, rfl⟩)
      (Registry.get_eq_ok.mp himage) hunbound rfl)

theorem bindBuffer_edits (d : Device) (handle : Handle .buffer) (memory : Handle .deviceMemory)
    (offset : Nat) : Edits ([], d) ([], (d.bindBuffer handle memory offset).state) := by
  refine edits_guarded fun value after h => ?_
  obtain ⟨buffer, hbuffer, h⟩ := bind_eq_ok.mp h
  split at h
  · cases h
  · next hbound =>
    obtain rfl := congrArg Prod.snd (pure_eq_ok.mp h)
    have hunbound : buffer.memory = none := Option.not_isSome_iff_eq_none.mp hbound
    exact .single (.bind (t := .buffer) (by decide) (fun _ => ⟨rfl, rfl⟩)
      (Registry.get_eq_ok.mp hbuffer) hunbound rfl)

/-! ### Queries -/

theorem imageRequirements_state (d : Device) (handle : Handle .image) (extended : Bool) :
    (d.imageRequirements handle extended).state = d := by
  rcases Outcome.guarded_cases d _ _ with ⟨he, -⟩ | ⟨value, after, -, h, he, -⟩
  · exact he
  · obtain ⟨image, -, h⟩ := bind_eq_ok.mp h
    exact he.trans (congrArg Prod.snd (pure_eq_ok.mp h)).symm

theorem bufferRequirements_state (d : Device) (handle : Handle .buffer) :
    (d.bufferRequirements handle).state = d := by
  rcases Outcome.guarded_cases d _ _ with ⟨he, -⟩ | ⟨value, after, -, h, he, -⟩
  · exact he
  · obtain ⟨buffer, -, h⟩ := bind_eq_ok.mp h
    exact he.trans (congrArg Prod.snd (pure_eq_ok.mp h)).symm

theorem subresourceLayout_state (d : Device) (handle : Handle .image) (subresource : Subresource) :
    (d.subresourceLayout handle subresource).state = d := by
  rcases Outcome.guarded_cases d _ _ with ⟨he, -⟩ | ⟨value, after, -, h, he, -⟩
  · exact he
  · obtain ⟨image, -, h⟩ := bind_eq_ok.mp h
    split at h
    · exact he.trans (congrArg Prod.snd (pure_eq_ok.mp h)).symm
    · cases h

/-! ## Destructions and waits -/

/-- Destroying an object leaves the device alone, or is accepted and removes the object. -/
theorem destroy_cases {t : ObjectType} (d : Device) (handle : Handle t) :
    ((d.destroy handle).state = d ∧ ∃ e, (d.destroy handle).result = .error e)
      ∨ (verdict (d.diagnose (.destroy handle.erase)) = .ok ()
        ∧ (d.destroy handle).state = d.withRegistry (d.registry.remove handle)
        ∧ (d.destroy handle).result = .ok ()) := by
  rcases Outcome.guarded_cases d _ _ with h | ⟨value, after, haccepted, h, hs, hv⟩
  · exact Or.inl h
  · obtain ⟨object, -, h⟩ := bind_eq_ok.mp h
    obtain rfl := congrArg Prod.snd (pure_eq_ok.mp h)
    exact Or.inr ⟨haccepted, hs, hv⟩

/-- After an object is destroyed the others are as they were. -/
theorem get?_of_destroy (d : Device) {t : ObjectType} (destroyed : Handle t) {handle : Handle t}
    {found : t.Object} (h : (d.destroy destroyed).state.registry.get? handle = some found) :
    d.registry.get? handle = some found := by
  rcases d.destroy_cases destroyed with ⟨hs, -⟩ | ⟨-, hs, -⟩
  · rwa [hs] at h
  · rw [hs] at h
    have hremove := (Registry.get?_remove d.registry destroyed handle).symm.trans h
    split at hremove
    · cases hremove
    · exact hremove

/-- Removes a swapchain and its images. -/
def removeSwapchain (d : Device) (handle : Handle .swapchain) (images : List (Handle .image)) :
    Device :=
  d.withRegistry (images.foldl (fun registry image => registry.remove image)
    (d.registry.remove handle))

theorem destroySwapchain_cases (d : Device) (handle : Handle .swapchain) :
    ((d.destroySwapchain handle).state = d ∧ ∃ e, (d.destroySwapchain handle).result = .error e)
      ∨ ∃ swapchain, d.registry.get? handle = some swapchain
        ∧ (d.destroySwapchain handle).state = d.removeSwapchain handle swapchain.images
        ∧ (d.destroySwapchain handle).result = .ok () := by
  rcases Outcome.guarded_cases d _ _ with h | ⟨value, after, -, h, hs, hv⟩
  · exact Or.inl h
  · obtain ⟨swapchain, hget, h⟩ := bind_eq_ok.mp h
    obtain rfl := congrArg Prod.snd (pure_eq_ok.mp h)
    exact Or.inr ⟨swapchain, Registry.get_eq_ok.mp hget, hs, hv⟩

/-- Completes submissions, of which others are left. -/
def retireAll (d : Device) (done rest : List PendingSubmission) : Device :=
  { d with registry := done.foldl retire d.registry, pending := rest }

theorem retireAll_retireAll (d : Device) (done rest done' rest' : List PendingSubmission) :
    (d.retireAll done rest).retireAll done' rest' = d.retireAll (done ++ done') rest' := by
  rw [retireAll, retireAll, retireAll, List.foldl_append]

theorem queueWait_cases (d : Device) (queue : Queue) :
    ∃ done rest, d.pending.Perm (done ++ rest) ∧ d.queueWait queue = d.retireAll done rest
      ∧ ∀ submission ∈ rest, submission.queue ≠ queue := by
  let isOf (submission : PendingSubmission) : Bool := submission.queue = queue
  have hpartition : d.pending.partition isOf
      = (d.pending.filter isOf, d.pending.filter (!isOf ·)) := List.partition_eq_filter_filter
  refine ⟨d.pending.filter isOf, d.pending.filter (!isOf ·),
    (List.filter_append_perm isOf d.pending).symm, ?_, fun submission hmem heq => ?_⟩
  · show { d with registry := (d.pending.partition isOf).1.foldl retire d.registry,
                  pending := (d.pending.partition isOf).2 } = _
    rw [hpartition]
    rfl
  · have hother := (List.mem_filter.mp hmem).2
    rw [show isOf submission = true from decide_eq_true heq] at hother
    cases hother

/-- Waiting for one queue after the other completes submissions, and leaves those to other queues. -/
theorem foldl_queueWait_cases (d : Device) (queues : List Queue) :
    ∃ done rest, d.pending.Perm (done ++ rest) ∧ queues.foldl queueWait d = d.retireAll done rest
      ∧ ∀ submission ∈ rest, submission.queue ∉ queues := by
  induction queues generalizing d with
  | nil => exact ⟨[], d.pending, .refl _, rfl, fun submission _ => List.not_mem_nil⟩
  | cons queue queues ih =>
    obtain ⟨done, rest, hperm, hfirst, hne⟩ := d.queueWait_cases queue
    obtain ⟨done', rest', hperm', hothers, hnot⟩ := ih (d.retireAll done rest)
    have hpending : rest.Perm (done' ++ rest') := hperm'
    refine ⟨done ++ done', rest', ?_, ?_, fun submission hmem => ?_⟩
    · rw [List.append_assoc]
      exact hperm.trans (hpending.append_left done)
    · rw [List.foldl_cons, hfirst, hothers, retireAll_retireAll]
    · have hleft : submission ∈ rest := hpending.mem_iff.mpr (List.mem_append_right _ hmem)
      exact List.not_mem_cons_of_ne_of_not_mem (hne submission hleft) (hnot submission hmem)

theorem waitIdle_cases (d : Device) (queues : List Queue) :
    ∃ done, d.pending.Perm done ∧ d.waitIdle queues = d.retireAll done [] := by
  obtain ⟨done, rest, hperm, hwait, hothers⟩ :=
    d.foldl_queueWait_cases (queues ++ d.pending.map PendingSubmission.queue)
  -- Every queue with submissions was waited for.
  have hrest : rest = [] := List.eq_nil_iff_forall_not_mem.mpr fun submission hmem =>
    hothers submission hmem (List.mem_append_right _ (List.mem_map_of_mem
      (hperm.mem_iff.mpr (List.mem_append_right _ hmem))))
  subst hrest
  rw [List.append_nil] at hperm
  exact ⟨done, hperm, hwait⟩

/-! ## Recordings -/

/-- What beginning to record does: there is a new command buffer, or one that exists is begun again. -/
inductive Begins (d : Device) (queue : Queue) (usage : CommandBufferUsage) :
    Option (Handle .commandBuffer) → Recorder → Device → Prop
  | fresh (haccepted : verdict (d.diagnose (.beginCommandBuffer queue none)) = .ok ()) :
    Begins d queue usage none
      ⟨(d.insert .commandBuffer (CommandBuffer.begin { family := queue.family } usage)).1,
        { family := queue.family }⟩
      (d.insert .commandBuffer (CommandBuffer.begin { family := queue.family } usage)).2
  | again {handle : Handle .commandBuffer} {cb : CommandBuffer}
      (haccepted : verdict (d.diagnose (.beginCommandBuffer queue (some handle))) = .ok ())
      (hget : d.registry.get? handle = some cb) :
    Begins d queue usage (some handle) ⟨handle, { family := cb.family }⟩
      (d.withRegistry (d.registry.modify handle fun cb => cb.begin usage))

theorem beginCommandBuffer_cases (d : Device) (queue : Queue) (again : Option (Handle .commandBuffer))
    (usage : CommandBufferUsage) :
    ((d.beginCommandBuffer queue again usage).state = d
        ∧ ∃ e, (d.beginCommandBuffer queue again usage).result = .error e)
      ∨ ∃ recorder, (d.beginCommandBuffer queue again usage).result = .ok recorder
        ∧ d.Begins queue usage again recorder (d.beginCommandBuffer queue again usage).state := by
  rcases Outcome.guarded_cases d _ _ with h | ⟨recorder, after, haccepted, h, hs, hv⟩
  · exact Or.inl h
  · refine Or.inr ⟨recorder, hv, ?_⟩
    rw [show (d.beginCommandBuffer queue again usage).state = after from hs]
    cases again with
    | none =>
      obtain ⟨rfl, rfl⟩ := Prod.mk.inj (pure_eq_ok.mp h)
      exact .fresh haccepted
    | some handle =>
      obtain ⟨cb, hget, h⟩ := bind_eq_ok.mp h
      obtain ⟨rfl, rfl⟩ := Prod.mk.inj (pure_eq_ok.mp h)
      exact .again haccepted (Registry.get_eq_ok.mp hget)

/-- Ending a recording leaves the device alone, or gives the command buffer the log. -/
theorem endCommandBuffer_cases (d : Device) (recorder : Recorder) :
    ((d.endCommandBuffer recorder).state = d ∧ ∃ e, (d.endCommandBuffer recorder).result = .error e)
      ∨ ((d.endCommandBuffer recorder).state = d.withRegistry (d.registry.modify recorder.handle
            fun cb => cb.finish recorder.recording.finish)
        ∧ (d.endCommandBuffer recorder).result = .ok recorder.handle) := by
  rcases Outcome.guarded_cases d _ _ with h | ⟨value, after, -, hp, hs, hv⟩
  · exact Or.inl h
  · obtain ⟨rfl, rfl⟩ := Prod.mk.inj (Except.ok.inj hp)
    exact Or.inr ⟨hs, hv⟩

/-! ## What is tracked -/

/-- A device goes on if its registry does. Its rules and its environment stay the same. -/
structure Continues (d d' : Device) : Prop where
  registry : d.registry.Continues d'.registry
  engine : d'.engine = d.engine
  environment : d'.environment = d.environment

theorem Quiet.grows {d d' : Device} (h : d.Quiet d') : d.registry.Grows d'.registry := by
  cases h with
  | aside hobjects => exact hobjects.grows
  | add handle _ hnew => exact Registry.grows_add d.registry handle hnew
  | modify handle ht hkept => exact Registry.grows_modify d.registry handle hkept ht

theorem Quiet.engine {d d' : Device} (h : d.Quiet d') : d'.engine = d.engine := by
  cases h with
  | aside _ _ hengine => exact hengine
  | add => rfl
  | modify => rfl

theorem Quiet.environment {d d' : Device} (h : d.Quiet d') : d'.environment = d.environment := by
  cases h with
  | aside _ _ _ henvironment => exact henvironment
  | add => rfl
  | modify => rfl

theorem Quietly.continues {d d' : Device} (h : d.Quietly d') : d.Continues d' := by
  have hgrows : d.registry.Grows d'.registry :=
    h.keeps (P := fun d' => d.registry.Grows d'.registry)
      (fun _ _ hquiet hbefore => hbefore.trans hquiet.grows) (Registry.Grows.refl d.registry)
  have hengine : d'.engine = d.engine :=
    h.keeps (P := fun d' => d'.engine = d.engine)
      (fun _ _ hquiet hbefore => hquiet.engine.trans hbefore) rfl
  have henvironment : d'.environment = d.environment :=
    h.keeps (P := fun d' => d'.environment = d.environment)
      (fun _ _ hquiet hbefore => hquiet.environment.trans hbefore) rfl
  exact ⟨hgrows.continues, hengine, henvironment⟩

theorem removeSwapchain_continues (d : Device) (handle : Handle .swapchain)
    (images : List (Handle .image)) : d.Continues (d.removeSwapchain handle images) := by
  have hswapchain := Registry.shrinks_remove d.registry handle
  have himages := Registry.Shrinks.foldl
    (fun r (image : Handle .image) => Registry.shrinks_remove r image) images
    (d.registry.remove handle)
  exact ⟨(hswapchain.trans himages).continues, rfl, rfl⟩

theorem shrinks_retire (r : Registry) (submission : PendingSubmission) :
    r.Shrinks (retire r submission) := by
  have hunpin : r.Shrinks (r.unpin submission.pinned) := .of_stores_eq rfl rfl rfl
  have hmodify := Registry.shrinks_modify (t := .commandBuffer) (r.unpin submission.pinned)
    submission.commandBuffer (f := CommandBuffer.retire) fun _ => Or.inl rfl
  exact (hunpin.trans hmodify).trans (Registry.shrinks_record _ _ _)

theorem retireAll_continues (d : Device) (done rest : List PendingSubmission) :
    d.Continues (d.retireAll done rest) :=
  ⟨(Registry.Shrinks.foldl shrinks_retire done d.registry).continues, rfl, rfl⟩

namespace Begins

variable {d d' : Device} {queue : Queue} {again : Option (Handle .commandBuffer)}
  {usage : CommandBufferUsage} {recorder : Recorder} (h : d.Begins queue usage again recorder d')
include h

theorem continues : d.Continues d' := by
  cases h with
  | fresh =>
    have hreserve := (Registry.sameObjects_reserve d.registry .commandBuffer).grows
    have hnew : (d.registry.reserve .commandBuffer).2.IsNew .commandBuffer
        (CommandBuffer.begin { family := queue.family } usage) := rfl
    have hadd := Registry.grows_add _ (d.registry.reserve .commandBuffer).1 hnew
    exact ⟨(hreserve.trans hadd).continues, rfl, rfl⟩
  | again =>
    exact ⟨(Registry.shrinks_modify (t := .commandBuffer) d.registry _
      fun _ => Or.inr rfl).continues, rfl, rfl⟩

/-- A recording begins with nothing but the family. -/
theorem recording : ∃ family, recorder.recording = { family := family } := by
  cases h with
  | fresh => exact ⟨_, rfl⟩
  | again => exact ⟨_, rfl⟩

end Begins

end Device

end VulkanValidity
