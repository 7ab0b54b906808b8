/-
  VulkanValidity.Proofs.Agreement

  The registry of a session and its change feed.  The registry of a reachable session comes from the empty
  one by small changes, whatever the engine is, and so its feed tells everything about its objects
  (`Registry.FeedTells`).  As events are only appended, a reader that asks for the changes since its last
  question, again and again, reads the whole feed.
-/

import VulkanValidity.Proofs.Evolution
import VulkanValidity.Proofs.Reports

namespace VulkanValidity

/-! ## What the feed tells -/

namespace Registry

/-- The feed tells which objects are alive, which ones were destroyed, and which ones have memory. -/
structure FeedTells (r : Registry) : Prop where
  /-- No object is alive and destroyed. -/
  disjoint : ∀ id, r.contains id = true → r.isDestroyed id = false
  /-- The objects that are alive or destroyed are those that were created. -/
  handedOut : ∀ id, r.isKnown id = true ↔ id ∈ r.createdIds
  /-- Every serial that was handed out is the serial of one object, whatever its type is. -/
  serials : (r.createdIds.map ObjectId.serial).Perm (List.range' 1 (r.nextSerial - 1))
  unique : ∀ id id', r.isKnown id = true → r.isKnown id' = true → id.serial = id'.serial → id = id'
  /-- An object is created, possibly bound, and possibly destroyed after that, in this order. -/
  life : ∀ id, r.isKnown id = true →
    ∃ bound, r.lifeOf id = aliveLife bound ++ if r.contains id = true then [] else [.destroyed]
  created : ∀ id, (r.changesOf id).count .created = if r.isKnown id = true then 1 else 0
  destroyed : ∀ id, (r.changesOf id).count .destroyed = if r.isDestroyed id = true then 1 else 0
  alive : ∀ id, r.contains id = true ↔ .created ∈ r.changesOf id ∧ .destroyed ∉ r.changesOf id
  /-- Objects of one type were created in the order of their serials. -/
  increasing : r.createdIds.Pairwise fun a b => a.type? = b.type? → a.serial < b.serial
  /-- An object that is alive has memory if it was bound once. -/
  bound : ∀ (t : ObjectType) (handle : Handle t) (object : t.Object), r.get? handle = some object →
    ((t.binding? object).isSome = true ↔ (r.changesOf handle.erase).count .bound = 1)

theorem count_lifeOf (r : Registry) (id : ObjectId) {change : ObjectChange}
    (h : change ≠ .submitted ∧ change ≠ .retired) :
    (r.lifeOf id).count change = (r.changesOf id).count change :=
  List.count_filter (decide_eq_true h)

theorem Lives.life {r : Registry} (h : r.Lives) {id : ObjectId} (hknown : r.isKnown id = true) :
    ∃ bound, r.lifeOf id = aliveLife bound ++ if r.contains id = true then [] else [.destroyed] := by
  by_cases halive : r.contains id = true
  · obtain ⟨t, handle, rfl⟩ := exists_of_contains halive
    obtain ⟨object, hget⟩ := exists_get?_of_contains halive
    refine ⟨(t.binding? object).isSome, ?_⟩
    rw [if_pos halive, List.append_nil, h.alive t handle object hget]
  · rw [isKnown, Bool.eq_false_iff.mpr halive, Bool.false_or] at hknown
    obtain ⟨bound, hlife⟩ := h.destroyed id hknown
    exact ⟨bound, by rw [if_neg halive, hlife]⟩

theorem Agrees.feedTells {r : Registry} (h : r.Agrees []) : r.FeedTells := by
  have hcreated (id : ObjectId) :
      (r.changesOf id).count .created = if r.isKnown id = true then 1 else 0 := by
    rw [← count_lifeOf r id (by decide)]
    split
    · next hknown =>
      -- A life has one creation, whatever else there is in it.
      obtain ⟨bound, hlife⟩ := h.toLives.life hknown
      rw [hlife]
      split <;> cases bound <;> rfl
    · next hunknown => rw [h.unknown id (Bool.eq_false_iff.mpr hunknown), List.count_nil]
  have hdestroyed (id : ObjectId) :
      (r.changesOf id).count .destroyed = if r.isDestroyed id = true then 1 else 0 := by
    rw [← count_lifeOf r id (by decide)]
    by_cases halive : r.contains id = true
    · obtain ⟨bound, hlife⟩ := h.toLives.life (isKnown_of_contains halive)
      rw [hlife, if_pos halive, h.not_isDestroyed halive]
      cases bound <;> rfl
    · split
      · next hdead =>
        obtain ⟨bound, hlife⟩ := h.destroyed id hdead
        rw [hlife]
        cases bound <;> rfl
      · next hdead =>
        have hunknown : r.isKnown id = false := by
          rw [isKnown, Bool.eq_false_iff.mpr halive, Bool.eq_false_iff.mpr hdead, Bool.false_or]
        rw [h.unknown id hunknown, List.count_nil]
  have hserials := h.serials
  rw [List.append_nil] at hserials
  exact {
    disjoint := fun id => h.not_isDestroyed
    handedOut := fun id => h.mem_createdIds_iff.symm
    serials := hserials
    unique := fun id id' hid hid' =>
      List.inj_on_of_nodup_map (hserials.nodup_iff.mpr List.nodup_range')
        (h.mem_createdIds_iff.mpr hid) (h.mem_createdIds_iff.mpr hid')
    life := fun id => h.toLives.life
    created := hcreated
    destroyed := hdestroyed
    alive := fun id => by
      rw [← List.count_pos_iff, ← List.count_eq_zero, hcreated, hdestroyed]
      cases halive : r.contains id with
      | true => simp [isKnown, halive, h.not_isDestroyed halive]
      | false => cases hdead : r.isDestroyed id <;> simp [isKnown, halive, hdead]
    increasing := h.increasing
    bound := fun t handle object hget => by
      rw [← count_lifeOf r handle.erase (by decide), h.alive t handle object hget]
      cases (t.binding? object).isSome <;> decide }

end Registry

/-! ## Readers of the feed -/

/-- Who has read the first events has read all of them with the changes since then. -/
theorem Registry.append_changesSince {r : Registry} {read : List Event} {cursor : Nat}
    (hfirst : read <+: r.feed) (hlength : read.length = cursor) :
    read ++ (r.changesSince cursor).1 = r.feed := by
  obtain ⟨rest, hrest⟩ := hfirst
  rw [changesSince, ← hrest, ← hlength, List.drop_left]

namespace Session

/-- A reader asks for changes again and again, while calls are made. It passes on the cursor that it got
last, and appends what it gets to what it has read. -/
inductive Polled : Session → Nat → List Event → Prop
  | start (environment : Environment) (engine : Engine) : Polled (.start environment engine) 0 []
  | call {s : Session} {cursor : Nat} {read : List Event} (h : Polled s cursor read) (call : Call) :
    Polled (s.step call).state cursor read
  | submission {s : Session} {cursor : Nat} {read : List Event} (h : Polled s cursor read)
      (queue : Queue) (handle : Handle .commandBuffer) :
    Polled (s.withDevice (s.device.submitOne queue handle).state) cursor read
  | poll {s : Session} {cursor : Nat} {read : List Event} (h : Polled s cursor read) :
    Polled s (s.device.registry.changesSince cursor).2
      (read ++ (s.device.registry.changesSince cursor).1)

/-- A reader has read the first events, up to its cursor. -/
theorem Polled.read_first {s : Session} {cursor : Nat} {read : List Event}
    (h : s.Polled cursor read) : read <+: s.device.registry.feed ∧ read.length = cursor := by
  induction h with
  | start environment engine => exact ⟨List.prefix_refl _, rfl⟩
  | @call s cursor read _ call ih =>
    exact ⟨ih.1.trans (s.step_transition call).changes.feed_extends, ih.2⟩
  | @submission s cursor read _ queue handle ih =>
    exact ⟨ih.1.trans (s.device.changes_submitOne queue handle).feed_extends, ih.2⟩
  | poll _ ih =>
    rw [Registry.append_changesSince ih.1 ih.2]
    exact ⟨List.prefix_refl _, rfl⟩

end Session

/-! ## Agreement -/

/-- The registry and its change feed agree.  On any engine, and as long as fewer than 2^56 objects are
created, the feed tells which objects are alive, were destroyed and have memory, and its events are numbered
without gaps.  Every handle that a call gives is known, and stays known in a run that goes on; no object that
has memory gets other memory in it.  And a reader that polls the feed while calls are made has read all of
it with its next question. -/
theorem registry_agrees_with_feed {s : Session} (h : s.Reachable)
    (hfew : s.device.registry.createdIds.length ≤ ObjectId.maxSerial) :
    s.device.registry.FeedTells
    ∧ s.device.registry.feed.map Event.sequence = List.range' 1 s.device.registry.feed.length
    ∧ (∀ call id, (s.step call).result = .ok (.object id) →
      (s.step call).state.device.registry.isKnown id = true)
    ∧ (∀ calls, ∀ s' ∈ s.trail calls,
      ∀ id, s.device.registry.isKnown id = true → s'.device.registry.isKnown id = true)
    ∧ (∀ calls, ∀ s' ∈ s.trail calls, s'.device.registry.createdIds.length ≤ ObjectId.maxSerial →
      ∀ (t : ObjectType) (handle : Handle t) (object object' : t.Object) (binding : MemoryBinding),
        s.device.registry.get? handle = some object → t.binding? object = some binding →
        s'.device.registry.get? handle = some object' → t.binding? object' = some binding)
    ∧ ∀ cursor read, s.Polled cursor read →
      read ++ (s.device.registry.changesSince cursor).1 = s.device.registry.feed := by
  have hagrees : s.device.registry.Agrees [] := h.changes.agrees_of_empty hfew
  refine ⟨hagrees.feedTells, h.changes.numbered rfl, ?_, ?_, ?_, ?_⟩
  · exact fun call id hreply => Session.isKnown_of_reply h.knowsRecorders hreply
  · exact fun calls s' hs' id hid => (Session.changes_of_mem_trail hs').isKnown hid
  · intro calls s' hs' hfew' t handle object object' binding hget hbinding hget'
    have hgoesOn := Session.changes_of_mem_trail hs'
    have hfits := Registry.Changes.serials_fit (h.changes.trans hgoesOn) hfew'
    -- Binding memory is final, as long as the handle leads to the object that it led to.
    have hbound : s.device.registry.IsBound handle binding := by
      refine ⟨Registry.isKnown_of_contains (Registry.contains_of_get? hget), fun found hfound => ?_⟩
      obtain rfl := Option.some.inj (hget.symm.trans hfound)
      exact hbinding
    exact (hgoesOn.isBound hfits hagrees hbound).alive object' hget'
  · intro cursor read hpolled
    obtain ⟨hfirst, hlength⟩ := hpolled.read_first
    exact Registry.append_changesSince hfirst hlength

/-- The session in which a swapchain with two images and a buffer with memory were made, and the swapchain was
destroyed. -/
def swapchainGone : Session :=
  (Session.start {} Standard.engine).run
    [.createSwapchain { imageCount := 2, width := 4, height := 4, usage := .transferDst },
      .createBuffer { size := 64, usage := .transferDst },
      .allocateMemory { size := 4096 },
      .bindBuffer (.ofSerial .buffer 4) (.ofSerial .deviceMemory 5) 0,
      .destroy .swapchain (.ofSerial .swapchain 1)]

/-- The feed tells that the images of the swapchain went with it, and that the buffer has memory. -/
theorem swapchainGone_agrees :
    swapchainGone.device.registry.createdIds.length ≤ ObjectId.maxSerial
    ∧ swapchainGone.device.registry.FeedTells
    ∧ swapchainGone.device.registry.lifeOf (Handle.ofSerial .image 2).erase = [.created, .destroyed]
    ∧ swapchainGone.device.registry.lifeOf (Handle.ofSerial .buffer 4).erase = [.created, .bound]
    ∧ swapchainGone.device.registry.feed.map Event.sequence = [1, 2, 3, 4, 5, 6, 7, 8, 9] := by
  have hreachable : swapchainGone.Reachable := (Session.Reachable.start {} Standard.engine).run _
  have hfew : swapchainGone.device.registry.createdIds.length ≤ ObjectId.maxSerial := by decide +kernel
  obtain ⟨htells, hnumbered, -⟩ := registry_agrees_with_feed hreachable hfew
  have hevents : swapchainGone.device.registry.feed.length = 9 := by decide +kernel
  rw [hevents] at hnumbered
  exact ⟨hfew, htells, by decide +kernel, by decide +kernel, hnumbered⟩

end VulkanValidity
