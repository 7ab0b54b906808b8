/-
  VulkanValidity.Proofs.Subresource

  What a replay does to a single subresource.  The states of a resource are kept in segments, which
  every access clips, splits and merges.  None of this shows: each subresource comes out as if only the
  accesses that cover it had been carried out, on a state of its own (`CommandLog.stateAfter`).
  Likewise an access to a resource meets a problem as soon as it meets one on some subresource.
-/

import VulkanValidity.Proofs.Replay

namespace VulkanValidity

/-- An element of a list, with those before it, is the first one, or it comes after that. -/
theorem exists_getElem?_cons {α : Type} {P : List α → α → Prop} {a : α} {l : List α} :
    (∃ n b, (a :: l)[n]? = some b ∧ P ((a :: l).take n) b)
      ↔ P [] a ∨ ∃ n b, l[n]? = some b ∧ P (a :: l.take n) b := by
  constructor
  · rintro ⟨n, b, hb, hP⟩
    cases n with
    | zero =>
      obtain rfl := Option.some.inj hb
      exact Or.inl hP
    | succ n => exact Or.inr ⟨n, b, hb, hP⟩
  · rintro (hP | ⟨n, b, hb, hP⟩)
    · exact ⟨0, a, rfl, hP⟩
    · exact ⟨n + 1, b, hb, hP⟩

/-! ## Executing on a single subresource -/

/-- Whether the access covers a subresource of its resource. -/
def Access.covers (access : Access) (i : Nat) : Bool := access.ranges.any (·.contains i)

namespace SubresourceState

variable (sharing : Sharing) (family : Nat)

/-- The state of a subresource after accesses that cover it. -/
def after (state : SubresourceState) (accesses : List Access) : SubresourceState :=
  accesses.foldl (fun state access => state.access sharing family access.effect) state

/-- An access in a command buffer of `family` leads from one state of a subresource to the next. -/
structure Advances (effect : AccessEffect) (before next : SubresourceState) : Prop where
  layout : next.layout = before.layout
  /-- The first use of an exclusive resource makes the family its owner. -/
  firstUse : effect.kind = .use → sharing = .exclusive ∧ before.owner = .ignored →
    next.owner = .owned family
  laterUse : effect.kind = .use → ¬ (sharing = .exclusive ∧ before.owner = .ignored) →
    next.owner = before.owner
  barrier : effect.kind = .barrier → next.owner = before.owner
  release : ∀ src dst, effect.kind = .release src dst → next.owner = .released src dst
  acquire : ∀ src dst, effect.kind = .acquire src dst → next.owner = .owned dst
  /-- A write starts over with the reads, and any other access adds its stages to them. -/
  write : effect.write = true → next.lastWrite = effect.stages ∧ next.lastRead = ∅
  read : effect.write = false →
    next.lastWrite = before.lastWrite ∧ next.lastRead = before.lastRead ∪ effect.stages

theorem advances_access (state : SubresourceState) (effect : AccessEffect) :
    Advances sharing family effect state (state.access sharing family effect) := by
  obtain ⟨kind, stages, write⟩ := effect
  refine ⟨rfl, ?_, ?_, ?_, ?_, ?_, ?_, ?_⟩
  · rintro rfl ⟨rfl, howner⟩
    show state.owner.use .exclusive family = _
    rw [howner]
    rfl
  · rintro rfl hlater
    show state.owner.use sharing family = _
    cases hsharing : sharing <;> cases howner : state.owner <;> simp_all [Owner.use]
  · rintro rfl
    rfl
  · rintro src dst rfl
    rfl
  · rintro src dst rfl
    rfl
  · rintro rfl
    exact ⟨rfl, rfl⟩
  · rintro rfl
    exact ⟨rfl, rfl⟩

/-- An access leads to one state only. -/
theorem advances_iff {effect : AccessEffect} {before next : SubresourceState} :
    Advances sharing family effect before next ↔ next = before.access sharing family effect := by
  constructor
  · intro h
    -- Both states have the same fields, as the conditions leave no field open.
    have h' := advances_access sharing family before effect
    have howner : next.owner = (before.access sharing family effect).owner := by
      cases hkind : effect.kind with
      | use =>
        by_cases hfirst : sharing = .exclusive ∧ before.owner = .ignored
        · rw [h.firstUse hkind hfirst, h'.firstUse hkind hfirst]
        · rw [h.laterUse hkind hfirst, h'.laterUse hkind hfirst]
      | barrier => rw [h.barrier hkind, h'.barrier hkind]
      | release src dst => rw [h.release src dst hkind, h'.release src dst hkind]
      | acquire src dst => rw [h.acquire src dst hkind, h'.acquire src dst hkind]
    have hstages : next.lastWrite = (before.access sharing family effect).lastWrite
        ∧ next.lastRead = (before.access sharing family effect).lastRead := by
      cases hwrite : effect.write with
      | false => exact ⟨(h.read hwrite).1.trans (h'.read hwrite).1.symm,
          (h.read hwrite).2.trans (h'.read hwrite).2.symm⟩
      | true => exact ⟨(h.write hwrite).1.trans (h'.write hwrite).1.symm,
          (h.write hwrite).2.trans (h'.write hwrite).2.symm⟩
    obtain ⟨layout, owner, lastWrite, lastRead⟩ := next
    obtain rfl := h.layout.trans h'.layout.symm
    obtain rfl := howner
    obtain ⟨rfl, rfl⟩ := hstages
    rfl
  · rintro rfl
    exact advances_access sharing family before effect

/-- The problems that accesses meet on a subresource that they cover, in order. -/
def problems : SubresourceState → List Access → List OwnershipProblem
  | _, [] => []
  | state, access :: rest =>
    (state.owner.accessProblem? sharing family access.effect.kind).toList
      ++ problems (state.access sharing family access.effect) rest

@[simp] theorem after_layout (state : SubresourceState) (accesses : List Access) :
    (state.after sharing family accesses).layout = state.layout :=
  foldl_keeps SubresourceState.layout
    (f := fun state (access : Access) => state.access sharing family access.effect)
    (fun _ _ => rfl) accesses state

/-- The problems on a subresource, one access after the other. -/
theorem mem_problems_filter {state : SubresourceState} {accesses : List Access} {p : Access → Bool}
    {problem : OwnershipProblem} :
    problem ∈ state.problems sharing family (accesses.filter p)
      ↔ ∃ n access, accesses[n]? = some access ∧ p access = true
        ∧ (state.after sharing family ((accesses.take n).filter p)).owner.accessProblem? sharing family
            access.effect.kind = some problem := by
  induction accesses generalizing state with
  | nil => simp [problems]
  | cons access accesses ih =>
    rw [exists_getElem?_cons (P := fun before access => p access = true
      ∧ (state.after sharing family (before.filter p)).owner.accessProblem? sharing family
          access.effect.kind = some problem)]
    cases hp : p access with
    | false => simp [hp, ih]
    | true => simp [hp, ih, problems, after]

end SubresourceState

namespace CommandLog

/-- The log cut off before its `n`-th access. -/
def upTo (log : CommandLog) (n : Nat) : CommandLog := { log with accesses := log.accesses.take n }

/-- The accesses of the log that cover a subresource. -/
def accessesAt (log : CommandLog) (resource : Resource) (i : Nat) : List Access :=
  log.accesses.filter fun access => access.resource = resource && access.covers i

/-- The state of a subresource after the log was executed on it alone. The accesses leave the layout as
it is; the layout afterwards is the one that the log leaves, if it knows the subresource. -/
def stateAfter (log : CommandLog) (sharing : Sharing) (resource : Resource) (i : Nat)
    (state : SubresourceState) : SubresourceState :=
  { state.after sharing log.family (log.accessesAt resource i) with
    layout := (log.localLayout? resource i).elim state.layout LocalLayout.current }

/-- The problem that the `n`-th access of the log meets on a subresource that it covers, after the accesses
before it were executed there. -/
def problemAt? (log : CommandLog) (registry : Registry) (resource : Resource) (n i : Nat) :
    Option OwnershipProblem := do
  let access ← log.accesses[n]?
  let sharing ← registry.sharing? resource
  let state ← registry.stateAt? resource i
  if access.resource = resource && access.covers i then
    (state.after sharing log.family ((log.upTo n).accessesAt resource i)).owner.accessProblem? sharing
      log.family access.effect.kind
  else none

/-- Whether the log names a subresource, in an access or among the layouts that it knows. -/
def Names (log : CommandLog) (resource : Resource) (i : Nat) : Prop :=
  log.accessesAt resource i ≠ [] ∨ log.localLayout? resource i ≠ none

theorem names_of_access {log : CommandLog} {access : Access} (h : access ∈ log.accesses) {i : Nat}
    (hi : access.covers i = true) : log.Names access.resource i := by
  refine Or.inl (List.ne_nil_of_mem (a := access) ?_)
  simp [accessesAt, h, hi]

/-- Nothing is executed on a subresource that the log does not name. -/
theorem stateAfter_of_not_names {log : CommandLog} {resource : Resource} {i : Nat}
    (h : ¬ log.Names resource i) (sharing : Sharing) : log.stateAfter sharing resource i = id := by
  have haccesses : log.accessesAt resource i = [] :=
    Classical.byContradiction fun hne => h (Or.inl hne)
  have hlayout : log.localLayout? resource i = none :=
    Classical.byContradiction fun hne => h (Or.inr hne)
  funext state
  simp [stateAfter, haccesses, hlayout, SubresourceState.after]

theorem accessesAt_eq (log : CommandLog) (resource : Resource) (i : Nat) :
    log.accessesAt resource i = (log.accessesTo resource).filter fun access => access.covers i := by
  rw [accessesAt, accessesTo, List.filter_filter]
  exact List.filter_congr fun access _ => Bool.and_comm _ _

end CommandLog

/-! ## Accesses -/

section Accesses

variable {states : RangeMap SubresourceState} (hstates : states.Canonical) (sharing : Sharing)
  (family : Nat)
include hstates

theorem canonical_accessStates (access : Access) :
    (accessStates states sharing family access).Canonical :=
  RangeMap.canonical_updateAll hstates access.ranges _

/-- An access changes the subresources that it covers, each once. -/
theorem get?_accessStates {access : Access} (haccess : access.WellFormed family) (i : Nat) :
    (accessStates states sharing family access).get? i
      = (states.get? i).map fun state =>
          if access.covers i then state.access sharing family access.effect else state := by
  rw [accessStates, RangeMap.get?_updateAll hstates haccess.increasing.apart, ← Access.covers]
  cases access.covers i <;> cases states.get? i <;> rfl

theorem canonical_statesAfterAccesses (accesses : List Access) :
    (statesAfterAccesses sharing family states accesses).Canonical := by
  induction accesses generalizing states with
  | nil => exact hstates
  | cons access accesses ih => exact ih (canonical_accessStates hstates sharing family access)

theorem get?_statesAfterAccesses {accesses : List Access}
    (haccesses : ∀ access ∈ accesses, access.WellFormed family) (i : Nat) :
    (statesAfterAccesses sharing family states accesses).get? i
      = (states.get? i).map fun state =>
          state.after sharing family (accesses.filter fun access => access.covers i) := by
  induction accesses generalizing states with
  | nil => exact Option.map_id'.symm
  | cons access accesses ih =>
    have haccess := haccesses access List.mem_cons_self
    have hrest := ih (canonical_accessStates hstates sharing family access) fun a ha =>
      haccesses a (List.mem_cons_of_mem access ha)
    refine hrest.trans ?_
    rw [get?_accessStates hstates sharing family haccess, Option.map_map]
    refine congrArg (fun f => (states.get? i).map f) (funext fun state => ?_)
    -- An access that does not cover the subresource is left out of the list.
    rw [Function.comp_apply, List.filter_cons]
    cases access.covers i <;> rfl

end Accesses

/-! ## Layouts -/

theorem canonical_writeLayouts {states : RangeMap SubresourceState} (hstates : states.Canonical)
    (known : RangeMap LocalLayout) : (writeLayouts states known).Canonical := by
  rw [writeLayouts]
  induction known.segments generalizing states with
  | nil => exact hstates
  | cons segment segments ih => exact ih (RangeMap.canonical_update hstates _ _)

/-- Writing layouts changes the layouts of the known subresources, and nothing else. -/
theorem get?_writeLayouts {states : RangeMap SubresourceState} (hstates : states.Canonical)
    {known : RangeMap LocalLayout} (hknown : known.Canonical) (i : Nat) :
    (writeLayouts states known).get? i
      = (states.get? i).map fun state =>
          { state with layout := (known.get? i).elim state.layout LocalLayout.current } := by
  obtain ⟨hi, hord⟩ := hknown.ordered
  rw [writeLayouts, RangeMap.get?_eq_valueAt known]
  generalize known.segments = segments at hord
  generalize 0 = lo at hord
  induction segments generalizing states lo with
  | nil => exact Option.map_id'.symm
  | cons segment segments ih =>
    obtain ⟨-, -, hrest⟩ := hord
    have hupdate := RangeMap.canonical_update hstates segment.range
      (Option.map fun state => { state with layout := segment.value.current })
    refine (ih hupdate _ hrest).trans ?_
    rw [RangeMap.get?_update hstates, RangeMap.valueAt_cons]
    by_cases hc : segment.range.contains i = true
    · -- The segments are apart, so that no later one writes this layout again.
      have hstop := (Interval.contains_iff.mp hc).2
      rw [hrest.valueAt_eq_none (Or.inl hstop), if_pos hc, if_pos hc]
      cases states.get? i <;> rfl
    · rw [if_neg hc, if_neg hc]

/-! ## Whole logs -/

namespace CommandLog

variable {log : CommandLog} (h : log.WellFormed) {states : RangeMap SubresourceState}
  (hstates : states.Canonical) (sharing : Sharing) (resource : Resource)
include h hstates

omit h in
theorem canonical_statesAfter : (log.statesAfter sharing resource states).Canonical := by
  have haccessed := canonical_statesAfterAccesses hstates sharing log.family
    (log.accessesTo resource)
  rw [statesAfter]
  cases log.layoutsOf? resource with
  | none => exact haccessed
  | some known => exact canonical_writeLayouts haccessed known

/-- Replaying a log on the states of a resource executes it on each subresource alone. -/
theorem get?_statesAfter (i : Nat) :
    (log.statesAfter sharing resource states).get? i
      = (states.get? i).map (log.stateAfter sharing resource i) := by
  have hcanonical := canonical_statesAfterAccesses hstates sharing log.family
    (log.accessesTo resource)
  have hwell : ∀ access ∈ log.accessesTo resource, access.WellFormed log.family :=
    fun access haccess => h.accesses access (List.mem_filter.mp haccess).1
  have haccessed := get?_statesAfterAccesses hstates sharing log.family hwell i
  rw [← accessesAt_eq] at haccessed
  rw [statesAfter]
  cases hk : log.layoutsOf? resource with
  | none =>
    refine haccessed.trans (congrArg (fun f => (states.get? i).map f) (funext fun state => ?_))
    -- Without known layouts the layout stays, as accesses leave it alone.
    simp only [stateAfter, localLayout?, hk, Option.bind_none, Option.elim_none]
    rw [← SubresourceState.after_layout sharing log.family state (log.accessesAt resource i)]
  | some known =>
    rw [Option.elim_some, get?_writeLayouts hcanonical (h.canonical hk), haccessed, Option.map_map]
    refine congrArg (fun f => (states.get? i).map f) (funext fun state => ?_)
    simp [stateAfter, localLayout?, hk]

end CommandLog

end VulkanValidity
