/-
  VulkanValidity.Proofs.Handover

  Exclusive ownership is handed over, and never shared.  The owner of a subresource is a machine with
  three kinds of states, which goes on even when an access does not fit it.  As a replay reports an
  access that does not fit on any subresource, a resource about which nothing was reported went through
  permitted steps only (`Owner.Permits`), and what permitted steps look like is a matter of the machine
  alone: a released subresource has to be acquired before anything else happens to it.
-/

import VulkanValidity.Proofs.Refinement

namespace VulkanValidity

/-! ## Events -/

/-- An access to a subresource, with the family of the command buffer that it was recorded in. -/
structure OwnershipEvent where
  family : Nat
  kind : AccessKind
deriving DecidableEq, Repr

/-- Whether the access transfers the ownership from or to a family outside of the device. -/
def AccessKind.namesOutside : AccessKind → Bool
  | .release src dst | .acquire src dst => QueueFamily.isOutside src || QueueFamily.isOutside dst
  | .use | .barrier => false

/-- Releases and acquisitions take turns. While nothing is on its way, a release may come; while a
transfer is on its way, it has to be acquired, by the same families. -/
def Alternates : Option (Nat × Nat) → List OwnershipEvent → Prop
  | _, [] => True
  | underway, ⟨_, .use⟩ :: rest | underway, ⟨_, .barrier⟩ :: rest => Alternates underway rest
  | none, ⟨_, .release src dst⟩ :: rest => Alternates (some (src, dst)) rest
  | some transfer, ⟨_, .acquire src dst⟩ :: rest => transfer = (src, dst) ∧ Alternates none rest
  | none, ⟨_, .acquire _ _⟩ :: _ => False
  | some _, ⟨_, .release _ _⟩ :: _ => False

/-! ## The machine -/

namespace Owner

/-- The owner of a subresource of an exclusive resource after events. -/
def after (owner : Owner) (events : List OwnershipEvent) : Owner :=
  events.foldl (fun owner event => owner.access .exclusive event.family event.kind) owner

/-- Whether no event has a problem. -/
def Permits : Owner → List OwnershipEvent → Prop
  | _, [] => True
  | owner, event :: rest =>
    owner.accessProblem? .exclusive event.family event.kind = none
      ∧ Permits (owner.access .exclusive event.family event.kind) rest

/-- The transfer that is on its way. -/
def underway : Owner → Option (Nat × Nat)
  | released src dst => some (src, dst)
  | ignored | owned _ => none

theorem after_append (owner : Owner) (l l' : List OwnershipEvent) :
    owner.after (l ++ l') = (owner.after l).after l' := List.foldl_append

theorem permits_append {owner : Owner} {l l' : List OwnershipEvent} :
    owner.Permits (l ++ l') ↔ owner.Permits l ∧ (owner.after l).Permits l' := by
  induction l generalizing owner with
  | nil => exact (iff_of_eq (true_and _)).symm
  | cons event l ih =>
    rw [List.cons_append, Permits, Permits, ih, and_assoc]
    rfl

/-- A permitted acquisition was released before, by the same families. -/
theorem released_of_acquire {owner : Owner} {family src dst : Nat}
    (h : owner.accessProblem? .exclusive family (.acquire src dst) = none)
    (hlocal : (AccessKind.acquire src dst).namesOutside = false) : owner = released src dst := by
  have hsrc : QueueFamily.isOutside src = false := (Bool.or_eq_false_iff.mp hlocal).1
  simp only [accessProblem?, acquireProblem?, hsrc, Bool.or_false, decide_eq_true_eq] at h
  split at h
  · assumption
  · cases h

/-- What is permitted to be released is not on its way already. -/
theorem underway_of_release {owner : Owner} {family src dst : Nat}
    (h : owner.accessProblem? .exclusive family (.release src dst) = none) :
    owner.underway = none ∧ ∀ other, owner = owned other → other = src := by
  cases owner with
  | ignored => exact ⟨rfl, fun _ h => by cases h⟩
  | owned other =>
    refine ⟨rfl, fun other' h' => ?_⟩
    obtain rfl := owned.inj h'
    simp only [accessProblem?, releaseProblem?] at h
    split at h
    · assumption
    · cases h
  | released src' dst' => cases h

/-- What is permitted to be used is owned by the family, or was not used before. -/
theorem owned_of_use {owner : Owner} {family : Nat}
    (h : owner.accessProblem? .exclusive family .use = none) :
    owner = ignored ∨ owner = owned family := by
  cases owner with
  | ignored => exact Or.inl rfl
  | owned other =>
    simp only [accessProblem?, useProblem?] at h
    split at h
    · next heq => exact Or.inr (congrArg owned heq)
    · cases h
  | released src dst => cases h

/-- Once there is an owner, the first release is the one that the owner makes. -/
theorem exists_release {owner : Nat} {events : List OwnershipEvent}
    (h : (owned owner).Permits events)
    (hlocal : ∀ event ∈ events, event.kind.namesOutside = false)
    (hafter : (owned owner).after events ≠ owned owner) :
    ∃ before family dst rest, events = before ++ ⟨family, .release owner dst⟩ :: rest
      ∧ (owned owner).after events = (released owner dst).after rest := by
  induction events with
  | nil => exact absurd rfl hafter
  | cons event events ih =>
    obtain ⟨family, kind⟩ := event
    obtain ⟨hfirst, hrest⟩ := h
    have hlocalFirst := hlocal ⟨family, kind⟩ List.mem_cons_self
    -- An event that leaves the owner in place is put before the release that comes later.
    have hlater (hrest : (owned owner).Permits events)
        (hafter : (owned owner).after events ≠ owned owner) :
        ∃ before family' dst rest,
          ⟨family, kind⟩ :: events = before ++ ⟨family', .release owner dst⟩ :: rest
            ∧ (owned owner).after events = (released owner dst).after rest := by
      obtain ⟨before, family', dst, rest, heq, hlast⟩ :=
        ih hrest (fun e he => hlocal e (List.mem_cons_of_mem _ he)) hafter
      exact ⟨⟨family, kind⟩ :: before, family', dst, rest, congrArg _ heq, hlast⟩
    cases kind with
    | use => exact hlater hrest hafter
    | barrier => exact hlater hrest hafter
    | release src dst =>
      obtain rfl := (underway_of_release hfirst).2 owner rfl
      exact ⟨[], family, dst, events, rfl, rfl⟩
    | acquire src dst => cases released_of_acquire hfirst hlocalFirst

theorem after_ne_ignored {owner : Owner} (h : owner ≠ ignored) (events : List OwnershipEvent) :
    owner.after events ≠ ignored := by
  induction events generalizing owner with
  | nil => exact h
  | cons event events ih =>
    obtain ⟨family, kind⟩ := event
    refine ih fun hnext => ?_
    cases kind with
    | use =>
      cases owner with
      | ignored => exact h rfl
      | owned other => cases hnext
      | released src dst => cases hnext
    | barrier => exact h hnext
    | release src dst => cases hnext
    | acquire src dst => cases hnext

/-- A family that did not own a subresource becomes its owner by an acquisition. -/
theorem exists_acquire {owner : Owner} {family : Nat} {events : List OwnershipEvent}
    (hignored : owner ≠ ignored) (hne : owner ≠ owned family)
    (hafter : owner.after events = owned family) :
    ∃ before family' src rest, events = before ++ ⟨family', .acquire src family⟩ :: rest := by
  induction events generalizing owner with
  | nil => exact absurd hafter hne
  | cons event events ih =>
    obtain ⟨family', kind⟩ := event
    -- As long as the family is not the owner, the acquisition is still to come.
    have hlater {next : Owner} (hnext : next ≠ ignored) (hne : next ≠ owned family)
        (hafter : next.after events = owned family) :
        ∃ before family'' src rest,
          ⟨family', kind⟩ :: events = before ++ ⟨family'', .acquire src family⟩ :: rest := by
      obtain ⟨before, family'', src, rest, heq⟩ := ih hnext hne hafter
      exact ⟨⟨family', kind⟩ :: before, family'', src, rest, congrArg _ heq⟩
    cases kind with
    | use =>
      cases owner with
      | ignored => exact absurd rfl hignored
      | owned other => exact hlater hignored hne hafter
      | released src dst => exact hlater hignored hne hafter
    | barrier => exact hlater hignored hne hafter
    | release src dst => exact hlater (fun h => by cases h) (fun h => by cases h) hafter
    | acquire src dst =>
      by_cases hdst : dst = family
      · subst hdst
        exact ⟨[], family', src, events, rfl⟩
      · exact hlater (fun h => by cases h) (fun h => hdst (owned.inj h)) hafter

/-- Between uses on two families there is a release by the one and then an acquisition by the other. -/
theorem exists_transfer {owner : Owner} {before between : List OwnershipEvent}
    {rest : List OwnershipEvent} {p q : Nat}
    (h : owner.Permits (before ++ ⟨p, .use⟩ :: (between ++ ⟨q, .use⟩ :: rest)))
    (hlocal : ∀ event ∈ between, event.kind.namesOutside = false) (hne : p ≠ q) :
    ∃ l₁ l₂ l₃ family family' src dst, between
      = l₁ ++ ⟨family, .release p dst⟩ :: (l₂ ++ ⟨family', .acquire src q⟩ :: l₃) := by
  obtain ⟨-, hp, hbetween⟩ := permits_append.mp h
  have howned : (owner.after before).access .exclusive p .use = owned p := by
    rcases owned_of_use hp with heq | heq <;> rw [heq] <;> rfl
  rw [howned] at hbetween
  obtain ⟨hpermits, hq, -⟩ := permits_append.mp hbetween
  have hlast : (owned p).after between = owned q := by
    rcases owned_of_use hq with heq | heq
    · exact absurd heq (after_ne_ignored (fun h => by cases h) between)
    · exact heq
  -- The owner has to change between the uses, so that the first family gives the subresource up.
  have hleft : (owned p).after between ≠ owned p := fun heq =>
    hne (owned.inj (heq.symm.trans hlast))
  obtain ⟨l₁, family, dst, l, rfl, hafter⟩ := exists_release hpermits hlocal hleft
  obtain ⟨l₂, family', src, l₃, rfl⟩ := exists_acquire (fun h => by cases h) (fun h => by cases h)
    (hafter.symm.trans hlast)
  exact ⟨l₁, l₂, l₃, family, family', src, dst, rfl⟩

/-- Permitted events alternate. -/
theorem alternates_of_permits {owner : Owner} {events : List OwnershipEvent}
    (h : owner.Permits events) (hlocal : ∀ event ∈ events, event.kind.namesOutside = false) :
    Alternates owner.underway events := by
  induction events generalizing owner with
  | nil => exact trivial
  | cons event events ih =>
    obtain ⟨family, kind⟩ := event
    obtain ⟨hfirst, hrest⟩ := h
    have hlocalFirst := hlocal ⟨family, kind⟩ List.mem_cons_self
    have hnext := ih hrest fun e he => hlocal e (List.mem_cons_of_mem _ he)
    cases kind with
    | barrier => exact hnext
    | use =>
      -- A use is not permitted while a transfer is on its way.
      cases owner with
      | released src dst => cases hfirst
      | ignored => exact hnext
      | owned other => exact hnext
    | release src dst =>
      rw [(underway_of_release hfirst).1]
      exact hnext
    | acquire src dst =>
      rw [released_of_acquire hfirst hlocalFirst]
      exact ⟨rfl, hnext⟩

end Owner

/-! ## Histories -/

/-- The events of an execution on a subresource, in order. -/
def Device.Execution.events (e : Device.Execution) (resource : Resource) (i : Nat) :
    List OwnershipEvent :=
  (e.log.accessesAt resource i).map fun access => ⟨e.log.family, access.effect.kind⟩

/-- Whether no replay found anything about the ownership of a resource. -/
def FoundNothing (resource : Resource) (past : List Device.Execution) : Prop :=
  ∀ e ∈ past, ∀ finding ∈ e.report.findings,
    finding.resource = resource → finding.kind = .invalidLayout

/-- The executions of a run since a resource was created, which is none while it is not alive. `past` is
what was executed since then before the run. -/
def Session.history (resource : Resource) :
    Session → List Device.Execution → List Call → List Device.Execution
  | _, past, [] => past
  | s, past, call :: rest =>
    history resource (s.step call).state
      (if ((s.step call).state.device.registry.states? resource).isSome then
        past ++ s.executions call else []) rest

theorem SubresourceState.after_owner (family : Nat) (state : SubresourceState)
    (accesses : List Access) :
    (state.after .exclusive family accesses).owner
      = state.owner.after (accesses.map fun access => ⟨family, access.effect.kind⟩) := by
  induction accesses generalizing state with
  | nil => rfl
  | cons access accesses ih => exact ih _

theorem SubresourceState.permits_of_problems {family : Nat} {state : SubresourceState}
    {accesses : List Access} (h : state.problems .exclusive family accesses = []) :
    state.owner.Permits (accesses.map fun access => ⟨family, access.effect.kind⟩) := by
  induction accesses generalizing state with
  | nil => exact trivial
  | cons access accesses ih =>
    obtain ⟨hfirst, hrest⟩ := List.append_eq_nil_iff.mp h
    exact ⟨Option.toList_eq_nil_iff.mp hfirst, ih hrest⟩

/-! ### Executions -/

section Execution

variable {d : Device} (hregistry : d.registry.WellFormed) {queue : Queue}
  {handle : Handle .commandBuffer} {e : Device.Execution}
  (he : d.execution? queue handle = some e) {resource : Resource} {i : Nat}
include hregistry he

/-- The owner of a subresource after an execution is the one before it, after the events of the log. -/
theorem Device.Execution.exists_owner_before {state : SubresourceState}
    (hsharing : (d.submitOne queue handle).state.registry.sharing? resource = some .exclusive)
    (hstate : (d.submitOne queue handle).state.registry.stateAt? resource i = some state) :
    d.registry.sharing? resource = some .exclusive
      ∧ ∃ before, d.registry.stateAt? resource i = some before
        ∧ state.owner = before.owner.after (e.events resource i) := by
  have hwell := Device.execution_wellFormed queue he hregistry
  have hexecutes := Device.submitOne_executes queue he hregistry
  rw [hexecutes.sharing?_eq] at hsharing
  rw [hexecutes.stateAt?_eq hregistry hwell hsharing] at hstate
  obtain ⟨before, hbefore, rfl⟩ := Option.map_eq_some_iff.mp hstate
  exact ⟨hsharing, before, hbefore,
    SubresourceState.after_owner e.log.family before (e.log.accessesAt resource i)⟩

/-- An execution that reports nothing about the ownership of a resource takes permitted steps only. -/
theorem Device.Execution.permits_of_report
    (hsharing : d.registry.sharing? resource = some .exclusive) {before : SubresourceState}
    (hbefore : d.registry.stateAt? resource i = some before)
    (hfound : ∀ finding ∈ e.report.findings, finding.resource = resource →
      finding.kind = .invalidLayout) :
    before.owner.Permits (e.events resource i) := by
  obtain ⟨-, hr, -, -⟩ := Device.execution?_eq_some he
  obtain ⟨t, ht, hexclusive⟩ := Registry.exists_tracked?_of_sharing? hsharing
  rw [Registry.stateAt?_of_tracked? ht] at hbefore
  refine SubresourceState.permits_of_problems (Classical.byContradiction fun hne => ?_)
  -- A problem on one subresource is a finding about the resource, whatever else was found.
  obtain ⟨finding, hmem, hresource, hkind⟩ :=
    (CommandLog.problem_found_iff (Device.execution_wellFormed queue he hregistry)
      hregistry.canonical resource).mpr ⟨t, ht, i, before, hbefore, by rwa [hexclusive]⟩
  refine hkind (hfound finding ?_ hresource)
  rwa [Device.Execution.report, hr]

end Execution

/-! ### What a history tells -/

/-- The owner of a subresource is what the executions since the creation of its resource make of it;
if nothing was found about them, each of their events is permitted. -/
structure Tells (r : Registry) (resource : Resource) (i : Nat) (past : List Device.Execution) :
    Prop where
  fresh : r.tracked? resource = none → past = []
  wellFormed : ∀ e ∈ past, e.log.WellFormed
  owner : ∀ state, r.sharing? resource = some .exclusive → r.stateAt? resource i = some state →
    state.owner = Owner.ignored.after (past.flatMap fun e => e.events resource i)
  permits : ∀ state, r.sharing? resource = some .exclusive → r.stateAt? resource i = some state →
    FoundNothing resource past →
      Owner.ignored.Permits (past.flatMap fun e => e.events resource i)

namespace Tells

variable {r : Registry} {resource : Resource} {i : Nat} {past : List Device.Execution}

theorem of_none (h : r.tracked? resource = none) : Tells r resource i [] where
  fresh _ := rfl
  wellFormed _ h := by cases h
  owner state _ hstate := by
    rw [Registry.stateAt?_of_tracked?_none h] at hstate
    cases hstate
  permits _ _ _ _ := trivial

theorem initial_owner {t : Registry.Tracked} (h : r.tracked? resource = some t)
    {state : SubresourceState} (hstate : t.initial.get? i = some state) : state.owner = .ignored := by
  have hreplicate {size : Nat} {layout : ImageLayout}
      (h : (RangeMap.replicate size ({ layout := layout } : SubresourceState)).get? i = some state) :
      state.owner = .ignored := by
    rw [RangeMap.get?_replicate] at h
    split at h
    · rw [← Option.some.inj h]
    · cases h
  cases resource with
  | image handle =>
    obtain ⟨image, -, rfl⟩ := Option.map_eq_some_iff.mp h
    exact hreplicate hstate
  | buffer handle =>
    obtain ⟨buffer, -, rfl⟩ := Option.map_eq_some_iff.mp h
    exact hreplicate hstate

theorem of_initial {t : Registry.Tracked} (h : r.tracked? resource = some t)
    (hinitial : t.states = t.initial) : Tells r resource i [] where
  fresh _ := rfl
  wellFormed _ h := by cases h
  owner state _ hstate := by
    rw [Registry.stateAt?_of_tracked? h, hinitial] at hstate
    exact initial_owner h hstate
  permits _ _ _ _ := trivial

theorem congr {r' : Registry} (h : Tells r resource i past)
    (heq : r'.tracked? resource = r.tracked? resource) : Tells r' resource i past where
  fresh hnone := h.fresh (heq ▸ hnone)
  wellFormed := h.wellFormed
  owner state hsharing hstate := by
    rw [Registry.sharing?_eq, heq, ← Registry.sharing?_eq] at hsharing
    rw [Registry.stateAt?, Registry.states?_eq, heq, ← Registry.states?_eq] at hstate
    exact h.owner state hsharing hstate
  permits state hsharing hstate := by
    rw [Registry.sharing?_eq, heq, ← Registry.sharing?_eq] at hsharing
    rw [Registry.stateAt?, Registry.states?_eq, heq, ← Registry.states?_eq] at hstate
    exact h.permits state hsharing hstate

/-- An execution adds its events to the history of each live resource. -/
theorem execute {d : Device} (hregistry : d.registry.WellFormed)
    (h : Tells d.registry resource i past) {queue : Queue} {handle : Handle .commandBuffer}
    {e : Device.Execution} (he : d.execution? queue handle = some e)
    (halive : d.registry.tracked? resource ≠ none) :
    Tells (d.submitOne queue handle).state.registry resource i (past ++ [e]) := by
  have hevents : (past ++ [e]).flatMap (fun e => e.events resource i)
      = past.flatMap (fun e => e.events resource i) ++ e.events resource i := by
    rw [List.flatMap_append, List.flatMap_singleton]
  refine ⟨fun hnone => ?_, fun e' he' => ?_, fun state hsharing hstate => ?_,
    fun state hsharing hstate hfound => ?_⟩
  · exact absurd (((Device.submitOne_executes queue he hregistry).tracked?_eq_none _).mp hnone) halive
  · rcases List.mem_append.mp he' with hold | hnew
    · exact h.wellFormed e' hold
    · rw [List.mem_singleton.mp hnew]
      exact Device.execution_wellFormed queue he hregistry
  · obtain ⟨hexclusive, before, hbefore, howner⟩ := e.exists_owner_before hregistry he hsharing hstate
    rw [howner, h.owner before hexclusive hbefore, hevents, Owner.after_append]
  · obtain ⟨hexclusive, before, hbefore, -⟩ := e.exists_owner_before hregistry he hsharing hstate
    have hold : FoundNothing resource past := fun e' he' =>
      hfound e' (List.mem_append_left _ he')
    have hnew := e.permits_of_report hregistry he hexclusive hbefore
      (hfound e (List.mem_append_right _ List.mem_cons_self))
    rw [h.owner before hexclusive hbefore] at hnew
    rw [hevents, Owner.permits_append]
    exact ⟨h.permits before hexclusive hbefore hold, hnew⟩

theorem submitAll {d : Device} (hregistry : d.registry.WellFormed)
    (h : Tells d.registry resource i past) (halive : d.registry.tracked? resource ≠ none)
    (entries : List (Queue × Handle .commandBuffer)) :
    Tells (d.submitAll entries).registry resource i (past ++ d.executions entries) := by
  induction entries generalizing d past with
  | nil =>
    rw [Device.executions, List.append_nil]
    exact h
  | cons entry entries ih =>
    have hnext := Device.submitOne_wellFormed hregistry entry.1 entry.2
    have hstep : Tells (d.submitOne entry.1 entry.2).state.registry resource i
          (past ++ (d.execution? entry.1 entry.2).toList)
        ∧ (d.submitOne entry.1 entry.2).state.registry.tracked? resource ≠ none := by
      rcases d.submitOne_cases entry.1 entry.2 with ⟨hnone, hs⟩ | ⟨log, he, -, -⟩
      · rw [hs, hnone, Option.toList_none, List.append_nil]
        exact ⟨h, halive⟩
      · rw [he, Option.toList_some]
        refine ⟨execute hregistry h he halive, ?_⟩
        rwa [ne_eq, (Device.submitOne_executes entry.1 he hregistry).tracked?_eq_none]
    rw [Device.executions, ← List.append_assoc]
    exact ih hnext hstep.1 hstep.2

/-- A call adds what it executes, and starts over if the resource is not alive afterwards. -/
theorem step {s : Session} (hs : s.WellFormed) (h : Tells s.device.registry resource i past)
    (call : Call) :
    Tells (s.step call).state.device.registry resource i
      (if ((s.step call).state.device.registry.states? resource).isSome then
        past ++ s.executions call else []) := by
  have halive (r : Registry) : (r.states? resource).isSome = true ↔ r.tracked? resource ≠ none := by
    rw [Registry.states?_eq, Option.isSome_map]
    exact Option.isSome_iff_ne_none
  by_cases hsubmit : ∃ batches, call = .submit batches
  · obtain ⟨batches, rfl⟩ := hsubmit
    rw [Session.step_submit]
    split
    · next hsome =>
      -- Submissions create nothing: what is alive after them was alive before.
      have hbefore : s.device.registry.tracked? resource ≠ none := by
        have hafter := (halive _).mp hsome
        rwa [ne_eq, Session.withDevice, Device.tracked?_submitAll_eq_none hs.registry] at hafter
      exact submitAll hs.registry h hbefore _
    · next hnone =>
      exact of_none (Classical.not_not.mp fun hne => hnone ((halive _).mpr hne))
  · have hnot : ∀ batches, call ≠ .submit batches := fun batches heq => hsubmit ⟨batches, heq⟩
    rw [s.executions_of_not_submit hnot, List.append_nil]
    rcases s.step_resources hnot resource with heq | hnone | ⟨hnone, t, ht, hinitial⟩
    · split
      · exact h.congr heq
      · next hdead => exact of_none (Classical.not_not.mp fun hne => hdead ((halive _).mpr hne))
    · rw [if_neg (by rw [halive]; exact fun hne => hne hnone)]
      exact of_none hnone
    · have hpast := h.fresh hnone
      rw [if_pos ((halive _).mpr (by rw [ht]; exact Option.some_ne_none t)), hpast]
      exact of_initial ht hinitial

end Tells

theorem Session.tells_history {s : Session} (hs : s.WellFormed) {resource : Resource} {i : Nat}
    {past : List Device.Execution} (h : Tells s.device.registry resource i past)
    (calls : List Call) :
    Tells (s.run calls).device.registry resource i (s.history resource past calls) := by
  induction calls generalizing s past with
  | nil => exact h
  | cons call calls ih => exact ih (hs.step call) (h.step hs call)

/-! ## Handing over -/

/-- Exclusive ownership is handed over.  If no replay found anything about the ownership of an exclusive
resource, and no transfer of it leaves the device, then releases and acquisitions of each of its
subresources take turns; what is acquired is acquired for the family of the command buffer; and between
uses on two families there is a release by the one and then an acquisition by the other. -/
theorem ownership_handed_over (environment : Environment) (engine : Engine) (calls : List Call)
    {resource : Resource} {i : Nat}
    (hexclusive : ((Session.start environment engine).run calls).device.registry.sharing? resource
      = some .exclusive)
    (hsubresource : ((Session.start environment engine).run calls).device.registry.stateAt? resource i
      ≠ none)
    (hfound : FoundNothing resource
      ((Session.start environment engine).history resource [] calls))
    (hlocal : ∀ e ∈ (Session.start environment engine).history resource [] calls,
      ∀ access ∈ e.log.accesses, access.resource = resource →
        access.effect.kind.namesOutside = false) :
    let events := ((Session.start environment engine).history resource [] calls).flatMap
      fun e => e.events resource i
    Alternates none events
    ∧ (∀ event ∈ events, ∀ src dst, event.kind = .acquire src dst → event.family = dst)
    ∧ ∀ before between rest p q,
      events = before ++ ⟨p, .use⟩ :: (between ++ ⟨q, .use⟩ :: rest) → p ≠ q →
        ∃ l₁ l₂ l₃ family family' src dst, between
          = l₁ ++ ⟨family, .release p dst⟩ :: (l₂ ++ ⟨family', .acquire src q⟩ :: l₃) := by
  intro events
  have hstart : Tells (Session.start environment engine).device.registry resource i [] :=
    Tells.of_none (by cases resource <;> rfl)
  have htells := Session.tells_history (Session.wellFormed_start environment engine) hstart calls
  obtain ⟨state, hstate⟩ := Option.ne_none_iff_exists'.mp hsubresource
  have hpermits : Owner.ignored.Permits events := htells.permits state hexclusive hstate hfound
  -- Each event is an access of some executed log.
  have hevent : ∀ event ∈ events, ∃ e ∈ (Session.start environment engine).history resource [] calls,
      ∃ access ∈ e.log.accesses, access.resource = resource
        ∧ event = ⟨e.log.family, access.effect.kind⟩ := by
    intro event hmem
    obtain ⟨e, he, hmem⟩ := List.mem_flatMap.mp hmem
    obtain ⟨access, haccess, rfl⟩ := List.mem_map.mp hmem
    obtain ⟨haccess, hat⟩ := List.mem_filter.mp haccess
    simp only [Bool.and_eq_true, decide_eq_true_eq] at hat
    exact ⟨e, he, access, haccess, hat.1, rfl⟩
  have hinside : ∀ event ∈ events, event.kind.namesOutside = false := by
    intro event hmem
    obtain ⟨e, he, access, haccess, hresource, rfl⟩ := hevent event hmem
    exact hlocal e he access haccess hresource
  refine ⟨Owner.alternates_of_permits hpermits hinside, ?_, ?_⟩
  · intro event hmem src dst hkind
    obtain ⟨e, he, access, haccess, hresource, rfl⟩ := hevent event hmem
    have hacquired := ((htells.wellFormed e he).accesses access haccess).acquired src dst hkind
    have hnames := hlocal e he access haccess hresource
    rw [show access.effect.kind = .acquire src dst from hkind] at hnames
    rcases hacquired with hfamily | hsrc
    · exact hfamily
    · simp [AccessKind.namesOutside, hsrc] at hnames
  · intro before between rest p q heq hne
    rw [heq] at hpermits
    refine Owner.exists_transfer hpermits (fun event hmem => hinside event ?_) hne
    rw [heq]
    simp [hmem]

/-- A run in which family 0 fills a buffer and hands it over to family 1, which fills it again. -/
def handoverRun : List Call :=
  [.createBuffer { size := 64 },
    .beginCommandBuffer ⟨0, 0⟩ none .multipleSubmit,
    .record 0 (.fill (.ofSerial .buffer 1) 0),
    .record 0 (.barrier { bufferBarriers := [{
      buffer := .ofSerial .buffer 1, transfer := some (.exclusiveBetweenLocal 0 1) }] }),
    .endCommandBuffer 0,
    .beginCommandBuffer ⟨1, 0⟩ none .multipleSubmit,
    .record 1 (.barrier { bufferBarriers := [{
      buffer := .ofSerial .buffer 1, transfer := some (.exclusiveBetweenLocal 0 1) }] }),
    .record 1 (.fill (.ofSerial .buffer 1) 1),
    .endCommandBuffer 1,
    .submit [{ queue := ⟨0, 0⟩, commandBuffers := [.ofSerial .commandBuffer 2] },
      { queue := ⟨1, 0⟩, commandBuffers := [.ofSerial .commandBuffer 3] }]]

/-- The buffer goes from its use on family 0 to its use on family 1 by a release and an acquisition. -/
theorem handoverRun_hands_over :
    ∃ between, ((Session.start {} {}).history (.buffer (.ofSerial .buffer 1)) [] handoverRun).flatMap
        (fun e => e.events (.buffer (.ofSerial .buffer 1)) 0)
      = ⟨0, .use⟩ :: (between ++ [⟨1, .use⟩])
    ∧ ∃ l₁ l₂ l₃ family family' src dst, between
      = l₁ ++ ⟨family, .release 0 dst⟩ :: (l₂ ++ ⟨family', .acquire src 1⟩ :: l₃) := by
  have hevents : ((Session.start {} {}).history (.buffer (.ofSerial .buffer 1)) []
      handoverRun).flatMap (fun e => e.events (.buffer (.ofSerial .buffer 1)) 0)
        = ⟨0, .use⟩ :: ([⟨0, .release 0 1⟩, ⟨1, .acquire 0 1⟩] ++ [⟨1, .use⟩]) := by
    decide +kernel
  have hfound : FoundNothing (.buffer (.ofSerial .buffer 1))
      ((Session.start {} {}).history (.buffer (.ofSerial .buffer 1)) [] handoverRun) := by
    unfold FoundNothing
    decide +kernel
  obtain ⟨-, -, htransfer⟩ := ownership_handed_over {} {} handoverRun (i := 0) (by decide +kernel)
    (by decide +kernel) hfound (by decide +kernel)
  exact ⟨_, hevents, htransfer [] _ [] 0 1 hevents (by decide)⟩

end VulkanValidity
