/-
  VulkanValidity.Proofs.Findings

  When a replay finds something.  The report of a replay holds one finding for each kind and resource,
  with the text of the first problem, and an access keeps one of its problems only, so that most problems
  leave no trace of their own (`kind_found_iff`).  Still there is a finding about a resource as soon as
  one access has a problem on one of its subresources (`problem_found_iff`), or one subresource is in
  another layout than expected (`mismatch_found_iff`).
-/

import VulkanValidity.Proofs.Subresource

namespace VulkanValidity

/-! ## Problems with accesses -/

/-- An access meets the problem of the lowest subresource that it covers and has one with. -/
theorem accessProblem?_eq_some_iff {states : RangeMap SubresourceState} (hstates : states.Canonical)
    {sharing : Sharing} {family : Nat} {access : Access} (haccess : access.WellFormed family)
    {problem : OwnershipProblem} :
    accessProblem? states sharing family access = some problem
      ↔ ∃ i, ((if access.covers i then states.get? i else none).bind fun state =>
          state.owner.accessProblem? sharing family access.effect.kind) = some problem
        ∧ ∀ j < i, ((if access.covers j then states.get? j else none).bind fun state =>
          state.owner.accessProblem? sharing family access.effect.kind) = none := by
  obtain ⟨hi, hordered⟩ := haccess.increasing.exists_ordered hstates fun _ _ => Nat.zero_le _
  have hfirst := hordered.findSome?_eq_some (b := problem)
    (f := fun state => state.owner.accessProblem? sharing family access.effect.kind)
  simp only [RangeMap.valueAt_flatMap_within] at hfirst
  exact hfirst

namespace CommandLog

/-- In the states that the accesses before it leave, an access meets the problem of the lowest subresource
where it meets one. -/
theorem accessProblem?_upTo {log : CommandLog} (h : log.WellFormed) {registry : Registry}
    {resource : Resource} {t : Registry.Tracked} (ht : registry.tracked? resource = some t)
    (hcanonical : t.states.Canonical) {n : Nat} {access : Access}
    (haccess : log.accesses[n]? = some access) (hr : access.resource = resource)
    {problem : OwnershipProblem} :
    accessProblem? (statesAfterAccesses t.sharing log.family t.states ((log.upTo n).accessesTo resource))
        t.sharing log.family access = some problem
      ↔ ∃ i, log.problemAt? registry resource n i = some problem
        ∧ ∀ j < i, log.problemAt? registry resource n j = none := by
  have hwell : ∀ other ∈ (log.upTo n).accessesTo resource, other.WellFormed log.family :=
    fun other hother => h.accesses other (List.mem_of_mem_take (List.mem_filter.mp hother).1)
  have hproblem (i : Nat) : log.problemAt? registry resource n i
      = (if access.covers i then
          (statesAfterAccesses t.sharing log.family t.states ((log.upTo n).accessesTo resource)).get? i
        else none).bind fun state =>
          state.owner.accessProblem? t.sharing log.family access.effect.kind := by
    rw [get?_statesAfterAccesses hcanonical t.sharing log.family hwell, ← accessesAt_eq, problemAt?,
      haccess, Registry.sharing?_of_tracked? ht, Registry.stateAt?_of_tracked? ht]
    cases t.states.get? i <;> cases hcovers : access.covers i <;> simp [hr, hcovers]
  rw [accessProblem?_eq_some_iff (canonical_statesAfterAccesses hcanonical _ _ _)
    (h.accesses access (List.mem_of_getElem? haccess))]
  simp only [hproblem]

/-- The problems that the accesses meet on a subresource are those that executing the log on it alone
meets. -/
theorem exists_problemAt?_iff {log : CommandLog} {registry : Registry} {resource : Resource}
    {t : Registry.Tracked} (ht : registry.tracked? resource = some t) {i : Nat}
    {problem : OwnershipProblem} :
    (∃ n, log.problemAt? registry resource n i = some problem)
      ↔ ∃ state, t.states.get? i = some state
        ∧ problem ∈ state.problems t.sharing log.family (log.accessesAt resource i) := by
  simp only [accessesAt, SubresourceState.mem_problems_filter]
  cases hstate : t.states.get? i with
  | none => simp [problemAt?, Registry.sharing?_of_tracked? ht, Registry.stateAt?_of_tracked? ht, hstate]
  | some state =>
    simp [problemAt?, Registry.sharing?_of_tracked? ht, Registry.stateAt?_of_tracked? ht, hstate,
      Option.bind_eq_some_iff, upTo, accessesAt]

theorem exists_access_of_problemAt? {log : CommandLog} {registry : Registry} {resource : Resource}
    {n i : Nat} {problem : OwnershipProblem} (h : log.problemAt? registry resource n i = some problem) :
    ∃ access, log.accesses[n]? = some access ∧ access.resource = resource
      ∧ ∃ owner sharing, Owner.accessProblem? owner sharing log.family access.effect.kind = some problem := by
  simp only [problemAt?, Option.bind_eq_bind, Option.bind_eq_some_iff] at h
  obtain ⟨access, haccess, sharing, -, state, -, h⟩ := h
  split at h
  · next hcond =>
    rw [Bool.and_eq_true, decide_eq_true_eq] at hcond
    exact ⟨access, haccess, hcond.1, _, sharing, h⟩
  · cases h

theorem exists_tracked?_of_problemAt? {log : CommandLog} {registry : Registry} {resource : Resource}
    {n i : Nat} {problem : OwnershipProblem} (h : log.problemAt? registry resource n i = some problem) :
    ∃ t, registry.tracked? resource = some t := by
  simp only [problemAt?, Option.bind_eq_bind, Option.bind_eq_some_iff] at h
  obtain ⟨-, -, sharing, hsharing, -⟩ := h
  obtain ⟨t, ht, -⟩ := Registry.exists_tracked?_of_sharing? hsharing
  exact ⟨t, ht⟩

/-- There is a lowest subresource where an access meets a problem. -/
theorem exists_first_problemAt? {log : CommandLog} {registry : Registry} {resource : Resource}
    {n i : Nat} {problem : OwnershipProblem} (h : log.problemAt? registry resource n i = some problem) :
    ∃ j first, j ≤ i ∧ log.problemAt? registry resource n j = some first
      ∧ ∀ k < j, log.problemAt? registry resource n k = none := by
  induction i using Nat.strongRecOn generalizing problem with
  | ind i ih =>
    by_cases hlower : ∃ j < i, log.problemAt? registry resource n j ≠ none
    · obtain ⟨j, hj, hne⟩ := hlower
      obtain ⟨other, hother⟩ := Option.ne_none_iff_exists'.mp hne
      obtain ⟨k, first, hk, hfirst⟩ := ih j hj hother
      exact ⟨k, first, Nat.le_trans hk (Nat.le_of_lt hj), hfirst⟩
    · exact ⟨i, problem, Nat.le_refl i, h, fun k hk =>
        Classical.byContradiction fun hne => hlower ⟨k, hk, hne⟩⟩

end CommandLog

/-! ## Mismatched layouts -/

/-- There is a mismatch if a known subresource is in another layout than expected. -/
theorem layoutMismatch?_ne_none_iff {states : RangeMap SubresourceState} (hstates : states.Canonical)
    {known : RangeMap LocalLayout} (hknown : known.Canonical) :
    layoutMismatch? states known ≠ none
      ↔ ∃ i state l expected, states.get? i = some state ∧ known.get? i = some l
        ∧ l.expected = some expected ∧ state.layout ≠ expected := by
  have hsegment (segment : Segment LocalLayout) : segmentMismatch? states segment ≠ none
      ↔ ∃ expected, segment.value.expected = some expected
        ∧ ∃ part ∈ states.within segment.range, part.value.layout ≠ expected := by
    rw [segmentMismatch?]
    cases segment.value.expected with
    | none => simp
    | some expected =>
      rw [Option.bind_some, ne_eq, List.findSome?_eq_none_iff]
      simp [Classical.not_forall]
  rw [layoutMismatch?, ne_eq, List.findSome?_eq_none_iff]
  simp only [Classical.not_forall]
  -- Known segments and tracked parts are two cuts of the same subresources.
  constructor
  · rintro ⟨segment, hmem, hmismatch⟩
    obtain ⟨expected, hexpected, part, hpart, hlayout⟩ := (hsegment segment).mp hmismatch
    obtain ⟨i, hi, hget⟩ := (RangeMap.exists_mem_within_iff hstates).mp ⟨part, hpart, rfl⟩
    exact ⟨i, part.value, segment.value, expected, hget,
      RangeMap.mem_segments_get? hknown hmem hi, hexpected, hlayout⟩
  · rintro ⟨i, state, l, expected, hget, hl, hexpected, hlayout⟩
    obtain ⟨segment, hmem, hi, rfl⟩ := RangeMap.exists_mem_segments hl
    obtain ⟨part, hpart, rfl⟩ := (RangeMap.exists_mem_within_iff hstates).mpr ⟨i, hi, hget⟩
    exact ⟨segment, hmem, (hsegment segment).mpr ⟨expected, hexpected, part, hpart, hlayout⟩⟩

/-! ## Findings while a log is replayed -/

namespace ReplayState

/-- Two findings that a report does not hold at once. -/
def Repeated (f g : Finding) : Prop := f.kind = g.kind ∧ f.resource = g.resource

/-- No two findings are of the same kind and about the same resource. -/
def Distinct (findings : List Finding) : Prop := findings.Pairwise fun f g => ¬ Repeated f g

/-- Whether there is a finding of a kind about a resource. -/
def HasKind (s : ReplayState) (resource : Resource) (kind : FindingKind) : Prop :=
  ∃ finding ∈ s.findings, finding.resource = resource ∧ finding.kind = kind

theorem problem_kind_ne (problem : OwnershipProblem) : problem.kind ≠ .invalidLayout := by
  cases problem <;> exact fun h => by cases h

@[simp] theorem findings_set (s : ReplayState) (resource : Resource)
    (states : RangeMap SubresourceState) : (s.set resource states).findings = s.findings := rfl

@[simp] theorem hasKind_set (s : ReplayState) (resource : Resource)
    (states : RangeMap SubresourceState) (other : Resource) (kind : FindingKind) :
    (s.set resource states).HasKind other kind ↔ s.HasKind other kind := Iff.rfl

/-- Which finding is added depends on the findings alone. -/
theorem find_set (s : ReplayState) (resource : Resource) (states : RangeMap SubresourceState)
    (finding : Finding) :
    ((s.set resource states).find finding).findings = (s.find finding).findings := by
  by_cases hany : (s.findings.any fun other =>
      other.kind == finding.kind && other.resource == finding.resource) = true
  · rw [find, find, findings_set, if_pos hany, if_pos hany, findings_set]
  · rw [find, find, findings_set, if_neg hany, if_neg hany]

@[simp] theorem findings_leaveLayouts (s : ReplayState)
    (entry : Handle .image × RangeMap LocalLayout) :
    (s.leaveLayouts entry).findings = s.findings := by
  unfold leaveLayouts
  split <;> rfl

theorem find_eq (s : ReplayState) (finding : Finding) :
    ((s.find finding).findings = s.findings ∧ ∃ other ∈ s.findings, Repeated other finding)
      ∨ ((s.find finding).findings = s.findings ++ [finding]
        ∧ ∀ other ∈ s.findings, ¬ Repeated other finding) := by
  unfold find
  split
  · next hany =>
    obtain ⟨other, hother, heq⟩ := List.any_eq_true.mp hany
    exact Or.inl ⟨rfl, other, hother, by simpa [Repeated] using heq⟩
  · next hany =>
    refine Or.inr ⟨rfl, fun other hother hrepeated => hany ?_⟩
    exact List.any_eq_true.mpr ⟨other, hother, by simpa [Repeated] using hrepeated⟩

theorem hasKind_find (s : ReplayState) (finding : Finding) (resource : Resource) (kind : FindingKind) :
    (s.find finding).HasKind resource kind
      ↔ s.HasKind resource kind ∨ (finding.resource = resource ∧ finding.kind = kind) := by
  unfold HasKind
  rcases s.find_eq finding with ⟨heq, other, hother, hk, hr⟩ | ⟨heq, -⟩
  · rw [heq]
    refine ⟨Or.inl, fun h => h.elim id fun ⟨hresource, hkind⟩ => ?_⟩
    -- The finding that is there already is of the same kind, and about the same resource.
    exact ⟨other, hother, hr.trans hresource, hk.trans hkind⟩
  · simp only [heq, List.mem_append, List.mem_singleton, or_and_right, exists_or, exists_eq_left]

theorem distinct_find {s : ReplayState} (h : Distinct s.findings) (finding : Finding) :
    Distinct (s.find finding).findings := by
  rcases s.find_eq finding with ⟨heq, -⟩ | ⟨heq, hnew⟩
  · rwa [heq]
  · rw [heq]
    refine List.pairwise_append.mpr ⟨h, List.pairwise_singleton _ _, fun f hf g hg => ?_⟩
    rw [List.mem_singleton.mp hg]
    exact hnew f hf

/-! ### Layouts -/

/-- The finding about the layouts of an image, if one of them is not as the log expects. -/
def mismatch? (s : ReplayState) (entry : Handle .image × RangeMap LocalLayout) : Option Finding :=
  ((s.states? (.image entry.1)).bind fun states => layoutMismatch? states entry.2).map
    fun mismatch => ⟨.invalidLayout, .image entry.1, mismatch.message⟩

theorem mismatch?_eq_some {s : ReplayState} {entry : Handle .image × RangeMap LocalLayout}
    {finding : Finding} (h : s.mismatch? entry = some finding) :
    finding.kind = .invalidLayout ∧ finding.resource = .image entry.1 := by
  obtain ⟨mismatch, -, rfl⟩ := Option.map_eq_some_iff.mp h
  exact ⟨rfl, rfl⟩

/-- Layouts are compared before anything changes. -/
theorem findings_foldl_checkLayouts (layouts : List (Handle .image × RangeMap LocalLayout))
    (s : ReplayState) :
    (layouts.foldl checkLayouts s).findings = s.findings ++ layouts.filterMap s.mismatch? := by
  induction layouts generalizing s with
  | nil => exact (List.append_nil _).symm
  | cons entry layouts ih =>
    have hstates : (s.checkLayouts entry).mismatch? = s.mismatch? := by
      funext other
      rw [mismatch?, mismatch?, states?_checkLayouts]
    have hfindings : (s.checkLayouts entry).findings
        = s.findings ++ (s.mismatch? entry).toList := by
      unfold checkLayouts mismatch?
      split
      · next heq => rw [heq, Option.map_some, Option.toList_some]
      · next heq => rw [heq, Option.map_none, Option.toList_none, List.append_nil]
    rw [List.foldl_cons, ih, hstates, hfindings, List.append_assoc, List.filterMap_cons]
    cases s.mismatch? entry <;> rfl

theorem distinct_mismatches (s : ReplayState) {layouts : List (Handle .image × RangeMap LocalLayout)}
    (hnodup : (layouts.map Prod.fst).Nodup) : Distinct (layouts.filterMap s.mismatch?) := by
  refine List.pairwise_filterMap.mpr ((List.pairwise_map.mp hnodup).imp ?_)
  intro entry entry' hne f hf g hg hrepeated
  have himage := hrepeated.2
  rw [(mismatch?_eq_some hf).2, (mismatch?_eq_some hg).2, Resource.image.injEq] at himage
  exact hne himage

/-! ### Accesses -/

section Access

variable (registry : Registry) (family : Nat)

/-- An access leaves the findings as they are, or reports a problem. -/
theorem findings_access (s : ReplayState) (access : Access) :
    (s.access registry family access).findings = s.findings
      ∨ ∃ problem : OwnershipProblem, (s.access registry family access).findings
        = (s.find ⟨problem.kind, access.resource, problem.message⟩).findings := by
  unfold ReplayState.access
  split
  · split
    · next problem _ => exact Or.inr ⟨problem, find_set s _ _ _⟩
    · exact Or.inl rfl
  · exact Or.inl rfl

theorem distinct_foldl_access (accesses : List Access) {s : ReplayState} (h : Distinct s.findings) :
    Distinct (accesses.foldl (ReplayState.access registry family) s).findings := by
  induction accesses generalizing s with
  | nil => exact h
  | cons access accesses ih =>
    refine ih ?_
    rcases findings_access registry family s access with heq | ⟨problem, heq⟩
    · rwa [heq]
    · rw [heq]
      exact distinct_find h _

/-- Accesses do not touch the findings about layouts. -/
theorem mismatches_foldl_access (accesses : List Access) (s : ReplayState) :
    ((accesses.foldl (ReplayState.access registry family) s).findings.filter
        fun finding => finding.kind = .invalidLayout)
      = s.findings.filter fun finding => finding.kind = .invalidLayout := by
  refine foldl_keeps (fun s => s.findings.filter fun finding => finding.kind = .invalidLayout)
    (fun s access => ?_) accesses s
  rcases findings_access registry family s access with heq | ⟨problem, heq⟩
  · rw [heq]
  · rw [heq]
    rcases s.find_eq ⟨problem.kind, access.resource, problem.message⟩ with ⟨hf, -⟩ | ⟨hf, -⟩
    · rw [hf]
    · simp [hf, problem_kind_ne problem]

variable {resource : Resource}

/-- An access adds a finding about its own resource, of the kind of the problem that it meets. -/
theorem hasKind_access {sharing : Sharing} (hs : registry.sharing? resource = some sharing)
    {s : ReplayState} {states : RangeMap SubresourceState}
    (hstates : s.states? resource = some states) (access : Access) (kind : FindingKind) :
    (s.access registry family access).HasKind resource kind
      ↔ s.HasKind resource kind ∨ (access.resource = resource
        ∧ ∃ problem, accessProblem? states sharing family access = some problem
          ∧ problem.kind = kind) := by
  unfold ReplayState.access
  by_cases hr : access.resource = resource
  · subst hr
    rw [hstates, hs]
    simp only
    cases hproblem : accessProblem? states sharing family access with
    | none => simp
    | some problem => simp [hasKind_find]
  · -- A finding about another resource makes no difference to this one.
    simp only [hr, false_and, or_false]
    split
    · split
      · simp [hasKind_find, hr]
      · exact hasKind_set s _ _ _ _
    · exact Iff.rfl

/-- An access adds a finding if it meets a problem in the states that the accesses before it leave. -/
theorem hasKind_foldl_access {sharing : Sharing} (hs : registry.sharing? resource = some sharing)
    (accesses : List Access) {s : ReplayState} {states : RangeMap SubresourceState}
    (hstates : s.states? resource = some states) (kind : FindingKind) :
    (accesses.foldl (ReplayState.access registry family) s).HasKind resource kind
      ↔ s.HasKind resource kind ∨ ∃ n access, accesses[n]? = some access
        ∧ access.resource = resource
        ∧ ∃ problem, accessProblem? (statesAfterAccesses sharing family states
            ((accesses.take n).filter fun access => access.resource = resource)) sharing family access
              = some problem
          ∧ problem.kind = kind := by
  induction accesses generalizing s states with
  | nil => simp
  | cons access accesses ih =>
    have hnext := states?_access registry family hs s access
    rw [hstates, Option.map_some] at hnext
    rw [List.foldl_cons, ih hnext, hasKind_access registry family hs hstates, or_assoc,
      exists_getElem?_cons (P := fun before access => access.resource = resource
        ∧ ∃ problem, accessProblem? (statesAfterAccesses sharing family states
            (before.filter fun access => access.resource = resource)) sharing family access = some problem
          ∧ problem.kind = kind)]
    by_cases hr : access.resource = resource
    · simp [hr, statesAfterAccesses]
    · simp [hr]

/-- Nothing is found about a resource without states. -/
theorem hasKind_foldl_access_none (accesses : List Access) {s : ReplayState}
    (hs : s.states? resource = none) (kind : FindingKind) :
    (accesses.foldl (ReplayState.access registry family) s).HasKind resource kind
      ↔ s.HasKind resource kind := by
  induction accesses generalizing s with
  | nil => exact Iff.rfl
  | cons access accesses ih =>
    have hnext : (s.access registry family access).states? resource = none :=
      states?_foldl_access_none registry family [access] hs
    rw [List.foldl_cons, ih hnext]
    unfold ReplayState.access
    split
    · next hstates _ =>
      -- What the access is to has states, so that it is another resource.
      have hr : access.resource ≠ resource := by
        rintro rfl
        rw [hs] at hstates
        cases hstates
      split
      · simp [hasKind_find, hr]
      · exact hasKind_set s _ _ _ _
    · exact Iff.rfl

end Access

end ReplayState

/-! ## Findings of a replay -/

namespace CommandLog

section Replay

variable (log : CommandLog) (registry : Registry)

/-- Leaving the final layouts finds nothing. -/
theorem findings_replay : (log.replay registry).findings
    = (log.accesses.foldl (ReplayState.access registry log.family)
        (log.layouts.foldl ReplayState.checkLayouts (.start registry log))).findings :=
  foldl_keeps _ ReplayState.findings_leaveLayouts log.layouts _

/-- The findings about layouts come from comparing them, before there is any access. -/
theorem mem_findings_replay_iff {finding : Finding} (hkind : finding.kind = .invalidLayout) :
    finding ∈ (log.replay registry).findings
      ↔ ∃ entry ∈ log.layouts, (ReplayState.start registry log).mismatch? entry = some finding := by
  have hfilter : (log.replay registry).findings.filter (fun finding => finding.kind = .invalidLayout)
      = (log.layouts.filterMap (ReplayState.start registry log).mismatch?).filter
          fun finding => finding.kind = .invalidLayout := by
    rw [findings_replay, ReplayState.mismatches_foldl_access, ReplayState.findings_foldl_checkLayouts]
    rfl
  have hmem := congrArg (finding ∈ ·) hfilter
  simpa [List.mem_filter, hkind] using hmem

/-- An image has a finding about its layouts if one of them is not as the log expects. -/
theorem exists_mismatch_iff (resource : Resource) :
    (∃ finding ∈ (log.replay registry).findings,
        finding.resource = resource ∧ finding.kind = .invalidLayout)
      ↔ ∃ entry ∈ log.layouts, resource = .image entry.1
        ∧ (ReplayState.start registry log).mismatch? entry ≠ none := by
  constructor
  · rintro ⟨finding, hfinding, hr, hkind⟩
    obtain ⟨entry, hentry, hsome⟩ := (log.mem_findings_replay_iff registry hkind).mp hfinding
    exact ⟨entry, hentry, hr.symm.trans (ReplayState.mismatch?_eq_some hsome).2, by simp [hsome]⟩
  · rintro ⟨entry, hentry, hr, hne⟩
    obtain ⟨finding, hsome⟩ := Option.ne_none_iff_exists'.mp hne
    obtain ⟨hkind, hresource⟩ := ReplayState.mismatch?_eq_some hsome
    exact ⟨finding, (log.mem_findings_replay_iff registry hkind).mpr ⟨entry, hentry, hsome⟩,
      hresource.trans hr.symm, hkind⟩

/-- Comparing the layouts finds nothing about accesses. -/
theorem not_hasKind_foldl_checkLayouts (resource : Resource) {kind : FindingKind}
    (hkind : kind ≠ .invalidLayout) :
    ¬ (log.layouts.foldl ReplayState.checkLayouts (.start registry log)).HasKind resource kind := by
  rintro ⟨finding, hmem, -, rfl⟩
  rw [ReplayState.findings_foldl_checkLayouts] at hmem
  obtain ⟨entry, -, hentry⟩ := List.mem_filterMap.mp hmem
  exact hkind (ReplayState.mismatch?_eq_some hentry).1

/-- The layouts of an image are compared with the states that the registry has for it. -/
theorem mismatch?_start_ne_none_iff {image : Handle .image} {known : RangeMap LocalLayout}
    (hk : log.layoutsOf? (.image image) = some known) :
    (ReplayState.start registry log).mismatch? (image, known) ≠ none
      ↔ ∃ t, registry.tracked? (.image image) = some t ∧ layoutMismatch? t.states known ≠ none := by
  have hmem : Resource.image image ∈ log.resources := mem_resources.mpr (Or.inl (by simp [hk]))
  rw [ReplayState.mismatch?, ReplayState.states?_start, if_pos hmem, Registry.states?_eq]
  cases registry.tracked? (.image image) with
  | none => simp
  | some t => simp

end Replay

variable {log : CommandLog} (h : log.WellFormed) {registry : Registry}
include h

/-- A report never holds two findings of the same kind about the same resource. -/
theorem replay_distinct : ReplayState.Distinct (log.replay registry).findings := by
  have hchecked : ReplayState.Distinct
      (log.layouts.foldl ReplayState.checkLayouts (.start registry log)).findings := by
    rw [ReplayState.findings_foldl_checkLayouts]
    exact ReplayState.distinct_mismatches _ h.layouts.nodup
  rw [findings_replay]
  exact ReplayState.distinct_foldl_access registry log.family log.accesses hchecked

/-- There is a finding of a kind about accesses to a resource if some access meets a problem of that kind,
and none on a lower subresource. -/
theorem kind_found_iff (hcanonical : ∀ resource t, registry.tracked? resource = some t →
    t.states.Canonical) (resource : Resource) {kind : FindingKind} (hkind : kind ≠ .invalidLayout) :
    (∃ finding ∈ (log.replay registry).findings, finding.resource = resource ∧ finding.kind = kind)
      ↔ ∃ n i problem, log.problemAt? registry resource n i = some problem ∧ problem.kind = kind
        ∧ ∀ j < i, log.problemAt? registry resource n j = none := by
  have hchecked := log.not_hasKind_foldl_checkLayouts registry resource hkind
  have hstates : (log.layouts.foldl ReplayState.checkLayouts
      (.start registry log)).states? resource
        = if resource ∈ log.resources then registry.states? resource else none := by
    rw [ReplayState.states?_foldl_checkLayouts, ReplayState.states?_start]
  rw [findings_replay]
  show ReplayState.HasKind _ resource kind ↔ _
  cases ht : registry.tracked? resource with
  | none =>
    rw [Registry.states?_eq, ht, Option.map_none, ite_self] at hstates
    rw [ReplayState.hasKind_foldl_access_none registry log.family _ hstates]
    simp [hchecked, problemAt?, Registry.sharing?_eq, ht]
  | some t =>
    by_cases hmem : resource ∈ log.resources
    · rw [if_pos hmem, Registry.states?_of_tracked? ht] at hstates
      rw [ReplayState.hasKind_foldl_access registry log.family
        (Registry.sharing?_of_tracked? ht) _ hstates]
      simp only [hchecked, false_or]
      constructor
      · rintro ⟨n, access, haccess, hr, problem, hproblem, rfl⟩
        obtain ⟨i, hi, hlowest⟩ :=
          (accessProblem?_upTo h ht (hcanonical resource t ht) haccess hr).mp hproblem
        exact ⟨n, i, problem, hi, rfl, hlowest⟩
      · rintro ⟨n, i, problem, hi, rfl, hlowest⟩
        obtain ⟨access, haccess, hr, -⟩ := exists_access_of_problemAt? hi
        exact ⟨n, access, haccess, hr, problem,
          (accessProblem?_upTo h ht (hcanonical resource t ht) haccess hr).mpr ⟨i, hi, hlowest⟩, rfl⟩
    · -- The log has no access to the resource, so that none meets a problem.
      have hnone (n i : Nat) (problem : OwnershipProblem) :
          log.problemAt? registry resource n i ≠ some problem := fun hproblem => by
        obtain ⟨access, haccess, hr, -⟩ := exists_access_of_problemAt? hproblem
        exact hmem (mem_resources.mpr (Or.inr ⟨access, List.mem_of_getElem? haccess, hr⟩))
      rw [if_neg hmem] at hstates
      rw [ReplayState.hasKind_foldl_access_none registry log.family _ hstates]
      simp [hchecked, hnone]

/-- There is a finding about accesses to a resource if one of its subresources meets a problem. -/
theorem problem_found_iff (hcanonical : ∀ resource t, registry.tracked? resource = some t →
    t.states.Canonical) (resource : Resource) :
    (∃ finding ∈ (log.replay registry).findings,
        finding.resource = resource ∧ finding.kind ≠ .invalidLayout)
      ↔ ∃ t, registry.tracked? resource = some t ∧ ∃ i state, t.states.get? i = some state
        ∧ state.problems t.sharing log.family (log.accessesAt resource i) ≠ [] := by
  constructor
  · rintro ⟨finding, hmem, hr, hkind⟩
    obtain ⟨n, i, problem, hproblem, -, -⟩ :=
      (kind_found_iff h hcanonical resource hkind).mp ⟨finding, hmem, hr, rfl⟩
    obtain ⟨t, ht⟩ := exists_tracked?_of_problemAt? hproblem
    obtain ⟨state, hstate, hproblems⟩ := (exists_problemAt?_iff ht).mp ⟨n, hproblem⟩
    exact ⟨t, ht, i, state, hstate, List.ne_nil_of_mem hproblems⟩
  · rintro ⟨t, ht, i, state, hstate, hproblems⟩
    obtain ⟨problem, hmem⟩ := List.exists_mem_of_ne_nil _ hproblems
    obtain ⟨n, hproblem⟩ := (exists_problemAt?_iff ht).mpr ⟨state, hstate, hmem⟩
    obtain ⟨j, first, -, hfirst, hlowest⟩ := exists_first_problemAt? hproblem
    obtain ⟨finding, hfinding, hr, hk⟩ := (kind_found_iff h hcanonical resource
      (ReplayState.problem_kind_ne first)).mpr ⟨n, j, first, hfirst, rfl, hlowest⟩
    exact ⟨finding, hfinding, hr, hk ▸ ReplayState.problem_kind_ne first⟩

/-- There is a finding about the layouts of a resource if one of its subresources is in another layout
than the log expects. -/
theorem mismatch_found_iff (hcanonical : ∀ resource t, registry.tracked? resource = some t →
    t.states.Canonical) (resource : Resource) :
    (∃ finding ∈ (log.replay registry).findings,
        finding.resource = resource ∧ finding.kind = .invalidLayout)
      ↔ ∃ t, registry.tracked? resource = some t ∧ ∃ i state l expected,
        t.states.get? i = some state ∧ log.localLayout? resource i = some l
        ∧ l.expected = some expected ∧ state.layout ≠ expected := by
  rw [log.exists_mismatch_iff registry resource]
  cases resource with
  | buffer buffer => simp [localLayout?, layoutsOf?]
  | image image =>
    -- A log has one entry for each of its images, so that looking the image up finds all of them.
    have hentry (known : RangeMap LocalLayout) :
        (image, known) ∈ log.layouts ↔ log.layoutsOf? (.image image) = some known :=
      (lookup_eq_some_iff_mem h.layouts.nodup).symm
    constructor
    · rintro ⟨⟨other, known⟩, hmem, hr, hne⟩
      obtain rfl := Resource.image.inj hr
      have hk := (hentry known).mp hmem
      obtain ⟨t, ht, hmismatch⟩ := (log.mismatch?_start_ne_none_iff registry hk).mp hne
      obtain ⟨i, state, l, expected, hstate, hl, hexpected, hlayout⟩ :=
        (layoutMismatch?_ne_none_iff (hcanonical _ t ht) (h.canonical hk)).mp hmismatch
      exact ⟨t, ht, i, state, l, expected, hstate, by simp [localLayout?, hk, hl], hexpected, hlayout⟩
    · rintro ⟨t, ht, i, state, l, expected, hstate, hl, hexpected, hlayout⟩
      obtain ⟨known, hk, hget⟩ := Option.bind_eq_some_iff.mp hl
      have hmismatch := (layoutMismatch?_ne_none_iff (hcanonical _ t ht) (h.canonical hk)).mpr
        ⟨i, state, l, expected, hstate, hget, hexpected, hlayout⟩
      exact ⟨(image, known), (hentry known).mpr hk, rfl,
        (log.mismatch?_start_ne_none_iff registry hk).mpr ⟨t, ht, hmismatch⟩⟩

end CommandLog

end VulkanValidity
