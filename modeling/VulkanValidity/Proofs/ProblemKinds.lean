/-
  VulkanValidity.Proofs.ProblemKinds

  Which kinds of problems a replay reports.  An access can cover subresources with different owners, and
  only the problem on the lowest of them is kept, so that there is a finding of a kind exactly if some access
  meets this kind first.  The uses, and the acquisitions, all meet the same kind, and none of theirs is lost.
  A release meets two kinds: where it covers a subresource of another owner, and one further up that is
  released already, the duplicate release goes unreported.
-/

import VulkanValidity.Proofs.Refinement
import VulkanValidity.Rules.Standard

namespace VulkanValidity

/-! ## Kinds of problems -/

/-- The kind of the problems with an access, if it can have problems and they are all of one kind. -/
def AccessKind.problemKind? : AccessKind → Option FindingKind
  | use => some .ownership
  | acquire _ _ => some .acquireUnreleased
  | barrier | release _ _ => none

/-- What an access does tells the kind of its problems, unless it is a release. -/
theorem Owner.accessProblem?_kind {owner : Owner} {sharing : Sharing} {family : Nat} {kind : AccessKind}
    {problem : OwnershipProblem} (h : owner.accessProblem? sharing family kind = some problem) :
    kind.problemKind? = some problem.kind
      ∨ ∃ src dst, kind = .release src dst ∧ problem.kind ≠ .acquireUnreleased := by
  cases kind with
  | use =>
    refine Or.inl ?_
    simp only [accessProblem?, useProblem?] at h
    split at h
    · split at h <;> cases h
      rfl
    · split at h
      · cases h
      · split at h <;> cases h
        rfl
      · cases h
        rfl
  | barrier => cases h
  | release src dst =>
    refine Or.inr ⟨src, dst, rfl, fun hkind => ?_⟩
    simp only [accessProblem?, releaseProblem?] at h
    split at h
    · cases h
      cases hkind
    · split at h <;> cases h
      cases hkind
    · cases h
  | acquire src dst =>
    refine Or.inl ?_
    simp only [accessProblem?, acquireProblem?] at h
    split at h <;> cases h
    rfl

/-! ## What is found -/

namespace CommandLog

/-- Whether replaying the log finds something of a kind about a resource. -/
def Finds (log : CommandLog) (registry : Registry) (resource : Resource) (kind : FindingKind) : Prop :=
  ∃ finding ∈ (log.replay registry).findings, finding.resource = resource ∧ finding.kind = kind

instance (log : CommandLog) (registry : Registry) (resource : Resource) (kind : FindingKind) :
    Decidable (log.Finds registry resource kind) :=
  inferInstanceAs (Decidable (∃ finding ∈ (log.replay registry).findings,
    finding.resource = resource ∧ finding.kind = kind))

section Finds

variable {log : CommandLog} {registry : Registry} {resource : Resource} {n i : Nat}
  {problem : OwnershipProblem}

/-- The problems of an access are of its kind, unless it is a release. -/
theorem problemAt?_kind {access : Access} (haccess : log.accesses[n]? = some access)
    (hproblem : log.problemAt? registry resource n i = some problem) :
    access.effect.kind.problemKind? = some problem.kind
      ∨ ∃ src dst, access.effect.kind = .release src dst ∧ problem.kind ≠ .acquireUnreleased := by
  obtain ⟨access', haccess', -, _, _, hmeets⟩ := exists_access_of_problemAt? hproblem
  obtain rfl := Option.some.inj (haccess.symm.trans haccess')
  exact Owner.accessProblem?_kind hmeets

variable (h : log.WellFormed) (hregistry : registry.WellFormed)
include h hregistry

/-- A problem that leaves no finding is one of a release, which meets another kind on a lower
subresource. -/
theorem finds_or_hidden (hproblem : log.problemAt? registry resource n i = some problem) :
    log.Finds registry resource problem.kind
      ∨ ∃ access src dst j other, log.accesses[n]? = some access ∧ access.effect.kind = .release src dst
        ∧ j < i ∧ log.problemAt? registry resource n j = some other ∧ other.kind ≠ problem.kind
        ∧ log.Finds registry resource other.kind := by
  obtain ⟨j, other, hj, hother, hlowest⟩ := exists_first_problemAt? hproblem
  have hfound : log.Finds registry resource other.kind :=
    (kind_found_iff h hregistry.canonical resource (ReplayState.problem_kind_ne other)).mpr
      ⟨n, j, other, hother, rfl, hlowest⟩
  by_cases hkind : other.kind = problem.kind
  · exact Or.inl (hkind ▸ hfound)
  · have hlt : j < i := by
      refine Nat.lt_of_le_of_ne hj fun heq => hkind ?_
      rw [heq, hproblem] at hother
      rw [Option.some.inj hother]
    obtain ⟨access, haccess, -⟩ := exists_access_of_problemAt? hproblem
    -- The two problems are of different kinds, so that the access is a release.
    rcases problemAt?_kind haccess hproblem with hk | ⟨src, dst, hrelease, -⟩
    · rcases problemAt?_kind haccess hother with hk' | ⟨_, _, hrelease, -⟩
      · exact absurd (Option.some.inj (hk'.symm.trans hk)) hkind
      · rw [hrelease] at hk
        cases hk
    · exact Or.inr ⟨access, src, dst, j, other, haccess, hrelease, hlt, hother, hkind, hfound⟩

/-- No acquisition without a release is lost. -/
theorem finds_acquireUnreleased_iff : log.Finds registry resource .acquireUnreleased
    ↔ ∃ n i problem, log.problemAt? registry resource n i = some problem
      ∧ problem.kind = .acquireUnreleased := by
  constructor
  · intro hfound
    obtain ⟨n, i, problem, hproblem, hkind, -⟩ :=
      (kind_found_iff h hregistry.canonical resource fun hkind => by cases hkind).mp hfound
    exact ⟨n, i, problem, hproblem, hkind⟩
  · rintro ⟨n, i, problem, hproblem, hkind⟩
    rcases finds_or_hidden h hregistry hproblem with
      hfound | ⟨access, src, dst, -, -, haccess, hrelease, -⟩
    · exact hkind ▸ hfound
    · -- A release cannot meet this kind.
      rcases problemAt?_kind haccess hproblem with hk | ⟨_, _, -, hne⟩
      · rw [hrelease] at hk
        cases hk
      · exact absurd hkind hne

end Finds

end CommandLog

/-- Replaying a recorded log on a reachable registry finds a problem of a kind with the accesses to a resource
iff some access, executed on each subresource alone, meets that kind on the lowest subresource where it meets
any. So a problem that is not found is one of a release that meets another kind further down, which is found;
and acquisitions without a release are always found. -/
theorem problem_kinds_found {s : Session} (hs : s.Reachable) {log : CommandLog} (hlog : log.Recorded)
    (resource : Resource) :
    (∀ kind, kind ≠ .invalidLayout → (log.Finds s.device.registry resource kind
      ↔ ∃ n i problem, log.problemAt? s.device.registry resource n i = some problem
        ∧ problem.kind = kind ∧ ∀ j < i, log.problemAt? s.device.registry resource n j = none))
    ∧ (∀ n i problem, log.problemAt? s.device.registry resource n i = some problem →
        log.Finds s.device.registry resource problem.kind
        ∨ ∃ access src dst j other, log.accesses[n]? = some access
          ∧ access.effect.kind = .release src dst ∧ j < i
          ∧ log.problemAt? s.device.registry resource n j = some other ∧ other.kind ≠ problem.kind
          ∧ log.Finds s.device.registry resource other.kind)
    ∧ (log.Finds s.device.registry resource .acquireUnreleased
      ↔ ∃ n i problem, log.problemAt? s.device.registry resource n i = some problem
        ∧ problem.kind = .acquireUnreleased) := by
  have h := hlog.wellFormed
  have hregistry := hs.wellFormed.registry
  refine ⟨fun kind hkind => ?_, fun n i problem hproblem => ?_, ?_⟩
  · exact CommandLog.kind_found_iff h hregistry.canonical resource hkind
  · exact CommandLog.finds_or_hidden h hregistry hproblem
  · exact CommandLog.finds_acquireUnreleased_iff h hregistry

/-- A run after which the first level of an image is owned by family 0, and the second one is on its way from
family 0 to family 1. Then family 1 releases both of them in one barrier. -/
def releaseBothRun : List Call :=
  [.createImage { format := .r8g8b8a8Unorm, extent := ⟨4, 4, 1⟩, mipLevels := 2 },
    .beginCommandBuffer ⟨0, 0⟩ none .multipleSubmit,
    .record 0 (.barrier { imageBarriers := [
      { image := .ofSerial .image 1, newLayout := .general, transfer := some (.exclusiveFromExternal 0) },
      { image := .ofSerial .image 1, newLayout := .general, transfer := some (.exclusiveBetweenLocal 0 1),
        range := ⟨.color, ⟨1, 2⟩, ⟨0, 1⟩⟩ }] }),
    .endCommandBuffer 0,
    .submit [{ queue := ⟨0, 0⟩, commandBuffers := [.ofSerial .commandBuffer 2] }],
    .beginCommandBuffer ⟨1, 0⟩ none .multipleSubmit,
    .record 1 (.barrier { imageBarriers := [{
      image := .ofSerial .image 1, newLayout := .general, transfer := some (.exclusiveBetweenLocal 1 0),
      range := ⟨.color, ⟨0, 2⟩, ⟨0, 1⟩⟩ }] })]

/-- The problem with the first level is found, as it comes first. -/
theorem releaseBothRun_finds : ∃ log : CommandLog, log.Recorded
    ∧ log.Finds ((Session.start {} Standard.engine).run releaseBothRun).device.registry
      (.image (.ofSerial .image 1)) .ownership := by
  let s := (Session.start {} Standard.engine).run releaseBothRun
  have hs : s.Reachable := (Session.Reachable.start {} _).run _
  obtain ⟨recorder, hr⟩ := Option.isSome_iff_exists.mp
    (show (s.recorder? 1).isSome = true by decide +kernel)
  have hlog : recorder.recording.finish.Recorded := ⟨s, 1, recorder, hs, hr, rfl⟩
  have hproblem : ∀ recorder ∈ s.recorder? 1, recorder.recording.finish.problemAt? s.device.registry
      (.image (.ofSerial .image 1)) 0 0 = some (.releasedByOther 1 0) := by
    decide +kernel
  obtain ⟨hfound, -, -⟩ := problem_kinds_found hs hlog (.image (.ofSerial .image 1))
  exact ⟨_, hlog, (hfound .ownership (by decide)).mpr
    ⟨0, 0, _, hproblem recorder hr, rfl, fun j hj => absurd hj (Nat.not_lt_zero j)⟩⟩

/-- The second level is released again, and nothing is reported about that: no diagnostic comes before the
last submission, and this one has no finding of that kind. -/
theorem duplicateRelease_hidden :
    (Session.start {} Standard.engine).diagnostics releaseBothRun = []
    ∧ ∃ log : CommandLog, log.Recorded
      ∧ log.problemAt? ((Session.start {} Standard.engine).run releaseBothRun).device.registry
          (.image (.ofSerial .image 1)) 0 1 = some (.releasedAgain 1 0 0 1)
      ∧ ¬ log.Finds ((Session.start {} Standard.engine).run releaseBothRun).device.registry
          (.image (.ofSerial .image 1)) .duplicateRelease := by
  refine ⟨by decide +kernel, ?_⟩
  let s := (Session.start {} Standard.engine).run releaseBothRun
  obtain ⟨recorder, hr⟩ := Option.isSome_iff_exists.mp
    (show (s.recorder? 1).isSome = true by decide +kernel)
  have hhidden : ∀ recorder ∈ s.recorder? 1,
      recorder.recording.finish.problemAt? s.device.registry (.image (.ofSerial .image 1)) 0 1
        = some (.releasedAgain 1 0 0 1)
      ∧ ¬ recorder.recording.finish.Finds s.device.registry (.image (.ofSerial .image 1))
        .duplicateRelease := by
    decide +kernel
  exact ⟨_, ⟨s, 1, recorder, (Session.Reachable.start {} _).run _, hr, rfl⟩, hhidden recorder hr⟩

end VulkanValidity
