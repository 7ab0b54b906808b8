/-
  VulkanValidity.Ownership

  The tracked state of a single subresource, and what an access does to it. The layout is the one
  that the subresource is in; the owner says which queue family may use it; the stages of the last
  write, and of the reads since then, are kept for the dependencies that follow.

  An access either uses the subresource, releases or acquires its ownership, or is a barrier that
  leaves the ownership alone. An access that does not fit the owner is a problem, which is reported
  while the state still advances as the device would advance it.
-/

import VulkanValidity.Image

namespace VulkanValidity

/-! ## State -/

/-- Which queue family owns a subresource. -/
inductive Owner
  /-- Nobody has used the subresource yet, or it is shared by several families. -/
  | ignored
  /-- The family may use the subresource. -/
  | owned (family : Nat)
  /-- The source has let go of the subresource, and the destination has not taken it yet. -/
  | released (src dst : Nat)
deriving DecidableEq, Repr

/-- The text of an owner. -/
def Owner.text : Owner → String
  | ignored => "Ignored"
  | owned family => s!"Owned({family})"
  | released src dst => "Released \x7b src: " ++ s!"{src}, dst: {dst}" ++ " \x7d"

instance : ToString Owner := ⟨Owner.text⟩

/-- The tracked state of a subresource. -/
structure SubresourceState where
  layout : ImageLayout := .undefined
  owner : Owner := .ignored
  /-- The stages of the last write. -/
  lastWrite : PipelineStages := ∅
  /-- The stages of the accesses since the last write. -/
  lastRead : PipelineStages := ∅
deriving DecidableEq, Repr

/-- The text of a state: the layout, the owner, and the last accesses. -/
def SubresourceState.text (s : SubresourceState) : String :=
  s!"{s.layout} {s.owner} w={s.lastWrite} r={s.lastRead}"

/-! ## Problems -/

/-- The classes of findings about a submission. -/
inductive FindingKind
  /-- A subresource is not in the layout that the command buffer expects. -/
  | invalidLayout
  | ownership
  /-- Ownership is acquired that was not released. -/
  | acquireUnreleased
  | duplicateRelease
deriving DecidableEq, Repr

/-- The ways in which an access does not fit the owner of a subresource. -/
inductive OwnershipProblem
  /-- The resource is shared between families, and the family is not one of them. -/
  | notShared (families : List Nat) (family : Nat)
  /-- Another family owns the resource that the family uses. -/
  | ownedByOther (owner family : Nat)
  /-- The family uses a resource that is on its way from `src` to `dst`. -/
  | inTransfer (src dst family : Nat)
  /-- The resource is released from `src` to `dst`, but it is already on its way. -/
  | releasedAgain (src dst releasedSrc releasedDst : Nat)
  /-- The resource is released from `src`, but `owner` owns it. -/
  | releasedByOther (src owner : Nat)
  /-- The resource is acquired, but no matching release came before. -/
  | notReleased (src dst : Nat) (owner : Owner)
deriving DecidableEq, Repr

namespace OwnershipProblem

/-- The kind of the finding that a problem leads to. -/
def kind : OwnershipProblem → FindingKind
  | notShared _ _ | ownedByOther _ _ | inTransfer _ _ _ | releasedByOther _ _ => .ownership
  | releasedAgain _ _ _ _ => .duplicateRelease
  | notReleased _ _ _ => .acquireUnreleased

/-- The message of the finding that a problem leads to. -/
def message : OwnershipProblem → String
  | notShared families family =>
    s!"the resource has concurrent sharing between queue families " ++
      s!"{bracketed (families.map toString)}, but is used on queue family {family}"
  | ownedByOther owner family =>
    s!"the resource is owned by queue family {owner}, but is used on queue family {family} " ++
      "without an ownership transfer"
  | inTransfer src dst family =>
    s!"ownership of the resource was released from queue family {src} to queue family {dst} " ++
      s!"and not yet acquired, but it is used on queue family {family}"
  | releasedAgain src dst releasedSrc releasedDst =>
    s!"ownership of the resource is released from queue family {src} to queue family {dst}, " ++
      s!"but it was already released from queue family {releasedSrc} to queue family " ++
      s!"{releasedDst} and not acquired since"
  | releasedByOther src owner =>
    s!"ownership of the resource is released from queue family {src}, but it is owned by " ++
      s!"queue family {owner}"
  | notReleased src dst owner =>
    s!"ownership of the resource is acquired by queue family {dst} from queue family {src}, " ++
      s!"but no matching release was submitted (the resource is {owner})"

end OwnershipProblem

/-! ## Accesses -/

/-- What an access does to the ownership of a subresource. -/
inductive AccessKind
  | use
  /-- The ownership is left alone. -/
  | barrier
  | release (src dst : Nat)
  | acquire (src dst : Nat)
deriving DecidableEq, Repr

namespace Owner

/-- The owner after a use on `family`. The first user of an exclusive resource becomes its owner. -/
def use (owner : Owner) (sharing : Sharing) (family : Nat) : Owner :=
  match sharing, owner with
  | .exclusive, ignored => owned family
  | _, _ => owner

/-- The problem with a use on `family`. -/
def useProblem? (owner : Owner) (sharing : Sharing) (family : Nat) : Option OwnershipProblem :=
  match sharing with
  | .concurrent families => if families.contains family then none else some (.notShared families family)
  | .exclusive =>
    match owner with
    | ignored => none
    | owned other => if other = family then none else some (.ownedByOther other family)
    | released src dst => some (.inTransfer src dst family)

/-- The problem with a release from `src` to `dst`. -/
def releaseProblem? (owner : Owner) (src dst : Nat) : Option OwnershipProblem :=
  match owner with
  | released releasedSrc releasedDst => some (.releasedAgain src dst releasedSrc releasedDst)
  | owned other => if other = src then none else some (.releasedByOther src other)
  | ignored => none

/-- The problem with an acquisition from `src` to `dst`. -/
def acquireProblem? (owner : Owner) (src dst : Nat) : Option OwnershipProblem :=
  -- What comes from outside of the device was released where nobody sees it.
  if owner = released src dst || QueueFamily.isOutside src then none
  else some (.notReleased src dst owner)

/-- The owner after an access in a command buffer of `family`. -/
def access (owner : Owner) (sharing : Sharing) (family : Nat) : AccessKind → Owner
  | .use => owner.use sharing family
  | .barrier => owner
  -- A transfer goes through even when it has a problem.
  | .release src dst => released src dst
  | .acquire _ dst => owned dst

/-- The problem with an access in a command buffer of `family`. -/
def accessProblem? (owner : Owner) (sharing : Sharing) (family : Nat) :
    AccessKind → Option OwnershipProblem
  | .use => owner.useProblem? sharing family
  | .barrier => none
  | .release src dst => owner.releaseProblem? src dst
  | .acquire src dst => owner.acquireProblem? src dst

end Owner

/-- What an access does to each subresource that it covers. -/
structure AccessEffect where
  kind : AccessKind
  stages : PipelineStages
  write : Bool
deriving DecidableEq, Repr

/-- The state after an access in a command buffer of `family`. -/
def SubresourceState.access (s : SubresourceState) (sharing : Sharing) (family : Nat)
    (effect : AccessEffect) : SubresourceState where
  layout := s.layout
  owner := s.owner.access sharing family effect.kind
  -- A write starts over with the reads; any other access adds its stages to them.
  lastWrite := if effect.write then effect.stages else s.lastWrite
  lastRead := if effect.write then ∅ else s.lastRead ∪ effect.stages

end VulkanValidity
