/-
  VulkanValidity.Rules.Sharing

  What rules about images and about buffers have in common: a resource that is shared by several
  queue families names at least two of them, each one exists, and none is named twice.
-/

import VulkanValidity.Rule

namespace VulkanValidity.SharingRules

/-- A concurrent sharing mode names at least two families. -/
def familyCount (sharing : Sharing) : List Violation :=
  match sharing with
  | .exclusive => []
  | .concurrent families =>
    violationIf (decide (families.length < 2))
      ("`sharing` is `Sharing::Concurrent`, but contains fewer than 2 queue family " ++
        "indices") []

/-- The first family that does not exist or was named before, as the list is read from the front. -/
def firstBadFamily? (count : Nat) : List Nat → Nat → List Nat → Option String
  | _, _, [] => none
  | seen, index, family :: rest =>
    if count ≤ family then
      some (s!"`sharing[{index}]` is {family}, which is not less than the number of queue " ++
        s!"families ({count})")
    else if seen.contains family then
      some s!"`sharing` contains queue family index {family} more than once"
    else firstBadFamily? count (family :: seen) (index + 1) rest

/-- The families of a concurrent sharing mode exist and are different. -/
def familyIndex (env : Environment) (sharing : Sharing) : List Violation :=
  match sharing with
  | .exclusive => []
  | .concurrent families =>
    ((firstBadFamily? env.queueFamilies.length [] 0 families).map fun message =>
      Violation.mk message []).toList

end VulkanValidity.SharingRules
