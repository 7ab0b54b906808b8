/-
  VulkanValidity.Rules.Buffer

  Rules about the creation of buffers.
-/

import VulkanValidity.Rules.Sharing

namespace VulkanValidity.BufferRules

/-- A rule about the creation of a buffer. -/
def onCreate (check : Context → BufferInfo → List Violation) : Check := fun ctx =>
  match ctx.operation with
  | .createBuffer info => check ctx info
  | _ => []

/-- The buffer is not empty. -/
def sizeNonzero : Check := onCreate fun _ info =>
  violationIf (info.size == 0) "`size` is zero" []

/-- Concurrent sharing is between at least two queue families. -/
def concurrentFamilyCount : Check := onCreate fun _ info =>
  SharingRules.familyCount info.sharing

/-- The families of a concurrently shared buffer exist and are different. -/
def concurrentFamilyIndex : Check := onCreate fun ctx info =>
  SharingRules.familyIndex ctx.environment info.sharing

end VulkanValidity.BufferRules
