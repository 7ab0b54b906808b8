/-
  VulkanValidity.Rules.Objects

  Rules about the objects that operations name: they exist, they are alive, and nothing destroys
  them while the device uses them.
-/

import VulkanValidity.Rule

namespace VulkanValidity.ObjectRules

/-- No operation names an object that was destroyed. -/
def objectDestroyed : Check := fun ctx =>
  (ctx.operation.objects.filter ctx.registry.isDestroyed).map fun id =>
    ⟨s!"{id} is used after it was destroyed", [id]⟩

/-- No operation names an object that never existed. -/
def objectUnknown : Check := fun ctx =>
  (ctx.operation.objects.filter fun id => !ctx.registry.isKnown id).map fun id =>
    ⟨s!"{id} was never created on this device", [id]⟩

/-- No object of type `t` is destroyed while a pending submission uses it. -/
def destroyInUse (t : ObjectType) : Check := fun ctx =>
  match ctx.operation with
  | .destroy id =>
    violationIf (id.isOf t && ctx.registry.isInFlight id)
      s!"{id} is destroyed while a pending submission still uses it" [id]
  | _ => []

end VulkanValidity.ObjectRules
