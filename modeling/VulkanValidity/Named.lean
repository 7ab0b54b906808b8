/-
  VulkanValidity.Named

  Enumerations whose values carry a name, and enumerations whose values also carry the raw number
  that the Vulkan headers give them. Diagnostics print names, catalogs and inputs are read by name,
  and raw numbers are what crosses the interface of a driver.
-/

namespace VulkanValidity

/-- An enumeration that lists its values and names each of them. -/
class Named (α : Type) where
  /-- The values, in declaration order. -/
  values : List α
  /-- The name that a value is written with. -/
  name : α → String

/-- A named enumeration whose values have a raw number. -/
class Enumerated (α : Type) extends Named α where
  /-- The number that stands for a value outside of this library. -/
  raw : α → Int

/-- The value with the given name, if there is one. -/
def Named.ofName? {α : Type} [Named α] (name : String) : Option α :=
  (Named.values (α := α)).find? fun value => Named.name value == name

/-- The value with the given raw number, if there is one. -/
def Enumerated.ofRaw? {α : Type} [Enumerated α] (raw : Int) : Option α :=
  (Named.values (α := α)).find? fun value => Enumerated.raw value == raw

/-! ## Lists in messages -/

/-- Items between square brackets, separated by commas. -/
def bracketed (items : List String) : String :=
  "[" ++ ", ".intercalate items ++ "]"

/-- A half-open range as it is written in messages, for instance `0..4`. -/
def rangeText (start stop : Nat) : String :=
  s!"{start}..{stop}"

end VulkanValidity
