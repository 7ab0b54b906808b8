/-
  VulkanValidity.Interval

  Half-open intervals of natural numbers. They describe runs of subresource indices, mip levels and
  array layers. An interval whose start is not below its stop holds nothing.
-/

import VulkanValidity.Named

namespace VulkanValidity

/-- The numbers from `start` up to, but without, `stop`. -/
structure Interval where
  start : Nat
  stop : Nat
deriving DecidableEq, Repr

namespace Interval

/-- Whether the interval has no elements. -/
def isEmpty (r : Interval) : Bool := decide (r.stop ≤ r.start)

/-- The number of elements, which is zero if the interval ends before it starts. -/
def length (r : Interval) : Nat := r.stop - r.start

/-- Whether the number is an element of the interval. -/
def contains (r : Interval) (i : Nat) : Bool := decide (r.start ≤ i) && decide (i < r.stop)

/-- The interval with both ends cut off at `limit`. -/
def clampTo (r : Interval) (limit : Nat) : Interval := ⟨min r.start limit, min r.stop limit⟩

/-- The part that two intervals share. -/
def inter (r s : Interval) : Interval := ⟨max r.start s.start, min r.stop s.stop⟩

/-- The interval moved upwards by an offset. -/
def shift (r : Interval) (offset : Nat) : Interval := ⟨offset + r.start, offset + r.stop⟩

/-- The numbers in the interval, in increasing order. -/
def toList (r : Interval) : List Nat := List.range' r.start r.length

/-- The text of an interval, for instance `0..4`. -/
def text (r : Interval) : String := rangeText r.start r.stop

instance : ToString Interval := ⟨text⟩

/-- Joins every interval of a list to the one after it where the two touch. -/
def coalesce : List Interval → List Interval
  | [] => []
  | r :: rest =>
    match coalesce rest with
    | [] => [r]
    | s :: others => if r.stop = s.start then ⟨r.start, s.stop⟩ :: others else r :: s :: others

end Interval

end VulkanValidity
