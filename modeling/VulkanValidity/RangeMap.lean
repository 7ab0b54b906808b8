/-
  VulkanValidity.RangeMap

  Maps from natural numbers to values that are constant on long runs of numbers. A map is a list of
  segments in increasing order. In its canonical form the segments are not empty, do not overlap,
  and no two of them touch while they carry the same value, so that equal maps have equal segments.

  The view of a map is `get?`. The one operation that changes a map, `update`, replaces the values
  on an interval by a function of the values before, and leaves the rest alone.
-/

import VulkanValidity.Interval

namespace VulkanValidity

/-- A run of numbers that share a value. -/
structure Segment (α : Type) where
  range : Interval
  value : α
deriving DecidableEq, Repr

/-- A map from natural numbers to values, as segments in increasing order. -/
structure RangeMap (α : Type) where
  segments : List (Segment α)
deriving DecidableEq, Repr

namespace RangeMap

variable {α : Type}

/-- The map without values. -/
def empty : RangeMap α := ⟨[]⟩

instance : Inhabited (RangeMap α) := ⟨empty⟩

/-- The map that gives the numbers below `size` the same value. -/
def replicate (size : Nat) (value : α) : RangeMap α :=
  if size = 0 then empty else ⟨[⟨⟨0, size⟩, value⟩]⟩

/-- The value of a number, if the map has one. -/
def get? (m : RangeMap α) (i : Nat) : Option α :=
  (m.segments.find? fun s => s.range.contains i).map Segment.value

/-! ## Cutting -/

/-- The part of a segment inside an interval, if there is any. -/
def clip (r : Interval) (s : Segment α) : Option (Segment α) :=
  let part := s.range.inter r
  if part.isEmpty then none else some ⟨part, s.value⟩

/-- The parts of the segments that lie inside an interval. -/
def within (m : RangeMap α) (r : Interval) : List (Segment α) :=
  m.segments.filterMap (clip r)

/-- The parts of the segments below a number. -/
def below (m : RangeMap α) (i : Nat) : List (Segment α) :=
  m.within ⟨0, i⟩

/-- The part of a segment from a number on, if there is any. -/
def clipFrom (i : Nat) (s : Segment α) : Option (Segment α) :=
  let part : Interval := ⟨max s.range.start i, s.range.stop⟩
  if part.isEmpty then none else some ⟨part, s.value⟩

/-- The parts of the segments from a number on. -/
def since (m : RangeMap α) (i : Nat) : List (Segment α) :=
  m.segments.filterMap (clipFrom i)

/-! ## Joining -/

/-- Joins every segment of a list to the one after it where the two touch and carry the same
value. -/
def coalesce [DecidableEq α] : List (Segment α) → List (Segment α)
  | [] => []
  | s :: rest =>
    match coalesce rest with
    | [] => [s]
    | t :: others =>
      if s.range.stop = t.range.start ∧ s.value = t.value then
        ⟨⟨s.range.start, t.range.stop⟩, s.value⟩ :: others
      else s :: t :: others

/-! ## Updating -/

/-- The segment that `f` puts into a gap from `lo` to `hi`, if it puts one there. -/
def fillGap (f : Option α → Option α) (lo hi : Nat) : List (Segment α) :=
  if lo < hi then
    match f none with
    | some value => [⟨⟨lo, hi⟩, value⟩]
    | none => []
  else []

/-- The segments of the interval from `lo` to `hi` after `f` was applied to the given segments inside
of it and to the gaps between them. Where `f` gives nothing, the value before stays. -/
def fill (f : Option α → Option α) : List (Segment α) → Nat → Nat → List (Segment α)
  | [], lo, hi => fillGap f lo hi
  | s :: rest, lo, hi =>
    fillGap f lo s.range.start
      ++ ⟨s.range, (f (some s.value)).getD s.value⟩ :: fill f rest s.range.stop hi

/-- Replaces the value of every number in the interval by what `f` makes of the value before, which
is `none` for a number without one. Where `f` gives nothing, nothing changes. -/
def update [DecidableEq α] (m : RangeMap α) (r : Interval) (f : Option α → Option α) : RangeMap α :=
  if r.isEmpty then m
  else ⟨coalesce (m.below r.start ++ fill f (m.within r) r.start r.stop ++ m.since r.stop)⟩

/-- Applies `update` to one interval after the other. -/
def updateAll [DecidableEq α] (m : RangeMap α) (ranges : List Interval)
    (f : Option α → Option α) : RangeMap α :=
  ranges.foldl (fun m r => m.update r f) m

/-! ## The canonical form -/

/-- Two neighbouring segments that the canonical form allows: the second starts after the first ends,
or where it ends with another value. -/
def Separated (s t : Segment α) : Prop :=
  s.range.stop < t.range.start ∨ (s.range.stop = t.range.start ∧ s.value ≠ t.value)

/-- A list of segments that are not empty, in increasing order, disjoint, and joined wherever two
touch with the same value. -/
def CanonicalList : List (Segment α) → Prop
  | [] => True
  | [s] => s.range.start < s.range.stop
  | s :: t :: rest => s.range.start < s.range.stop ∧ Separated s t ∧ CanonicalList (t :: rest)

/-- The map is in canonical form. -/
def Canonical (m : RangeMap α) : Prop := CanonicalList m.segments

end RangeMap

end VulkanValidity
