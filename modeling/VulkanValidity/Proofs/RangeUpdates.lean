/-
  VulkanValidity.Proofs.RangeUpdates

  Updating a range map by the operations of a map that is kept elsewhere.

  Such a map lists the stored segments that meet an interval and the gaps that it leaves inside of it,
  and it stores a value on an interval, over whatever was there.  An update reads first: it cuts the
  segments down to the interval, asks for a new value on each part and on each gap, and collects the
  answers.  Then it stores them, one after the other.

  What makes this right is that all that is collected agrees with one function on numbers, the one that
  takes a number to what `f` makes of its value before (`Collects`).  Segments that agree with a function
  may be stored in any order, and over one another, without a difference (`get?_insertAll`).  A number
  without a value is in a gap because it can be gone from in both directions up to the next value or the
  end of the interval (`exists_gap`).

  `primitives` has the operations for maps that are lists of segments.
-/

import Mathlib.Data.Nat.Find
import VulkanValidity.Proofs.RangeMap

namespace VulkanValidity

namespace RangeMap

variable {α : Type}

/-! ## Gaps -/

/-- An interval inside of `outer` without a value on it that cannot be made longer inside of `outer`. -/
structure IsGap (value : Nat → Option α) (outer gap : Interval) : Prop where
  nonempty : gap.start < gap.stop
  start_le : outer.start ≤ gap.start
  le_stop : gap.stop ≤ outer.stop
  free : ∀ i, gap.contains i = true → value i = none
  before : gap.start = outer.start ∨ (value (gap.start - 1)).isSome = true
  after : gap.stop = outer.stop ∨ (value gap.stop).isSome = true

theorem IsGap.contains_outer {value : Nat → Option α} {outer gap : Interval} (h : IsGap value outer gap)
    {i : Nat} (hi : gap.contains i = true) : outer.contains i = true := by
  have := h.start_le
  have := h.le_stop
  rw [Interval.contains_iff] at hi ⊢
  omega

/-- Whether an interval is a gap depends on the values inside of the outer interval only. -/
theorem IsGap.congr {value value' : Nat → Option α} {outer gap : Interval}
    (heq : ∀ i, outer.contains i = true → value i = value' i) (h : IsGap value outer gap) :
    IsGap value' outer gap := by
  have hlt := h.nonempty
  have hstart := h.start_le
  have hstop := h.le_stop
  refine ⟨hlt, hstart, hstop, ?_, ?_, ?_⟩
  · intro i hi
    rw [← heq i (h.contains_outer hi)]
    exact h.free i hi
  · by_cases hfirst : gap.start = outer.start
    · exact Or.inl hfirst
    · have hin : outer.contains (gap.start - 1) = true := by
        rw [Interval.contains_iff]
        omega
      rw [← heq _ hin]
      exact h.before
  · by_cases hlast : gap.stop = outer.stop
    · exact Or.inl hlast
    · have hin : outer.contains gap.stop = true := by
        rw [Interval.contains_iff]
        omega
      rw [← heq _ hin]
      exact h.after

/-- Every number of an interval that has no value is in a gap. -/
theorem exists_gap {value : Nat → Option α} {outer : Interval} {i : Nat}
    (hi : outer.contains i = true) (hfree : value i = none) :
    ∃ gap, IsGap value outer gap ∧ gap.contains i = true := by
  obtain ⟨hstart, hstop⟩ := Interval.contains_iff.mp hi
  -- Up from `i` to the first number that has a value or is no longer in the interval.
  have hup : ∃ j, i ≤ j ∧ (j = outer.stop ∨ (value j).isSome = true) :=
    ⟨outer.stop, Nat.le_of_lt hstop, Or.inl rfl⟩
  obtain ⟨hj, hend⟩ := Nat.find_spec hup
  have hle : Nat.find hup ≤ outer.stop := Nat.find_min' hup ⟨Nat.le_of_lt hstop, Or.inl rfl⟩
  have habove (k : Nat) (hk : i ≤ k) (hlt : k < Nat.find hup) : value k = none := by
    have hnot := Nat.find_min hup hlt
    rw [← Option.not_isSome_iff_eq_none]
    exact fun hsome => hnot ⟨hk, Or.inr hsome⟩
  have hne : Nat.find hup ≠ i := by
    intro heq
    rw [heq, hfree] at hend
    rcases hend with hend | hend
    · omega
    · cases hend
  -- Down from `i` to the last number that is first in the interval or comes after a value.
  let first (k : Nat) : Prop := k = outer.start ∨ (value (k - 1)).isSome = true
  have hfirst : first (Nat.findGreatest first i) := Nat.findGreatest_spec hstart (Or.inl rfl)
  have hge : outer.start ≤ Nat.findGreatest first i := Nat.le_findGreatest hstart (Or.inl rfl)
  have hbelow (k : Nat) (hk : Nat.findGreatest first i ≤ k) (hlt : k < i) : value k = none := by
    have hnot := Nat.findGreatest_is_greatest (P := first) (Nat.lt_succ_of_le hk) hlt
    rw [← Option.not_isSome_iff_eq_none]
    exact fun hsome => hnot (Or.inr hsome)
  have hdown : Nat.findGreatest first i ≤ i := Nat.findGreatest_le i
  refine ⟨⟨Nat.findGreatest first i, Nat.find hup⟩, ⟨?_, hge, hle, ?_, hfirst, hend⟩, ?_⟩
  · show Nat.findGreatest first i < Nat.find hup
    omega
  · intro k hk
    obtain ⟨hk₁, hk₂⟩ := Interval.contains_iff.mp hk
    rcases Nat.lt_or_ge k i with hlt | hge
    · exact hbelow k hk₁ hlt
    · exact habove k hge hk₂
  · apply Interval.contains_iff.mpr
    show Nat.findGreatest first i ≤ i ∧ i < Nat.find hup
    omega

/-! ## The operations -/

/-- What a range map that is kept elsewhere can be asked and told. -/
structure Primitives (α : Type) where
  overlapping : RangeMap α → Interval → List (Segment α)
  gaps : RangeMap α → Interval → List Interval
  insert : RangeMap α → Interval → α → RangeMap α

/-- The operations do what they are documented to do.  Of storing a value on an empty interval nothing
is known. -/
structure Primitives.Lawful (ops : Primitives α) : Prop where
  mem_overlapping {m : RangeMap α} (h : m.Canonical) {r : Interval} (hr : r.isEmpty = false)
    {s : Segment α} : s ∈ ops.overlapping m r ↔ s ∈ m.segments ∧ (s.range.inter r).isEmpty = false
  mem_gaps {m : RangeMap α} (h : m.Canonical) {r : Interval} (hr : r.isEmpty = false)
    {gap : Interval} : gap ∈ ops.gaps m r ↔ IsGap m.get? r gap
  canonical_insert {m : RangeMap α} (h : m.Canonical) {r : Interval} (hr : r.isEmpty = false) (v : α) :
    (ops.insert m r v).Canonical
  get?_insert {m : RangeMap α} (h : m.Canonical) {r : Interval} (hr : r.isEmpty = false) (v : α)
    (i : Nat) : (ops.insert m r v).get? i = if r.contains i then some v else m.get? i

namespace Primitives

/-- The parts of the interval for which `f` has a value, with this value: first those that are stored,
cut down to the interval, then the gaps. -/
def updates (ops : Primitives α) (m : RangeMap α) (r : Interval) (f : Option α → Option α) :
    List (Segment α) :=
  (ops.overlapping m r).filterMap (fun s => (f (some s.value)).map (Segment.mk (s.range.inter r)))
    ++ (ops.gaps m r).filterMap (fun gap => (f none).map (Segment.mk gap))

/-- Stores one segment after the other. -/
def insertAll (ops : Primitives α) (m : RangeMap α) (l : List (Segment α)) : RangeMap α :=
  l.foldl (fun m s => ops.insert m s.range s.value) m

/-- The update of a map by the operations: all is read before anything is stored. -/
def update (ops : Primitives α) (m : RangeMap α) (r : Interval) (f : Option α → Option α) :
    RangeMap α :=
  if r.isEmpty then m else ops.insertAll m (ops.updates m r f)

/-! ## Storing -/

/-- The segments are not empty and agree with a function on numbers. -/
def Collects (value : Nat → Option α) (l : List (Segment α)) : Prop :=
  ∀ s ∈ l, s.range.isEmpty = false ∧ ∀ i, s.range.contains i = true → value i = some s.value

variable {ops : Primitives α}

theorem canonical_insertAll (hops : ops.Lawful) {value : Nat → Option α} {l : List (Segment α)}
    (hl : Collects value l) {m : RangeMap α} (h : m.Canonical) : (ops.insertAll m l).Canonical := by
  induction l generalizing m with
  | nil => exact h
  | cons s l ih =>
    have hs := hl s List.mem_cons_self
    exact ih (fun t ht => hl t (List.mem_cons_of_mem s ht)) (hops.canonical_insert h hs.1 s.value)

/-- Segments that agree with a function do not disturb one another: a number gets the value that the
function gives it as soon as one of them is around it, and keeps its own otherwise. -/
theorem get?_insertAll (hops : ops.Lawful) {value : Nat → Option α} {l : List (Segment α)}
    (hl : Collects value l) {m : RangeMap α} (h : m.Canonical) (i : Nat) :
    (ops.insertAll m l).get? i = if l.any (·.range.contains i) then value i else m.get? i := by
  induction l generalizing m with
  | nil => rfl
  | cons s l ih =>
    obtain ⟨hs, hvalue⟩ := hl s List.mem_cons_self
    have hrest := ih (fun t ht => hl t (List.mem_cons_of_mem s ht))
      (hops.canonical_insert h hs s.value)
    show (ops.insertAll (ops.insert m s.range s.value) l).get? i = _
    rw [hrest, hops.get?_insert h hs, List.any_cons]
    cases hc : s.range.contains i with
    | false => simp
    | true =>
      rw [hvalue i hc]
      simp

/-! ## Collecting -/

variable {m : RangeMap α} {r : Interval} {f : Option α → Option α}

theorem mem_updates {u : Segment α} : u ∈ ops.updates m r f ↔
    (∃ s ∈ ops.overlapping m r, f (some s.value) = some u.value ∧ u.range = s.range.inter r) ∨
      (u.range ∈ ops.gaps m r ∧ f none = some u.value) := by
  obtain ⟨range, value⟩ := u
  simp only [updates, List.mem_append, List.mem_filterMap, Option.map_eq_some_iff, Segment.mk.injEq]
  constructor
  · rintro (⟨s, hs, v, hv, rfl, rfl⟩ | ⟨gap, hgap, v, hv, rfl, rfl⟩)
    · exact Or.inl ⟨s, hs, hv, rfl⟩
    · exact Or.inr ⟨hgap, hv⟩
  · rintro (⟨s, hs, hv, rfl⟩ | ⟨hgap, hv⟩)
    · exact Or.inl ⟨s, hs, value, hv, rfl, rfl⟩
    · exact Or.inr ⟨range, hgap, value, hv, rfl, rfl⟩

/-- What is collected lies inside of the interval. -/
theorem contains_of_mem_updates (hops : ops.Lawful) (h : m.Canonical) (hr : r.isEmpty = false)
    {u : Segment α} (hu : u ∈ ops.updates m r f) {i : Nat} (hi : u.range.contains i = true) :
    r.contains i = true := by
  rcases mem_updates.mp hu with ⟨s, -, -, hpart⟩ | ⟨hgap, -⟩
  · rw [hpart, Interval.contains_inter, Bool.and_eq_true] at hi
    exact hi.2
  · exact ((hops.mem_gaps h hr).mp hgap).contains_outer hi

/-- Everything that is collected agrees with what `f` makes of the values before. -/
theorem collects_updates (hops : ops.Lawful) (h : m.Canonical) (hr : r.isEmpty = false) :
    Collects (fun i => f (m.get? i)) (ops.updates m r f) := by
  intro u hu
  rcases mem_updates.mp hu with ⟨s, hs, hv, hpart⟩ | ⟨hgap, hv⟩
  · obtain ⟨hmem, hmeet⟩ := (hops.mem_overlapping h hr).mp hs
    rw [hpart]
    refine ⟨hmeet, ?_⟩
    intro i hi
    rw [Interval.contains_inter, Bool.and_eq_true] at hi
    show f (m.get? i) = some u.value
    rw [mem_segments_get? h hmem hi.1]
    exact hv
  · have hg := (hops.mem_gaps h hr).mp hgap
    refine ⟨Interval.isEmpty_eq_false_iff.mpr hg.nonempty, ?_⟩
    intro i hi
    show f (m.get? i) = some u.value
    rw [hg.free i hi]
    exact hv

/-- A number of the interval is collected as soon as `f` has a value for it. -/
theorem any_updates (hops : ops.Lawful) (h : m.Canonical) (hr : r.isEmpty = false) {i : Nat} {v : α}
    (hi : r.contains i = true) (hv : f (m.get? i) = some v) :
    (ops.updates m r f).any (·.range.contains i) = true := by
  rw [List.any_eq_true]
  cases hold : m.get? i with
  | some old =>
    obtain ⟨s, hs, hc, rfl⟩ := exists_mem_segments hold
    have hpart : (s.range.inter r).contains i = true := by
      rw [Interval.contains_inter, hc, hi, Bool.and_true]
    have hmeet : (s.range.inter r).isEmpty = false := by
      rw [Interval.contains_iff] at hpart
      rw [Interval.isEmpty_eq_false_iff]
      omega
    rw [hold] at hv
    have hmem : s ∈ ops.overlapping m r := (hops.mem_overlapping h hr).mpr ⟨hs, hmeet⟩
    exact ⟨⟨s.range.inter r, v⟩, mem_updates.mpr (Or.inl ⟨s, hmem, hv, rfl⟩), hpart⟩
  | none =>
    obtain ⟨gap, hgap, hc⟩ := exists_gap hi hold
    rw [hold] at hv
    have hmem : gap ∈ ops.gaps m r := (hops.mem_gaps h hr).mpr hgap
    exact ⟨⟨gap, v⟩, mem_updates.mpr (Or.inr ⟨hmem, hv⟩), hc⟩

/-! ## Updating -/

theorem canonical_update (hops : ops.Lawful) (h : m.Canonical) (r : Interval)
    (f : Option α → Option α) : (ops.update m r f).Canonical := by
  rw [update]
  split
  · exact h
  · next he => exact canonical_insertAll hops (collects_updates hops h (Bool.eq_false_iff.mpr he)) h

theorem get?_update (hops : ops.Lawful) (h : m.Canonical) (r : Interval) (f : Option α → Option α)
    (i : Nat) :
    (ops.update m r f).get? i = if r.contains i then (f (m.get? i)).or (m.get? i) else m.get? i := by
  rw [update]
  split
  · next he =>
    have hc : ¬ r.contains i = true := by
      rw [Interval.isEmpty_iff] at he
      rw [Interval.contains_iff]
      omega
    rw [if_neg hc]
  · next he =>
    have hr : r.isEmpty = false := Bool.eq_false_iff.mpr he
    rw [get?_insertAll hops (collects_updates hops h hr) h]
    cases hany : (ops.updates m r f).any (·.range.contains i) with
    | true =>
      obtain ⟨u, hu, hc⟩ := List.any_eq_true.mp hany
      have hv : f (m.get? i) = some u.value := (collects_updates hops h hr u hu).2 i hc
      rw [contains_of_mem_updates hops h hr hu hc, if_pos rfl, if_pos rfl, hv, Option.some_or]
    | false =>
      rw [if_neg Bool.false_ne_true]
      split
      · next hi =>
        -- Nothing is collected for the number, so that `f` has nothing for it.
        cases hv : f (m.get? i) with
        | none => rw [Option.none_or]
        | some v =>
          rw [any_updates hops h hr hi hv] at hany
          cases hany
      · rfl

end Primitives

/-! ## Lists of segments -/

/-- The gaps from `lo` to `hi` that segments in increasing order leave. -/
def gapsBetween : List (Segment α) → Nat → Nat → List Interval
  | [], lo, hi => if lo < hi then [⟨lo, hi⟩] else []
  | s :: l, lo, hi =>
    (if lo < s.range.start then [⟨lo, s.range.start⟩] else []) ++ gapsBetween l s.range.stop hi

/-- The gaps around a first segment are the one before it and those after it. -/
theorem isGap_cons {lo hi : Nat} {s : Segment α} {l : List (Segment α)} (h : Ordered lo (s :: l) hi)
    {gap : Interval} : IsGap (valueAt (s :: l)) ⟨lo, hi⟩ gap ↔
      (lo < s.range.start ∧ gap = ⟨lo, s.range.start⟩) ∨
        IsGap (valueAt l) ⟨s.range.stop, hi⟩ gap := by
  obtain ⟨hlo, hs, hl⟩ := h
  have hle := hl.le
  have hbefore (i : Nat) (hi : i < s.range.start) : valueAt (s :: l) i = none := by
    have hc : ¬ s.range.contains i = true := by
      rw [Interval.contains_iff]
      omega
    rw [valueAt_cons, if_neg hc]
    exact hl.valueAt_eq_none (Or.inl (by omega))
  have hinside (i : Nat) (hi : s.range.start ≤ i ∧ i < s.range.stop) :
      valueAt (s :: l) i = some s.value := by
    rw [valueAt_cons, if_pos (Interval.contains_iff.mpr hi)]
  have hbehind (i : Nat) (hi : s.range.stop ≤ i) : valueAt (s :: l) i = valueAt l i := by
    have hc : ¬ s.range.contains i = true := by
      rw [Interval.contains_iff]
      omega
    rw [valueAt_cons, if_neg hc]
  obtain ⟨a, b⟩ := gap
  constructor
  · rintro ⟨hab, ha, hb, hfree, hleft, hright⟩
    simp only at hab ha hb hleft hright
    have hapart : b ≤ s.range.start ∨ s.range.stop ≤ a := by
      by_contra hnot
      -- A number that the two share would have a value and have none.
      have hshared := hfree (max a s.range.start) (Interval.contains_iff.mpr (by simp only; omega))
      rw [hinside _ (by omega)] at hshared
      cases hshared
    rcases hapart with hleftOf | hrightOf
    · left
      have hfirst : a = lo := by
        rcases hleft with hleft | hleft
        · exact hleft
        · rw [hbefore _ (by omega)] at hleft
          cases hleft
      have hlast : b = s.range.start := by
        rcases hright with hright | hright
        · omega
        · by_contra hne
          rw [hbefore b (by omega)] at hright
          cases hright
      subst hfirst hlast
      exact ⟨hab, rfl⟩
    · right
      refine ⟨hab, hrightOf, hb, ?_, ?_, ?_⟩
      · intro i hi
        have hge := (Interval.contains_iff.mp hi).1
        rw [← hbehind i (Nat.le_trans hrightOf hge)]
        exact hfree i hi
      · by_cases heq : a = s.range.stop
        · exact Or.inl heq
        · right
          rw [← hbehind (a - 1) (by omega)]
          rcases hleft with hleft | hleft
          · omega
          · exact hleft
      · rw [← hbehind b (by omega)]
        exact hright
  · rintro (⟨hlt, heq⟩ | ⟨hab, ha, hb, hfree, hleft, hright⟩)
    · obtain ⟨rfl, rfl⟩ := Interval.mk.inj heq
      refine ⟨hlt, Nat.le_refl _, by simp only; omega, ?_, Or.inl rfl, Or.inr ?_⟩
      · intro i hi
        exact hbefore i (Interval.contains_iff.mp hi).2
      · show (valueAt (s :: l) s.range.start).isSome = true
        rw [hinside _ ⟨Nat.le_refl _, hs⟩]
        rfl
    · simp only at hab ha hb hleft hright
      refine ⟨hab, by simp only; omega, hb, ?_, Or.inr ?_, ?_⟩
      · intro i hi
        have hge := (Interval.contains_iff.mp hi).1
        rw [hbehind i (Nat.le_trans ha hge)]
        exact hfree i hi
      · show (valueAt (s :: l) (a - 1)).isSome = true
        by_cases heq : a = s.range.stop
        · rw [hinside (a - 1) (by omega)]
          rfl
        · rw [hbehind (a - 1) (by omega)]
          rcases hleft with hleft | hleft
          · exact absurd hleft heq
          · exact hleft
      · show b = hi ∨ (valueAt (s :: l) b).isSome = true
        rw [hbehind b (by omega)]
        exact hright

theorem mem_gapsBetween {lo hi : Nat} {l : List (Segment α)} (h : Ordered lo l hi) {gap : Interval} :
    gap ∈ gapsBetween l lo hi ↔ IsGap (valueAt l) ⟨lo, hi⟩ gap := by
  induction l generalizing lo with
  | nil =>
    obtain ⟨a, b⟩ := gap
    constructor
    · intro hmem
      rw [gapsBetween, List.mem_ite_nil_right, List.mem_singleton] at hmem
      obtain ⟨hlt, heq⟩ := hmem
      obtain ⟨rfl, rfl⟩ := Interval.mk.inj heq
      exact ⟨hlt, Nat.le_refl _, Nat.le_refl _, fun _ _ => rfl, Or.inl rfl, Or.inl rfl⟩
    · rintro ⟨hab, -, -, -, hleft, hright⟩
      have ha : a = lo := hleft.resolve_right (by simp)
      have hb : b = hi := hright.resolve_right (by simp)
      subst ha hb
      rw [gapsBetween, List.mem_ite_nil_right, List.mem_singleton]
      exact ⟨hab, rfl⟩
  | cons s l ih =>
    rw [isGap_cons h, gapsBetween, List.mem_append, ih h.2.2, List.mem_ite_nil_right,
      List.mem_singleton]

theorem ordered_insert_parts {m : RangeMap α} {r : Interval} (hr : r.isEmpty = false) {hi : Nat}
    (h : Ordered 0 m.segments hi) (v : α) :
    Ordered 0 (m.below r.start ++ ⟨r, v⟩ :: m.since r.stop) (max r.stop hi) := by
  have hlt : r.start < r.stop := Interval.isEmpty_eq_false_iff.mp hr
  have hbelow : Ordered 0 (m.below r.start) r.start :=
    ordered_within (r := ⟨0, r.start⟩) h (Nat.zero_le _)
  exact hbelow.append ⟨Nat.le_refl _, hlt, ordered_since h r.stop⟩

section Operations

variable [DecidableEq α]

/-- The operations on a map that is a list of segments. -/
def primitives : Primitives α where
  overlapping m r := m.segments.filter fun s => !(s.range.inter r).isEmpty
  gaps m r := gapsBetween (m.within r) r.start r.stop
  insert m r v := ⟨coalesce (m.below r.start ++ ⟨r, v⟩ :: m.since r.stop)⟩

theorem lawful_primitives : (primitives : Primitives α).Lawful where
  mem_overlapping := by
    intro m _ r _ s
    rw [primitives, List.mem_filter, Bool.not_eq_true']
  mem_gaps := by
    intro m h r hr gap
    obtain ⟨hi, hord⟩ := h.ordered
    have hle : r.start ≤ r.stop := Nat.le_of_lt (Interval.isEmpty_eq_false_iff.mp hr)
    -- Inside the interval the parts of the segments have the values of the map, and thus the same gaps.
    have hvalue (i : Nat) (hi : r.contains i = true) : valueAt (m.within r) i = m.get? i := by
      rw [valueAt_within, if_pos hi]
    show gap ∈ gapsBetween (m.within r) r.start r.stop ↔ _
    rw [mem_gapsBetween (ordered_within hord hle)]
    constructor
    · exact IsGap.congr hvalue
    · exact IsGap.congr fun i hi => (hvalue i hi).symm
  canonical_insert := by
    intro m h r hr v
    obtain ⟨hi, hord⟩ := h.ordered
    exact canonicalList_coalesce (ordered_insert_parts hr hord v)
  get?_insert := by
    intro m h r hr v i
    obtain ⟨hi, hord⟩ := h.ordered
    show valueAt (coalesce (m.below r.start ++ ⟨r, v⟩ :: m.since r.stop)) i = _
    rw [valueAt_coalesce (ordered_insert_parts hr hord v), valueAt_append, valueAt_cons,
      valueAt_below, valueAt_since]
    -- The number is below the interval, inside it, or above it, and only one of the three parts has it.
    have hlt : r.start < r.stop := Interval.isEmpty_eq_false_iff.mp hr
    by_cases hc : r.contains i = true
    · have hb := Interval.contains_iff.mp hc
      rw [if_pos hc, if_pos hc, if_neg (by omega), Option.none_or]
    · have hb := mt Interval.contains_iff.mpr hc
      rw [if_neg hc, if_neg hc]
      by_cases hbefore : i < r.start
      · rw [if_pos hbefore, if_neg (by omega), Option.or_none]
      · rw [if_neg hbefore, if_pos (by omega), Option.none_or]

/-! ## What an update does -/

/-- An update is pointwise.  By the operations of any map that keeps to their documentation it gives the
very map that `update` gives: inside of the interval every number has what `f` makes of its value before
if this is something, and its value before otherwise; outside of it nothing changes; and the map is
still in canonical form. -/
theorem update_pointwise {ops : Primitives α} (hops : ops.Lawful) {m : RangeMap α} (h : m.Canonical)
    (r : Interval) (f : Option α → Option α) :
    ops.update m r f = m.update r f ∧
      (∀ i, r.start ≤ i → i < r.stop →
        (∀ v, f (m.get? i) = some v → (m.update r f).get? i = some v) ∧
          (f (m.get? i) = none → (m.update r f).get? i = m.get? i)) ∧
      (∀ i, i < r.start ∨ r.stop ≤ i → (m.update r f).get? i = m.get? i) ∧
      (m.update r f).Canonical := by
  refine ⟨?_, ?_, ?_, canonical_update h r f⟩
  · have heq : (ops.update m r f).segments = (m.update r f).segments := by
      refine CanonicalList.ext (ops.canonical_update hops h r f) (canonical_update h r f) ?_
      intro i
      rw [← get?_eq_valueAt, ← get?_eq_valueAt, Primitives.get?_update hops h, get?_update h]
    exact congrArg RangeMap.mk heq
  · intro i hstart hstop
    have hc : r.contains i = true := Interval.contains_iff.mpr ⟨hstart, hstop⟩
    rw [get?_update h, if_pos hc]
    refine ⟨?_, ?_⟩
    · intro v hv
      rw [hv, Option.some_or]
    · intro hv
      rw [hv, Option.none_or]
  · intro i hi
    have hc : ¬ r.contains i = true := by
      rw [Interval.contains_iff]
      omega
    rw [get?_update h, if_neg hc]

/-- One run of numbers, two gaps, and a function that has a value for both. -/
theorem update_fills_gaps :
    let m : RangeMap Nat := ⟨[⟨⟨2, 4⟩, 1⟩]⟩
    let f : Option Nat → Option Nat := fun value => some (value.elim 0 (· + 10))
    primitives.Lawful (α := Nat) ∧ m.Canonical ∧
      primitives.update m ⟨0, 6⟩ f = ⟨[⟨⟨0, 2⟩, 0⟩, ⟨⟨2, 4⟩, 11⟩, ⟨⟨4, 6⟩, 0⟩]⟩ ∧
      primitives.update m ⟨3, 3⟩ f = m := by
  intro m f
  have h : m.Canonical := by
    show 2 < 4
    decide
  have hupdate (r : Interval) := (update_pointwise lawful_primitives h r f).1
  refine ⟨lawful_primitives, h, ?_, ?_⟩
  · rw [hupdate]
    decide
  · rw [hupdate]
    decide

end Operations

end RangeMap

end VulkanValidity
