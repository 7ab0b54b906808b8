/-
  VulkanValidity.Proofs.RangeMap

  Range maps as functions on numbers.  The view of a map is `get?`; of a bare list of segments it is
  `valueAt`, which is the same thing without the structure around it.

  The update of a map cuts its segments in three, rewrites the middle part and joins the pieces.  Each
  of the three pieces is `Ordered` between two bounds, so that the whole is, and joining an ordered
  list puts it in canonical form.  The two results that everything else uses are `get?_update`, what an
  update does to each number, and `canonical_update`.  A canonical list is determined by its values
  (`CanonicalList.ext`), so that the parts of two maps inside of an interval are the same segments as
  soon as they hold the same values.
-/

import VulkanValidity.RangeMap

namespace VulkanValidity

namespace Interval

theorem contains_iff {r : Interval} {i : Nat} : r.contains i = true ↔ r.start ≤ i ∧ i < r.stop := by
  simp [contains]

theorem isEmpty_iff {r : Interval} : r.isEmpty = true ↔ r.stop ≤ r.start := by
  simp [isEmpty]

theorem isEmpty_eq_false_iff {r : Interval} : r.isEmpty = false ↔ r.start < r.stop := by
  simp [isEmpty]

theorem contains_inter {r s : Interval} {i : Nat} :
    (r.inter s).contains i = (r.contains i && s.contains i) := by
  rw [Bool.eq_iff_iff]
  simp only [Bool.and_eq_true, contains_iff, inter]
  omega

/-- No number is in two of the intervals. -/
def Apart (l : List Interval) : Prop :=
  l.Pairwise fun r s => ∀ i, r.contains i = true → s.contains i = false

end Interval

namespace RangeMap

variable {α : Type}

/-! ## Values of lists of segments -/

/-- The value that a list of segments gives a number: that of the first segment around it. -/
def valueAt (l : List (Segment α)) (i : Nat) : Option α :=
  (l.find? fun s => s.range.contains i).map Segment.value

theorem get?_eq_valueAt (m : RangeMap α) (i : Nat) : m.get? i = valueAt m.segments i := rfl

@[simp] theorem valueAt_nil (i : Nat) : valueAt ([] : List (Segment α)) i = none := rfl

theorem valueAt_cons (s : Segment α) (l : List (Segment α)) (i : Nat) :
    valueAt (s :: l) i = if s.range.contains i then some s.value else valueAt l i := by
  unfold valueAt
  cases h : s.range.contains i <;> simp [h]

theorem valueAt_append (l l' : List (Segment α)) (i : Nat) :
    valueAt (l ++ l') i = (valueAt l i).or (valueAt l' i) := by
  induction l with
  | nil => simp
  | cons s l ih =>
    rw [List.cons_append, valueAt_cons, valueAt_cons, ih]
    split <;> simp

theorem exists_mem_of_valueAt {l : List (Segment α)} {i : Nat} {v : α} (h : valueAt l i = some v) :
    ∃ s ∈ l, s.range.contains i = true ∧ s.value = v := by
  obtain ⟨s, hs, rfl⟩ := Option.map_eq_some_iff.mp h
  exact ⟨s, List.mem_of_find?_eq_some hs, by simpa using List.find?_some hs, rfl⟩

theorem get?_replicate (size : Nat) (v : α) (i : Nat) :
    (replicate size v).get? i = if i < size then some v else none := by
  rw [get?_eq_valueAt, replicate]
  split
  · next h => simp [empty, h]
  · simp [valueAt_cons, Interval.contains]

/-! ## Ordered lists of segments -/

/-- The segments are not empty, follow one another in increasing order, and lie between two bounds. -/
def Ordered : Nat → List (Segment α) → Nat → Prop
  | lo, [], hi => lo ≤ hi
  | lo, s :: l, hi => lo ≤ s.range.start ∧ s.range.start < s.range.stop ∧ Ordered s.range.stop l hi

namespace Ordered

variable {lo mid hi : Nat} {l l' : List (Segment α)} {s : Segment α}

theorem le (h : Ordered lo l hi) : lo ≤ hi := by
  induction l generalizing lo with
  | nil => exact h
  | cons s l ih =>
    obtain ⟨h₁, h₂, h₃⟩ := h
    have := ih h₃
    omega

theorem mono {lo' hi' : Nat} (h : Ordered lo l hi) (hlo : lo' ≤ lo) (hhi : hi ≤ hi') :
    Ordered lo' l hi' := by
  induction l generalizing lo lo' with
  | nil => exact Nat.le_trans hlo (Nat.le_trans h hhi)
  | cons s l ih =>
    obtain ⟨h₁, h₂, h₃⟩ := h
    exact ⟨Nat.le_trans hlo h₁, h₂, ih h₃ (Nat.le_refl _)⟩

theorem append (h : Ordered lo l mid) (h' : Ordered mid l' hi) : Ordered lo (l ++ l') hi := by
  induction l generalizing lo with
  | nil => exact h'.mono h (Nat.le_refl _)
  | cons s l ih => exact ⟨h.1, h.2.1, ih h.2.2⟩

theorem mem_bounds (h : Ordered lo l hi) (hs : s ∈ l) :
    lo ≤ s.range.start ∧ s.range.start < s.range.stop ∧ s.range.stop ≤ hi := by
  induction l generalizing lo with
  | nil => cases hs
  | cons t l ih =>
    obtain ⟨h₁, h₂, h₃⟩ := h
    rcases List.mem_cons.mp hs with rfl | hs
    · exact ⟨h₁, h₂, h₃.le⟩
    · obtain ⟨h₄, h₅, h₆⟩ := ih h₃ hs
      exact ⟨by omega, h₅, h₆⟩

/-- Outside of the bounds there is nothing. -/
theorem valueAt_eq_none (h : Ordered lo l hi) {i : Nat} (hi' : i < lo ∨ hi ≤ i) :
    valueAt l i = none := by
  cases hv : valueAt l i with
  | none => rfl
  | some v =>
    obtain ⟨s, hs, hc, -⟩ := exists_mem_of_valueAt hv
    have hb := h.mem_bounds hs
    rw [Interval.contains_iff] at hc
    omega

/-- Each segment of an ordered list carries the value of each of its numbers. -/
theorem valueAt_of_mem (h : Ordered lo l hi) (hs : s ∈ l) {i : Nat}
    (hi' : s.range.contains i = true) : valueAt l i = some s.value := by
  induction l generalizing lo with
  | nil => cases hs
  | cons t l ih =>
    rw [valueAt_cons]
    rcases List.mem_cons.mp hs with rfl | hs
    · rw [if_pos hi']
    · have hb := h.2.2.mem_bounds hs
      have hn : ¬ t.range.contains i = true := by
        rw [Interval.contains_iff] at hi' ⊢
        omega
      rw [if_neg hn, ih h.2.2 hs]

/-- What is found first in an ordered list of segments is what the lowest number has. -/
theorem findSome?_eq_some {β : Type} {f : α → Option β} {b : β} (h : Ordered lo l hi) :
    l.findSome? (fun s => f s.value) = some b
      ↔ ∃ i, (valueAt l i).bind f = some b ∧ ∀ j < i, (valueAt l j).bind f = none := by
  induction l generalizing lo with
  | nil => simp
  | cons s l ih =>
    obtain ⟨hlo, hs, hl⟩ := h
    have hbelow (i : Nat) (hi : i < s.range.stop) : valueAt l i = none := hl.valueAt_eq_none (Or.inl hi)
    have hstart : s.range.contains s.range.start = true :=
      Interval.contains_iff.mpr ⟨Nat.le_refl _, hs⟩
    rw [List.findSome?_cons]
    cases hf : f s.value with
    | some c =>
      -- The first segment decides, from its first number on.
      have hfirst : (valueAt (s :: l) s.range.start).bind f = some c := by
        rw [valueAt_cons, if_pos hstart, Option.bind_some, hf]
      constructor
      · rintro ⟨⟩
        refine ⟨s.range.start, hfirst, fun j hj => ?_⟩
        have hnot : ¬ s.range.contains j = true := fun hc =>
          Nat.not_lt_of_le (Interval.contains_iff.mp hc).1 hj
        rw [valueAt_cons, if_neg hnot, hbelow j (Nat.lt_trans hj hs), Option.bind_none]
      · rintro ⟨i, hi, hlowest⟩
        rcases Nat.lt_or_ge s.range.start i with hlt | hle
        · rw [hlowest _ hlt] at hfirst
          cases hfirst
        · rw [valueAt_cons] at hi
          split at hi
          · rwa [Option.bind_some, hf] at hi
          · rw [hbelow i (Nat.lt_of_le_of_lt hle hs), Option.bind_none] at hi
            cases hi
    | none =>
      -- The first segment has nothing to offer, so that it might as well not be there.
      have hrest (i : Nat) : (valueAt (s :: l) i).bind f = (valueAt l i).bind f := by
        rw [valueAt_cons]
        split
        · next hc =>
          rw [Option.bind_some, hf, hbelow i (Interval.contains_iff.mp hc).2, Option.bind_none]
        · rfl
      simp only [hrest]
      exact ih hl

end Ordered

/-! ## Cutting -/

/-- A function that cuts every segment down to the numbers with a property cuts a list down to them. -/
theorem valueAt_filterMap {cut : Segment α → Option (Segment α)} {p : Nat → Bool}
    (hvalue : ∀ s t, cut s = some t → t.value = s.value)
    (hrange : ∀ s i, (cut s).any (fun t => t.range.contains i) = (s.range.contains i && p i))
    (l : List (Segment α)) (i : Nat) :
    valueAt (l.filterMap cut) i = if p i then valueAt l i else none := by
  induction l with
  | nil => simp
  | cons s l ih =>
    have hr := hrange s i
    rw [List.filterMap_cons, valueAt_cons]
    cases hc : cut s with
    | none =>
      rw [hc, Option.any_none] at hr
      rw [ih]
      cases hp : p i with
      | false => simp
      | true =>
        have hs : s.range.contains i = false := by simpa [hp] using hr.symm
        simp [hs]
    | some t =>
      rw [hc, Option.any_some] at hr
      simp only [valueAt_cons, hr, ih, hvalue s t hc]
      cases p i <;> cases s.range.contains i <;> simp

theorem clip_any_contains (r : Interval) (s : Segment α) (i : Nat) :
    (clip r s).any (fun t => t.range.contains i) = (s.range.contains i && r.contains i) := by
  rw [← Interval.contains_inter, clip]
  cases hp : (s.range.inter r).isEmpty with
  | true =>
    rw [Interval.isEmpty_iff] at hp
    simp only [if_true, Option.any_none]
    rw [eq_comm, Bool.eq_false_iff, ne_eq, Interval.contains_iff]
    omega
  | false => simp

theorem clipFrom_any_contains (n : Nat) (s : Segment α) (i : Nat) :
    (clipFrom n s).any (fun t => t.range.contains i) = (s.range.contains i && decide (n ≤ i)) := by
  rw [Bool.eq_iff_iff, clipFrom]
  cases hp : (⟨max s.range.start n, s.range.stop⟩ : Interval).isEmpty with
  | true =>
    rw [Interval.isEmpty_iff] at hp
    simp only [if_true, Option.any_none, Bool.false_eq_true, false_iff, Bool.and_eq_true,
      Interval.contains_iff, decide_eq_true_eq]
    simp only at hp
    omega
  | false =>
    simp only [Bool.false_eq_true, if_false, Option.any_some, Bool.and_eq_true,
      Interval.contains_iff, decide_eq_true_eq]
    omega

theorem clip_eq_some {r : Interval} {s t : Segment α} (h : clip r s = some t) :
    t = ⟨s.range.inter r, s.value⟩ ∧ t.range.start < t.range.stop := by
  simp only [clip] at h
  split at h
  · cases h
  · next hp =>
    obtain rfl := Option.some.inj h
    exact ⟨rfl, Interval.isEmpty_eq_false_iff.mp (Bool.eq_false_iff.mpr hp)⟩

theorem clipFrom_eq_some {n : Nat} {s t : Segment α} (h : clipFrom n s = some t) :
    t = ⟨⟨max s.range.start n, s.range.stop⟩, s.value⟩ ∧ t.range.start < t.range.stop := by
  simp only [clipFrom] at h
  split at h
  · cases h
  · next hp =>
    obtain rfl := Option.some.inj h
    exact ⟨rfl, Interval.isEmpty_eq_false_iff.mp (Bool.eq_false_iff.mpr hp)⟩

theorem valueAt_filterMap_clip (r : Interval) (l : List (Segment α)) (i : Nat) :
    valueAt (l.filterMap (clip r)) i = if r.contains i then valueAt l i else none :=
  valueAt_filterMap (fun _ _ h => by rw [(clip_eq_some h).1]) (clip_any_contains r) l i

theorem valueAt_within (m : RangeMap α) (r : Interval) (i : Nat) :
    valueAt (m.within r) i = if r.contains i then m.get? i else none :=
  valueAt_filterMap_clip r m.segments i

theorem valueAt_flatMap_within (m : RangeMap α) (ranges : List Interval) (i : Nat) :
    valueAt (ranges.flatMap m.within) i = if ranges.any (·.contains i) then m.get? i else none := by
  induction ranges with
  | nil => rfl
  | cons r ranges ih =>
    rw [List.flatMap_cons, valueAt_append, valueAt_within, ih, List.any_cons]
    cases r.contains i <;> cases ranges.any (·.contains i) <;> simp

theorem valueAt_below (m : RangeMap α) (n i : Nat) :
    valueAt (m.below n) i = if i < n then m.get? i else none := by
  rw [below, valueAt_within]
  simp [Interval.contains]

theorem valueAt_since (m : RangeMap α) (n i : Nat) :
    valueAt (m.since n) i = if n ≤ i then m.get? i else none := by
  rw [since, valueAt_filterMap (fun _ _ h => by rw [(clipFrom_eq_some h).1])
    (clipFrom_any_contains n), get?_eq_valueAt]
  simp only [decide_eq_true_eq]

theorem ordered_filterMap_clip {lo hi : Nat} {l : List (Segment α)} (h : Ordered lo l hi)
    {r : Interval} (hr : r.start ≤ r.stop) :
    Ordered (max r.start (min lo r.stop)) (l.filterMap (clip r)) r.stop := by
  induction l generalizing lo with
  | nil => simp only [List.filterMap_nil, Ordered]; omega
  | cons s l ih =>
    obtain ⟨h₁, h₂, h₃⟩ := h
    rw [List.filterMap_cons]
    cases hc : clip r s with
    | none => exact (ih h₃).mono (by omega) (Nat.le_refl _)
    | some t =>
      obtain ⟨rfl, hlt⟩ := clip_eq_some hc
      simp only [Interval.inter] at hlt
      refine ⟨?_, hlt, (ih h₃).mono ?_ (Nat.le_refl _)⟩ <;> simp only [Interval.inter] <;> omega

theorem ordered_filterMap_clipFrom {lo hi : Nat} {l : List (Segment α)} (h : Ordered lo l hi)
    (n : Nat) : Ordered (max n lo) (l.filterMap (clipFrom n)) (max n hi) := by
  induction l generalizing lo with
  | nil =>
    have := h.le
    simp only [List.filterMap_nil, Ordered]
    omega
  | cons s l ih =>
    obtain ⟨h₁, h₂, h₃⟩ := h
    rw [List.filterMap_cons]
    cases hc : clipFrom n s with
    | none => exact (ih h₃).mono (by omega) (Nat.le_refl _)
    | some t =>
      obtain ⟨rfl, hlt⟩ := clipFrom_eq_some hc
      simp only at hlt
      refine ⟨?_, hlt, (ih h₃).mono ?_ (Nat.le_refl _)⟩ <;> simp only <;> omega

theorem ordered_within {lo hi : Nat} {m : RangeMap α} (h : Ordered lo m.segments hi)
    {r : Interval} (hr : r.start ≤ r.stop) : Ordered r.start (m.within r) r.stop :=
  (ordered_filterMap_clip h hr).mono (by omega) (Nat.le_refl _)

theorem ordered_since {lo hi : Nat} {m : RangeMap α} (h : Ordered lo m.segments hi) (n : Nat) :
    Ordered n (m.since n) (max n hi) :=
  (ordered_filterMap_clipFrom h n).mono (by omega) (Nat.le_refl _)

/-! ## Joining -/

theorem canonicalList_cons {s : Segment α} {l : List (Segment α)} :
    CanonicalList (s :: l) ↔
      s.range.start < s.range.stop ∧ (∀ t ∈ l.head?, Separated s t) ∧ CanonicalList l := by
  cases l with
  | nil => simp [CanonicalList]
  | cons t l => simp [CanonicalList]

section Joining

variable [DecidableEq α]

theorem coalesce_cons (s : Segment α) (l : List (Segment α)) :
    coalesce (s :: l) = s :: coalesce l ∨
      ∃ t others, coalesce l = t :: others ∧ s.range.stop = t.range.start ∧ s.value = t.value ∧
        coalesce (s :: l) = ⟨⟨s.range.start, t.range.stop⟩, s.value⟩ :: others := by
  rw [coalesce]
  cases hl : coalesce l with
  | nil => exact Or.inl rfl
  | cons t others =>
    simp only
    split
    · next h => exact Or.inr ⟨t, others, rfl, h.1, h.2, rfl⟩
    · exact Or.inl rfl

theorem ordered_coalesce {lo hi : Nat} {l : List (Segment α)} (h : Ordered lo l hi) :
    Ordered lo (coalesce l) hi := by
  induction l generalizing lo with
  | nil => exact h
  | cons s l ih =>
    obtain ⟨h₁, h₂, h₃⟩ := h
    have hl := ih h₃
    rcases coalesce_cons s l with he | ⟨t, others, ht, hstop, -, he⟩
    · rw [he]
      exact ⟨h₁, h₂, hl⟩
    · rw [ht] at hl
      rw [he]
      exact ⟨h₁, Nat.lt_of_lt_of_le h₂ (Nat.le_trans hl.1 (Nat.le_of_lt hl.2.1)), hl.2.2⟩

theorem valueAt_coalesce {lo hi : Nat} {l : List (Segment α)} (h : Ordered lo l hi) (i : Nat) :
    valueAt (coalesce l) i = valueAt l i := by
  induction l generalizing lo with
  | nil => rfl
  | cons s l ih =>
    obtain ⟨h₁, h₂, h₃⟩ := h
    have hl := ih h₃
    rcases coalesce_cons s l with he | ⟨t, others, ht, hstop, hvalue, he⟩
    · rw [he, valueAt_cons, valueAt_cons, hl]
    · have hord := ordered_coalesce h₃
      rw [ht] at hord
      rw [he, valueAt_cons, valueAt_cons, ← hl, ht, valueAt_cons]
      -- The joined segment is around exactly the numbers that one of the two parts is around.
      have hc : (⟨s.range.start, t.range.stop⟩ : Interval).contains i
          = (s.range.contains i || t.range.contains i) := by
        have := hord.2.1
        rw [Bool.eq_iff_iff]
        simp only [Bool.or_eq_true, Interval.contains_iff]
        omega
      rw [hc]
      cases s.range.contains i <;> simp [hvalue]

theorem canonicalList_coalesce {lo hi : Nat} {l : List (Segment α)} (h : Ordered lo l hi) :
    CanonicalList (coalesce l) := by
  induction l generalizing lo with
  | nil => trivial
  | cons s l ih =>
    obtain ⟨h₁, h₂, h₃⟩ := h
    have hord := ordered_coalesce h₃
    have hl := ih h₃
    rw [coalesce]
    cases hc : coalesce l with
    | nil => exact h₂
    | cons t others =>
      rw [hc] at hord hl
      simp only
      split
      · next hjoin =>
        -- What is separated from the second segment is separated from the joined one, which has its value.
        rw [canonicalList_cons] at hl ⊢
        refine ⟨Nat.lt_trans h₂ (hjoin.1 ▸ hl.1), fun u hu => ?_, hl.2.2⟩
        rcases hl.2.1 u hu with hgap | ⟨htouch, hne⟩
        · exact Or.inl hgap
        · exact Or.inr ⟨htouch, hjoin.2 ▸ hne⟩
      · next hapart =>
        refine ⟨h₂, ?_, hl⟩
        rcases Nat.lt_or_eq_of_le hord.1 with hlt | heq
        · exact Or.inl hlt
        · exact Or.inr ⟨heq, fun hv => hapart ⟨heq, hv⟩⟩

end Joining

/-! ## The canonical form -/

theorem Separated.le {s t : Segment α} (h : Separated s t) : s.range.stop ≤ t.range.start := by
  rcases h with hgap | ⟨htouch, -⟩ <;> omega

theorem CanonicalList.exists_ordered {l : List (Segment α)} (h : CanonicalList l) (lo : Nat)
    (hlo : ∀ s ∈ l.head?, lo ≤ s.range.start) : ∃ hi, Ordered lo l hi := by
  induction l generalizing lo with
  | nil => exact ⟨lo, Nat.le_refl _⟩
  | cons s l ih =>
    obtain ⟨h₁, h₂, h₃⟩ := canonicalList_cons.mp h
    obtain ⟨hi, hl⟩ := ih h₃ _ fun t ht => (h₂ t ht).le
    exact ⟨hi, hlo s rfl, h₁, hl⟩

theorem CanonicalList.ordered {l : List (Segment α)} (h : CanonicalList l) :
    ∃ hi, Ordered 0 l hi :=
  h.exists_ordered 0 fun _ _ => Nat.zero_le _

/-- The first segment of a canonical list ends where the values change. -/
theorem CanonicalList.valueAt_stop_ne {s : Segment α} {l : List (Segment α)}
    (h : CanonicalList (s :: l)) : valueAt (s :: l) s.range.stop ≠ some s.value := by
  obtain ⟨h₁, h₂, h₃⟩ := canonicalList_cons.mp h
  have hs : s.range.contains s.range.stop = false := by simp [Interval.contains]
  rw [valueAt_cons, hs]
  cases l with
  | nil => simp
  | cons t l =>
    obtain ⟨ht, -, -⟩ := canonicalList_cons.mp h₃
    obtain ⟨hi, hord⟩ := h₃.exists_ordered t.range.start (by simp)
    rcases h₂ t rfl with hgap | ⟨htouch, hne⟩
    · rw [if_neg (by simp), hord.valueAt_eq_none (Or.inl hgap)]
      simp
    · have hc : t.range.contains s.range.stop = true := by
        rw [Interval.contains_iff]
        omega
      rw [if_neg (by simp), valueAt_cons, if_pos hc]
      simpa using fun hv => hne hv.symm

theorem CanonicalList.valueAt_start {s : Segment α} {l : List (Segment α)}
    (h : CanonicalList (s :: l)) : valueAt (s :: l) s.range.start = some s.value := by
  obtain ⟨h₁, -, -⟩ := canonicalList_cons.mp h
  rw [valueAt_cons, if_pos (Interval.contains_iff.mpr ⟨Nat.le_refl _, h₁⟩)]

/-- A list whose first segment starts later gives no value to where the other one starts. -/
theorem CanonicalList.start_le {s t : Segment α} {l l' : List (Segment α)}
    (h : CanonicalList (s :: l)) (h' : CanonicalList (t :: l'))
    (heq : ∀ i, valueAt (s :: l) i = valueAt (t :: l') i) : t.range.start ≤ s.range.start := by
  refine Nat.le_of_not_lt fun hlt => ?_
  obtain ⟨hi, hord⟩ := h'.exists_ordered t.range.start (by simp)
  have hv := heq s.range.start
  rw [h.valueAt_start, hord.valueAt_eq_none (Or.inl hlt)] at hv
  cases hv

/-- A first segment with the same start and value cannot end before the other one does. -/
theorem CanonicalList.stop_le {s t : Segment α} {l l' : List (Segment α)}
    (h : CanonicalList (s :: l)) (hstart : s.range.start = t.range.start) (hvalue : s.value = t.value)
    (heq : ∀ i, valueAt (s :: l) i = valueAt (t :: l') i) : t.range.stop ≤ s.range.stop := by
  refine Nat.le_of_not_lt fun hlt => h.valueAt_stop_ne ?_
  obtain ⟨h₁, -, -⟩ := canonicalList_cons.mp h
  have hc : t.range.contains s.range.stop = true := by
    rw [Interval.contains_iff]
    omega
  rw [heq, valueAt_cons, if_pos hc, hvalue]

/-- A canonical list is determined by its values. -/
theorem CanonicalList.ext {l l' : List (Segment α)} (h : CanonicalList l) (h' : CanonicalList l')
    (heq : ∀ i, valueAt l i = valueAt l' i) : l = l' := by
  induction l generalizing l' with
  | nil =>
    cases l' with
    | nil => rfl
    | cons t l' =>
      have hv := heq t.range.start
      rw [h'.valueAt_start] at hv
      cases hv
  | cons s l ih =>
    cases l' with
    | nil =>
      have hv := heq s.range.start
      rw [h.valueAt_start] at hv
      cases hv
    | cons t l' =>
      have hstart : s.range.start = t.range.start :=
        Nat.le_antisymm (h'.start_le h fun i => (heq i).symm) (h.start_le h' heq)
      have hvalue : s.value = t.value := by
        have hv := heq s.range.start
        rw [h.valueAt_start, hstart, h'.valueAt_start] at hv
        exact Option.some.inj hv
      have hstop : s.range.stop = t.range.stop :=
        Nat.le_antisymm (h'.stop_le hstart.symm hvalue.symm fun i => (heq i).symm)
          (h.stop_le hstart hvalue heq)
      have hst : s = t := by
        obtain ⟨⟨_, _⟩, _⟩ := s
        obtain ⟨⟨_, _⟩, _⟩ := t
        simp_all
      subst hst
      obtain ⟨-, h₂, h₃⟩ := canonicalList_cons.mp h
      obtain ⟨-, h₂', h₃'⟩ := canonicalList_cons.mp h'
      obtain ⟨hi, hord⟩ := h₃.exists_ordered _ fun u hu => (h₂ u hu).le
      obtain ⟨hi', hord'⟩ := h₃'.exists_ordered _ fun u hu => (h₂' u hu).le
      rw [ih h₃ h₃' fun i => ?_]
      -- Below the end of the first segment the rests have no values.
      by_cases hi₀ : i < s.range.stop
      · rw [hord.valueAt_eq_none (Or.inl hi₀), hord'.valueAt_eq_none (Or.inl hi₀)]
      · have hc : s.range.contains i = false := by
          rw [Bool.eq_false_iff, ne_eq, Interval.contains_iff]
          omega
        have hv := heq i
        rwa [valueAt_cons, valueAt_cons, hc] at hv

theorem Canonical.ordered {m : RangeMap α} (h : m.Canonical) : ∃ hi, Ordered 0 m.segments hi :=
  CanonicalList.ordered h

theorem canonical_empty : (empty : RangeMap α).Canonical := trivial

theorem canonical_replicate (size : Nat) (v : α) : (replicate size v).Canonical := by
  rw [replicate]
  split
  · exact canonical_empty
  · next h => exact Nat.pos_of_ne_zero h

/-- Cutting a canonical list down to an interval leaves it canonical. -/
theorem canonicalList_filterMap_clip {l : List (Segment α)} (h : CanonicalList l) (r : Interval) :
    CanonicalList (l.filterMap (clip r)) := by
  induction l with
  | nil => trivial
  | cons s l ih =>
    obtain ⟨h₁, h₂, h₃⟩ := canonicalList_cons.mp h
    rw [List.filterMap_cons]
    cases hc : clip r s with
    | none => exact ih h₃
    | some s' =>
      obtain ⟨rfl, hlt⟩ := clip_eq_some hc
      refine canonicalList_cons.mpr ⟨hlt, fun t' ht' => ?_, ih h₃⟩
      obtain ⟨t, ht, hct⟩ := List.mem_filterMap.mp (List.mem_of_mem_head? ht')
      obtain ⟨rfl, hlt'⟩ := clip_eq_some hct
      obtain ⟨hi, hord⟩ := h.ordered
      have hst := hord.2.2.mem_bounds ht
      simp only [Interval.inter] at hlt'
      by_cases hgap : s.range.stop < max t.range.start r.start
      · exact Or.inl (by simp only [Interval.inter]; omega)
      · refine Or.inr ⟨by simp only [Interval.inter]; omega, fun hv => h.valueAt_stop_ne ?_⟩
        -- The two touch, so that the end of `s` is a number of `t`.
        have hmem : t.range.contains s.range.stop = true := by
          rw [Interval.contains_iff]
          omega
        rw [hord.valueAt_of_mem (List.mem_cons_of_mem s ht) hmem]
        exact congrArg some hv.symm

theorem canonicalList_within {m : RangeMap α} (h : m.Canonical) (r : Interval) :
    CanonicalList (m.within r) :=
  canonicalList_filterMap_clip h r

/-- The parts of two maps inside of an interval are the same if they hold the same values there. -/
theorem within_congr {m m' : RangeMap α} (h : m.Canonical) (h' : m'.Canonical) {r : Interval}
    (heq : ∀ i, r.contains i = true → m.get? i = m'.get? i) : m.within r = m'.within r := by
  refine CanonicalList.ext (canonicalList_within h r) (canonicalList_within h' r) fun i => ?_
  rw [valueAt_within, valueAt_within]
  split
  · next hi => exact heq i hi
  · rfl

/-- The values inside of an interval are the values of the parts inside of it. -/
theorem exists_mem_within_iff {m : RangeMap α} (h : m.Canonical) {r : Interval} {v : α} :
    (∃ s ∈ m.within r, s.value = v) ↔ ∃ i, r.contains i = true ∧ m.get? i = some v := by
  constructor
  · rintro ⟨s, hs, rfl⟩
    obtain ⟨hi, hord⟩ := (canonicalList_within h r).ordered
    have hb := hord.mem_bounds hs
    have hv := hord.valueAt_of_mem hs (i := s.range.start)
      (Interval.contains_iff.mpr ⟨Nat.le_refl _, hb.2.1⟩)
    rw [valueAt_within] at hv
    split at hv
    · next hc => exact ⟨s.range.start, hc, hv⟩
    · cases hv
  · rintro ⟨i, hc, hv⟩
    have hw := valueAt_within m r i
    rw [if_pos hc, hv] at hw
    obtain ⟨s, hs, -, hsv⟩ := exists_mem_of_valueAt hw
    exact ⟨s, hs, hsv⟩

/-- The segments of a canonical map carry exactly its values. -/
theorem mem_segments_get? {m : RangeMap α} (h : m.Canonical) {s : Segment α} (hs : s ∈ m.segments)
    {i : Nat} (hi : s.range.contains i = true) : m.get? i = some s.value := by
  obtain ⟨hi', hord⟩ := h.ordered
  exact hord.valueAt_of_mem hs hi

theorem exists_mem_segments {m : RangeMap α} {i : Nat} {v : α} (h : m.get? i = some v) :
    ∃ s ∈ m.segments, s.range.contains i = true ∧ s.value = v :=
  exists_mem_of_valueAt h

/-! ## Updating -/

theorem valueAt_fillGap (f : Option α → Option α) (lo hi i : Nat) :
    valueAt (fillGap f lo hi) i = if lo ≤ i ∧ i < hi then f none else none := by
  rw [fillGap]
  split
  · split
    · next h => simp [valueAt_cons, Interval.contains, h]
    · next h => simp [h]
  · next h =>
    rw [if_neg (by omega), valueAt_nil]

theorem ordered_fillGap (f : Option α → Option α) {lo hi : Nat} (h : lo ≤ hi) :
    Ordered lo (fillGap f lo hi) hi := by
  rw [fillGap]
  split
  · next hlt =>
    split
    · exact ⟨Nat.le_refl _, hlt, Nat.le_refl _⟩
    · exact h
  · exact h

theorem ordered_fill (f : Option α → Option α) {lo hi : Nat} {l : List (Segment α)}
    (h : Ordered lo l hi) : Ordered lo (fill f l lo hi) hi := by
  induction l generalizing lo with
  | nil => exact ordered_fillGap f h
  | cons s l ih =>
    obtain ⟨h₁, h₂, h₃⟩ := h
    rw [fill]
    exact (ordered_fillGap f h₁).append ⟨Nat.le_refl _, h₂, ih h₃⟩

theorem valueAt_fill (f : Option α → Option α) {lo hi : Nat} {l : List (Segment α)}
    (h : Ordered lo l hi) (i : Nat) :
    valueAt (fill f l lo hi) i
      = if lo ≤ i ∧ i < hi then (f (valueAt l i)).or (valueAt l i) else none := by
  induction l generalizing lo with
  | nil =>
    rw [fill, valueAt_fillGap, valueAt_nil]
    simp
  | cons s l ih =>
    obtain ⟨h₁, h₂, h₃⟩ := h
    have hle := h₃.le
    rw [fill, valueAt_append, valueAt_fillGap, valueAt_cons, ih h₃, valueAt_cons]
    by_cases hc : s.range.contains i = true
    · have hs := Interval.contains_iff.mp hc
      rw [if_neg (by omega), if_pos hc, if_pos hc, if_pos (by omega)]
      cases f (some s.value) <;> simp
    · have hs := mt Interval.contains_iff.mpr hc
      rw [if_neg hc, if_neg hc]
      by_cases hlt : i < s.range.start
      -- Before the segment there is the gap that `f` may fill; after it the rest goes on.
      · rw [h₃.valueAt_eq_none (Or.inl (by omega)), if_neg (by omega : ¬ (s.range.stop ≤ i ∧ i < hi))]
        by_cases hlo : lo ≤ i
        · rw [if_pos ⟨hlo, hlt⟩, if_pos ⟨hlo, by omega⟩]
        · rw [if_neg (by omega), if_neg (by omega)]
          rfl
      · rw [if_neg (by omega), Option.none_or]
        by_cases hin : s.range.stop ≤ i ∧ i < hi
        · rw [if_pos hin, if_pos (by omega)]
        · rw [if_neg hin, if_neg (by omega)]

theorem ordered_update_parts {m : RangeMap α} {r : Interval} (hr : r.start ≤ r.stop) {hi : Nat}
    (h : Ordered 0 m.segments hi) (f : Option α → Option α) :
    Ordered 0 (m.below r.start ++ fill f (m.within r) r.start r.stop ++ m.since r.stop)
      (max r.stop hi) := by
  have hbelow : Ordered 0 (m.below r.start) r.start :=
    ordered_within (r := ⟨0, r.start⟩) h (Nat.zero_le _)
  exact (hbelow.append (ordered_fill f (ordered_within h hr))).append (ordered_since h r.stop)

section Updating

variable [DecidableEq α]

theorem canonical_update {m : RangeMap α} (h : m.Canonical) (r : Interval)
    (f : Option α → Option α) : (m.update r f).Canonical := by
  obtain ⟨hi, hord⟩ := h.ordered
  rw [update]
  split
  · exact h
  · next he =>
    have hr : r.start < r.stop := Interval.isEmpty_eq_false_iff.mp (Bool.eq_false_iff.mpr he)
    exact canonicalList_coalesce (ordered_update_parts (Nat.le_of_lt hr) hord f)

/-- An update replaces each value inside of the interval, where `f` gives one, and nothing else. -/
theorem get?_update {m : RangeMap α} (h : m.Canonical) (r : Interval) (f : Option α → Option α)
    (i : Nat) :
    (m.update r f).get? i = if r.contains i then (f (m.get? i)).or (m.get? i) else m.get? i := by
  obtain ⟨hi, hord⟩ := h.ordered
  rw [update]
  split
  · next he =>
    have hc : ¬ r.contains i = true := by
      rw [Interval.isEmpty_iff] at he
      rw [Interval.contains_iff]
      omega
    rw [if_neg hc]
  · next he =>
    have hr : r.start < r.stop := Interval.isEmpty_eq_false_iff.mp (Bool.eq_false_iff.mpr he)
    have hw := ordered_within hord (Nat.le_of_lt hr)
    -- A number is in just one of the three parts that the update is put together from.
    rw [get?_eq_valueAt, valueAt_coalesce (ordered_update_parts (Nat.le_of_lt hr) hord f), valueAt_append,
      valueAt_append, valueAt_below, valueAt_fill f hw, valueAt_since, valueAt_within]
    by_cases hc : r.contains i = true
    · have hb := Interval.contains_iff.mp hc
      rw [if_neg (by omega), if_pos hb, if_pos hc, if_neg (by omega : ¬ r.stop ≤ i), if_pos hc]
      simp
    · have hb := mt Interval.contains_iff.mpr hc
      rw [if_neg hb, if_neg hc]
      by_cases hlt : i < r.start
      · rw [if_pos hlt, if_neg (by omega)]
        simp
      · rw [if_neg hlt, if_pos (by omega)]
        simp

theorem canonical_updateAll {m : RangeMap α} (h : m.Canonical) (ranges : List Interval)
    (f : Option α → Option α) : (m.updateAll ranges f).Canonical := by
  induction ranges generalizing m with
  | nil => exact h
  | cons r ranges ih => exact ih (canonical_update h r f)

/-- Updating pairwise disjoint intervals updates each of their numbers once. -/
theorem get?_updateAll {m : RangeMap α} (h : m.Canonical) {ranges : List Interval}
    (hd : Interval.Apart ranges)
    (f : Option α → Option α) (i : Nat) :
    (m.updateAll ranges f).get? i
      = if ranges.any (·.contains i) then (f (m.get? i)).or (m.get? i) else m.get? i := by
  induction ranges generalizing m with
  | nil => rfl
  | cons r ranges ih =>
    obtain ⟨hr, hd⟩ := List.pairwise_cons.mp hd
    have hu := ih (canonical_update h r f) hd
    rw [get?_update h] at hu
    rw [updateAll, List.foldl_cons, ← updateAll, hu, List.any_cons]
    cases hc : r.contains i with
    | false => simp
    | true =>
      -- No later interval updates the number again.
      have hn : ranges.any (·.contains i) = false := by
        rw [List.any_eq_false]
        intro s hs
        simpa using hr s hs i hc
      simp [hn]

end Updating

end RangeMap

end VulkanValidity
