/-
  VulkanValidity.Proofs.BatchOrder

  The order of the batches of a submission.  An order is extended by batches whose waits are over
  (`Ordered`), so that in a finished order every batch stands behind the ones that it waits for.  A batch
  that waits for itself, directly or through others, would have to stand behind itself: if the waits form
  a cycle there is no order.

  The schedule counts, for each batch, the waits that are not over (`Schedule.Fits`).  As long as batches
  are missing and the waits form no cycle, some batch is ready (`exists_ready`); and as the lowest of them
  comes first, no other order of the batches is lexicographically smaller.
-/

import Mathlib.Data.Fintype.EquivFin
import Mathlib.Data.Fintype.Card
import Mathlib.Data.List.Lex
import Mathlib.Data.List.Nodup
import Mathlib.Data.List.Perm.Subperm
import Mathlib.Logic.Relation
import Mathlib.Order.WellFounded
import VulkanValidity.Submission

namespace VulkanValidity

variable {batches : List SubmitBatch}

/-- Batch `i` waits for batch `j`. Indices out of range name no batch, and nothing waits for them. -/
def Waits (batches : List SubmitBatch) (i j : Nat) : Prop :=
  ∃ batch, batches[i]? = some batch ∧ j ∈ batch.waitFor ∧ j < batches.length

/-- An order that was made by one batch after the other, none of them twice, and each when the batches
that it waits for were there. -/
inductive Ordered (batches : List SubmitBatch) : List Nat → Prop
  | nil : Ordered batches []
  | snoc {done : List Nat} {index : Nat} {batch : SubmitBatch} (h : Ordered batches done)
      (hbatch : batches[index]? = some batch) (hnew : index ∉ done)
      (hready : ∀ j ∈ batch.waitFor, j < batches.length → j ∈ done) :
    Ordered batches (done ++ [index])

namespace Ordered

variable {order : List Nat}

theorem nodup (h : Ordered batches order) : order.Nodup := by
  induction h with
  | nil => exact List.nodup_nil
  | snoc _ _ hnew _ ih =>
    exact ih.append (List.nodup_singleton _) (List.disjoint_singleton.mpr hnew)

theorem lt_length (h : Ordered batches order) {index : Nat} (hmem : index ∈ order) :
    index < batches.length := by
  induction h with
  | nil => cases hmem
  | snoc _ hbatch _ _ ih =>
    rcases List.mem_append.mp hmem with hold | hnew
    · exact ih hold
    · rw [List.mem_singleton.mp hnew]
      exact (List.getElem?_eq_some_iff.mp hbatch).1

/-- A batch stands behind every batch that it waits for. -/
theorem idxOf_lt (h : Ordered batches order) {i j : Nat} (hi : i ∈ order) (hwaits : Waits batches i j) :
    order.idxOf j < order.idxOf i := by
  obtain ⟨batch, hbatch, hwait, hj⟩ := hwaits
  induction h with
  | nil => cases hi
  | @snoc done index last _ hlast hnew hready ih =>
    by_cases hold : i ∈ done
    · have hlt := ih hold
      have hmem : j ∈ done :=
        List.idxOf_lt_length_iff.mp (Nat.lt_trans hlt (List.idxOf_lt_length_of_mem hold))
      rwa [List.idxOf_append_of_mem hmem, List.idxOf_append_of_mem hold]
    · -- The last batch waits only for batches that were there before it.
      have hindex : i = index := List.mem_singleton.mp ((List.mem_append.mp hi).resolve_left hold)
      obtain rfl := Option.some.inj (hbatch.symm.trans (hindex ▸ hlast))
      have hmem : j ∈ done := hready j hwait hj
      rw [List.idxOf_append_of_mem hmem, List.idxOf_append_of_notMem hold]
      exact Nat.lt_of_lt_of_le (List.idxOf_lt_length_of_mem hmem) (Nat.le_add_right _ _)

end Ordered

/-! ## Ready batches -/

/-- The batch at `index` has no place in the order, and what it waits for has. -/
def Ready (batches : List SubmitBatch) (order : List Nat) (index : Nat) : Prop :=
  index < batches.length ∧ index ∉ order ∧ ∀ j, Waits batches index j → j ∈ order

theorem Ordered.snoc_ready {order : List Nat} (h : Ordered batches order) {index : Nat}
    (hready : Ready batches order index) : Ordered batches (order ++ [index]) := by
  obtain ⟨hlt, hnew, hwaits⟩ := hready
  have hbatch := List.getElem?_eq_getElem hlt
  exact h.snoc hbatch hnew fun j hj hjlt => hwaits j ⟨_, hbatch, hj, hjlt⟩

/-- If the waits form no cycle and a batch has no place yet, some batch is ready. -/
theorem exists_ready (hacyclic : ∀ i, ¬ Relation.TransGen (Waits batches) i i) {order : List Nat}
    {missing : Nat} (hlt : missing < batches.length) (hmissing : missing ∉ order) :
    ∃ index, Ready batches order index := by
  let behind (a b : Fin batches.length) : Prop := Relation.TransGen (Waits batches) b a
  have : IsTrans _ behind := ⟨fun _ _ _ hab hbc => hbc.trans hab⟩
  have : Std.Irrefl behind := ⟨fun a => hacyclic a⟩
  -- Among the batches without a place there is one that waits for none of them.
  obtain ⟨first, hfirst, hleast⟩ := (Finite.wellFounded_of_trans_of_irrefl behind).has_min
    {a | (a : Nat) ∉ order} ⟨⟨missing, hlt⟩, hmissing⟩
  refine ⟨first, first.isLt, hfirst, fun j hwaits => Classical.byContradiction fun hj => ?_⟩
  have ⟨_, _, _, hjlt⟩ := hwaits
  exact hleast ⟨j, hjlt⟩ hj (.single hwaits)

/-! ## Schedules -/

/-- Of the elements with a property, those that are not `a` and those that are `a` are all. -/
theorem countP_ne_add_count {p : Nat → Bool} {a : Nat} (ha : p a = true) (l : List Nat) :
    l.countP (fun b => p b && b != a) + l.count a = l.countP p := by
  induction l with
  | nil => rfl
  | cons b l ih =>
    by_cases hb : b = a
    · subst hb
      simp [ha, ← ih, Nat.add_assoc]
    · cases hp : p b <;> simp [hb, hp, ← ih, Nat.add_right_comm]

namespace Schedule

/-- The number of waits of a batch that are not over while the order is `order`. -/
def waitsLeft (batches : List SubmitBatch) (order : List Nat) (batch : SubmitBatch) : Nat :=
  batch.waitFor.countP fun j => decide (j < batches.length) && decide (j ∉ order)

/-- The counters and the marks of a schedule fit its order. -/
structure Fits (batches : List SubmitBatch) (s : Schedule) : Prop where
  ordered : Ordered batches s.order
  waiting : s.waiting = batches.map (waitsLeft batches s.order)
  done : s.done.length = batches.length
  done_iff : ∀ index < batches.length, s.done[index]? = some (decide (index ∈ s.order))

theorem fits_start (batches : List SubmitBatch) : (start batches).Fits batches where
  ordered := .nil
  waiting := by simp [start, waitsLeft]
  done := List.length_map _
  done_iff index hlt := by simp [start, hlt]

/-- Nothing that a batch waits for is left if and only if all of it has a place. -/
theorem waitsLeft_eq_zero {order : List Nat} {index : Nat} (hlt : index < batches.length) :
    waitsLeft batches order batches[index] = 0 ↔ ∀ j, Waits batches index j → j ∈ order := by
  rw [waitsLeft, List.countP_eq_zero]
  constructor
  · rintro hzero j ⟨batch, hbatch, hj, hjlt⟩
    obtain rfl := Option.some.inj ((List.getElem?_eq_getElem hlt).symm.trans hbatch)
    exact Classical.byContradiction fun hnot => hzero j hj (by simp [hjlt, hnot])
  · intro hwaits j hj hleft
    simp only [Bool.and_eq_true, decide_eq_true_eq] at hleft
    exact hleft.2 (hwaits j ⟨_, List.getElem?_eq_getElem hlt, hj, hleft.1⟩)

namespace Fits

variable {s : Schedule} (h : s.Fits batches)
include h

/-- The waits that a counter loses were counted: no counter goes below zero. -/
theorem count_le_waiting {index : Nat} (hready : Ready batches s.order index) {i waits : Nat}
    {batch : SubmitBatch} (hbatch : batches[i]? = some batch) (hwaits : s.waiting[i]? = some waits) :
    batch.waitFor.count index ≤ waits := by
  rw [h.waiting, List.getElem?_map, hbatch, Option.map_some, Option.some.injEq] at hwaits
  obtain ⟨hlt, hnew, -⟩ := hready
  rw [← hwaits, waitsLeft, ← countP_ne_add_count (a := index) (by simp [hlt, hnew])]
  exact Nat.le_add_left _ _

theorem place {index : Nat} (hready : Ready batches s.order index) :
    (s.place batches index).Fits batches where
  ordered := h.ordered.snoc_ready hready
  waiting := by
    obtain ⟨hlt, hnew, -⟩ := hready
    rw [Schedule.place, h.waiting, List.zipWith_map_left, List.zipWith_self]
    refine List.map_congr_left fun batch _ => ?_
    -- The waits that are over now are those for the batch that got its place.
    have hcount := countP_ne_add_count (p := fun j => decide (j < batches.length) && decide (j ∉ s.order))
      (a := index) (by simp [hlt, hnew]) batch.waitFor
    have hleft : waitsLeft batches (s.order ++ [index]) batch
        = batch.waitFor.countP fun j =>
            (decide (j < batches.length) && decide (j ∉ s.order)) && j != index := by
      refine List.countP_congr fun j _ => ?_
      simp [and_assoc]
    rw [hleft, waitsLeft]
    omega
  done := (List.length_set ..).trans h.done
  done_iff i hi := by
    rw [Schedule.place, List.getElem?_set, h.done]
    by_cases hindex : index = i
    · simp [hindex, hi]
    · simp [hindex, h.done_iff i hi, Ne.symm hindex]

/-- A schedule finds the batches that are ready. -/
theorem isNext_iff {index : Nat} (hlt : index < batches.length) :
    (s.done[index]? == some false && s.waiting[index]? == some 0) = true
      ↔ Ready batches s.order index := by
  rw [h.done_iff index hlt, h.waiting, List.getElem?_map, List.getElem?_eq_getElem hlt, Option.map_some,
    Bool.and_eq_true, beq_iff_eq, beq_iff_eq, Option.some.injEq, Option.some.injEq, decide_eq_false_iff_not,
    waitsLeft_eq_zero hlt]
  exact ⟨fun ⟨hnew, hwaits⟩ => ⟨hlt, hnew, hwaits⟩, fun ⟨_, hnew, hwaits⟩ => ⟨hnew, hwaits⟩⟩

/-- The next batch is the lowest one that is ready. -/
theorem next?_eq_some {index : Nat} (hnext : s.next? = some index) :
    Ready batches s.order index ∧ ∀ other, Ready batches s.order other → index ≤ other := by
  obtain ⟨hp, hlt, hbelow⟩ := List.find?_range_eq_some.mp hnext
  rw [List.mem_range, h.done] at hlt
  refine ⟨(h.isNext_iff hlt).mp hp, fun other hother => Nat.le_of_not_lt fun hlower => ?_⟩
  have hnot := hbelow other hlower
  rw [(h.isNext_iff hother.1).mpr hother] at hnot
  cases hnot

/-- There is no next batch only if none is ready. -/
theorem next?_eq_none (hnext : s.next? = none) (index : Nat) : ¬ Ready batches s.order index := by
  intro hready
  have hmem : index ∈ List.range s.done.length := List.mem_range.mpr (h.done ▸ hready.1)
  exact List.find?_eq_none.mp hnext index hmem ((h.isNext_iff hready.1).mpr hready)

end Fits

end Schedule

/-! ## Complete orders -/

/-- An order of all batches in which each stands behind the ones that it waits for. -/
structure Topological (batches : List SubmitBatch) (order : List Nat) : Prop where
  perm : order.Perm (List.range batches.length)
  behind : ∀ i j, Waits batches i j → order.idxOf j < order.idxOf i

namespace Topological

variable {order : List Nat}

theorem mem_iff (h : Topological batches order) {index : Nat} :
    index ∈ order ↔ index < batches.length := h.perm.mem_iff.trans List.mem_range

/-- Each batch is ready once the batches before it have their places. -/
theorem ready {index : Nat} {rest : List Nat} (h : Topological batches (order ++ index :: rest)) :
    Ready batches order index := by
  have hnodup := h.perm.nodup_iff.mpr List.nodup_range
  have hnew : index ∉ order := fun hmem =>
    List.disjoint_of_nodup_append hnodup hmem List.mem_cons_self
  refine ⟨h.mem_iff.mp (List.mem_append_right _ List.mem_cons_self), hnew, fun j hwaits => ?_⟩
  have hbehind := h.behind index j hwaits
  rw [List.idxOf_append_of_notMem hnew, List.idxOf_cons_self, Nat.add_zero] at hbehind
  refine Classical.byContradiction fun hj => ?_
  rw [List.idxOf_append_of_notMem hj] at hbehind
  omega

end Topological

theorem Ordered.topological {order : List Nat} (h : Ordered batches order)
    (hlength : order.length = batches.length) : Topological batches order := by
  -- As many different indices as there are batches are all of them.
  have hsubset : order ⊆ List.range batches.length :=
    fun index hmem => List.mem_range.mpr (h.lt_length hmem)
  have hperm : order.Perm (List.range batches.length) :=
    (List.subperm_of_subset h.nodup hsubset).perm_of_length_le (by simp [hlength])
  refine ⟨hperm, fun i j hwaits => h.idxOf_lt (hperm.mem_iff.mpr (List.mem_range.mpr ?_)) hwaits⟩
  have ⟨_, hbatch, _⟩ := hwaits
  exact (List.getElem?_eq_some_iff.mp hbatch).1

/-- A batch that waited for itself would stand behind itself. -/
theorem Topological.acyclic {order : List Nat} (h : Topological batches order) (i : Nat) :
    ¬ Relation.TransGen (Waits batches) i i := by
  have hchain {j : Nat} (hwaits : Relation.TransGen (Waits batches) i j) :
      order.idxOf j < order.idxOf i := by
    induction hwaits with
    | single hwait => exact h.behind i _ hwait
    | tail _ hwait ih => exact Nat.lt_trans (h.behind _ _ hwait) ih
  exact fun hcycle => Nat.lt_irrefl _ (hchain hcycle)

/-! ## Rounds -/

namespace Schedule

/-- The schedule after some rounds, in each of which the next batch gets its place. -/
inductive Reached (batches : List SubmitBatch) : Nat → Schedule → Prop
  | start : Reached batches 0 (.start batches)
  | place {rounds : Nat} {s : Schedule} {index : Nat} (h : Reached batches rounds s)
      (hmissing : s.order.length < batches.length) (hnext : s.next? = some index) :
    Reached batches (rounds + 1) (s.place batches index)

namespace Reached

variable {rounds : Nat} {s : Schedule} (h : Reached batches rounds s)
include h

theorem fits : s.Fits batches := by
  induction h with
  | start => exact fits_start batches
  | place _ _ hnext ih => exact ih.place (ih.next?_eq_some hnext).1

/-- Every round gives a place to one batch. -/
theorem length_order : s.order.length = rounds := by
  induction h with
  | start => rfl
  | place _ _ _ ih => exact (List.length_append ..).trans (congrArg (· + 1) ih)

theorem rounds_le : rounds ≤ batches.length := by
  cases h with
  | start => exact Nat.zero_le _
  | place h hmissing _ => exact h.length_order ▸ hmissing

/-- The rounds go on until every batch has its place, or no batch is ready. -/
theorem complete_cases {missing : Nat} (hmissing : rounds + missing = batches.length) :
    (∃ s', Reached batches batches.length s' ∧ s.complete batches missing = some s'.order)
      ∨ ∃ rounds' s', rounds' < batches.length ∧ Reached batches rounds' s' ∧ s'.next? = none
        ∧ s.complete batches missing = none := by
  induction missing generalizing rounds s with
  | zero =>
    obtain rfl := hmissing
    exact Or.inl ⟨s, h, rfl⟩
  | succ missing ih =>
    rw [complete]
    cases hnext : s.next? with
    | none => exact Or.inr ⟨rounds, s, by omega, h, hnext, rfl⟩
    | some index =>
      have hlength := h.length_order
      exact ih (h.place (by omega) hnext) (by omega)

end Reached

/-- An order is only extended. -/
theorem prefix_of_complete {missing : Nat} {s : Schedule} {order : List Nat}
    (h : s.complete batches missing = some order) : s.order <+: order := by
  induction missing generalizing s with
  | zero => exact Option.some.inj h ▸ List.prefix_rfl
  | succ missing ih =>
    rw [complete] at h
    cases hnext : s.next? with
    | none =>
      rw [hnext] at h
      cases h
    | some index =>
      rw [hnext] at h
      exact (List.prefix_append _ _).trans (ih h)

/-- As the lowest batch that is ready comes first, no order with the same beginning is smaller. -/
theorem Fits.complete_le {s : Schedule} (hs : s.Fits batches) {missing : Nat} {order rest : List Nat}
    (h : s.complete batches missing = some order) (hrest : Topological batches (s.order ++ rest)) :
    order ≤ s.order ++ rest := by
  induction missing generalizing s rest with
  | zero =>
    obtain rfl := Option.some.inj h
    rcases List.lex_nil_or_eq_nil (r := (· < ·)) rest with hlonger | rfl
    · have hlt := List.Lex.append_left _ hlonger s.order
      rw [List.append_nil] at hlt
      exact le_of_lt hlt
    · rw [List.append_nil]
  | succ missing ih =>
    rw [complete] at h
    cases hnext : s.next? with
    | none =>
      rw [hnext] at h
      cases h
    | some index =>
      rw [hnext] at h
      obtain ⟨hready, hlowest⟩ := hs.next?_eq_some hnext
      cases rest with
      | nil =>
        -- The next batch has its place already.
        rw [List.append_nil] at hrest
        exact absurd (hrest.mem_iff.mpr hready.1) hready.2.1
      | cons other rest =>
        rcases Nat.lt_or_eq_of_le (hlowest other hrest.ready) with hlt | rfl
        · -- The other order puts a higher batch into this place.
          obtain ⟨tail, rfl⟩ := prefix_of_complete h
          rw [Schedule.place, List.append_assoc, List.singleton_append]
          exact le_of_lt (List.Lex.append_left _ (List.Lex.rel hlt) s.order)
        · rw [List.append_cons] at hrest ⊢
          exact ih (hs.place hready) h hrest

end Schedule

/-! ## The order of a submission -/

/-- The order of a submission holds every batch once, and behind the batches that it waits for. -/
theorem topological_submissionOrder? {order : List Nat} (h : submissionOrder? batches = some order) :
    Topological batches order := by
  rcases Schedule.Reached.start.complete_cases (Nat.zero_add _) with
    ⟨s, hs, hcomplete⟩ | ⟨_, _, _, _, _, hcomplete⟩
  · obtain rfl := Option.some.inj (h.symm.trans hcomplete)
    exact hs.fits.ordered.topological hs.length_order
  · cases h.symm.trans hcomplete

/-- If the waits form a cycle there is no order. -/
theorem submissionOrder?_of_cycle {i : Nat} (h : Relation.TransGen (Waits batches) i i) :
    submissionOrder? batches = none :=
  Option.eq_none_iff_forall_ne_some.mpr fun _ horder =>
    (topological_submissionOrder? horder).acyclic i h

/-- If the waits form no cycle there is an order. -/
theorem exists_submissionOrder? (hacyclic : ∀ i, ¬ Relation.TransGen (Waits batches) i i) :
    ∃ order, submissionOrder? batches = some order := by
  rcases Schedule.Reached.start.complete_cases (Nat.zero_add _) with
    ⟨s, -, hcomplete⟩ | ⟨rounds, s, hlt, hs, hnone, -⟩
  · exact ⟨s.order, hcomplete⟩
  · -- Some batch has no place yet, so that one is ready.
    obtain ⟨missing, hmem, hmissing⟩ : ∃ index ∈ List.range batches.length, index ∉ s.order := by
      refine Classical.byContradiction fun hall => ?_
      have hsubset : List.range batches.length ⊆ s.order := fun index hindex =>
        Classical.byContradiction fun hnot => hall ⟨index, hindex, hnot⟩
      have hle := (List.subperm_of_subset List.nodup_range hsubset).length_le
      rw [List.length_range, hs.length_order] at hle
      exact Nat.not_lt_of_le hle hlt
    obtain ⟨index, hready⟩ := exists_ready hacyclic (List.mem_range.mp hmem) hmissing
    exact absurd hready (hs.fits.next?_eq_none hnone index)

/-- Batches have an order exactly if their waits form no cycle. The order holds every batch once, and
behind the batches that it waits for, and it is the lexicographically smallest one that does. It is found
in as many rounds as there are batches, or given up earlier because no batch is ready. On the way the
counters count the waits that are not over, and none goes below zero. -/
theorem submissionOrder?_least (batches : List SubmitBatch) :
    ((submissionOrder? batches).isSome = true ↔ ∀ i, ¬ Relation.TransGen (Waits batches) i i)
    ∧ (∀ order, submissionOrder? batches = some order →
      Topological batches order ∧ ∀ other, Topological batches other → order ≤ other)
    ∧ (∀ rounds s, Schedule.Reached batches rounds s → rounds ≤ batches.length
      ∧ s.waiting = batches.map (Schedule.waitsLeft batches s.order)
      ∧ ∀ (index i waits : Nat) (batch : SubmitBatch), s.next? = some index →
        s.waiting[i]? = some waits → batches[i]? = some batch → batch.waitFor.count index ≤ waits)
    ∧ ((∃ s, Schedule.Reached batches batches.length s ∧ submissionOrder? batches = some s.order)
      ∨ ∃ rounds s, rounds < batches.length ∧ Schedule.Reached batches rounds s ∧ s.next? = none
        ∧ submissionOrder? batches = none) := by
  refine ⟨⟨fun hsome i hcycle => ?_, fun hacyclic => ?_⟩, fun order horder => ?_, fun rounds s hs => ?_,
    Schedule.Reached.start.complete_cases (Nat.zero_add _)⟩
  · rw [submissionOrder?_of_cycle hcycle] at hsome
    cases hsome
  · obtain ⟨order, horder⟩ := exists_submissionOrder? hacyclic
    rw [horder]
    rfl
  · exact ⟨topological_submissionOrder? horder, fun other hother =>
      (Schedule.fits_start batches).complete_le horder hother⟩
  · refine ⟨hs.rounds_le, hs.fits.waiting, fun index i waits batch hnext hwaits hbatch => ?_⟩
    exact hs.fits.count_le_waiting (hs.fits.next?_eq_some hnext).1 hbatch hwaits

/-- Three batches: the first waits for the last, twice, and the last for the second. The index 7 names no
batch. -/
def chainedBatches : List SubmitBatch :=
  [{ queue := ⟨0, 0⟩, waitFor := [2, 7, 2] }, { queue := ⟨0, 0⟩ }, { queue := ⟨0, 0⟩, waitFor := [1] }]

theorem chainedBatches_least : submissionOrder? chainedBatches = some [1, 2, 0]
    ∧ ∀ other, Topological chainedBatches other → [1, 2, 0] ≤ other := by
  have horder : submissionOrder? chainedBatches = some [1, 2, 0] := by decide
  obtain ⟨-, hleast, -, -⟩ := submissionOrder?_least chainedBatches
  exact ⟨horder, (hleast [1, 2, 0] horder).2⟩

end VulkanValidity
