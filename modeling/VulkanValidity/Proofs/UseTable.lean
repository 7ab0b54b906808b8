/-
  VulkanValidity.Proofs.UseTable

  What tables of uses count.  A table is used through the counts of its objects: the lemmas say what each
  operation does to the count of every object, and that an object is in the table exactly if its count is
  not zero.
-/

import Mathlib.Algebra.Group.Nat.Defs
import VulkanValidity.Proofs.Registry

namespace VulkanValidity

/-! ## Lists of counters -/

theorem lookup_incrementUse (id other : ObjectId) (entries : List (ObjectId × Nat)) :
    (incrementUse id entries).lookup other
      = if other = id then some ((entries.lookup id).getD 0 + 1) else entries.lookup other := by
  induction entries with
  | nil => exact lookup_cons_eq_ite id other 1 []
  | cons entry rest ih =>
    obtain ⟨key, n⟩ := entry
    unfold incrementUse
    by_cases hkey : key = id
    · subst hkey
      by_cases h : other = key <;> simp [lookup_cons_eq_ite, h]
    · have hid : ¬id = key := fun heq => hkey heq.symm
      rw [if_neg hkey, lookup_cons_eq_ite, ih, lookup_cons_eq_ite, lookup_cons_eq_ite, if_neg hid]
      by_cases h : other = id
      · subst h
        rw [if_neg hid, if_pos rfl, if_pos rfl]
      · rw [if_neg h, if_neg h]

/-- Taking back a use takes one from the counter of the object, and nothing from the others. -/
theorem lookup_decrementUse {id : ObjectId} (other : ObjectId) {entries : List (ObjectId × Nat)}
    (hdistinct : (entries.map Prod.fst).Nodup) :
    ((decrementUse id entries).lookup other).getD 0
      = (entries.lookup other).getD 0 - if other = id then 1 else 0 := by
  induction entries with
  | nil => exact (Nat.zero_sub _).symm
  | cons entry rest ih =>
    obtain ⟨key, n⟩ := entry
    obtain ⟨hfirst, hrest⟩ := List.nodup_cons.mp hdistinct
    unfold decrementUse
    by_cases hkey : key = id
    · subst hkey
      rw [if_pos rfl, lookup_cons_eq_ite]
      split
      · next hone =>
        -- The counter goes away, and there is no other one for the object.
        obtain rfl : n = 1 := hone
        by_cases h : other = key
        · subst h
          simp [lookup_eq_none_iff_not_mem.mpr hfirst]
        · simp [h]
      · by_cases h : other = key <;> simp [lookup_cons_eq_ite, h]
    · rw [if_neg hkey, lookup_cons_eq_ite, lookup_cons_eq_ite]
      by_cases h : other = key
      · subst h
        simp [hkey]
      · simpa [h] using ih hrest

/-! ## Counts -/

namespace UseTable

@[simp] theorem count_add (table : UseTable) (id other : ObjectId) :
    (table.add id).count other = table.count other + if other = id then 1 else 0 := by
  rw [count, add, lookup_incrementUse]
  by_cases h : other = id
  · rw [if_pos h, if_pos h, h, count]
    rfl
  · rw [if_neg h, if_neg h, count, Nat.add_zero]

@[simp] theorem count_remove (table : UseTable) (id other : ObjectId) :
    (table.remove id).count other = table.count other - if other = id then 1 else 0 :=
  lookup_decrementUse other table.distinct

theorem count_addAll (table : UseTable) (ids : List ObjectId) (id : ObjectId) :
    (table.addAll ids).count id = table.count id + ids.count id := by
  induction ids generalizing table with
  | nil => rfl
  | cons first ids ih =>
    rw [addAll, List.foldl_cons]
    refine (ih (table.add first)).trans ?_
    rw [count_add, List.count_cons]
    simp only [beq_iff_eq, eq_comm (a := first)]
    omega

theorem count_removeAll (table : UseTable) (ids : List ObjectId) (id : ObjectId) :
    (table.removeAll ids).count id = table.count id - ids.count id := by
  induction ids generalizing table with
  | nil => rfl
  | cons first ids ih =>
    rw [removeAll, List.foldl_cons]
    refine (ih (table.remove first)).trans ?_
    rw [count_remove, List.count_cons]
    simp only [beq_iff_eq, eq_comm (a := first)]
    omega

theorem mem_entries {table : UseTable} {id : ObjectId} {n : Nat} :
    (id, n) ∈ table.entries ↔ table.entries.lookup id = some n :=
  (lookup_eq_some_iff_mem table.distinct).symm

/-- The objects in a table are those with uses. -/
theorem contains_iff {table : UseTable} {id : ObjectId} :
    table.contains id = true ↔ 0 < table.count id := by
  rw [contains, count]
  cases hlookup : table.entries.lookup id with
  | none => simp
  | some n => simp [table.positive _ (mem_entries.mpr hlookup)]

theorem fits_iff {table : UseTable} : table.fits = true ↔ ∀ id, table.count id < 2 ^ 32 := by
  rw [fits, List.all_eq_true]
  constructor
  · intro h id
    rw [count]
    cases hlookup : table.entries.lookup id with
    | none => decide
    | some n => exact Nat.lt_succ_of_le (of_decide_eq_true (h _ (mem_entries.mpr hlookup)))
  · intro h entry hmem
    have hcount := h entry.1
    rw [count, mem_entries.mp hmem] at hcount
    exact decide_eq_true (Nat.le_of_lt_succ hcount)

end UseTable

end VulkanValidity
