/-
  VulkanValidity.UseTable

  Tables of uses: how often each object is in use. An object has a counter as long as it is in use, and
  the counter goes away with the last use.

  The counters are exact numbers. A counter has 32 bits, and a table tells whether all of its counters
  fit (`UseTable.fits`).
-/

import VulkanValidity.Handle

namespace VulkanValidity

/-! ## Lists of counters -/

/-- Counts one more use of an object. -/
def incrementUse (id : ObjectId) : List (ObjectId × Nat) → List (ObjectId × Nat)
  | [] => [(id, 1)]
  | entry :: rest =>
    if entry.1 = id then (id, entry.2 + 1) :: rest else entry :: incrementUse id rest

/-- Takes back one use of an object, and its counter if that was the last one. -/
def decrementUse (id : ObjectId) : List (ObjectId × Nat) → List (ObjectId × Nat)
  | [] => []
  | entry :: rest =>
    if entry.1 = id then
      if entry.2 = 1 then rest else (id, entry.2 - 1) :: rest
    else entry :: decrementUse id rest

theorem mem_keys_incrementUse {id other : ObjectId} {entries : List (ObjectId × Nat)} :
    other ∈ (incrementUse id entries).map Prod.fst ↔ other = id ∨ other ∈ entries.map Prod.fst := by
  induction entries with
  | nil => simp [incrementUse]
  | cons entry rest ih =>
    unfold incrementUse
    split
    · next hkey => simp [hkey]
    · rw [List.map_cons, List.mem_cons, ih, List.map_cons, List.mem_cons]
      exact or_left_comm

theorem nodup_incrementUse (id : ObjectId) {entries : List (ObjectId × Nat)}
    (h : (entries.map Prod.fst).Nodup) : ((incrementUse id entries).map Prod.fst).Nodup := by
  induction entries with
  | nil => simp [incrementUse]
  | cons entry rest ih =>
    obtain ⟨hfirst, hrest⟩ := List.nodup_cons.mp h
    unfold incrementUse
    split
    · next hkey => exact List.nodup_cons.mpr ⟨hkey ▸ hfirst, hrest⟩
    · next hkey =>
      refine List.nodup_cons.mpr ⟨fun hmem => ?_, ih hrest⟩
      rcases mem_keys_incrementUse.mp hmem with heq | hmem
      · exact hkey heq
      · exact hfirst hmem

theorem pos_of_mem_incrementUse {id : ObjectId} {entries : List (ObjectId × Nat)}
    (h : ∀ entry ∈ entries, 0 < entry.2) : ∀ entry ∈ incrementUse id entries, 0 < entry.2 := by
  induction entries with
  | nil => simp [incrementUse]
  | cons first rest ih =>
    rw [List.forall_mem_cons] at h
    unfold incrementUse
    split
    · exact List.forall_mem_cons.mpr ⟨Nat.succ_pos _, h.2⟩
    · exact List.forall_mem_cons.mpr ⟨h.1, ih h.2⟩

/-- No object gets a counter when a use is taken back. -/
theorem keys_decrementUse_sublist (id : ObjectId) (entries : List (ObjectId × Nat)) :
    ((decrementUse id entries).map Prod.fst).Sublist (entries.map Prod.fst) := by
  induction entries with
  | nil => exact .slnil
  | cons entry rest ih =>
    unfold decrementUse
    split
    · next hkey =>
      split
      · exact List.sublist_cons_self _ _
      · simp [hkey]
    · exact ih.cons_cons entry.1

theorem pos_of_mem_decrementUse {id : ObjectId} {entries : List (ObjectId × Nat)}
    (h : ∀ entry ∈ entries, 0 < entry.2) : ∀ entry ∈ decrementUse id entries, 0 < entry.2 := by
  induction entries with
  | nil => exact h
  | cons first rest ih =>
    rw [List.forall_mem_cons] at h
    unfold decrementUse
    split
    · split
      · exact h.2
      · next hmore =>
        refine List.forall_mem_cons.mpr ⟨?_, h.2⟩
        show 0 < first.2 - 1
        omega
    · exact List.forall_mem_cons.mpr ⟨h.1, ih h.2⟩

/-! ## Tables -/

/-- The numbers of uses of the objects that are in use. -/
structure UseTable where
  /-- The objects with their counters. -/
  entries : List (ObjectId × Nat)
  /-- An object has one counter. -/
  distinct : (entries.map Prod.fst).Nodup
  /-- An object that is not in use has none. -/
  positive : ∀ entry ∈ entries, 0 < entry.2

namespace UseTable

/-- The table without uses. -/
def empty : UseTable := ⟨[], .nil, fun _ hmem => by cases hmem⟩

/-- Whether an object is in use. -/
def contains (table : UseTable) (id : ObjectId) : Bool := (table.entries.lookup id).isSome

/-- The number of uses of an object. -/
def count (table : UseTable) (id : ObjectId) : Nat := (table.entries.lookup id).getD 0

/-- Counts one more use of an object. -/
def add (table : UseTable) (id : ObjectId) : UseTable where
  entries := incrementUse id table.entries
  distinct := nodup_incrementUse id table.distinct
  positive := pos_of_mem_incrementUse table.positive

/-- Takes back one use of an object, if it is in use. -/
def remove (table : UseTable) (id : ObjectId) : UseTable where
  entries := decrementUse id table.entries
  distinct := table.distinct.sublist (keys_decrementUse_sublist id table.entries)
  positive := pos_of_mem_decrementUse table.positive

/-- Counts one more use of each of the objects, as often as the list names it. -/
def addAll (table : UseTable) (ids : List ObjectId) : UseTable := ids.foldl add table

/-- Takes back one use of each of the objects, as often as the list names it. -/
def removeAll (table : UseTable) (ids : List ObjectId) : UseTable := ids.foldl remove table

/-- Whether every counter fits its 32 bits. -/
def fits (table : UseTable) : Bool := table.entries.all fun entry => entry.2 ≤ 0xffffffff

end UseTable

end VulkanValidity
