/-
  VulkanValidity.Proofs.Assignments

  Expectations as a multiset that is matched against the diagnostics of a scenario.  A monitor reports none
  as missing if they can be assigned pairwise different diagnostics, and the assignment is first-come: a
  diagnostic is left to an expectation of its kind only after those of its identifier have got theirs
  (`settleAll_eq_nil_iff`).  The diagnostics of an identifier may be of several kinds, so that an assignment
  that is not first-come need not do.  One is enough for some order of the diagnostics
  (`Meetable.exists_order`), and for every order if the choice between the diagnostics of an identifier
  makes no difference (`Meetable.settled`).
-/

import Mathlib.Data.List.FinRange
import Mathlib.Data.List.Perm.Basic
import Mathlib.Data.List.Perm.Subperm
import VulkanValidity.Proofs.Settlement

namespace VulkanValidity

/-! ## Assignments -/

/-- Whether a diagnostic of some kind is expected, with any identifier. -/
def Expectation.isKind : Expectation → Bool
  | vuid _ => false
  | kind _ => true

theorem Expectation.accepts_vuid {vuid : String} {diagnostic : Diagnostic} :
    (Expectation.vuid vuid).accepts diagnostic = true ↔ diagnostic.vuid = vuid :=
  beq_iff_eq.trans eq_comm

theorem Expectation.accepts_kind {kind : ErrorKind} {diagnostic : Diagnostic} :
    (Expectation.kind kind).accepts diagnostic = true ↔ diagnostic.kind = kind :=
  beq_iff_eq.trans eq_comm

/-- An assignment of expectations to pairwise different diagnostics that are as expected. -/
structure Assignment (expected : List Expectation) (emitted : List Diagnostic) where
  position : Fin expected.length → Fin emitted.length
  injective : Function.Injective position
  accepts : ∀ i : Fin expected.length, expected[i].accepts emitted[position i] = true

/-- A diagnostic is assigned to an expectation of its kind only if each expectation of its identifier is
assigned an earlier one. -/
def Assignment.FirstCome {expected : List Expectation} {emitted : List Diagnostic}
    (assignment : Assignment expected emitted) : Prop :=
  ∀ (i j : Fin expected.length) kind, expected[i] = .kind kind →
    expected[j] = .vuid emitted[assignment.position i].vuid →
    assignment.position j < assignment.position i

/-- A diagnostic goes for an expectation that is left if one of those accepts it. -/
theorem wanted_mem {left : List Expectation} {diagnostic : Diagnostic} {expectation : Expectation}
    (hmem : expectation ∈ left) (h : expectation.accepts diagnostic = true) :
    wanted left diagnostic ∈ left := by
  by_cases hvuid : .vuid diagnostic.vuid ∈ left
  · rwa [wanted, if_pos hvuid]
  · rw [wanted_of_not_mem hvuid]
    cases expectation with
    | vuid vuid => exact absurd (Expectation.accepts_vuid.mp h ▸ hmem) hvuid
    | kind kind => exact Expectation.accepts_kind.mp h ▸ hmem

/-! ### Counting by positions -/

section Counting

variable {α β : Type}

theorem countP_take_eq_length (l : List β) (p : β → Bool) (n : ℕ) :
    (l.take n).countP p = ((List.range n).filter fun k => l[k]?.any p).length := by
  induction n with
  | zero => rfl
  | succ n ih =>
    rw [List.take_add_one, List.countP_append, ih, List.range_succ, List.filter_append,
      List.length_append]
    cases hn : l[n]? with
    | none => simp [hn]
    | some b => cases hp : p b <;> simp [hn, hp]

/-- If every occurrence of `a` has a position of its own among the first `n` of another list, and what
stands there satisfies `p`, then `a` occurs no more often than that. -/
theorem count_le_countP_take [DecidableEq α] {l : List α} {other : List β} {f : Fin l.length → ℕ}
    (hf : Function.Injective f) {a : α} {p : β → Bool} {n : ℕ}
    (h : ∀ i : Fin l.length, l[i] = a → f i < n ∧ other[f i]?.any p = true) :
    l.count a ≤ (other.take n).countP p := by
  have hcount : l.count a = (((List.finRange l.length).filter fun i => l[i] == a).map f).length := by
    rw [List.length_map, ← List.countP_eq_length_filter, List.count]
    conv_lhs => rw [← List.map_get_finRange l]
    rw [List.countP_map]
    rfl
  have hnodup : (((List.finRange l.length).filter fun i => l[i] == a).map f).Nodup :=
    ((List.nodup_finRange _).filter _).map hf
  -- The positions of the occurrences are different, and each of them is counted.
  rw [hcount, countP_take_eq_length]
  refine (List.subperm_of_subset hnodup fun k hk => ?_).length_le
  obtain ⟨i, hi, rfl⟩ := List.mem_map.mp hk
  have hposition := h i (beq_iff_eq.mp (List.mem_filter.mp hi).2)
  exact List.mem_filter.mpr ⟨List.mem_range.mpr hposition.1, hposition.2⟩

end Counting

/-! ### The assignment of a monitor -/

section FirstCome

variable {expected : List Expectation} {emitted : List Diagnostic}

/-- If nothing is left, then each expectation is assigned a diagnostic that goes for it. -/
theorem exists_firstCome (h : settleAll expected emitted = []) :
    ∃ assignment : Assignment expected emitted, assignment.FirstCome := by
  have hclaimed : expected.Subperm (claims expected emitted) := by
    refine List.subperm_ext_iff.mpr fun expectation _ => Nat.sub_eq_zero_iff_le.mp ?_
    rw [← List.count_diff, ← settleAll_eq_diff, h, List.count_nil]
  let position (i : Fin expected.length) : Fin emitted.length :=
    (hclaimed.idxInj i).cast (length_claims expected emitted)
  have hwanted (i : Fin expected.length) :
      wanted (settleAll expected (emitted.take (position i))) emitted[position i] = expected[i] :=
    (getElem_claims expected emitted _ (position i).isLt (hclaimed.idxInj i).isLt).symm.trans
      hclaimed.getElem_idxInj_eq_getElem
  refine ⟨⟨position, fun i j hij => hclaimed.idxInj_injective (Fin.cast_injective _ hij), fun i => ?_⟩,
    fun i j kind hkind hvuid => ?_⟩
  · rw [← hwanted i]
    exact wanted_accepts _ _
  · -- An expectation of the identifier was left for the one diagnostic, and none for the other.
    have hnone := not_mem_of_wanted_eq_kind ((hwanted i).trans hkind)
    have hleft := mem_of_wanted_eq_vuid ((hwanted j).trans hvuid)
    by_contra hle
    exact hnone (settleAll_take_subset expected emitted (not_lt.mp hle) hleft)

/-- No expectation of an identifier is left by the diagnostics that such expectations are assigned. -/
theorem Assignment.vuid_not_left (assignment : Assignment expected emitted) {vuid : String} {n : ℕ}
    (h : ∀ i : Fin expected.length, expected[i] = .vuid vuid → assignment.position i < n) :
    .vuid vuid ∉ settleAll expected (emitted.take n) := by
  refine List.count_eq_zero.mp ?_
  rw [count_vuid_settleAll]
  refine Nat.sub_eq_zero_of_le (count_le_countP_take (Fin.val_injective.comp assignment.injective)
    fun i hi => ⟨h i hi, ?_⟩)
  have haccepts := assignment.accepts i
  rw [hi, Expectation.accepts_vuid] at haccepts
  exact (Option.any_eq_true _ _).mpr
    ⟨_, List.getElem?_eq_getElem (assignment.position i).isLt, beq_iff_eq.mpr haccepts⟩

/-- In a first-come assignment a diagnostic that is assigned to an expectation of its kind goes for it. -/
theorem Assignment.FirstCome.claims_position {assignment : Assignment expected emitted}
    (h : assignment.FirstCome) {i : Fin expected.length} {kind : ErrorKind}
    (hi : expected[i] = .kind kind) :
    (claims expected emitted)[(assignment.position i : ℕ)]? = some (.kind kind) := by
  have hnone := assignment.vuid_not_left fun j hj => h i j kind hi hj
  have haccepts := assignment.accepts i
  rw [hi, Expectation.accepts_kind] at haccepts
  have hlt : (assignment.position i : ℕ) < (claims expected emitted).length := by
    rw [length_claims]
    exact (assignment.position i).isLt
  have hclaim := getElem_claims expected emitted _ (assignment.position i).isLt hlt
  have hwanted := (wanted_of_not_mem hnone).trans (congrArg Expectation.kind haccepts)
  exact List.getElem?_eq_some_iff.mpr ⟨hlt, hclaim.trans hwanted⟩

/-- A first-come assignment leaves nothing. -/
theorem Assignment.FirstCome.settled {assignment : Assignment expected emitted}
    (h : assignment.FirstCome) : settleAll expected emitted = [] := by
  refine List.eq_nil_iff_forall_not_mem.mpr fun expectation => ?_
  cases expectation with
  | vuid vuid =>
    have hall : .vuid vuid ∉ settleAll expected (emitted.take emitted.length) :=
      assignment.vuid_not_left fun i _ => (assignment.position i).isLt
    rwa [List.take_length] at hall
  | kind kind =>
    refine List.count_eq_zero.mp ?_
    rw [settleAll_eq_diff, List.count_diff]
    refine Nat.sub_eq_zero_of_le ?_
    rw [← List.take_length (l := claims expected emitted)]
    refine count_le_countP_take (Fin.val_injective.comp assignment.injective) fun i hi => ?_
    have hclaim := h.claims_position hi
    exact ⟨(List.getElem?_eq_some_iff.mp hclaim).1,
      (Option.any_eq_true _ _).mpr ⟨_, hclaim, beq_self_eq_true _⟩⟩

theorem settleAll_eq_nil_iff :
    settleAll expected emitted = []
      ↔ ∃ assignment : Assignment expected emitted, assignment.FirstCome :=
  ⟨exists_firstCome, fun ⟨_, h⟩ => h.settled⟩

end FirstCome

/-! ## Expectations that can be met -/

/-- For each of the expectations there is a diagnostic of its own that is as expected. -/
def Meetable (expected : List Expectation) (emitted : List Diagnostic) : Prop :=
  ∃ chosen, List.Forall₂ (fun expectation diagnostic => expectation.accepts diagnostic = true)
    expected chosen ∧ chosen.Subperm emitted

theorem nonempty_assignment_iff {expected : List Expectation} {emitted : List Diagnostic} :
    Nonempty (Assignment expected emitted) ↔ Meetable expected emitted := by
  constructor
  · rintro ⟨assignment⟩
    -- The diagnostics are chosen by their positions, which are different.
    obtain ⟨positions, hperm, hsub⟩ : ((List.finRange expected.length).map assignment.position).Subperm
        (List.finRange emitted.length) :=
      List.subperm_of_subset ((List.nodup_finRange _).map assignment.injective)
        fun position _ => List.mem_finRange position
    have hchosen := hsub.map emitted.get
    rw [List.map_get_finRange] at hchosen
    refine ⟨_, List.forall₂_iff_get.mpr ⟨by simp, fun i hi _ => ?_⟩,
      ⟨_, hperm.map emitted.get, hchosen⟩⟩
    simpa using assignment.accepts ⟨i, hi⟩
  · rintro ⟨chosen, hmeets, hchosen⟩
    refine ⟨⟨fun i => hchosen.idxInj (i.cast hmeets.length_eq),
      hchosen.idxInj_injective.comp (Fin.cast_injective _), fun i => ?_⟩⟩
    have hposition := hchosen.getElem_idxInj_eq_getElem (i := i.cast hmeets.length_eq)
    have haccepts := hmeets.get i.isLt (hmeets.length_eq ▸ i.isLt)
    exact (congrArg expected[i].accepts hposition).trans haccepts

/-- What is related to an element of a list can be moved to the front with it. -/
theorem exists_perm_cons_of_mem {α β : Type} {R : α → β → Prop} {l : List α} {other : List β}
    (h : List.Forall₂ R l other) {b : β} (hb : b ∈ other) :
    ∃ a rest remaining, l.Perm (a :: rest) ∧ other.Perm (b :: remaining) ∧ R a b
      ∧ List.Forall₂ R rest remaining := by
  induction h with
  | nil => cases hb
  | @cons a₀ b₀ l other hhead htail ih =>
    rcases List.mem_cons.mp hb with rfl | htl
    · exact ⟨a₀, l, other, .refl _, .refl _, hhead, htail⟩
    · obtain ⟨a, rest, remaining, hl, hother, hab, hrest⟩ := ih htl
      exact ⟨a, a₀ :: rest, b₀ :: remaining, (hl.cons a₀).trans (.swap a a₀ rest),
        (hother.cons b₀).trans (.swap b b₀ remaining), hab, .cons hhead hrest⟩

namespace Meetable

variable {expected : List Expectation} {emitted : List Diagnostic}

theorem perm {other : List Expectation} (h : Meetable expected emitted) (hperm : expected.Perm other) :
    Meetable other emitted := by
  obtain ⟨chosen, hmeets, hchosen⟩ := h
  obtain ⟨chosen', hmeets', hperm'⟩ := List.perm_comp_forall₂ hperm.symm hmeets
  exact ⟨chosen', hmeets', hperm'.subperm.trans hchosen⟩

theorem reorder {order : List Diagnostic} (h : Meetable expected emitted) (hperm : emitted.Perm order) :
    Meetable expected order := by
  obtain ⟨chosen, hmeets, hchosen⟩ := h
  exact ⟨chosen, hmeets, hchosen.trans hperm.subperm⟩

/-- A diagnostic that meets one expectation is not needed for another one, if every diagnostic that could
meet the former could take its place. -/
theorem of_cons {expectation : Expectation} {diagnostic : Diagnostic}
    (h : Meetable (expectation :: expected) (diagnostic :: emitted))
    (hexchange : ∀ other ∈ emitted, expectation.accepts other = true →
      ∀ own ∈ expected, own.accepts diagnostic = true → own.accepts other = true) :
    Meetable expected emitted := by
  obtain ⟨_, hmeets, hchosen⟩ := h
  cases hmeets with
  | @cons _ other _ chosen hother hmeets =>
    by_cases hmem : diagnostic ∈ chosen
    · -- It was chosen for another expectation, which takes the one that is set free.
      obtain ⟨own, rest, remaining, hexpected, hremaining, hown, hrest⟩ :=
        exists_perm_cons_of_mem hmeets hmem
      have hsub : (other :: remaining).Subperm emitted := by
        refine (List.subperm_cons diagnostic).mp (List.Subperm.trans ?_ hchosen)
        exact ((List.Perm.swap other diagnostic remaining).trans (hremaining.symm.cons other)).subperm
      have hswap := hexchange other (hsub.subset List.mem_cons_self) hother own
        (hexpected.symm.subset List.mem_cons_self) hown
      exact Meetable.perm ⟨other :: remaining, .cons hswap hrest, hsub⟩ hexpected.symm
    · have hsub := ((List.sublist_cons_self other chosen).subperm.trans hchosen).erase diagnostic
      rw [List.erase_of_not_mem hmem, List.erase_cons_head] at hsub
      exact ⟨chosen, hmeets, hsub⟩

/-- A diagnostic that no expectation accepts is not needed. -/
theorem of_not_accepted {diagnostic : Diagnostic} (h : Meetable expected (diagnostic :: emitted))
    (hnot : ∀ expectation ∈ expected, expectation.accepts diagnostic = false) :
    Meetable expected emitted := by
  obtain ⟨chosen, hmeets, hchosen⟩ := h
  have hmem : diagnostic ∉ chosen := by
    intro hmem
    obtain ⟨own, rest, -, hexpected, -, hown, -⟩ := exists_perm_cons_of_mem hmeets hmem
    exact Bool.false_ne_true ((hnot own (hexpected.symm.subset List.mem_cons_self)).symm.trans hown)
  have hsub := hchosen.erase diagnostic
  rw [List.erase_of_not_mem hmem, List.erase_cons_head] at hsub
  exact ⟨chosen, hmeets, hsub⟩

/-! ### The order of the diagnostics -/

/-- Nothing is left if each expectation gets its diagnostic in turn, those of identifiers first. -/
theorem settleAll_in_turn {chosen : List Diagnostic}
    (hmeets : List.Forall₂ (fun expectation diagnostic => expectation.accepts diagnostic = true)
      expected chosen)
    (hfirst : expected.Pairwise fun earlier later => earlier.isKind = true → later.isKind = true) :
    settleAll expected chosen = [] := by
  induction hmeets with
  | nil => rfl
  | @cons expectation diagnostic expected chosen hhead _ ih =>
    obtain ⟨hlater, hfirst⟩ := List.pairwise_cons.mp hfirst
    have hwanted : wanted (expectation :: expected) diagnostic = expectation := by
      cases expectation with
      | vuid vuid =>
        rw [Expectation.accepts_vuid] at hhead
        rw [wanted, hhead, if_pos List.mem_cons_self]
      | kind kind =>
        rw [Expectation.accepts_kind] at hhead
        rw [wanted_of_not_mem, hhead]
        intro hmem
        -- No expectation of an identifier comes after one of a kind.
        rcases List.mem_cons.mp hmem with heq | hmem
        · cases heq
        · have hkind := hlater _ hmem rfl
          exact Bool.false_ne_true hkind
    have hsettle : settle (expectation :: expected) diagnostic = expected := by
      rw [settle, hwanted, List.erase_cons_head]
    rw [settleAll, List.foldl_cons, hsettle]
    exact ih hfirst

/-- Expectations that can be met are met in some order of the diagnostics. -/
theorem exists_order (h : Meetable expected emitted) :
    ∃ order, order.Perm emitted ∧ settleAll expected order = [] := by
  let inTurn := expected.filter (!·.isKind) ++ expected.filter Expectation.isKind
  have hinTurn : expected.Perm inTurn :=
    (List.filter_append_perm Expectation.isKind expected).symm.trans List.perm_append_comm
  have hfirst : inTurn.Pairwise fun earlier later => earlier.isKind = true → later.isKind = true := by
    have hvuid {expectation : Expectation} (hmem : expectation ∈ expected.filter (!·.isKind)) :
        ¬ expectation.isKind = true := by
      simpa using (List.mem_filter.mp hmem).2
    exact List.pairwise_append.mpr
      ⟨List.pairwise_of_forall_mem_list fun _ hmem _ _ hkind => absurd hkind (hvuid hmem),
        List.pairwise_of_forall_mem_list fun _ _ _ hmem _ => (List.mem_filter.mp hmem).2,
        fun _ hmem _ _ hkind => absurd hkind (hvuid hmem)⟩
  obtain ⟨chosen, hmeets, remaining, hremaining, hsub⟩ := h.perm hinTurn
  obtain ⟨rest, hrest⟩ := hsub.exists_perm_append
  refine ⟨chosen ++ rest, (hrest.trans (hremaining.append_right rest)).symm, ?_⟩
  have hsettled : settleAll inTurn (chosen ++ rest) = [] := by
    rw [settleAll_append, settleAll_in_turn hmeets hfirst, settleAll_nil]
  have hperm := settleAll_perm hinTurn (chosen ++ rest)
  rw [hsettled] at hperm
  exact hperm.eq_nil

end Meetable

/-! ### Diagnostics of the same identifier -/

/-- The diagnostics of an identifier that is expected are of the same kinds, of those that are expected. -/
def Unambiguous (expected : List Expectation) (emitted : List Diagnostic) : Prop :=
  ∀ diagnostic ∈ emitted, ∀ other ∈ emitted, diagnostic.vuid = other.vuid →
    .vuid diagnostic.vuid ∈ expected → .kind diagnostic.kind ∈ expected → diagnostic.kind = other.kind

instance (expected : List Expectation) (emitted : List Diagnostic) :
    Decidable (Unambiguous expected emitted) :=
  inferInstanceAs (Decidable (∀ diagnostic ∈ emitted, ∀ other ∈ emitted, _))

section Unambiguous

variable {expected : List Expectation} {emitted : List Diagnostic}

theorem Unambiguous.perm {other : List Diagnostic} (h : Unambiguous expected emitted)
    (hperm : other.Perm emitted) : Unambiguous expected other :=
  fun diagnostic hdiagnostic second hsecond =>
    h diagnostic (hperm.subset hdiagnostic) second (hperm.subset hsecond)

/-- If the expectation that a diagnostic goes for accepts another one, then so does every expectation that
accepts the former. -/
theorem Unambiguous.exchange {diagnostic other : Diagnostic} (h : Unambiguous expected emitted)
    (hdiagnostic : diagnostic ∈ emitted) (hother : other ∈ emitted)
    (hwanted : (wanted expected diagnostic).accepts other = true) {own : Expectation}
    (hown : own ∈ expected) (haccepts : own.accepts diagnostic = true) : own.accepts other = true := by
  cases own with
  | vuid vuid =>
    rw [Expectation.accepts_vuid] at haccepts ⊢
    rw [← haccepts] at hown
    rw [wanted, if_pos hown, Expectation.accepts_vuid] at hwanted
    exact hwanted.trans haccepts
  | kind kind =>
    rw [Expectation.accepts_kind] at haccepts ⊢
    rw [← haccepts] at hown
    by_cases hvuid : .vuid diagnostic.vuid ∈ expected
    · rw [wanted, if_pos hvuid, Expectation.accepts_vuid] at hwanted
      exact (h diagnostic hdiagnostic other hother hwanted.symm hvuid hown).symm.trans haccepts
    · rw [wanted_of_not_mem hvuid, Expectation.accepts_kind] at hwanted
      exact hwanted.trans haccepts

/-- Expectations that can be met can still be met after a diagnostic has settled one. -/
theorem Meetable.after_settle {diagnostic : Diagnostic} (h : Meetable expected (diagnostic :: emitted))
    (hsame : Unambiguous expected (diagnostic :: emitted)) :
    Meetable (settle expected diagnostic) emitted := by
  by_cases hmem : wanted expected diagnostic ∈ expected
  · exact (h.perm (List.perm_cons_erase hmem)).of_cons fun other hother hwanted own hown =>
      hsame.exchange List.mem_cons_self (List.mem_cons_of_mem _ hother) hwanted
        (List.mem_of_mem_erase hown)
  · rw [settle, List.erase_of_not_mem hmem]
    exact h.of_not_accepted fun expectation hexpectation =>
      Bool.eq_false_iff.mpr fun haccepts => hmem (wanted_mem hexpectation haccepts)

theorem Meetable.settled (h : Meetable expected emitted) (hsame : Unambiguous expected emitted) :
    settleAll expected emitted = [] := by
  induction emitted generalizing expected with
  | nil =>
    obtain ⟨chosen, hmeets, hchosen⟩ := h
    rw [List.subperm_nil.mp hchosen] at hmeets
    exact List.forall₂_nil_right_iff.mp hmeets
  | cons diagnostic rest ih =>
    refine ih (h.after_settle hsame) fun earlier hearlier later hlater hvuid hexact hkind => ?_
    exact hsame earlier (List.mem_cons_of_mem _ hearlier) later (List.mem_cons_of_mem _ hlater) hvuid
      (List.mem_of_mem_erase hexact) (List.mem_of_mem_erase hkind)

end Unambiguous

/-! ## What a verification reports as missing -/

/-- A verification reports none of the expectations that were registered before the first emission as
missing if they can be assigned pairwise different diagnostics, first come.  If they can be assigned at
all, then none is missing for some order of the diagnostics, and for every order if the diagnostics of each
expected identifier are of the same kind. -/
theorem expectations_met_first_come (info : MonitorInfo) {earlier prepare : List MonitorCall}
    (hearlier : ¬ Monitor.InProgress info earlier) (hprepare : ∀ call ∈ prepare, call.prepares = true)
    (hbegun : ∃ call ∈ prepare, call.begins = true) (emitted : List Diagnostic) :
    (∃ missing, (Monitor.scenario info earlier prepare emitted).reportsMissing = some missing
      ∧ (missing = []
        ↔ ∃ assignment : Assignment (registered prepare) emitted, assignment.FirstCome))
    ∧ ((∃ order, order.Perm emitted
        ∧ (Monitor.scenario info earlier prepare order).reportsMissing = some [])
      ↔ Nonempty (Assignment (registered prepare) emitted))
    ∧ (Unambiguous (registered prepare) emitted → ∀ order, order.Perm emitted →
      ((Monitor.scenario info earlier prepare order).reportsMissing = some []
        ↔ Nonempty (Assignment (registered prepare) emitted))) := by
  have hreports (order : List Diagnostic) :=
    Monitor.reportsMissing_scenario info hearlier hprepare hbegun order
  have hmeetable {order : List Diagnostic} (hperm : order.Perm emitted)
      (hsettled : settleAll (registered prepare) order = []) :
      Nonempty (Assignment (registered prepare) emitted) := by
    obtain ⟨assignment, -⟩ := exists_firstCome hsettled
    exact nonempty_assignment_iff.mpr ((nonempty_assignment_iff.mp ⟨assignment⟩).reorder hperm)
  simp only [hreports, Option.some.injEq]
  refine ⟨⟨_, rfl, settleAll_eq_nil_iff⟩, ⟨?_, fun h => (nonempty_assignment_iff.mp h).exists_order⟩, ?_⟩
  · rintro ⟨order, hperm, hsettled⟩
    exact hmeetable hperm hsettled
  · intro hsame order hperm
    refine ⟨hmeetable hperm, fun h => ?_⟩
    exact ((nonempty_assignment_iff.mp h).reorder hperm.symm).settled (hsame.perm hperm)

/-- Expects an identifier, and a diagnostic of a kind with any identifier. -/
def vuidAndKind : List MonitorCall := [.expect (.vuid "VUID-a"), .expect (.kind .invalidParams)]

/-- A diagnostic of which only the identifier and the kind matter. -/
def emission (vuid : String) (kind : ErrorKind) : Diagnostic := ⟨vuid, kind, .error, "", []⟩

/-- One diagnostic is of the identifier and the other one of the kind, and nothing is missing in either
order. -/
theorem twoVuids_met :
    ¬ Monitor.InProgress {} [.expectSuccess, .verify]
    ∧ ∀ order, order.Perm [emission "VUID-a" .useAfterFree, emission "VUID-b" .invalidParams] →
      (Monitor.scenario {} [.expectSuccess, .verify] vuidAndKind order).reportsMissing = some [] := by
  have hearlier : ¬ Monitor.InProgress {} [.expectSuccess, .verify] := fun h =>
    (Monitor.phase_run {} _).mpr h rfl
  have hprepare : ∀ call ∈ vuidAndKind, call.prepares = true := by decide
  have hmet := expectations_met_first_come {} hearlier hprepare (by decide)
    [emission "VUID-a" .useAfterFree, emission "VUID-b" .invalidParams]
  exact ⟨hearlier, fun order hperm =>
    (hmet.2.2 (by decide) order hperm).mpr ⟨⟨id, Function.injective_id, by decide⟩⟩⟩

/-- The expectations can be assigned different diagnostics, but the first diagnostic meets the expectation
of its identifier, and the second one is not of the expected kind.  In the other order nothing is
missing. -/
theorem missing_depends_on_order :
    Nonempty (Assignment (registered vuidAndKind)
      [emission "VUID-a" .invalidParams, emission "VUID-a" .useAfterFree])
    ∧ (Monitor.scenario {} [] vuidAndKind
      [emission "VUID-a" .invalidParams, emission "VUID-a" .useAfterFree]).reportsMissing
        = some [.kind .invalidParams]
    ∧ (Monitor.scenario {} [] vuidAndKind
      [emission "VUID-a" .useAfterFree, emission "VUID-a" .invalidParams]).reportsMissing = some [] :=
  ⟨⟨⟨Fin.rev, Fin.rev_injective, by decide⟩⟩, by decide, by decide⟩

end VulkanValidity
