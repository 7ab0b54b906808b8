/-
  VulkanValidity.Proofs.Settlement

  How the diagnostics of a scenario settle its expectations.  What a monitor reports as missing is what is
  left of the expectations after each diagnostic has settled one (`Monitor.missing_scenario`): one of its
  identifier if there is one left, and else one of its kind.  Which expectation a diagnostic goes for
  (`claims`) depends on the diagnostics before it, and is found by counting: those of its identifier against
  the expectations of it (`count_vuid_settleAll`).
-/

import Mathlib.Data.List.Count
import VulkanValidity.Proofs.MonitorRuns

namespace VulkanValidity

/-! ## Settling expectations -/

/-- The expectation that a diagnostic goes for, given the ones that are left. -/
def wanted (left : List Expectation) (diagnostic : Diagnostic) : Expectation :=
  if .vuid diagnostic.vuid ∈ left then .vuid diagnostic.vuid else .kind diagnostic.kind

/-- The expectations that a diagnostic leaves. -/
def settle (left : List Expectation) (diagnostic : Diagnostic) : List Expectation :=
  left.erase (wanted left diagnostic)

/-- The expectations that a sequence of diagnostics leaves. -/
def settleAll (expected : List Expectation) (emitted : List Diagnostic) : List Expectation :=
  emitted.foldl settle expected

/-- The expectations that the diagnostics of a sequence go for. -/
def claims : List Expectation → List Diagnostic → List Expectation
  | _, [] => []
  | left, diagnostic :: rest => wanted left diagnostic :: claims (settle left diagnostic) rest

theorem wanted_accepts (left : List Expectation) (diagnostic : Diagnostic) :
    (wanted left diagnostic).accepts diagnostic = true := by
  rw [wanted]
  split <;> exact beq_self_eq_true _

theorem wanted_of_not_mem {left : List Expectation} {diagnostic : Diagnostic}
    (h : .vuid diagnostic.vuid ∉ left) : wanted left diagnostic = .kind diagnostic.kind :=
  if_neg h

/-- A diagnostic goes for an expectation of its kind only if none of its identifier is left. -/
theorem not_mem_of_wanted_eq_kind {left : List Expectation} {diagnostic : Diagnostic} {kind : ErrorKind}
    (h : wanted left diagnostic = .kind kind) : .vuid diagnostic.vuid ∉ left := by
  intro hmem
  rw [wanted, if_pos hmem] at h
  cases h

theorem mem_of_wanted_eq_vuid {left : List Expectation} {diagnostic : Diagnostic} {vuid : String}
    (h : wanted left diagnostic = .vuid vuid) : .vuid vuid ∈ left := by
  rw [wanted] at h
  split at h
  · next hmem => exact h ▸ hmem
  · cases h

theorem settleAll_append (expected : List Expectation) (emitted later : List Diagnostic) :
    settleAll expected (emitted ++ later) = settleAll (settleAll expected emitted) later :=
  List.foldl_append

theorem settleAll_subset (expected : List Expectation) (emitted : List Diagnostic) :
    settleAll expected emitted ⊆ expected := by
  induction emitted generalizing expected with
  | nil => exact List.Subset.refl _
  | cons diagnostic rest ih => exact List.Subset.trans (ih _) List.erase_subset

/-- More diagnostics leave fewer expectations. -/
theorem settleAll_take_subset (expected : List Expectation) (emitted : List Diagnostic) {n m : ℕ}
    (h : n ≤ m) : settleAll expected (emitted.take m) ⊆ settleAll expected (emitted.take n) := by
  obtain ⟨later, hlater⟩ : emitted.take n <+: emitted.take m := List.take_prefix_take_left h
  rw [← hlater, settleAll_append]
  exact settleAll_subset _ later

theorem settleAll_perm {expected other : List Expectation} (h : expected.Perm other)
    (emitted : List Diagnostic) : (settleAll expected emitted).Perm (settleAll other emitted) := by
  induction emitted generalizing expected other with
  | nil => exact h
  | cons diagnostic rest ih =>
    refine ih ?_
    have hwanted : wanted expected diagnostic = wanted other diagnostic := by
      simp only [wanted, h.mem_iff]
    rw [settle, settle, hwanted]
    exact h.erase _

theorem settleAll_nil (emitted : List Diagnostic) : settleAll [] emitted = [] :=
  List.subset_nil.mp (settleAll_subset [] emitted)

/-! ### Claims -/

/-- Each claim is settled as long as an expectation is left for it. -/
theorem settleAll_eq_diff (expected : List Expectation) (emitted : List Diagnostic) :
    settleAll expected emitted = expected.diff (claims expected emitted) := by
  induction emitted generalizing expected with
  | nil => rfl
  | cons diagnostic rest ih =>
    rw [claims, List.diff_cons]
    exact ih _

theorem length_claims (expected : List Expectation) (emitted : List Diagnostic) :
    (claims expected emitted).length = emitted.length := by
  induction emitted generalizing expected with
  | nil => rfl
  | cons diagnostic rest ih => rw [claims, List.length_cons, List.length_cons, ih]

theorem getElem_claims (expected : List Expectation) (emitted : List Diagnostic) (n : ℕ)
    (h : n < emitted.length) (hclaims : n < (claims expected emitted).length) :
    (claims expected emitted)[n] = wanted (settleAll expected (emitted.take n)) emitted[n] := by
  induction emitted generalizing expected n with
  | nil => cases h
  | cons diagnostic rest ih =>
    cases n with
    | zero => rfl
    | succ n => exact ih _ n (Nat.lt_of_succ_lt_succ h) (Nat.lt_of_succ_lt_succ hclaims)

/-! ### Counting -/

/-- Every diagnostic with an identifier settles an expectation of it, as long as there is one left. -/
theorem count_vuid_settle (left : List Expectation) (diagnostic : Diagnostic) (vuid : String) :
    (settle left diagnostic).count (.vuid vuid)
      = left.count (.vuid vuid) - if diagnostic.vuid == vuid then 1 else 0 := by
  have hkind : Expectation.vuid vuid ≠ .kind diagnostic.kind := nofun
  rw [settle, wanted]
  by_cases hvuid : diagnostic.vuid = vuid
  · rw [hvuid, beq_self_eq_true, if_pos rfl]
    split
    · exact List.count_erase_self
    · next hmem =>
      -- None of the identifier is left, and the diagnostic goes for its kind.
      rw [List.count_erase_of_ne hkind, List.count_eq_zero_of_not_mem hmem]
  · rw [beq_eq_false_iff_ne.mpr hvuid, if_neg Bool.false_ne_true, Nat.sub_zero]
    split
    · exact List.count_erase_of_ne fun heq => hvuid (Expectation.vuid.inj heq).symm
    · exact List.count_erase_of_ne hkind

/-- The expectations of an identifier that are left are those in excess of its diagnostics. -/
theorem count_vuid_settleAll (expected : List Expectation) (emitted : List Diagnostic) (vuid : String) :
    (settleAll expected emitted).count (.vuid vuid)
      = expected.count (.vuid vuid) - emitted.countP (·.vuid == vuid) := by
  induction emitted generalizing expected with
  | nil => rfl
  | cons diagnostic rest ih =>
    have hrest := ih (settle expected diagnostic)
    rw [count_vuid_settle] at hrest
    rw [List.countP_cons, Nat.add_comm, ← Nat.sub_sub]
    exact hrest

/-! ## What a monitor reports as missing -/

namespace MonitorCall

/-- Whether a call prepares a scenario, or changes what it tolerates. -/
def prepares : MonitorCall → Bool
  | expect _ | expectSuccess | allow _ => true
  | _ => false

theorem ends_of_prepares {call : MonitorCall} (h : call.prepares = true) : call.ends = false := by
  cases call with
  | expect _ | expectSuccess | allow _ => rfl
  | _ => cases h

end MonitorCall

/-- The expectations that calls register, in order. -/
def registered (calls : List MonitorCall) : List Expectation := calls.filterMap MonitorCall.registers?

namespace Monitor

/-- The expectations that are not met, of some entries. -/
def unmet (entries : List ExpectationEntry) : List Expectation :=
  (entries.filter fun entry => !entry.isMet).map ExpectationEntry.expectation

/-- To meet an expectation is to take it from those that are not met. -/
theorem unmet_meetFirst {accepts : Expectation → Bool} {target : Expectation}
    (h : ∀ expectation, accepts expectation = true ↔ expectation = target)
    (entries : List ExpectationEntry) :
    (meetFirst accepts entries).map unmet
      = if target ∈ unmet entries then some ((unmet entries).erase target) else none := by
  induction entries with
  | nil => rfl
  | cons entry entries ih =>
    obtain ⟨expectation, isMet⟩ := entry
    cases isMet with
    | true =>
      -- The entry is passed, and it is not one of those that are not met.
      rw [meetFirst, Bool.not_true, Bool.false_and, if_neg Bool.false_ne_true, Option.map_map]
      exact ih
    | false =>
      have hunmet : unmet (⟨expectation, false⟩ :: entries) = expectation :: unmet entries := rfl
      rw [meetFirst, Bool.not_false, Bool.true_and, hunmet]
      by_cases htarget : expectation = target
      · rw [if_pos ((h _).mpr htarget), htarget, if_pos List.mem_cons_self, List.erase_cons_head]
        rfl
      · have hpassed : ((meetFirst accepts entries).map (⟨expectation, false⟩ :: ·)).map unmet
            = ((meetFirst accepts entries).map unmet).map (expectation :: ·) := by
          rw [Option.map_map, Option.map_map]
          rfl
        rw [if_neg (mt (h _).mp htarget), hpassed, ih,
          List.erase_cons_tail (by rwa [beq_iff_eq])]
        simp only [List.mem_cons, Ne.symm htarget, false_or]
        split <;> rfl

/-- The diagnostic settles an expectation of those that are not met. -/
theorem unmet_meet (entries : List ExpectationEntry) (diagnostic : Diagnostic) :
    unmet ((meet entries diagnostic).getD entries) = settle (unmet entries) diagnostic := by
  have hvuid (expectation : Expectation) : expectation.acceptsVuid diagnostic = true
      ↔ expectation = .vuid diagnostic.vuid := by
    cases expectation <;> simp [Expectation.acceptsVuid]
  have hkind (expectation : Expectation) : expectation.acceptsKind diagnostic = true
      ↔ expectation = .kind diagnostic.kind := by
    cases expectation <;> simp [Expectation.acceptsKind]
  rw [← Option.getD_map unmet, meet, Option.map_or, unmet_meetFirst hvuid, unmet_meetFirst hkind, settle,
    wanted]
  by_cases hexact : .vuid diagnostic.vuid ∈ unmet entries
  · rw [if_pos hexact, if_pos hexact]
    rfl
  · rw [if_neg hexact, if_neg hexact, Option.none_or]
    split
    · rfl
    · next hmem => exact (List.erase_of_not_mem hmem).symm

theorem missing_receive {m : Monitor} (h : m.phase ≠ .idle) (diagnostic : Diagnostic) :
    (m.receive diagnostic).missing = settle m.missing diagnostic := by
  rw [missing, (receive_cases h diagnostic).2.2.2.2.1]
  exact unmet_meet m.entries diagnostic

theorem missing_emissions {m : Monitor} (h : m.phase ≠ .idle) (emitted : List Diagnostic) :
    (m.run (emitted.map .emit)).missing = settleAll m.missing emitted := by
  induction emitted generalizing m with
  | nil => rfl
  | cons diagnostic rest ih =>
    have htriggered : (m.receive diagnostic).phase ≠ .idle := by
      rw [(receive_cases h diagnostic).1]
      exact nofun
    have hrest := ih htriggered
    rw [missing_receive h] at hrest
    exact hrest

theorem missing_preparation (m : Monitor) {prepare : List MonitorCall}
    (h : ∀ call ∈ prepare, call.prepares = true) :
    (m.run prepare).missing = m.missing ++ registered prepare := by
  induction prepare generalizing m with
  | nil => exact (List.append_nil _).symm
  | cons call rest ih =>
    have hrest := ih (m.step call) fun later hlater => h later (List.mem_cons_of_mem _ hlater)
    have hcall : (m.step call).missing = m.missing ++ call.registers?.toList := by
      cases hkind : call with
      | expect expectation =>
        rw [step, expect, missing, (arm_cases _).2.1]
        simp [missing, MonitorCall.registers?]
      | expectSuccess =>
        rw [step, missing, (arm_cases m).2.1]
        exact (List.append_nil _).symm
      | allow vuid => exact (List.append_nil _).symm
      | _ =>
        rw [hkind] at h
        cases h _ List.mem_cons_self
    have hregistered : registered (call :: rest) = call.registers?.toList ++ registered rest := by
      rw [registered, List.filterMap_cons]
      cases call.registers? <;> rfl
    rw [hregistered, ← List.append_assoc, ← hcall]
    exact hrest

/-! ### Scenarios -/

/-- The monitor after the preparations and the emissions of a scenario that come after earlier calls. -/
def scenario (info : MonitorInfo) (earlier prepare : List MonitorCall) (emitted : List Diagnostic) :
    Monitor :=
  run { info } (earlier ++ prepare ++ emitted.map .emit)

/-- What a verification reports as missing, if it judges a scenario. -/
def reportsMissing (m : Monitor) : Option (List Expectation) :=
  match m.verify.1 with
  | .ok (.passed _) => some []
  | .error (.failed missing _) => some missing
  | _ => none

theorem reportsMissing_eq {m : Monitor} (h : m.phase ≠ .idle) : m.reportsMissing = some m.missing := by
  rw [reportsMissing, verify, if_neg h]
  cases hpassed : m.missing.isEmpty && m.unexpected.isEmpty with
  | true => exact congrArg some (List.isEmpty_iff.mp (Bool.and_eq_true_iff.mp hpassed).1).symm
  | false => rfl

/-- A scenario that was begun is judged, and what is reported as missing are the expectations that the
diagnostics of the scenario have not settled. -/
theorem reportsMissing_scenario (info : MonitorInfo) {earlier prepare : List MonitorCall}
    (hearlier : ¬ InProgress info earlier) (hprepare : ∀ call ∈ prepare, call.prepares = true)
    (hbegun : ∃ call ∈ prepare, call.begins = true) (emitted : List Diagnostic) :
    (scenario info earlier prepare emitted).reportsMissing
      = some (settleAll (registered prepare) emitted) := by
  have hidle : (run { info } earlier).phase = .idle :=
    not_not.mp (mt (phase_run info earlier).mp hearlier)
  have hnone : (run { info } earlier).missing = [] := by
    rw [missing, ((wellFormed_run info earlier).idle hidle).1]
    rfl
  have hinProgress {after : List MonitorCall} (h : ∀ call ∈ after, call.ends = false) :
      (run { info } (earlier ++ prepare ++ after)).phase ≠ .idle := by
    obtain ⟨first, hfirst, hbegins⟩ := hbegun
    obtain ⟨before, others, rfl⟩ := List.append_of_mem hfirst
    refine (phase_run info _).mpr ⟨earlier ++ before, first, others ++ after, by simp, hbegins, ?_⟩
    intro later hlater
    rcases List.mem_append.mp hlater with hother | hafter
    · exact MonitorCall.ends_of_prepares
        (hprepare later (List.mem_append_right _ (List.mem_cons_of_mem _ hother)))
    · exact h later hafter
  have hprepared := @hinProgress [] fun later hlater => absurd hlater List.not_mem_nil
  rw [List.append_nil] at hprepared
  have hemissions : ∀ call ∈ emitted.map MonitorCall.emit, call.ends = false := by
    intro call hcall
    obtain ⟨diagnostic, -, rfl⟩ := List.mem_map.mp hcall
    rfl
  rw [scenario, reportsMissing_eq (hinProgress hemissions), run_append, missing_emissions hprepared,
    run_append, missing_preparation _ hprepare, hnone, List.nil_append]

end Monitor

end VulkanValidity
