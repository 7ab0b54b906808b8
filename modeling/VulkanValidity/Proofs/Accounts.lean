/-
  VulkanValidity.Proofs.Accounts

  A monitor loses no diagnostic and invents none.  What it holds at any point of a run is what its ledgers
  have noted, and its results are read off them: a verification that passes returns the diagnostics of the
  scenario, one that fails those among them that were neither expected nor tolerated when they were emitted,
  and the end of the use of the monitor returns the diagnostics that were emitted outside of scenarios
  (`Monitor.Accounted`).  Results are told by positions of the run, so that a diagnostic that is emitted
  twice is accounted for twice.
-/

import Mathlib.Data.List.Nodup
import VulkanValidity.Proofs.Scenarios
import VulkanValidity.Proofs.Settlement

namespace VulkanValidity

/-! ## Outstanding expectations -/

/-- The expectations that are left open by a call. -/
def MonitorCall.leaves (left : List Expectation) : MonitorCall → List Expectation
  | expect expectation => left ++ [expectation]
  | emit diagnostic => settle left diagnostic
  | expectSuccess | allow _ => left
  | verify | skip _ | finish => []

/-- The expectations that were registered in the scenario in progress and not settled by its diagnostics. -/
def outstanding (calls : List MonitorCall) : List Expectation :=
  calls.foldl MonitorCall.leaves []

namespace Monitor

theorem missing_step {m : Monitor} (h : m.WellFormed) (call : MonitorCall) :
    (m.step call).missing = call.leaves m.missing := by
  have hended (hends : call.ends = true) : (m.step call).missing = [] := by
    rw [missing, ((wellFormed_step m call h).idle (step_of_ends hends).1).1]
    rfl
  cases call with
  | expect expectation =>
    show (m.expect expectation).missing = m.missing ++ [expectation]
    rw [expect, missing, (arm_cases _).2.1, List.filter_append, List.map_append]
    rfl
  | expectSuccess =>
    show m.arm.missing = m.missing
    rw [missing, (arm_cases m).2.1]
    rfl
  | allow vuid => rfl
  | emit diagnostic =>
    show (m.receive diagnostic).missing = settle m.missing diagnostic
    by_cases hphase : m.phase = .idle
    · -- Nothing is expected outside of a scenario, so that there is nothing to settle.
      have hnone : m.missing = [] := by rw [missing, (h.idle hphase).1]; rfl
      rw [receive_idle hphase, hnone, settle, List.erase_nil]
      split <;> exact hnone
    · exact missing_receive hphase diagnostic
  | _ => exact hended rfl

section Accounts

variable (info : MonitorInfo) (calls : List MonitorCall)

theorem missing_run : (run { info } calls).missing = outstanding calls := by
  induction calls using List.reverseRecOn with
  | nil => rfl
  | append_singleton calls last ih =>
    rw [run_concat, missing_step (wellFormed_run info calls), ih, outstanding, outstanding,
      List.foldl_append, List.foldl_cons, List.foldl_nil]

/-! ## Phases -/

/-- A monitor is triggered if a diagnostic was emitted in the scenario. -/
theorem triggered_iff_step (m : Monitor) (call : MonitorCall) (h : m.WellFormed
      ∧ (m.phase = .triggered ↔ m.diagnostics ≠ [])) : (m.step call).WellFormed
      ∧ ((m.step call).phase = .triggered ↔ (m.step call).diagnostics ≠ []) := by
  obtain ⟨hwell, hphase⟩ := h
  refine ⟨wellFormed_step m call hwell, ?_⟩
  -- Arming changes the phase of an idle monitor only, which has no diagnostics before or afterwards.
  have harm (m : Monitor) (h : m.phase = .triggered ↔ m.diagnostics ≠ []) :
      m.arm.phase = .triggered ↔ m.arm.diagnostics ≠ [] := by
    rw [arm]
    split
    · next hidle =>
      rw [hidle] at h
      have harmed : MonitorPhase.armed ≠ .triggered := by decide
      exact iff_of_false harmed fun hne => by cases h.mpr hne
    · exact h
  have hended (hends : call.ends = true) :
      (m.step call).phase = .triggered ↔ (m.step call).diagnostics ≠ [] := by
    rw [(step_of_ends hends).1, (lists_of_ends hwell hends).2.1]
    exact iff_of_false (by decide) fun hne => hne rfl
  cases call with
  | expect expectation => exact harm { m with entries := m.entries ++ [⟨expectation, false⟩] } hphase
  | expectSuccess => exact harm m hphase
  | allow vuid => exact hphase
  | emit diagnostic =>
    show (m.receive diagnostic).phase = .triggered ↔ (m.receive diagnostic).diagnostics ≠ []
    by_cases hidle : m.phase = .idle
    · rw [receive_idle hidle]
      split <;> exact hphase
    · rw [(receive_cases hidle diagnostic).1, (receive_cases hidle diagnostic).2.1]
      exact iff_of_true rfl (List.append_ne_nil_of_right_ne_nil _ (List.cons_ne_nil _ _))
  | _ => exact hended rfl

theorem triggered_iff_run :
    (run { info } calls).phase = .triggered ↔ (run { info } calls).diagnostics ≠ [] := by
  have hidle : MonitorPhase.idle ≠ .triggered := by decide
  exact (run_keeps triggered_iff_step
    ⟨wellFormed_start info, iff_of_false hidle fun hne => hne rfl⟩ calls).2

theorem info_run : (run { info } calls).info = info := by
  refine run_keeps (P := fun m => m.info = info) (fun m call h => ?_) rfl calls
  have harm (m : Monitor) : m.arm.info = m.info := by rw [arm]; split <;> rfl
  cases call with
  | expect expectation => exact (harm _).trans h
  | expectSuccess => exact (harm m).trans h
  | allow vuid => exact h
  | emit diagnostic =>
    show (m.receive diagnostic).info = info
    rw [receive]
    simp only
    split
    · split <;> exact h
    · split
      · exact h
      · split <;> exact h
  | verify =>
    rw [step, verify_state]
    split <;> exact h
  | skip reason => exact h
  | finish =>
    rw [step, finish_state]
    split <;> exact h

variable (k : ℕ)

/-- A scenario in progress is triggered if something was emitted in it. -/
theorem triggered_iff : (before info calls k).phase = .triggered
    ↔ InProgress info (calls.take k) ∧ emissions.contents info calls k ≠ [] := by
  have htriggered : (before info calls k).phase = .triggered ↔ emissions.contents info calls k ≠ [] := by
    rw [← Ledger.eq_contents info calls emissions_keeps rfl]
    exact triggered_iff_run info _
  rw [htriggered, ← phase_run]
  refine (and_iff_right_of_imp fun hne hidle => ?_).symm
  cases hidle.symm.trans (htriggered.mpr hne)

theorem armed_iff : (before info calls k).phase = .armed
    ↔ InProgress info (calls.take k) ∧ emissions.contents info calls k = [] := by
  have htriggered := triggered_iff info calls k
  have hprogress : (before info calls k).phase ≠ .idle ↔ InProgress info (calls.take k) :=
    phase_run info _
  rw [← hprogress] at htriggered ⊢
  generalize (before info calls k).phase = phase at htriggered ⊢
  cases phase with
  | idle => simp
  | armed => simpa using htriggered
  | triggered => simpa using htriggered

/-! ## What is noted -/

/-- A diagnostic does no harm at a position of a run even if it is not expected. -/
def Tolerated (diagnostic : Diagnostic) : Prop :=
  diagnostic.severity ∉ info.failing ∨ diagnostic.vuid ∈ tolerations.contents info calls k
    ∨ diagnostic.vuid ∈ info.tolerated

theorem tolerates_before (diagnostic : Diagnostic) :
    (before info calls k).tolerates diagnostic = true ↔ Tolerated info calls k diagnostic := by
  have hinfo : (before info calls k).info = info := info_run info _
  have hallowed := Ledger.eq_contents info calls tolerations_keeps rfl k
  simp [tolerates, hinfo, hallowed, Tolerated]

theorem expects_before (diagnostic : Diagnostic) : (before info calls k).expects diagnostic = true
    ↔ ∃ expectation ∈ registrations.contents info calls k, expectation.accepts diagnostic = true := by
  rw [← Ledger.eq_contents info calls registrations_keeps rfl k]
  simp [expects, expectations]

/-- A diagnostic is noted under a condition if it is emitted and the condition holds. -/
theorem bind_filter_emits (call? : Option MonitorCall) (condition : Diagnostic → Bool)
    (diagnostic : Diagnostic) :
    (call?.bind fun call => call.emits?.filter condition) = some diagnostic
      ↔ call? = some (.emit diagnostic) ∧ condition diagnostic = true := by
  cases call? with
  | none => simp
  | some call =>
    rw [Option.bind_some, Option.some.injEq]
    exact MonitorCall.filter_emits?_eq_some

theorem emission_iff (diagnostic : Diagnostic) :
    emissions.noted? info calls k = some diagnostic
      ↔ calls[k]? = some (.emit diagnostic) ∧ InProgress info (calls.take k) := by
  rw [← phase_run]
  exact (bind_filter_emits _ _ diagnostic).trans (and_congr_right fun _ => decide_eq_true_iff)

theorem surprise_iff (diagnostic : Diagnostic) :
    surprises.noted? info calls k = some diagnostic
      ↔ emissions.noted? info calls k = some diagnostic
        ∧ (∀ expectation ∈ registrations.contents info calls k, expectation.accepts diagnostic = false)
        ∧ ¬ Tolerated info calls k diagnostic := by
  have hexpects : (before info calls k).expects diagnostic = false
      ↔ ∀ expectation ∈ registrations.contents info calls k,
        expectation.accepts diagnostic = false := by
    rw [← Bool.not_eq_true, expects_before]
    simp
  rw [emission_iff, ← phase_run, ← hexpects, ← tolerates_before, and_assoc, Bool.not_eq_true]
  refine (bind_filter_emits _ _ diagnostic).trans (and_congr_right fun _ => ?_)
  simp only [Bool.and_eq_true, decide_eq_true_eq, Bool.not_eq_true', and_assoc]
  rfl

theorem outsider_iff (diagnostic : Diagnostic) :
    outsiders.noted? info calls k = some diagnostic
      ↔ calls[k]? = some (.emit diagnostic) ∧ ¬ InProgress info (calls.take k)
        ∧ ¬ Tolerated info calls k diagnostic := by
  rw [← phase_run, ← tolerates_before, not_not, Bool.not_eq_true]
  refine (bind_filter_emits _ _ diagnostic).trans (and_congr_right fun _ => ?_)
  simp only [Bool.and_eq_true, decide_eq_true_eq, Bool.not_eq_true']
  rfl

/-! ## What is returned -/

/-- The diagnostics that a call returns. -/
def returns (m : Monitor) : MonitorCall → List Diagnostic
  | .verify =>
    match m.verify.1 with
    | .ok (.passed diagnostics) => diagnostics
    | .error (.failed _ unexpected) => unexpected
    | .error (.stray diagnostics) => diagnostics
    | .ok (.skipped _) | .error .idle => []
  | .skip reason =>
    match (m.skip reason).1 with
    | .passed diagnostics => diagnostics
    | .skipped _ => []
  | .finish =>
    match m.finish.1 with
    | .error (.stray diagnostics) => diagnostics
    | .error (.failed _ unexpected) => unexpected
    | .ok () | .error .idle => []
  | _ => []

/-- The positions of a run at which the diagnostics were emitted that the call at a position returns. -/
def returned : List ℕ :=
  match calls[k]? with
  | some .verify =>
    match (before info calls k).verify.1 with
    | .ok (.passed _) => emissions.positions info calls k
    | .error (.failed _ _) => surprises.positions info calls k
    | _ => []
  | some .finish => outsiders.positions info calls k ++ surprises.positions info calls k
  | _ => []

variable {k}

theorem verify_before (h : (before info calls k).phase ≠ .idle) : (before info calls k).verify.1
    = if outstanding (calls.take k) = [] ∧ surprises.contents info calls k = []
      then .ok (.passed (emissions.contents info calls k))
      else .error (.failed (outstanding (calls.take k)) (surprises.contents info calls k)) := by
  have hmissing : (before info calls k).missing = outstanding (calls.take k) := missing_run info _
  rw [verify_result h, hmissing, Ledger.eq_contents info calls emissions_keeps rfl,
    Ledger.eq_contents info calls surprises_keeps rfl]
  simp only [Bool.and_eq_true, List.isEmpty_iff]

variable (k)

theorem finish_before : (before info calls k).finish.1
    = if outsiders.contents info calls k = [] ∧ surprises.contents info calls k = [] then .ok ()
      else .error (.stray (outsiders.contents info calls k ++ surprises.contents info calls k)) := by
  rw [finish_result (wellFormed_before info calls k), Ledger.eq_contents info calls outsiders_keeps rfl,
    Ledger.eq_contents info calls surprises_keeps rfl]
  simp only [List.isEmpty_iff, List.append_eq_nil_iff]

/-- The diagnostics that a ledger has noted are those that were emitted at its positions. -/
theorem filterMap_positions (ledger : Ledger Diagnostic)
    (h : ∀ n diagnostic, ledger.noted? info calls n = some diagnostic
      → calls[n]? = some (.emit diagnostic)) :
    (ledger.positions info calls k).filterMap (fun n => calls[n]?.bind MonitorCall.emits?)
      = ledger.contents info calls k := by
  refine List.filterMap_congr fun n hn => ?_
  obtain ⟨diagnostic, hnoted⟩ := Option.isSome_iff_exists.mp
    ((Ledger.mem_positions ledger info calls).mp hn).2.1
  rw [hnoted, h n diagnostic hnoted]
  rfl

theorem returned_diagnostics {call : MonitorCall} (h : calls[k]? = some call) :
    (returned info calls k).filterMap (fun n => calls[n]?.bind MonitorCall.emits?)
      = (before info calls k).returns call := by
  have hemissions := filterMap_positions info calls k emissions
    fun n diagnostic hn => ((emission_iff info calls n diagnostic).mp hn).1
  have hsurprises := filterMap_positions info calls k surprises
    fun n diagnostic hn => ((emission_iff info calls n diagnostic).mp
      ((surprise_iff info calls n diagnostic).mp hn).1).1
  have houtsiders := filterMap_positions info calls k outsiders
    fun n diagnostic hn => ((outsider_iff info calls n diagnostic).mp hn).1
  rw [returned, h]
  cases call with
  | verify =>
    -- A verification without a scenario returns nothing.
    by_cases hphase : (before info calls k).phase = .idle
    · have hverify : (before info calls k).verify.1 = .error .idle := by rw [verify, if_pos hphase]
      simp only [returns, hverify]
      rfl
    · have hverify := verify_before info calls hphase
      split at hverify
      · simp only [returns, hverify]
        exact hemissions
      · simp only [returns, hverify]
        exact hsurprises
  | skip reason => rfl
  | finish =>
    have hfinish := finish_before info calls k
    simp only [List.filterMap_append, houtsiders, hsurprises, returns]
    split at hfinish
    · next hnone =>
      simp only [hfinish]
      rw [hnone.1, hnone.2]
      rfl
    · simp only [hfinish]
  | _ => rfl

/-- What is noted outside of scenarios is not noted in one. -/
theorem not_emission_of_outsider {n : ℕ} (h : (outsiders.noted? info calls n).isSome = true) :
    (emissions.noted? info calls n).isSome = false := by
  obtain ⟨outsider, houtsider⟩ := Option.isSome_iff_exists.mp h
  refine Bool.eq_false_iff.mpr fun hemission => ?_
  obtain ⟨emission, hemission⟩ := Option.isSome_iff_exists.mp hemission
  exact ((outsider_iff info calls n outsider).mp houtsider).2.1
    ((emission_iff info calls n emission).mp hemission).2

theorem emission_of_surprise {n : ℕ} (h : (surprises.noted? info calls n).isSome = true) :
    (emissions.noted? info calls n).isSome = true := by
  obtain ⟨surprise, hsurprise⟩ := Option.isSome_iff_exists.mp h
  exact Option.isSome_iff_exists.mpr ⟨surprise, ((surprise_iff info calls n surprise).mp hsurprise).1⟩

/-- No diagnostic is returned twice by one call. -/
theorem nodup_returned : (returned info calls k).Nodup := by
  have hpositions {α : Type} (ledger : Ledger α) : (ledger.positions info calls k).Nodup :=
    (ledger.pairwise_positions info calls k).imp Nat.ne_of_lt
  have hdisjoint : (outsiders.positions info calls k).Disjoint (surprises.positions info calls k) := by
    intro n houtsider hsurprise
    have hnot := not_emission_of_outsider info calls
      ((Ledger.mem_positions outsiders info calls).mp houtsider).2.1
    rw [emission_of_surprise info calls
      ((Ledger.mem_positions surprises info calls).mp hsurprise).2.1] at hnot
    cases hnot
  rw [returned]
  split
  · split
    · exact hpositions emissions
    · exact hpositions surprises
    · exact List.nodup_nil
  · exact (hpositions outsiders).append (hpositions surprises) hdisjoint
  · exact List.nodup_nil

/-- What was emitted outside of a scenario and not tolerated is returned by the next call that ends the use
of the monitor, and by no other call. -/
theorem outsider_returned {n : ℕ} (h : (outsiders.noted? info calls n).isSome = true) :
    n ∈ returned info calls k ↔ n < k ∧ calls[k]? = some .finish
      ∧ ∀ between, n < between → between < k → calls[between]? ≠ some .finish := by
  -- It was not emitted in a scenario, so that no verification returns it.
  have hemission : n ∉ emissions.positions info calls k := fun hmem => by
    have hnoted := ((Ledger.mem_positions emissions info calls).mp hmem).2.1
    rw [not_emission_of_outsider info calls h] at hnoted
    cases hnoted
  have hsurprise : n ∉ surprises.positions info calls k := fun hmem => by
    have hnoted := emission_of_surprise info calls ((Ledger.mem_positions surprises info calls).mp hmem).2.1
    rw [not_emission_of_outsider info calls h] at hnoted
    cases hnoted
  have hclosed (between : ℕ) : outsiders.closed info calls between = false
      ↔ calls[between]? ≠ some .finish := by
    rw [Ledger.closed]
    cases calls[between]? <;> simp [outsiders]
  rw [returned]
  split
  · next hverify =>
    refine iff_of_false ?_ fun hfinish => by rw [hverify] at hfinish; cases hfinish.2.1
    split
    · exact hemission
    · exact hsurprise
    · exact List.not_mem_nil
  · next hfinish =>
    rw [List.mem_append, or_iff_left hsurprise, Ledger.mem_positions, hfinish]
    simp only [h, hclosed, true_and]
  · next hother =>
    exact iff_of_false List.not_mem_nil fun hfinish => hother hfinish.2.1

/-! ## Accounts -/

/-- The books of a monitor are in order before the call at a position of a run. -/
structure Accounted : Prop where
  /-- Outside of a scenario nothing is kept of one. -/
  idle : (before info calls k).phase = .idle → (before info calls k).entries = []
    ∧ (before info calls k).diagnostics = [] ∧ (before info calls k).unexpected = []
  /-- The monitor is armed if a scenario is in progress and nothing was emitted in it. -/
  armed : (before info calls k).phase = .armed
    ↔ InProgress info (calls.take k) ∧ emissions.contents info calls k = []
  triggered : (before info calls k).phase = .triggered
    ↔ InProgress info (calls.take k) ∧ emissions.contents info calls k ≠ []
  /-- A diagnostic belongs to a scenario if it is emitted while the scenario is in progress. -/
  emission : ∀ diagnostic, emissions.noted? info calls k = some diagnostic
    ↔ calls[k]? = some (.emit diagnostic) ∧ InProgress info (calls.take k)
  /-- It is a surprise if none of the expectations that were registered before it in the scenario accepts
  it, and it is not tolerated when it is emitted. -/
  surprise : ∀ diagnostic, surprises.noted? info calls k = some diagnostic
    ↔ emissions.noted? info calls k = some diagnostic
      ∧ (∀ expectation ∈ registrations.contents info calls k, expectation.accepts diagnostic = false)
      ∧ ¬ Tolerated info calls k diagnostic
  /-- It is an outsider if no scenario is in progress and it is not tolerated when it is emitted. -/
  outsider : ∀ diagnostic, outsiders.noted? info calls k = some diagnostic
    ↔ calls[k]? = some (.emit diagnostic) ∧ ¬ InProgress info (calls.take k)
      ∧ ¬ Tolerated info calls k diagnostic
  /-- Without a scenario a verification fails and changes nothing. -/
  verifyIdle : (before info calls k).phase = .idle
    → (before info calls k).verify = (.error .idle, before info calls k)
  /-- A verification passes if nothing is outstanding and there was no surprise. It returns the diagnostics
  of the scenario if it passes, and the surprises among them if it fails. -/
  verify : (before info calls k).phase ≠ .idle → (before info calls k).verify.1
    = if outstanding (calls.take k) = [] ∧ surprises.contents info calls k = []
      then .ok (.passed (emissions.contents info calls k))
      else .error (.failed (outstanding (calls.take k)) (surprises.contents info calls k))
  /-- The end of the use of the monitor returns the outsiders and the surprises of a scenario that is still
  in progress. -/
  finish : (before info calls k).finish.1
    = if outsiders.contents info calls k = [] ∧ surprises.contents info calls k = [] then .ok ()
      else .error (.stray (outsiders.contents info calls k ++ surprises.contents info calls k))
  /-- What a call returns was emitted at the positions that it is said to return. -/
  results : ∀ call, calls[k]? = some call →
    (returned info calls k).filterMap (fun n => calls[n]?.bind MonitorCall.emits?)
      = (before info calls k).returns call
  nodup : (returned info calls k).Nodup
  /-- An outsider is returned by the next end of the use of the monitor, and by no other call. -/
  outsiderReturned : ∀ n, (outsiders.noted? info calls n).isSome = true →
    (n ∈ returned info calls k ↔ n < k ∧ calls[k]? = some .finish
      ∧ ∀ between, n < between → between < k → calls[between]? ≠ some .finish)
  /-- After a verification of a scenario, and after a skip, nothing is tolerated any more. -/
  forgotten : ((before info calls k).phase ≠ .idle → (before info calls k).verify.2.allowed = [])
    ∧ ∀ reason, ((before info calls k).skip reason).2.allowed = []

end Accounts

end Monitor

/-- A monitor loses no diagnostic and invents none, whatever it is asked to do. -/
theorem diagnostics_accounted_for (info : MonitorInfo) (calls : List MonitorCall) (k : ℕ) :
    Monitor.Accounted info calls k := by
  refine {
    idle := (Monitor.wellFormed_before info calls k).idle
    armed := Monitor.armed_iff info calls k
    triggered := Monitor.triggered_iff info calls k
    emission := Monitor.emission_iff info calls k
    surprise := Monitor.surprise_iff info calls k
    outsider := Monitor.outsider_iff info calls k
    verifyIdle := fun hphase => if_pos hphase
    verify := Monitor.verify_before info calls
    finish := Monitor.finish_before info calls k
    results := fun call => Monitor.returned_diagnostics info calls k
    nodup := Monitor.nodup_returned info calls k
    outsiderReturned := fun n => Monitor.outsider_returned info calls k
    forgotten := ⟨fun hphase => ?_, fun reason => rfl⟩ }
  rw [Monitor.verify_state, if_neg hphase]
  rfl

/-- What is tolerated outside of a scenario outlives a verification there, which changes nothing: a
diagnostic that is emitted after it is not returned by the end of the use of the monitor. -/
theorem toleration_outlives_verification :
    (Monitor.run {} [.allow "VUID-a", .verify]).allowed = ["VUID-a"]
    ∧ (Monitor.run {} [.allow "VUID-a", .verify,
        .emit { vuid := "VUID-a", kind := .invalidParams, severity := .error, message := "",
                objects := [] }]).finish.1 = .ok () :=
  ⟨rfl, by decide⟩

end VulkanValidity
