/-
  VulkanValidity.Proofs.Scenarios

  How the scenarios of a monitor end.  What the monitor holds of a scenario is what has happened in its run
  and was not closed since (`Monitor.mem_expectations_run`, `Monitor.mem_unexpected_run`,
  `Monitor.mem_strays_run`).  An expectation that is registered stays open until the monitor is
  verified, its scenario is skipped, or the use of the monitor is ended (`Monitor.Fate`).  A verification
  judges it.  The end of the use of the monitor reports strays, and of a scenario that is still in
  progress the unexpected diagnostics alone (`Monitor.finish_reports`), so that a scenario that was armed
  and never verified can be dropped in silence.
-/

import VulkanValidity.Proofs.Ledgers

namespace VulkanValidity

namespace Monitor

/-! ## What a call makes a monitor hold -/

/-- An expectation is held if it was registered, and no scenario was ended since. -/
theorem mem_expectations_step (m : Monitor) (call : MonitorCall) (h : m.WellFormed)
    (expectation : Expectation) :
    expectation ∈ (m.step call).expectations
      ↔ call = .expect expectation ∨ (call.ends = false ∧ expectation ∈ m.expectations) :=
  (registrations_keeps.mem_step h call).trans (or_congr_left MonitorCall.registers?_eq_some)

/-- A diagnostic is unexpected if it was neither expected nor tolerated when it was emitted in a scenario,
and no scenario was ended since. -/
theorem mem_unexpected_step (m : Monitor) (call : MonitorCall) (h : m.WellFormed)
    (diagnostic : Diagnostic) :
    diagnostic ∈ (m.step call).unexpected
      ↔ (call = .emit diagnostic ∧ m.phase ≠ .idle ∧ m.expects diagnostic = false
          ∧ m.tolerates diagnostic = false)
        ∨ (call.ends = false ∧ diagnostic ∈ m.unexpected) := by
  refine (surprises_keeps.mem_step h call).trans (or_congr_left ?_)
  refine MonitorCall.filter_emits?_eq_some.trans (and_congr_right fun _ => ?_)
  simp only [Bool.and_eq_true, decide_eq_true_eq, Bool.not_eq_true', and_assoc]

/-- A diagnostic is a stray if it was not tolerated when it was emitted outside of a scenario, and the use
of the monitor was not ended since. -/
theorem mem_strays_step (m : Monitor) (call : MonitorCall) (h : m.WellFormed)
    (diagnostic : Diagnostic) :
    diagnostic ∈ (m.step call).strays
      ↔ (call = .emit diagnostic ∧ m.phase = .idle ∧ m.tolerates diagnostic = false)
        ∨ (call ≠ .finish ∧ diagnostic ∈ m.strays) := by
  refine (outsiders_keeps.mem_step h call).trans (or_congr ?_ (and_congr_left fun _ => ?_))
  · refine MonitorCall.filter_emits?_eq_some.trans (and_congr_right fun _ => ?_)
    simp only [Bool.and_eq_true, decide_eq_true_eq, Bool.not_eq_true']
  · exact decide_eq_false_iff_not

/-! ## What a run leaves -/

section Run

variable (info : MonitorInfo) (calls : List MonitorCall)

/-- An expectation was registered, and no scenario was ended since. -/
def IsOpen (expectation : Expectation) : Prop :=
  Since { info } (fun _ call => call = .expect expectation) (fun call => call.ends = false) calls

/-- A diagnostic was emitted in a scenario, which was not ended since, and was neither expected nor
tolerated then. -/
def IsUnexpected (diagnostic : Diagnostic) : Prop :=
  Since { info }
    (fun m call => call = .emit diagnostic ∧ m.phase ≠ .idle ∧ m.expects diagnostic = false
      ∧ m.tolerates diagnostic = false)
    (fun call => call.ends = false) calls

/-- A diagnostic was emitted outside of a scenario and was not tolerated then, and the use of the monitor
was not ended since. -/
def IsStray (diagnostic : Diagnostic) : Prop :=
  Since { info }
    (fun m call => call = .emit diagnostic ∧ m.phase = .idle ∧ m.tolerates diagnostic = false)
    (· ≠ .finish) calls

theorem mem_expectations_run (expectation : Expectation) :
    expectation ∈ (run { info } calls).expectations ↔ IsOpen info calls expectation :=
  holds_iff_since (P := fun m => expectation ∈ m.expectations) wellFormed_step
    (fun m call h => mem_expectations_step m call h expectation) (wellFormed_start info)
    List.not_mem_nil calls

theorem mem_unexpected_run (diagnostic : Diagnostic) :
    diagnostic ∈ (run { info } calls).unexpected ↔ IsUnexpected info calls diagnostic :=
  holds_iff_since (P := fun m => diagnostic ∈ m.unexpected) wellFormed_step
    (fun m call h => mem_unexpected_step m call h diagnostic) (wellFormed_start info)
    List.not_mem_nil calls

theorem mem_strays_run (diagnostic : Diagnostic) :
    diagnostic ∈ (run { info } calls).strays ↔ IsStray info calls diagnostic :=
  holds_iff_since (P := fun m => diagnostic ∈ m.strays) wellFormed_step
    (fun m call h => mem_strays_step m call h diagnostic) (wellFormed_start info)
    List.not_mem_nil calls

end Run

/-! ## The end of the use of a monitor -/

/-- The end of the use of a monitor reports its strays and its unexpected diagnostics. -/
theorem finish_result {m : Monitor} (h : m.WellFormed) :
    m.finish.1 = if (m.strays ++ m.unexpected).isEmpty then .ok ()
      else .error (.stray (m.strays ++ m.unexpected)) := by
  have hreported : (if m.phase = .idle then m.strays else m.strays ++ m.unexpected)
      = m.strays ++ m.unexpected := by
    split
    · next hphase => rw [(h.idle hphase).2.2, List.append_nil]
    · rfl
  simp only [finish, apply_ite Prod.fst, hreported]

/-- What the end of the use of a monitor reports are the strays that the run has left, and the unexpected
diagnostics of the scenario in progress. It succeeds if there are none. -/
theorem finish_reports (info : MonitorInfo) (calls : List MonitorCall) :
    ∃ reported : List Diagnostic,
      (∀ diagnostic, diagnostic ∈ reported
        ↔ IsStray info calls diagnostic ∨ IsUnexpected info calls diagnostic)
      ∧ (run { info } calls).finish.1
        = if reported.isEmpty then .ok () else .error (.stray reported) := by
  refine ⟨_, fun diagnostic => ?_, finish_result (wellFormed_run info calls)⟩
  rw [List.mem_append, mem_strays_run, mem_unexpected_run]

theorem finish_eq_ok_iff (info : MonitorInfo) (calls : List MonitorCall) :
    (run { info } calls).finish.1 = .ok ()
      ↔ ∀ diagnostic, ¬ IsStray info calls diagnostic ∧ ¬ IsUnexpected info calls diagnostic := by
  obtain ⟨reported, hreported, hfinish⟩ := finish_reports info calls
  simp only [hfinish, ← not_or, ← hreported, ← List.eq_nil_iff_forall_not_mem]
  split
  · next hempty => exact iff_of_true rfl (List.isEmpty_iff.mp hempty)
  · next hempty => exact iff_of_false nofun fun hnil => hempty (List.isEmpty_iff.mpr hnil)

/-! ## Verifications -/

theorem verify_result {m : Monitor} (h : m.phase ≠ .idle) :
    m.verify.1 = if m.missing.isEmpty && m.unexpected.isEmpty then .ok (.passed m.diagnostics)
      else .error (.failed m.missing m.unexpected) := by
  rw [verify, if_neg h, apply_ite Prod.fst]

/-- An expectation that is held is missing, or a diagnostic of the scenario has met it. -/
theorem missing_or_accepts {m : Monitor} (h : m.WellFormed) {expectation : Expectation}
    (hmem : expectation ∈ m.expectations) :
    expectation ∈ m.missing ∨ ∃ diagnostic ∈ m.diagnostics, expectation.accepts diagnostic = true := by
  obtain ⟨entry, hentry, rfl⟩ := List.mem_map.mp hmem
  cases hmet : entry.isMet with
  | true => exact Or.inr (h.met entry hentry hmet)
  | false => exact Or.inl (List.mem_map_of_mem (List.mem_filter.mpr ⟨hentry, by rw [hmet]; rfl⟩))

/-- A verification judges an expectation: it passes, and a diagnostic of the scenario is as expected, or
it fails, and there is such a diagnostic or the expectation is missing. -/
def Judges (m : Monitor) (expectation : Expectation) : Prop :=
  match m.verify.1 with
  | .ok (.passed diagnostics) => ∃ diagnostic ∈ diagnostics, expectation.accepts diagnostic = true
  | .error (.failed missing _) =>
    expectation ∈ missing ∨ ∃ diagnostic ∈ m.diagnostics, expectation.accepts diagnostic = true
  | _ => False

theorem judges_of_mem {m : Monitor} (h : m.WellFormed) {expectation : Expectation}
    (hmem : expectation ∈ m.expectations) : m.Judges expectation := by
  have hphase : m.phase ≠ .idle := fun hidle => by
    rw [expectations, (h.idle hidle).1] at hmem
    cases hmem
  have hjudged := missing_or_accepts h hmem
  rw [Judges, verify_result hphase]
  cases hpassed : m.missing.isEmpty && m.unexpected.isEmpty with
  | true =>
    -- Nothing is missing, so that a diagnostic has met the expectation.
    have hmissing := List.isEmpty_iff.mp (Bool.and_eq_true_iff.mp hpassed).1
    rw [hmissing] at hjudged
    exact hjudged.resolve_left List.not_mem_nil
  | false => exact hjudged

/-! ## The fate of an expectation -/

/-- What becomes of an expectation that is registered after some calls and before others. -/
inductive Fate (info : MonitorInfo) (before : List MonitorCall) (expectation : Expectation) :
    List MonitorCall → Prop
  /-- It is still held, and its scenario is in progress. -/
  | held {after : List MonitorCall}
      (hphase : (run { info } (before ++ .expect expectation :: after)).phase ≠ .idle)
      (hheld : expectation ∈ (run { info } (before ++ .expect expectation :: after)).expectations) :
    Fate info before expectation after
  | judged {between rest : List MonitorCall} (hbetween : ∀ call ∈ between, call.ends = false)
      (hjudges : (run { info } (before ++ .expect expectation :: between)).Judges expectation) :
    Fate info before expectation (between ++ .verify :: rest)
  | skipped {between rest : List MonitorCall} {reason : String}
      (hbetween : ∀ call ∈ between, call.ends = false) :
    Fate info before expectation (between ++ .skip reason :: rest)
  /-- The use of the monitor is ended, which succeeds if nothing stray and nothing unexpected is left. -/
  | dropped {between rest : List MonitorCall} (hbetween : ∀ call ∈ between, call.ends = false)
      (hfinish : (run { info } (before ++ .expect expectation :: between)).finish.1 = .ok ()
        ↔ ∀ diagnostic, ¬ IsStray info (before ++ .expect expectation :: between) diagnostic
          ∧ ¬ IsUnexpected info (before ++ .expect expectation :: between) diagnostic) :
    Fate info before expectation (between ++ .finish :: rest)

theorem fate (info : MonitorInfo) (before : List MonitorCall) (expectation : Expectation)
    (after : List MonitorCall) : Fate info before expectation after := by
  have hheld {between : List MonitorCall} (hbetween : ∀ call ∈ between, call.ends = false) :
      expectation ∈ (run { info } (before ++ .expect expectation :: between)).expectations :=
    (mem_expectations_run info _ expectation).mpr ⟨before, _, between, rfl, rfl, hbetween⟩
  -- The first call that ends the scenario decides.
  cases hfirst : after.find? MonitorCall.ends with
  | none =>
    have hopen : ∀ call ∈ after, call.ends = false := fun call hcall =>
      Bool.eq_false_iff.mpr (List.find?_eq_none.mp hfirst call hcall)
    refine .held ((phase_run info _).mpr ⟨before, _, after, rfl, rfl, hopen⟩) (hheld hopen)
  | some last =>
    obtain ⟨hends, between, rest, rfl, hnone⟩ := List.find?_eq_some_iff_append.mp hfirst
    have hbetween : ∀ call ∈ between, call.ends = false := fun call hcall =>
      (Bool.not_eq_true' _).mp (hnone call hcall)
    cases last with
    | verify => exact .judged hbetween (judges_of_mem (wellFormed_run info _) (hheld hbetween))
    | skip reason => exact .skipped hbetween
    | finish => exact .dropped hbetween (finish_eq_ok_iff info _)
    | _ => cases hends

end Monitor

/-- The end of the use of a monitor reports the strays that were not reported, and what was unexpected in
a scenario that is still in progress, and it succeeds if there is nothing to report.  Every expectation
that is registered is judged by a verification, abandoned by a skip, or left to the end of the use of the
monitor, unless it is still held. -/
theorem expectations_accounted_for (info : MonitorInfo) :
    (∀ calls, ∃ reported : List Diagnostic,
      (∀ diagnostic, diagnostic ∈ reported
        ↔ Monitor.IsStray info calls diagnostic ∨ Monitor.IsUnexpected info calls diagnostic)
      ∧ (Monitor.run { info } calls).finish.1
        = if reported.isEmpty then .ok () else .error (.stray reported))
    ∧ ∀ before expectation after, Monitor.Fate info before expectation after :=
  ⟨Monitor.finish_reports info, Monitor.fate info⟩

/-- A scenario is in progress, and an expectation of it was not met.  Still the end of the use of the
monitor succeeds. -/
theorem armed_scenario_dropped :
    Monitor.InProgress {} [.expect (.vuid "VUID-a")]
    ∧ (Monitor.run {} [.expect (.vuid "VUID-a")]).missing = [.vuid "VUID-a"]
    ∧ (Monitor.run {} [.expect (.vuid "VUID-a")]).finish.1 = .ok () :=
  ⟨(Monitor.phase_run {} _).mp (by decide), rfl, rfl⟩

end VulkanValidity
