/-
  VulkanValidity.Proofs.MonitorRuns

  Runs of a monitor: the calls that it takes, and what holds of it all along a run of them.

  A monitor holds what has happened in its run and was not closed since (`Monitor.Since`): a scenario that
  was begun, an expectation that was registered, a diagnostic that was unexpected or stray.  One theorem
  says what a call brings about and what it closes, and the one about runs follows from it
  (`Monitor.phase_step`, `Monitor.phase_run`).
-/

import Mathlib.Data.List.Induction
import VulkanValidity.Monitor

namespace VulkanValidity

/-! ## Runs -/

/-- What a monitor can be asked to do. -/
inductive MonitorCall
  | expect (expectation : Expectation)
  /-- Begins a scenario without any expectation. -/
  | expectSuccess
  | allow (vuid : String)
  | emit (diagnostic : Diagnostic)
  | verify
  | skip (reason : String)
  | finish
deriving DecidableEq, Repr

namespace MonitorCall

/-- Whether a call begins a scenario if none is in progress. -/
def begins : MonitorCall → Bool
  | expect _ | expectSuccess => true
  | _ => false

/-- Whether a call ends the scenario if one is in progress. -/
def ends : MonitorCall → Bool
  | verify | skip _ | finish => true
  | _ => false

/-- The expectation that a call registers. -/
def registers? : MonitorCall → Option Expectation
  | expect expectation => some expectation
  | _ => none

/-- The identifier that a call tolerates. -/
def allows? : MonitorCall → Option String
  | allow vuid => some vuid
  | _ => none

/-- The diagnostic that a call emits. -/
def emits? : MonitorCall → Option Diagnostic
  | emit diagnostic => some diagnostic
  | _ => none

theorem registers?_eq_some {call : MonitorCall} {expectation : Expectation} :
    call.registers? = some expectation ↔ call = .expect expectation := by
  cases call <;> simp [registers?]

/-- A diagnostic is emitted and satisfies a condition. -/
theorem filter_emits?_eq_some {call : MonitorCall} {condition : Diagnostic → Bool}
    {diagnostic : Diagnostic} :
    call.emits?.filter condition = some diagnostic
      ↔ call = .emit diagnostic ∧ condition diagnostic = true := by
  cases call <;> simp +contextual [emits?, Option.filter_eq_some_iff]

end MonitorCall

namespace Monitor

/-- The monitor after a call. -/
def step (m : Monitor) : MonitorCall → Monitor
  | .expect expectation => m.expect expectation
  | .expectSuccess => m.arm
  | .allow vuid => m.allow vuid
  | .emit diagnostic => m.receive diagnostic
  | .verify => m.verify.2
  | .skip reason => (m.skip reason).2
  | .finish => m.finish.2

/-- The monitor after a sequence of calls. -/
def run (m : Monitor) (calls : List MonitorCall) : Monitor := calls.foldl step m

theorem run_append (m : Monitor) (calls later : List MonitorCall) :
    m.run (calls ++ later) = (m.run calls).run later :=
  List.foldl_append

theorem run_concat (m : Monitor) (calls : List MonitorCall) (call : MonitorCall) :
    m.run (calls ++ [call]) = (m.run calls).step call :=
  m.run_append calls [call]

/-- What every call keeps is kept by a run. -/
theorem run_keeps {P : Monitor → Prop} (hstep : ∀ m call, P m → P (m.step call)) {m : Monitor}
    (h : P m) (calls : List MonitorCall) : P (m.run calls) :=
  List.foldlRecOn (motive := P) calls step h fun m hm call _ => hstep m call hm

/-! ## What happened since -/

/-- Something has happened in a run of calls, and only calls that pass came after it. -/
def Since (m : Monitor) (happens : Monitor → MonitorCall → Prop) (passes : MonitorCall → Prop)
    (calls : List MonitorCall) : Prop :=
  ∃ before call after, calls = before ++ call :: after ∧ happens (m.run before) call
    ∧ ∀ later ∈ after, passes later

section Since

variable {m : Monitor} {happens : Monitor → MonitorCall → Prop} {passes : MonitorCall → Prop}

theorem not_since_nil : ¬ m.Since happens passes [] := by
  rintro ⟨before, call, after, hcalls, -⟩
  cases before <;> cases hcalls

theorem since_concat (calls : List MonitorCall) (last : MonitorCall) :
    m.Since happens passes (calls ++ [last])
      ↔ happens (m.run calls) last ∨ (passes last ∧ m.Since happens passes calls) := by
  constructor
  · rintro ⟨before, call, after, hcalls, hcall, hafter⟩
    rcases List.eq_nil_or_concat after with rfl | ⟨rest, final, rfl⟩
    · -- The last call is the one that it happens with.
      obtain ⟨rfl, hlast⟩ := List.append_inj' hcalls rfl
      obtain rfl := List.head_eq_of_cons_eq hlast
      exact Or.inl hcall
    · rw [List.concat_eq_append, ← List.cons_append, ← List.append_assoc] at hcalls
      obtain ⟨rfl, hlast⟩ := List.append_inj' hcalls rfl
      obtain rfl := List.head_eq_of_cons_eq hlast
      rw [List.concat_eq_append] at hafter
      exact Or.inr ⟨hafter last (List.mem_append_right _ List.mem_cons_self), before, call, rest, rfl,
        hcall, fun later hlater => hafter later (List.mem_append_left _ hlater)⟩
  · rintro (hlast | ⟨hpasses, before, call, after, rfl, hcall, hafter⟩)
    · exact ⟨calls, last, [], rfl, hlast, fun later hlater => absurd hlater List.not_mem_nil⟩
    · refine ⟨before, call, after ++ [last], by simp, hcall, fun later hlater => ?_⟩
      rcases List.mem_append.mp hlater with hearlier | hlater
      · exact hafter later hearlier
      · obtain rfl := List.mem_singleton.mp hlater
        exact hpasses

/-- A property that comes about by some calls and stays with others says that one of the former has
happened since.  An invariant of the monitor may be needed for that. -/
theorem holds_iff_since {I P : Monitor → Prop} (hkeeps : ∀ m call, I m → I (m.step call))
    (hstep : ∀ m call, I m → (P (m.step call) ↔ happens m call ∨ (passes call ∧ P m)))
    (hinvariant : I m) (hnot : ¬ P m) (calls : List MonitorCall) :
    P (m.run calls) ↔ m.Since happens passes calls := by
  induction calls using List.reverseRecOn with
  | nil => exact iff_of_false hnot not_since_nil
  | append_singleton calls last ih =>
    rw [run_concat, hstep _ last (run_keeps hkeeps hinvariant calls), ih, since_concat]

end Since

/-! ## Meeting expectations -/

/-- The expectations of the scenario, met or not. -/
def expectations (m : Monitor) : List Expectation := m.entries.map ExpectationEntry.expectation

/-- To meet an expectation is to note one more of them as met, and nothing else. -/
theorem meetFirst_eq_some {accepts : Expectation → Bool} {entries after : List ExpectationEntry}
    (h : meetFirst accepts entries = some after) :
    ∃ before entry rest, entries = before ++ entry :: rest ∧ entry.isMet = false
      ∧ accepts entry.expectation = true ∧ after = before ++ { entry with isMet := true } :: rest := by
  induction entries generalizing after with
  | nil => cases h
  | cons entry entries ih =>
    rw [meetFirst] at h
    split at h
    · next hmeets =>
      simp only [Bool.and_eq_true, Bool.not_eq_true'] at hmeets
      exact ⟨[], entry, entries, rfl, hmeets.1, hmeets.2, (Option.some.inj h).symm⟩
    · obtain ⟨rest, hrest, rfl⟩ := Option.map_eq_some_iff.mp h
      obtain ⟨before, met, rest, rfl, hopen, haccepts, rfl⟩ := ih hrest
      exact ⟨entry :: before, met, rest, rfl, hopen, haccepts, rfl⟩

theorem meet_eq_some {entries after : List ExpectationEntry} {diagnostic : Diagnostic}
    (h : meet entries diagnostic = some after) :
    ∃ before entry rest, entries = before ++ entry :: rest ∧ entry.isMet = false
      ∧ entry.expectation.accepts diagnostic = true
      ∧ after = before ++ { entry with isMet := true } :: rest := by
  have haccepts {expectation : Expectation} (h : expectation.acceptsVuid diagnostic = true
      ∨ expectation.acceptsKind diagnostic = true) : expectation.accepts diagnostic = true := by
    cases expectation with
    | vuid own => exact h.resolve_right Bool.false_ne_true
    | kind own => exact h.resolve_left Bool.false_ne_true
  rcases Option.or_eq_some_iff.mp h with hvuid | ⟨-, hkind⟩
  · obtain ⟨before, entry, rest, hentries, hopen, hmeets, hafter⟩ := meetFirst_eq_some hvuid
    exact ⟨before, entry, rest, hentries, hopen, haccepts (Or.inl hmeets), hafter⟩
  · obtain ⟨before, entry, rest, hentries, hopen, hmeets, hafter⟩ := meetFirst_eq_some hkind
    exact ⟨before, entry, rest, hentries, hopen, haccepts (Or.inr hmeets), hafter⟩

theorem expects_of_meet {m : Monitor} {diagnostic : Diagnostic} {after : List ExpectationEntry}
    (h : meet m.entries diagnostic = some after) : m.expects diagnostic = true := by
  obtain ⟨before, entry, rest, hentries, -, haccepts, -⟩ := meet_eq_some h
  rw [expects, hentries, List.any_eq_true]
  exact ⟨entry, List.mem_append_right _ List.mem_cons_self, haccepts⟩

/-- What receiving a diagnostic makes of a monitor in a scenario. -/
theorem receive_cases {m : Monitor} (h : m.phase ≠ .idle) (diagnostic : Diagnostic) :
    (m.receive diagnostic).phase = .triggered
      ∧ (m.receive diagnostic).diagnostics = m.diagnostics ++ [diagnostic]
      ∧ (m.receive diagnostic).allowed = m.allowed ∧ (m.receive diagnostic).strays = m.strays
      ∧ (m.receive diagnostic).entries = (meet m.entries diagnostic).getD m.entries
      ∧ (m.receive diagnostic).unexpected = if m.expects diagnostic || m.tolerates diagnostic
        then m.unexpected else m.unexpected ++ [diagnostic] := by
  rw [receive, if_neg h]
  simp only
  cases hmeet : meet m.entries diagnostic with
  | some after =>
    rw [expects_of_meet hmeet]
    exact ⟨rfl, rfl, rfl, rfl, rfl, rfl⟩
  | none =>
    have hexpects : ({ m with
        phase := .triggered
        diagnostics := m.diagnostics ++ [diagnostic] } : Monitor).expects diagnostic
        = m.expects diagnostic := rfl
    have htolerates : ({ m with
        phase := .triggered
        diagnostics := m.diagnostics ++ [diagnostic] } : Monitor).tolerates diagnostic
        = m.tolerates diagnostic := rfl
    simp only [hexpects, htolerates, Option.getD_none]
    split
    · exact ⟨rfl, rfl, rfl, rfl, rfl, rfl⟩
    · exact ⟨rfl, rfl, rfl, rfl, rfl, rfl⟩

/-- Outside of a scenario a diagnostic is a stray, or nothing happens. -/
theorem receive_idle {m : Monitor} (h : m.phase = .idle) (diagnostic : Diagnostic) :
    m.receive diagnostic
      = if m.tolerates diagnostic then m else { m with strays := m.strays ++ [diagnostic] } := by
  rw [receive, if_pos h]

/-! ## Beginning and ending scenarios -/

/-- A monitor that is armed is in a scenario, and holds what it held before. -/
theorem arm_cases (m : Monitor) :
    m.arm.phase ≠ .idle ∧ m.arm.entries = m.entries ∧ m.arm.diagnostics = m.diagnostics
      ∧ m.arm.unexpected = m.unexpected ∧ m.arm.strays = m.strays ∧ m.arm.allowed = m.allowed := by
  rw [arm]
  split
  · exact ⟨nofun, rfl, rfl, rfl, rfl, rfl⟩
  · next hphase => exact ⟨hphase, rfl, rfl, rfl, rfl, rfl⟩

theorem verify_state (m : Monitor) : m.verify.2 = if m.phase = .idle then m else m.reset := by
  rw [verify]
  split
  · rfl
  · split <;> rfl

theorem finish_state (m : Monitor) :
    m.finish.2 = { (if m.phase = .idle then m else m.reset) with strays := [] } := by
  simp only [finish, apply_ite Prod.snd, ite_self]

/-! ## Invariants -/

/-- What holds of a monitor all along a run. -/
structure WellFormed (m : Monitor) : Prop where
  /-- Outside of a scenario nothing is kept of one. -/
  idle : m.phase = .idle → m.entries = [] ∧ m.diagnostics = [] ∧ m.unexpected = []
  /-- An expectation that is met was met by a diagnostic of the scenario. -/
  met : ∀ entry ∈ m.entries, entry.isMet = true →
    ∃ diagnostic ∈ m.diagnostics, entry.expectation.accepts diagnostic = true

theorem wellFormed_start (info : MonitorInfo) : WellFormed { info } where
  idle _ := ⟨rfl, rfl, rfl⟩
  met _ hentry := absurd hentry List.not_mem_nil

theorem wellFormed_reset (m : Monitor) : m.reset.WellFormed where
  idle _ := ⟨rfl, rfl, rfl⟩
  met _ hentry := absurd hentry List.not_mem_nil

theorem wellFormed_arm {m : Monitor} (h : ∀ entry ∈ m.entries, entry.isMet = true →
    ∃ diagnostic ∈ m.diagnostics, entry.expectation.accepts diagnostic = true) :
    m.arm.WellFormed := by
  obtain ⟨hphase, hentries, hdiagnostics, -⟩ := arm_cases m
  refine ⟨fun hidle => absurd hidle hphase, ?_⟩
  rwa [hentries, hdiagnostics]

theorem wellFormed_receive {m : Monitor} (h : m.WellFormed) (diagnostic : Diagnostic) :
    (m.receive diagnostic).WellFormed := by
  by_cases hidle : m.phase = .idle
  · rw [receive_idle hidle]
    split
    · exact h
    · exact ⟨h.idle, h.met⟩
  · obtain ⟨hphase, hdiagnostics, -, -, hentries, -⟩ := receive_cases hidle diagnostic
    refine ⟨fun hidleAfter => ?_, fun entry hentry hmet => ?_⟩
    · rw [hphase] at hidleAfter
      cases hidleAfter
    · -- An entry was met before, or is the one that the diagnostic meets.
      have hbefore (hold : entry ∈ m.entries) : ∃ diagnostic' ∈ m.diagnostics ++ [diagnostic],
          entry.expectation.accepts diagnostic' = true := by
        obtain ⟨earlier, hearlier, haccepts⟩ := h.met entry hold hmet
        exact ⟨earlier, List.mem_append_left _ hearlier, haccepts⟩
      rw [hdiagnostics]
      rw [hentries] at hentry
      cases hmeet : meet m.entries diagnostic with
      | none =>
        rw [hmeet] at hentry
        exact hbefore hentry
      | some after =>
        obtain ⟨before, met, rest, hsplit, -, haccepts, rfl⟩ := meet_eq_some hmeet
        rw [hmeet, Option.getD_some] at hentry
        rw [hsplit] at hbefore
        rcases List.mem_append.mp hentry with hmem | hmem
        · exact hbefore (List.mem_append_left _ hmem)
        · rcases List.mem_cons.mp hmem with rfl | hmem
          · exact ⟨diagnostic, List.mem_append_right _ List.mem_cons_self, haccepts⟩
          · exact hbefore (List.mem_append_right _ (List.mem_cons_of_mem _ hmem))

theorem wellFormed_step (m : Monitor) (call : MonitorCall) (h : m.WellFormed) :
    (m.step call).WellFormed := by
  cases call with
  | expect expectation =>
    refine wellFormed_arm (m := { m with entries := m.entries ++ [⟨expectation, false⟩] }) ?_
    intro entry hentry hmet
    rcases List.mem_append.mp hentry with hold | hnew
    · exact h.met entry hold hmet
    · rw [List.mem_singleton.mp hnew] at hmet
      cases hmet
  | expectSuccess => exact wellFormed_arm h.met
  | allow vuid => exact ⟨h.idle, h.met⟩
  | emit diagnostic => exact wellFormed_receive h diagnostic
  | verify =>
    rw [step, verify_state]
    split
    · exact h
    · exact wellFormed_reset m
  | skip reason => exact wellFormed_reset m
  | finish =>
    rw [step, finish_state]
    split
    · exact ⟨h.idle, h.met⟩
    · exact ⟨(wellFormed_reset m).idle, (wellFormed_reset m).met⟩

/-! ## Ends of scenarios -/

/-- After a call that ends scenarios there is none. The strays are kept, unless the use of the monitor is
ended. -/
theorem step_of_ends {m : Monitor} {call : MonitorCall} (hends : call.ends = true) :
    (m.step call).phase = .idle ∧ (m.step call).strays = if call = .finish then [] else m.strays := by
  cases call with
  | verify =>
    rw [step, verify_state]
    split
    · next hphase => exact ⟨hphase, rfl⟩
    · exact ⟨rfl, rfl⟩
  | skip reason => exact ⟨rfl, rfl⟩
  | finish =>
    rw [step, finish_state]
    split
    · next hphase => exact ⟨hphase, rfl⟩
    · exact ⟨rfl, rfl⟩
  | _ => cases hends

/-- After a call that ends scenarios nothing is kept of one. -/
theorem lists_of_ends {m : Monitor} (h : m.WellFormed) {call : MonitorCall} (hends : call.ends = true) :
    (m.step call).expectations = [] ∧ (m.step call).diagnostics = [] ∧ (m.step call).unexpected = [] := by
  obtain ⟨hentries, hdiagnostics, hunexpected⟩ := (wellFormed_step m call h).idle (step_of_ends hends).1
  exact ⟨congrArg (List.map _) hentries, hdiagnostics, hunexpected⟩

/-- A scenario is in progress if one was begun, and none was ended since. -/
theorem phase_step (m : Monitor) (call : MonitorCall) :
    (m.step call).phase ≠ .idle ↔ call.begins = true ∨ (call.ends = false ∧ m.phase ≠ .idle) := by
  have hended (hends : call.ends = true) := step_of_ends (m := m) hends
  cases call with
  | expect expectation => exact iff_of_true (arm_cases _).1 (Or.inl rfl)
  | expectSuccess => exact iff_of_true (arm_cases _).1 (Or.inl rfl)
  | allow vuid => simp [step, allow, MonitorCall.begins, MonitorCall.ends]
  | emit diagnostic =>
    by_cases hidle : m.phase = .idle
    · rw [step, receive_idle hidle]
      split <;> simp [hidle, MonitorCall.begins]
    · simp [step, (receive_cases hidle diagnostic).1, hidle, MonitorCall.ends]
  | _ => simp [(hended rfl).1, MonitorCall.begins, MonitorCall.ends]

/-! ## Scenarios in progress -/

section Run

variable (info : MonitorInfo) (calls : List MonitorCall)

/-- A scenario was begun, and none was ended since. -/
def InProgress : Prop :=
  Since { info } (fun _ call => call.begins = true) (fun call => call.ends = false) calls

theorem wellFormed_run : (run { info } calls).WellFormed :=
  run_keeps wellFormed_step (wellFormed_start info) calls

theorem phase_run : (run { info } calls).phase ≠ .idle ↔ InProgress info calls :=
  holds_iff_since (I := fun _ => True) (P := fun m => m.phase ≠ .idle) (fun _ _ h => h)
    (fun m call _ => phase_step m call) trivial (fun h => h rfl) calls

end Run

end Monitor

end VulkanValidity
