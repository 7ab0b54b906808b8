/-
  VulkanValidity.Proofs.Ledgers

  What the lists of a monitor are made of.  Each of them notes something of some calls, in order, and is
  closed by other calls (`Monitor.Ledger`).  A call does with a list what its ledger says
  (`Monitor.Ledger.Keeps`), so that after any number of calls of a run the list holds what was noted at the
  positions that no later call has closed (`Monitor.Ledger.eq_contents`).
-/

import VulkanValidity.Proofs.MonitorRuns

namespace VulkanValidity

namespace Monitor

/-- The monitor of a run before the call at a position. -/
def before (info : MonitorInfo) (calls : List MonitorCall) (k : ℕ) : Monitor :=
  run { info } (calls.take k)

section Before

variable (info : MonitorInfo) (calls : List MonitorCall)

theorem wellFormed_before (k : ℕ) : (before info calls k).WellFormed := wellFormed_run info _

theorem before_succ {k : ℕ} {call : MonitorCall} (h : calls[k]? = some call) :
    before info calls (k + 1) = (before info calls k).step call := by
  rw [before, List.take_add_one, h]
  exact run_concat _ _ call

theorem before_succ_of_none {k : ℕ} (h : calls[k]? = none) :
    before info calls (k + 1) = before info calls k := by
  rw [before, List.take_add_one, h, Option.toList_none, List.append_nil]
  rfl

end Before

/-! ## Ledgers -/

/-- What a monitor keeps a list of. -/
structure Ledger (α : Type) where
  /-- What a monitor notes of a call. -/
  notes : Monitor → MonitorCall → Option α
  /-- Whether a call closes the list. -/
  closes : Monitor → MonitorCall → Bool

namespace Ledger

variable {α : Type}

/-- A list is kept as a ledger says: a call that does not close it leaves what it holds, and what is noted
of a call comes last. -/
def Keeps (ledger : Ledger α) (list : Monitor → List α) : Prop :=
  ∀ m call, m.WellFormed → list (m.step call)
    = (if ledger.closes m call then [] else list m) ++ (ledger.notes m call).toList

/-- What is in a list after a call was noted of the call, or was in the list and stays. -/
theorem Keeps.mem_step {ledger : Ledger α} {list : Monitor → List α} (hkeeps : ledger.Keeps list)
    {m : Monitor} (h : m.WellFormed) (call : MonitorCall) {a : α} : a ∈ list (m.step call)
      ↔ ledger.notes m call = some a ∨ (ledger.closes m call = false ∧ a ∈ list m) := by
  rw [hkeeps m call h, List.mem_append, Option.mem_toList, or_comm]
  cases ledger.closes m call <;> simp

section Run

variable (ledger : Ledger α) (info : MonitorInfo) (calls : List MonitorCall)

/-- What is noted at a position of a run. -/
def noted? (n : ℕ) : Option α := calls[n]?.bind (ledger.notes (before info calls n))

/-- Whether the call at a position of a run closes the list. -/
def closed (n : ℕ) : Bool := calls[n]?.any (ledger.closes (before info calls n))

/-- The positions before a position of a run at which something is noted, with no position between the two
that closes the list. -/
def positions (k : ℕ) : List ℕ :=
  (List.range k).filter fun n => (ledger.noted? info calls n).isSome
    && (List.range k).all fun later => later ≤ n || !ledger.closed info calls later

/-- What the list holds before a position of a run, in the order in which it was noted. -/
def contents (k : ℕ) : List α :=
  (ledger.positions info calls k).filterMap (ledger.noted? info calls)

theorem mem_positions {n k : ℕ} : n ∈ ledger.positions info calls k ↔ n < k
    ∧ (ledger.noted? info calls n).isSome = true
    ∧ ∀ later, n < later → later < k → ledger.closed info calls later = false := by
  simp only [positions, List.mem_filter, List.mem_range, Bool.and_eq_true, List.all_eq_true,
    Bool.or_eq_true, decide_eq_true_eq, Bool.not_eq_true']
  refine and_congr_right fun _ => and_congr_right fun _ => forall_congr' fun later => ?_
  constructor
  · exact fun h hlater hk => (h hk).resolve_left (Nat.not_le.mpr hlater)
  · exact fun h hk => (Nat.lt_or_ge n later).symm.imp_right fun hlater => h hlater hk

/-- The positions come in the order of the run. -/
theorem pairwise_positions (k : ℕ) : (ledger.positions info calls k).Pairwise (· < ·) :=
  List.Pairwise.filter _ List.pairwise_lt_range

theorem positions_succ (k : ℕ) : ledger.positions info calls (k + 1)
    = (if ledger.closed info calls k then [] else ledger.positions info calls k)
      ++ if (ledger.noted? info calls k).isSome then [k] else [] := by
  have hlast : (List.range (k + 1)).all (fun later => later ≤ k || !ledger.closed info calls later)
      = true :=
    List.all_eq_true.mpr fun later hlater => by
      rw [decide_eq_true (Nat.le_of_lt_succ (List.mem_range.mp hlater)), Bool.true_or]
  -- A position that is not the last one is open if it was, and the last one does not close the list.
  have hearlier : ∀ n ∈ List.range k, ((ledger.noted? info calls n).isSome
        && (List.range (k + 1)).all fun later => later ≤ n || !ledger.closed info calls later)
      = (!ledger.closed info calls k && ((ledger.noted? info calls n).isSome
        && (List.range k).all fun later => later ≤ n || !ledger.closed info calls later)) := by
    intro n hn
    have hle : decide (k ≤ n) = false := decide_eq_false (Nat.not_le.mpr (List.mem_range.mp hn))
    rw [List.range_succ, List.all_append, List.all_cons, List.all_nil, Bool.and_true, hle,
      Bool.false_or, ← Bool.and_assoc, Bool.and_comm]
  rw [positions, List.range_succ, List.filter_append, ← List.range_succ, List.filter_congr hearlier,
    List.filter_cons, List.filter_nil, hlast, Bool.and_true]
  congr 1
  cases ledger.closed info calls k with
  | true => exact List.filter_eq_nil_iff.mpr fun n _ => Bool.false_ne_true
  | false => rfl

theorem contents_succ (k : ℕ) : ledger.contents info calls (k + 1)
    = (if ledger.closed info calls k then [] else ledger.contents info calls k)
      ++ (ledger.noted? info calls k).toList := by
  rw [contents, positions_succ, List.filterMap_append, contents]
  congr 1
  · split <;> rfl
  · cases hnoted : ledger.noted? info calls k with
    | none => rfl
    | some a => simp [hnoted]

variable {ledger}

/-- A list that is kept as a ledger says holds what the ledger has noted. -/
theorem eq_contents {list : Monitor → List α} (hkeeps : ledger.Keeps list)
    (hstart : list { info } = []) (k : ℕ) :
    list (before info calls k) = ledger.contents info calls k := by
  induction k with
  | zero => exact hstart
  | succ k ih =>
    rw [contents_succ, closed, noted?, ← ih]
    cases hcall : calls[k]? with
    | none =>
      rw [before_succ_of_none info calls hcall]
      exact (List.append_nil _).symm
    | some call =>
      rw [before_succ info calls hcall, hkeeps _ call (wellFormed_before info calls k)]
      rfl

end Run

end Ledger

/-! ## The ledgers of a monitor -/

/-- Whether a call makes the monitor forget a scenario, with what is tolerated in it. -/
def forgets (m : Monitor) : MonitorCall → Bool
  | .verify | .finish => m.phase ≠ .idle
  | .skip _ => true
  | _ => false

/-- The expectations that were registered and whose scenario was not ended. -/
def registrations : Ledger Expectation where
  notes _ call := call.registers?
  closes _ call := call.ends

/-- The identifiers that are tolerated until a scenario is ended. -/
def tolerations : Ledger String where
  notes _ call := call.allows?
  closes := forgets

/-- The diagnostics of the scenario in progress. -/
def emissions : Ledger Diagnostic where
  notes m call := call.emits?.filter fun _ => m.phase ≠ .idle
  closes _ call := call.ends

/-- The diagnostics of the scenario in progress that were neither expected nor tolerated when they were
emitted. -/
def surprises : Ledger Diagnostic where
  notes m call := call.emits?.filter fun diagnostic =>
    m.phase ≠ .idle && !m.expects diagnostic && !m.tolerates diagnostic
  closes _ call := call.ends

/-- The diagnostics that were emitted outside of scenarios and were not tolerated then. -/
def outsiders : Ledger Diagnostic where
  notes m call := call.emits?.filter fun diagnostic => m.phase = .idle && !m.tolerates diagnostic
  closes _ call := call = .finish

/-! ## How the lists are kept -/

theorem expectations_receive (m : Monitor) (diagnostic : Diagnostic) :
    (m.receive diagnostic).expectations = m.expectations := by
  by_cases hphase : m.phase = .idle
  · rw [receive_idle hphase]
    split <;> rfl
  · rw [expectations, (receive_cases hphase diagnostic).2.2.2.2.1]
    cases hmeet : meet m.entries diagnostic with
    | none => rfl
    | some after =>
      obtain ⟨before, entry, rest, hentries, -, -, rfl⟩ := meet_eq_some hmeet
      simp [expectations, hentries]

theorem registrations_keeps : registrations.Keeps expectations := by
  intro m call h
  have hended (hends : call.ends = true) := (lists_of_ends h hends).1
  cases call with
  | expect new =>
    show (m.expect new).expectations = m.expectations ++ [new]
    rw [expect, expectations, (arm_cases _).2.1]
    exact List.map_append
  | expectSuccess =>
    show m.arm.expectations = m.expectations ++ []
    rw [expectations, (arm_cases m).2.1, List.append_nil]
    rfl
  | allow vuid => exact (List.append_nil _).symm
  | emit diagnostic => exact (expectations_receive m diagnostic).trans (List.append_nil _).symm
  | _ => exact hended rfl

theorem tolerations_keeps : tolerations.Keeps allowed := by
  intro m call h
  cases call with
  | expect new => exact (arm_cases _).2.2.2.2.2.trans (List.append_nil _).symm
  | expectSuccess => exact (arm_cases m).2.2.2.2.2.trans (List.append_nil _).symm
  | allow vuid => rfl
  | emit diagnostic =>
    show (m.receive diagnostic).allowed = m.allowed ++ []
    rw [List.append_nil]
    by_cases hphase : m.phase = .idle
    · rw [receive_idle hphase]
      split <;> rfl
    · exact (receive_cases hphase diagnostic).2.2.1
  | verify =>
    show m.verify.2.allowed = (if decide (m.phase ≠ .idle) then [] else m.allowed) ++ []
    rw [verify_state]
    by_cases hphase : m.phase = .idle <;> simp [hphase, reset]
  | skip reason => rfl
  | finish =>
    show m.finish.2.allowed = (if decide (m.phase ≠ .idle) then [] else m.allowed) ++ []
    rw [finish_state]
    by_cases hphase : m.phase = .idle <;> simp [hphase, reset]

/-- A diagnostic that is noted under a condition. -/
theorem toList_filter_some (condition : Diagnostic → Bool) (diagnostic : Diagnostic) :
    ((some diagnostic).filter condition).toList
      = if condition diagnostic then [diagnostic] else [] := by
  rw [Option.filter_some, apply_ite Option.toList]
  rfl

theorem emissions_keeps : emissions.Keeps diagnostics := by
  intro m call h
  have hended (hends : call.ends = true) := (lists_of_ends h hends).2.1
  cases call with
  | expect new => exact (arm_cases _).2.2.1.trans (List.append_nil _).symm
  | expectSuccess => exact (arm_cases m).2.2.1.trans (List.append_nil _).symm
  | allow vuid => exact (List.append_nil _).symm
  | emit diagnostic =>
    show (m.receive diagnostic).diagnostics
      = m.diagnostics ++ ((some diagnostic).filter fun _ => m.phase ≠ .idle).toList
    rw [toList_filter_some]
    by_cases hphase : m.phase = .idle
    · rw [receive_idle hphase]
      split <;> simp [hphase]
    · rw [(receive_cases hphase diagnostic).2.1]
      simp [hphase]
  | _ => exact hended rfl

theorem surprises_keeps : surprises.Keeps unexpected := by
  intro m call h
  have hended (hends : call.ends = true) := (lists_of_ends h hends).2.2
  cases call with
  | expect new => exact (arm_cases _).2.2.2.1.trans (List.append_nil _).symm
  | expectSuccess => exact (arm_cases m).2.2.2.1.trans (List.append_nil _).symm
  | allow vuid => exact (List.append_nil _).symm
  | emit diagnostic =>
    show (m.receive diagnostic).unexpected = m.unexpected ++ ((some diagnostic).filter fun diagnostic =>
      m.phase ≠ .idle && !m.expects diagnostic && !m.tolerates diagnostic).toList
    rw [toList_filter_some]
    by_cases hphase : m.phase = .idle
    · rw [receive_idle hphase]
      split <;> simp [hphase]
    · rw [(receive_cases hphase diagnostic).2.2.2.2.2]
      cases hexpects : m.expects diagnostic <;> cases htolerates : m.tolerates diagnostic
        <;> simp [hphase]
  | _ => exact hended rfl

theorem outsiders_keeps : outsiders.Keeps strays := by
  intro m call h
  have hended (hends : call.ends = true) := (step_of_ends (m := m) hends).2
  cases call with
  | expect new => exact (arm_cases _).2.2.2.2.1.trans (List.append_nil _).symm
  | expectSuccess => exact (arm_cases m).2.2.2.2.1.trans (List.append_nil _).symm
  | allow vuid => exact (List.append_nil _).symm
  | emit diagnostic =>
    show (m.receive diagnostic).strays = m.strays ++ ((some diagnostic).filter fun diagnostic =>
      m.phase = .idle && !m.tolerates diagnostic).toList
    rw [toList_filter_some]
    by_cases hphase : m.phase = .idle
    · rw [receive_idle hphase]
      cases htolerates : m.tolerates diagnostic <;> simp [hphase]
    · rw [(receive_cases hphase diagnostic).2.2.2.1]
      simp [hphase]
  | finish => exact hended rfl
  | _ => exact (hended rfl).trans (List.append_nil _).symm

end Monitor

end VulkanValidity
