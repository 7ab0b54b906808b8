/-
  VulkanValidity.Monitor

  Monitors compare the diagnostics of a scenario with what is expected of it. A monitor is idle until
  it is armed, and triggered once a diagnostic arrives while it is armed. Verifying judges the
  scenario and makes the monitor idle again. Diagnostics that arrive while it is idle are strays.

  Expectations are a multiset: each of them asks for a diagnostic of its own. A diagnostic goes to an
  expectation that is not met yet, preferably to one of its exact identifier.
-/

import VulkanValidity.Diagnostic

namespace VulkanValidity

/-! ## Expectations -/

/-- What a scenario is expected to bring about. -/
inductive Expectation
  /-- A diagnostic with the given identifier. -/
  | vuid (vuid : String)
  /-- A diagnostic of the given kind. -/
  | kind (kind : ErrorKind)
deriving DecidableEq, Repr

namespace Expectation

/-- Whether a diagnostic is one that is expected. -/
def accepts (expectation : Expectation) (diagnostic : Diagnostic) : Bool :=
  match expectation with
  | vuid own => own == diagnostic.vuid
  | kind own => own == diagnostic.kind

/-- Whether a diagnostic is one that is expected by its identifier. -/
def acceptsVuid : Expectation → Diagnostic → Bool
  | vuid own, diagnostic => own == diagnostic.vuid
  | kind _, _ => false

/-- Whether a diagnostic is one that is expected by its kind. -/
def acceptsKind : Expectation → Diagnostic → Bool
  | vuid _, _ => false
  | kind own, diagnostic => own == diagnostic.kind

/-- An expectation in the words of messages. -/
def text : Expectation → String
  | vuid own => own
  | kind own => s!"any diagnostic of kind `{own.description}`"

end Expectation

/-- An expectation, and whether a diagnostic has met it. -/
structure ExpectationEntry where
  expectation : Expectation
  isMet : Bool := false
deriving DecidableEq, Repr

/-! ## Results -/

/-- The phases of a monitor. -/
inductive MonitorPhase
  /-- No scenario is in progress. -/
  | idle
  /-- A scenario is in progress, but nothing was emitted. -/
  | armed
  | triggered
deriving DecidableEq, Repr

/-- The name of a phase. -/
def MonitorPhase.name : MonitorPhase → String
  | idle => "Idle"
  | armed => "Armed"
  | triggered => "Triggered"

/-- The outcome of a scenario that did not fail. -/
inductive Verification
  /-- The scenario did what was expected; these diagnostics were emitted in it. -/
  | passed (diagnostics : List Diagnostic)
  /-- The scenario was skipped for the given reason. -/
  | skipped (reason : String)
deriving DecidableEq, Repr

/-- The ways in which a verification fails. -/
inductive VerifyError
  /-- No scenario is in progress. -/
  | idle
  /-- Expectations were not met, or diagnostics were neither expected nor tolerated. -/
  | failed (missing : List Expectation) (unexpected : List Diagnostic)
  /-- Diagnostics were emitted outside of a scenario. -/
  | stray (diagnostics : List Diagnostic)
deriving DecidableEq, Repr

/-- The text of an error: a line for what is wrong, and an indented line for each detail. -/
def VerifyError.text : VerifyError → String
  | idle => "the monitor was verified without expectations"
  | failed missing unexpected =>
    "\n  ".intercalate <| "the scenario failed" ::
      (missing.map (fun expectation => "expected but not found: " ++ expectation.text)
        ++ unexpected.map fun diagnostic => "unexpected: " ++ diagnostic.text)
  | stray diagnostics =>
    "\n  ".intercalate <| "diagnostics were emitted outside of a scenario" ::
      diagnostics.map Diagnostic.text

/-! ## Monitors -/

/-- What a monitor does not report. -/
structure MonitorInfo where
  /-- The identifiers of diagnostics that are tolerated in every scenario. -/
  tolerated : List String := []
  /-- The severities of diagnostics that are not tolerated without being expected. -/
  failing : List Severity := [.error]
deriving DecidableEq, Repr

/-- A monitor of diagnostics. -/
structure Monitor where
  info : MonitorInfo := {}
  phase : MonitorPhase := .idle
  entries : List ExpectationEntry := []
  /-- The identifiers of diagnostics that are tolerated in this scenario. -/
  allowed : List String := []
  diagnostics : List Diagnostic := []
  /-- The diagnostics of this scenario that are neither expected nor tolerated. -/
  unexpected : List Diagnostic := []
  /-- The diagnostics outside of scenarios that are not tolerated. -/
  strays : List Diagnostic := []
deriving DecidableEq, Repr

namespace Monitor

/-! ### Preparing a scenario -/

/-- Arms an idle monitor. -/
def arm (m : Monitor) : Monitor :=
  if m.phase = .idle then { m with phase := .armed } else m

/-- Adds an expectation that is not met yet, and arms the monitor. -/
def expect (m : Monitor) (expectation : Expectation) : Monitor :=
  arm { m with entries := m.entries ++ [⟨expectation, false⟩] }

/-- Tolerates diagnostics with an identifier until the scenario ends. -/
def allow (m : Monitor) (vuid : String) : Monitor :=
  { m with allowed := m.allowed ++ [vuid] }

/-- Makes the monitor idle and forgets the scenario. -/
def reset (m : Monitor) : Monitor :=
  { m with phase := .idle, entries := [], allowed := [], diagnostics := [], unexpected := [] }

/-! ### Receiving diagnostics -/

/-- Whether a diagnostic does no harm even if it is not expected. -/
def tolerates (m : Monitor) (diagnostic : Diagnostic) : Bool :=
  !m.info.failing.contains diagnostic.severity
    || (m.allowed ++ m.info.tolerated).contains diagnostic.vuid

/-- Meets the first expectation that is not met yet and that `accepts` selects, if there is one. -/
def meetFirst (accepts : Expectation → Bool) :
    List ExpectationEntry → Option (List ExpectationEntry)
  | [] => none
  | entry :: rest =>
    if !entry.isMet && accepts entry.expectation then some ({ entry with isMet := true } :: rest)
    else (meetFirst accepts rest).map (entry :: ·)

/-- Gives a diagnostic to an expectation that is not met yet: to one of its identifier, or else to one
of its kind. -/
def meet (entries : List ExpectationEntry) (diagnostic : Diagnostic) :
    Option (List ExpectationEntry) :=
  (meetFirst (·.acceptsVuid diagnostic) entries).or (meetFirst (·.acceptsKind diagnostic) entries)

/-- Whether a diagnostic is expected, be it once more than asked for. -/
def expects (m : Monitor) (diagnostic : Diagnostic) : Bool :=
  m.entries.any fun entry => entry.expectation.accepts diagnostic

/-- Receives a diagnostic. -/
def receive (m : Monitor) (diagnostic : Diagnostic) : Monitor :=
  if m.phase = .idle then
    if m.tolerates diagnostic then m else { m with strays := m.strays ++ [diagnostic] }
  else
    let m := { m with phase := .triggered, diagnostics := m.diagnostics ++ [diagnostic] }
    match meet m.entries diagnostic with
    | some entries => { m with entries := entries }
    | none =>
      -- One more diagnostic of an expected kind does no harm, though no expectation is left for it.
      if m.expects diagnostic || m.tolerates diagnostic then m
      else { m with unexpected := m.unexpected ++ [diagnostic] }

/-- Receives diagnostics one after the other. -/
def receiveAll (m : Monitor) (diagnostics : List Diagnostic) : Monitor :=
  diagnostics.foldl receive m

/-! ### Judging a scenario -/

/-- The expectations that are not met, in the order in which they were added. -/
def missing (m : Monitor) : List Expectation :=
  (m.entries.filter fun entry => !entry.isMet).map ExpectationEntry.expectation

/-- Judges the scenario and ends it. -/
def verify (m : Monitor) : Except VerifyError Verification × Monitor :=
  if m.phase = .idle then (.error .idle, m)
  else if m.missing.isEmpty && m.unexpected.isEmpty then (.ok (.passed m.diagnostics), m.reset)
  else (.error (.failed m.missing m.unexpected), m.reset)

/-- Ends the scenario, which cannot be judged for the given reason. -/
def skip (m : Monitor) (reason : String) : Verification × Monitor :=
  (.skipped reason, m.reset)

/-- Ends the use of the monitor. -/
def finish (m : Monitor) : Except VerifyError Unit × Monitor :=
  -- A scenario that is still in progress was never judged.
  let strays := if m.phase = .idle then m.strays else m.strays ++ m.unexpected
  let done := { (if m.phase = .idle then m else m.reset) with strays := [] }
  if strays.isEmpty then (.ok (), done) else (.error (.stray strays), done)

end Monitor

end VulkanValidity
