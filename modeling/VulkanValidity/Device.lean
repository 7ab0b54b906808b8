/-
  VulkanValidity.Device

  Devices: an environment, the rules of an engine, the registry of objects, and the submissions that
  are not complete yet. Every operation is validated before it is performed. It has an outcome: the
  diagnostics of the rules, the state afterwards, and a result or the error that it failed with. An
  operation fails with its first diagnostic that is an error.
-/

import VulkanValidity.Rule

namespace VulkanValidity

/-! ## Devices -/

/-- A submission that is not complete yet. -/
structure PendingSubmission where
  queue : Queue
  commandBuffer : Handle .commandBuffer
  /-- The objects that the submission uses. -/
  pinned : List ObjectId
deriving DecidableEq, Repr

/-- A device: the environment that it runs in, the rules that it checks, and its objects. -/
structure Device where
  environment : Environment
  engine : Engine
  registry : Registry := {}
  /-- The submissions that are not complete yet, oldest first. -/
  pending : List PendingSubmission := []
  /-- The number of the next hardware buffer. -/
  nextHardwareBuffer : Nat := 1

/-! ## Outcomes -/

/-- What an operation on a state of type `σ` leads to. -/
structure Outcome (σ α : Type) where
  state : σ
  /-- The diagnostics of the rules, in order. -/
  diagnostics : List Diagnostic := []
  /-- What the operation gives, or the error that it failed with. -/
  result : Except Error α

/-- The first diagnostic that is an error. -/
def firstError? (diagnostics : List Diagnostic) : Option Diagnostic :=
  diagnostics.find? fun diagnostic => diagnostic.severity == .error

/-- Whether there is an error other than a layout mismatch. -/
def hasStructuralError (diagnostics : List Diagnostic) : Bool :=
  diagnostics.any fun diagnostic =>
    diagnostic.severity == .error && diagnostic.kind != .layoutMismatch

/-- The error of an operation with the given diagnostics, if they reject it. -/
def verdict (diagnostics : List Diagnostic) : Except Error Unit :=
  match firstError? diagnostics with
  | some diagnostic => .error (.ofDiagnostic diagnostic)
  | none => .ok ()

/-- Performs an operation with the given diagnostics, unless they reject it. If it fails after that,
the state stays as it was. -/
def Outcome.guarded {σ α : Type} (state : σ) (diagnostics : List Diagnostic)
    (perform : Except Error (α × σ)) : Outcome σ α :=
  match verdict diagnostics with
  | .error e => ⟨state, diagnostics, .error e⟩
  | .ok () =>
    match perform with
    | .error e => ⟨state, diagnostics, .error e⟩
    | .ok (value, state) => ⟨state, diagnostics, .ok value⟩

namespace Device

/-! ## Validation -/

/-- What rules see of an operation that is not recorded into a command buffer. -/
def context (d : Device) (operation : Operation) : Context where
  registry := d.registry
  environment := d.environment
  operation := operation

/-- The diagnostics of an operation, before it is performed. -/
def diagnose (d : Device) (operation : Operation) : List Diagnostic :=
  d.engine.evaluate (d.context operation)

/-- Whether no rule reports an error for the operation. -/
def accepts (d : Device) (operation : Operation) : Bool :=
  (firstError? (d.diagnose operation)).isNone

/-- Whether validating an operation computes a number that does not fit its width. -/
def overflows (d : Device) (operation : Operation) : Bool :=
  d.engine.overflows (d.context operation)

/-- Validates an operation and performs it, unless it is rejected. -/
def guarded {α : Type} (d : Device) (operation : Operation) (perform : Except Error (α × Device)) :
    Outcome Device α :=
  .guarded d (d.diagnose operation) perform

/-- The device with another registry. -/
def withRegistry (d : Device) (registry : Registry) : Device :=
  { d with registry := registry }

/-- Adds an object to the registry of the device. -/
def insert (d : Device) (t : ObjectType) (object : t.Object) : Handle t × Device :=
  let (handle, registry) := d.registry.insert t object
  (handle, d.withRegistry registry)

end Device

end VulkanValidity
