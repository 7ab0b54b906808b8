/-
  VulkanValidity.Diagnostic

  What a device reports: diagnostics, each with the identifier of the violated usage rule, and the
  error that an operation fails with. An error that was diagnosed carries the kind, the identifier
  and the first object of its diagnostic.
-/

import VulkanValidity.Handle

namespace VulkanValidity

/-! ## Kinds and severities -/

/-- The classes of problems that diagnostics and errors are sorted into. -/
inductive ErrorKind
  | invalidParams
  | useAfterFree
  | notFound
  | layoutMismatch
  | ownershipViolation
  | insufficientSize
  | badAlignment
  | incompatibleMemoryType
  | importMismatch
  | importUsageMismatch
  | dedicatedAllocationMismatch
  | queryBeforeBind
deriving DecidableEq, Repr

namespace ErrorKind

/-- The name of a kind of errors. -/
def name : ErrorKind → String
  | invalidParams => "InvalidParams"
  | useAfterFree => "UseAfterFree"
  | notFound => "NotFound"
  | layoutMismatch => "LayoutMismatch"
  | ownershipViolation => "OwnershipViolation"
  | insufficientSize => "InsufficientSize"
  | badAlignment => "BadAlignment"
  | incompatibleMemoryType => "IncompatibleMemoryType"
  | importMismatch => "ImportMismatch"
  | importUsageMismatch => "ImportUsageMismatch"
  | dedicatedAllocationMismatch => "DedicatedAllocationMismatch"
  | queryBeforeBind => "QueryBeforeBind"

instance : Named ErrorKind where
  values := [invalidParams, useAfterFree, notFound, layoutMismatch, ownershipViolation,
    insufficientSize, badAlignment, incompatibleMemoryType, importMismatch, importUsageMismatch,
    dedicatedAllocationMismatch, queryBeforeBind]
  name := name

/-- What a kind of errors is about, in the words of messages. -/
def description : ErrorKind → String
  | invalidParams => "invalid parameters"
  | useAfterFree => "use of a destroyed or in-use object"
  | notFound => "object not found"
  | layoutMismatch => "image layout mismatch"
  | ownershipViolation => "queue family ownership violation"
  | insufficientSize => "insufficient memory size"
  | badAlignment => "bad memory alignment"
  | incompatibleMemoryType => "incompatible memory type"
  | importMismatch => "imported memory mismatch"
  | importUsageMismatch => "imported memory usage mismatch"
  | dedicatedAllocationMismatch => "dedicated allocation mismatch"
  | queryBeforeBind => "memory requirements queried before binding"

end ErrorKind

/-- How serious a diagnostic is. Only errors reject an operation. -/
inductive Severity
  | info
  | warning
  | error
deriving DecidableEq, Repr

namespace Severity

/-- The name of a severity. -/
def name : Severity → String
  | info => "Info"
  | warning => "Warning"
  | error => "Error"

instance : Named Severity := ⟨[info, warning, error], name⟩

/-- A severity in the words of messages. -/
def description : Severity → String
  | info => "info"
  | warning => "warning"
  | error => "error"

/-- The position of a severity in the order from harmless to serious. -/
def rank : Severity → Nat
  | info => 0
  | warning => 1
  | error => 2

end Severity

/-! ## Diagnostics -/

/-- One violation of a usage rule. -/
structure Diagnostic where
  /-- The identifier of the violated rule in the specification. -/
  vuid : String
  kind : ErrorKind
  severity : Severity
  message : String
  /-- The objects that the violation concerns, the most important one first. -/
  objects : List ObjectId
deriving DecidableEq, Repr

/-- The text of a diagnostic: severity, identifier, message and objects. -/
def Diagnostic.text (d : Diagnostic) : String :=
  let head := s!"[{d.severity.description}] {d.vuid}: {d.message}"
  if d.objects.isEmpty then head
  else head ++ " (" ++ ", ".intercalate (d.objects.map ObjectId.text) ++ ")"

/-! ## Errors -/

/-- The reason why an operation failed. -/
structure Error where
  kind : ErrorKind
  /-- The identifier of the violated rule, if a rule rejected the operation. -/
  vuid : Option String
  /-- The object that the error concerns, if there is one. -/
  object : Option ObjectId
deriving DecidableEq, Repr

namespace Error

/-- An error of the given kind that no rule has diagnosed. -/
def ofKind (kind : ErrorKind) : Error :=
  ⟨kind, none, none⟩

/-- The error of looking up an object that is not alive. -/
def notFound (id : ObjectId) : Error :=
  ⟨.notFound, none, some id⟩

/-- The error that stands for a diagnostic. -/
def ofDiagnostic (d : Diagnostic) : Error :=
  ⟨d.kind, some d.vuid, d.objects.head?⟩

/-- The text of an error: its kind, the rule that was broken, and the object that it is about. -/
def text (e : Error) : String :=
  let vuid := match e.vuid with
    | some vuid => s!" ({vuid})"
    | none => ""
  let object := match e.object with
    | some object => s!" for {object.text}"
    | none => ""
  e.kind.description ++ vuid ++ object

end Error

end VulkanValidity
