/-
  VulkanValidity.Proofs.Reports

  What an engine reports, and what follows if it reports nothing.  A rule that the engine holds and that
  reports nothing has nothing to complain about (`Engine.Reports.check_eq_nil`).  The standard rules
  report errors only (`Standard.severity_eq_error`), so that the standard engine accepts an operation
  only if none of its rules has anything to complain about.
-/

import VulkanValidity.Device
import VulkanValidity.Proofs.Objects
import VulkanValidity.Rules.Standard

namespace VulkanValidity

/-! ## Verdicts -/

theorem verdict_eq_ok {diagnostics : List Diagnostic} :
    verdict diagnostics = .ok () ↔ firstError? diagnostics = none := by
  rw [verdict]
  cases firstError? diagnostics <;> simp

theorem verdict_eq_error {diagnostics : List Diagnostic} {e : Error} :
    verdict diagnostics = .error e
      ↔ ∃ diagnostic, firstError? diagnostics = some diagnostic ∧ e = .ofDiagnostic diagnostic := by
  rw [verdict]
  cases firstError? diagnostics <;> simp [eq_comm]

theorem exists_firstError?_iff {diagnostics : List Diagnostic} :
    (∃ diagnostic, firstError? diagnostics = some diagnostic)
      ↔ ∃ diagnostic ∈ diagnostics, diagnostic.severity = .error := by
  rw [← Option.isSome_iff_exists, firstError?, List.find?_isSome]
  simp

/-- The verdict is an error if there is one among the diagnostics. -/
theorem exists_verdict_eq_error {diagnostics : List Diagnostic} :
    (∃ e, verdict diagnostics = .error e)
      ↔ ∃ diagnostic ∈ diagnostics, diagnostic.severity = .error := by
  rw [← exists_firstError?_iff, verdict]
  cases firstError? diagnostics <;> simp

/-- The first error of several lists of diagnostics is the first one of the first list that has any. -/
theorem verdict_append (l l' : List Diagnostic) :
    verdict (l ++ l') = (do verdict l; verdict l') := by
  simp only [verdict, firstError?, List.find?_append]
  cases l.find? fun diagnostic => diagnostic.severity == .error <;> rfl

theorem violationIf_eq_nil {condition : Bool} {message : String} {objects : List ObjectId} :
    violationIf condition message objects = [] ↔ condition = false := by
  cases condition <;> simp [violationIf]

/-! ## Rules of an engine -/

/-- Rules report nothing if none of their checks has anything to complain about. -/
theorem Rule.flatMap_diagnostics_eq_nil {rules : List Rule} {ctx : Context} :
    (rules.flatMap fun rule => rule.diagnostics ctx) = []
      ↔ ∀ rule ∈ rules, rule.predicate.check ctx = [] := by
  simp only [List.flatMap_eq_nil_iff, diagnostics, List.map_eq_nil_iff]

/-- The engine holds a rule that reports the violations of a check as diagnostics of `kind`. -/
def Engine.Reports (engine : Engine) (checkpoint : Checkpoint) (kind : ErrorKind) (check : Check) :
    Prop :=
  ∃ rule ∈ engine.rules, rule.appliesTo checkpoint = true ∧ rule.kind = kind
    ∧ rule.predicate.check = check

/-- A check that is reported and of which no diagnostic is found has no violation. -/
theorem Engine.Reports.check_eq_nil {engine : Engine} {checkpoint : Checkpoint} {kind : ErrorKind}
    {check : Check} (h : engine.Reports checkpoint kind check) {ctx : Context}
    (hctx : ctx.operation.checkpoint = checkpoint)
    (hnone : ∀ diagnostic ∈ engine.evaluate ctx, diagnostic.kind ≠ kind) : check ctx = [] := by
  obtain ⟨rule, hrule, happlies, rfl, rfl⟩ := h
  have happlicable : rule ∈ engine.applicable ctx := by
    refine List.mem_filter.mpr ⟨hrule, ?_⟩
    rw [hctx]
    exact happlies
  refine List.eq_nil_iff_forall_not_mem.mpr fun violation hviolation => ?_
  refine hnone (rule.diagnostic violation) ?_ rfl
  exact List.mem_flatMap.mpr ⟨rule, happlicable, List.mem_map_of_mem hviolation⟩

/-- The engine holds a rule that reports the violations of a check as errors. -/
def Engine.Rejects (engine : Engine) (checkpoint : Checkpoint) (check : Check) : Prop :=
  ∃ rule ∈ engine.rules, rule.appliesTo checkpoint = true ∧ rule.severity = .error
    ∧ rule.predicate.check = check

/-- What the engine accepts has no violation of such a check. -/
theorem Engine.Rejects.check_eq_nil {engine : Engine} {checkpoint : Checkpoint} {check : Check}
    (h : engine.Rejects checkpoint check) {ctx : Context} (hctx : ctx.operation.checkpoint = checkpoint)
    (haccepted : verdict (engine.evaluate ctx) = .ok ()) : check ctx = [] := by
  obtain ⟨rule, hrule, happlies, hseverity, rfl⟩ := h
  have happlicable : rule ∈ engine.applicable ctx := by
    refine List.mem_filter.mpr ⟨hrule, ?_⟩
    rw [hctx]
    exact happlies
  refine List.eq_nil_iff_forall_not_mem.mpr fun violation hviolation => ?_
  have hreported : rule.diagnostic violation ∈ engine.evaluate ctx :=
    List.mem_flatMap.mpr ⟨rule, happlicable, List.mem_map_of_mem hviolation⟩
  have hnone := List.find?_eq_none.mp (verdict_eq_ok.mp haccepted) _ hreported
  exact hnone (beq_iff_eq.mpr hseverity)

/-! ## The standard rules -/

namespace ObjectRules

variable {ctx : Context}

theorem objectDestroyed_eq_nil :
    objectDestroyed ctx = [] ↔ ∀ id ∈ ctx.operation.objects, ctx.registry.isDestroyed id = false := by
  simp only [objectDestroyed, List.map_eq_nil_iff, List.filter_eq_nil_iff, Bool.not_eq_true]

theorem objectUnknown_eq_nil :
    objectUnknown ctx = [] ↔ ∀ id ∈ ctx.operation.objects, ctx.registry.isKnown id = true := by
  simp only [objectUnknown, List.map_eq_nil_iff, List.filter_eq_nil_iff, Bool.not_eq_true,
    Bool.not_eq_false']

end ObjectRules

namespace Standard

/-- The lists that the standard rules are put together from. -/
def subjects : List (List Rule) :=
  [objectRules, imageRules, imageViewRules, bufferRules, memoryRules, bindingRules, renderPassRules,
    framebufferRules, renderPassBeginRules, barrierRules, replayRules, queueRules, commandRules,
    submissionRules, swapchainRules]

theorem mem_rules {subject : List Rule} (hsubject : subject ∈ subjects) {rule : Rule}
    (h : rule ∈ subject) : rule ∈ rules := by
  have hrules : rules = subjects.flatten := by
    simp only [rules, subjects, List.flatten_cons, List.flatten_nil, List.append_assoc,
      List.append_nil]
  rw [hrules]
  exact List.mem_flatten_of_mem hsubject h

/-- The engine reports by each of the standard rules, at the checkpoints that the rule applies to. -/
theorem reports_rule (subject : List Rule) (i : Nat) {checkpoint : Checkpoint}
    (hsubject : subject ∈ subjects := by simp [subjects]) (hlt : i < subject.length := by decide)
    (happlies : subject[i].appliesTo checkpoint = true := by rfl) :
    engine.Reports checkpoint subject[i].kind subject[i].predicate.check :=
  ⟨subject[i], mem_rules hsubject (List.getElem_mem hlt), happlies, rfl, rfl⟩

theorem severity_of_mem_rules : ∀ rule ∈ rules, rule.severity = .error := by
  decide +kernel

/-- The standard rules report errors only. -/
theorem severity_eq_error {ctx : Context} {diagnostic : Diagnostic}
    (h : diagnostic ∈ engine.evaluate ctx) : diagnostic.severity = .error := by
  obtain ⟨rule, hrule, hdiagnostic⟩ := List.mem_flatMap.mp h
  obtain ⟨violation, -, rfl⟩ := List.mem_map.mp hdiagnostic
  exact severity_of_mem_rules rule (List.mem_filter.mp hrule).1

/-- What the standard engine accepts it says nothing about. -/
theorem evaluate_eq_nil {ctx : Context} (h : verdict (engine.evaluate ctx) = .ok ()) :
    engine.evaluate ctx = [] := by
  refine List.eq_nil_iff_forall_not_mem.mpr fun diagnostic hmem => ?_
  have hnone := List.find?_eq_none.mp (verdict_eq_ok.mp h) diagnostic hmem
  exact hnone (beq_iff_eq.mpr (severity_eq_error hmem))

/-- What a standard rule reports is an error. -/
theorem rejects_of_reports {checkpoint : Checkpoint} {kind : ErrorKind} {check : Check}
    (h : engine.Reports checkpoint kind check) : engine.Rejects checkpoint check := by
  obtain ⟨rule, hrule, happlies, -, hcheck⟩ := h
  exact ⟨rule, hrule, happlies, severity_of_mem_rules rule hrule, hcheck⟩

/-- A standard rule has nothing to complain about in what is accepted. -/
theorem check_eq_nil {checkpoint : Checkpoint} {kind : ErrorKind} {check : Check}
    (hreports : engine.Reports checkpoint kind check) {ctx : Context}
    (hctx : ctx.operation.checkpoint = checkpoint) (h : verdict (engine.evaluate ctx) = .ok ()) :
    check ctx = [] :=
  (rejects_of_reports hreports).check_eq_nil hctx h

/-! ### Rules about objects -/

theorem reports_objectDestroyed (checkpoint : Checkpoint) :
    engine.Reports checkpoint .useAfterFree ObjectRules.objectDestroyed :=
  reports_rule objectRules 0

theorem reports_objectUnknown (checkpoint : Checkpoint) :
    engine.Reports checkpoint .notFound ObjectRules.objectUnknown :=
  reports_rule objectRules 1

/-- Every type of objects but swapchains has a rule against destroying objects that are in use. -/
theorem reports_destroyInUse {t : ObjectType} (ht : t ≠ .swapchain) :
    engine.Reports .resourceCreation .useAfterFree (ObjectRules.destroyInUse t) := by
  cases t with
  | image => exact reports_rule objectRules 2
  | imageView => exact reports_rule objectRules 3
  | buffer => exact reports_rule objectRules 4
  | deviceMemory => exact reports_rule objectRules 5
  | renderPass => exact reports_rule objectRules 6
  | framebuffer => exact reports_rule objectRules 7
  | commandBuffer => exact reports_rule objectRules 8
  | swapchain => exact absurd rfl ht

theorem contains_of_checks {ctx : Context} (hdestroyed : ObjectRules.objectDestroyed ctx = [])
    (hunknown : ObjectRules.objectUnknown ctx = []) {id : ObjectId}
    (hid : id ∈ ctx.operation.objects) : ctx.registry.contains id = true := by
  have hnotDestroyed := ObjectRules.objectDestroyed_eq_nil.mp hdestroyed id hid
  have hknown := ObjectRules.objectUnknown_eq_nil.mp hunknown id hid
  rwa [Registry.isKnown, hnotDestroyed, Bool.or_false] at hknown

/-- The objects that an accepted operation names are alive. -/
theorem contains_of_accepted {ctx : Context} (h : verdict (engine.evaluate ctx) = .ok ())
    {id : ObjectId} (hid : id ∈ ctx.operation.objects) : ctx.registry.contains id = true :=
  contains_of_checks (check_eq_nil (reports_objectDestroyed _) rfl h)
    (check_eq_nil (reports_objectUnknown _) rfl h) hid

/-- An object whose destruction is accepted is not in use. -/
theorem not_isInFlight_of_accepted {d : Device} (hengine : d.engine = engine) {t : ObjectType}
    (ht : t ≠ .swapchain) {handle : Handle t}
    (h : verdict (d.diagnose (.destroy handle.erase)) = .ok ()) :
    d.registry.isInFlight handle.erase = false := by
  rw [Device.diagnose, hengine] at h
  have hcheck := check_eq_nil (reports_destroyInUse ht) rfl h
  have hfree := violationIf_eq_nil.mp hcheck
  rwa [handle.isOf_erase, Bool.true_and] at hfree

end Standard

end VulkanValidity
