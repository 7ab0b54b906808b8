/-
  VulkanValidity.Proofs.Severities

  Rules below the severity of errors never influence a device.  Two engines with the same rules for errors
  can be exchanged: every call of every run has the same result, leaves the same state, and reports the same
  errors in the same order (`errors_alone_decide`).

  The comparison is made for any choice of diagnostics that has all errors in it (`KeepsErrors`), and for
  any two engines that report the same of these about whatever a device shows to its rules
  (`Engine.AgreesOn`).  Verdicts only look at errors, so each operation leads to the same outcome with
  either engine (`Outcome.SameFor`), and so does each call of a session.  The engine itself is a part of
  the device, and is what the two states differ in (`Session.withEngine`).
-/

import VulkanValidity.Proofs.Checkpoints
import VulkanValidity.Proofs.Reports
import VulkanValidity.Proofs.Session

namespace VulkanValidity

/-! ## Choices of diagnostics -/

/-- A choice of diagnostics that has all errors in it. -/
def KeepsErrors (keep : Diagnostic → Bool) : Prop :=
  ∀ diagnostic : Diagnostic, diagnostic.severity = .error → keep diagnostic = true

/-- Two lists of diagnostics that agree in what is kept of them. -/
def SameKept (keep : Diagnostic → Bool) (l l' : List Diagnostic) : Prop :=
  l'.filter keep = l.filter keep

variable {keep : Diagnostic → Bool}

theorem SameKept.append {l l' m m' : List Diagnostic} (h : SameKept keep l l')
    (hm : SameKept keep m m') : SameKept keep (l ++ m) (l' ++ m') := by
  rw [SameKept, List.filter_append, List.filter_append, h, hm]

/-- What is an error and kept is an error. -/
theorem keep_and_error (hkeep : KeepsErrors keep) (diagnostic : Diagnostic) :
    (keep diagnostic && diagnostic.severity == .error) = (diagnostic.severity == .error) := by
  cases herror : diagnostic.severity == .error with
  | false => exact Bool.and_false _
  | true =>
    rw [hkeep diagnostic (beq_iff_eq.mp herror)]
    rfl

theorem SameKept.firstError?_eq (hkeep : KeepsErrors keep) {l l' : List Diagnostic}
    (h : SameKept keep l l') : firstError? l' = firstError? l := by
  have hfirst (m : List Diagnostic) : firstError? (m.filter keep) = firstError? m := by
    simp only [firstError?, List.find?_filter, Bool.decide_and, Bool.decide_eq_true,
      keep_and_error hkeep]
  rw [← hfirst l', h, hfirst l]

theorem SameKept.verdict_eq (hkeep : KeepsErrors keep) {l l' : List Diagnostic}
    (h : SameKept keep l l') : verdict l' = verdict l := by
  rw [verdict, verdict, h.firstError?_eq hkeep]

theorem SameKept.hasStructuralError_eq (hkeep : KeepsErrors keep) {l l' : List Diagnostic}
    (h : SameKept keep l l') : hasStructuralError l' = hasStructuralError l := by
  have hany (m : List Diagnostic) : hasStructuralError (m.filter keep) = hasStructuralError m := by
    simp only [hasStructuralError, List.any_filter, ← Bool.and_assoc, keep_and_error hkeep]
  rw [← hany l', h, hany l]

/-! ## Outcomes -/

/-- Two outcomes that agree in their results and in what is kept of their diagnostics, and whose states
correspond to one another by `f`. -/
structure Outcome.SameFor {σ α : Type} (keep : Diagnostic → Bool) (f : σ → σ)
    (o o' : Outcome σ α) : Prop where
  state : o'.state = f o.state
  diagnostics : SameKept keep o.diagnostics o'.diagnostics
  result : o'.result = o.result

/-- A guarded operation has the same outcome after diagnostics with the same errors. -/
theorem Outcome.SameFor.guarded (hkeep : KeepsErrors keep) {σ α : Type} {f : σ → σ} {state : σ}
    {l l' : List Diagnostic} (h : SameKept keep l l') {perform perform' : Except Error (α × σ)}
    (hperform : perform' = perform.map (Prod.map id f)) :
    SameFor keep f (.guarded state l perform) (.guarded (f state) l' perform') := by
  subst hperform
  unfold Outcome.guarded
  rw [h.verdict_eq hkeep]
  cases verdict l with
  | error e => exact ⟨rfl, h, rfl⟩
  | ok accepted => cases perform <;> exact ⟨rfl, h, rfl⟩

/-- What is performed after a step that is the same corresponds to one another. -/
theorem bind_eq_map_bind {ε α β γ : Type} {f : β → γ} {x : Except ε α} {g : α → Except ε β}
    {g' : α → Except ε γ} (h : ∀ a, g' a = (g a).map f) : (x >>= g') = (x >>= g).map f := by
  cases x with
  | error e => rfl
  | ok a => exact h a

/-! ## Engines -/

/-- Two engines that report the same, as far as it is kept, about whatever a device shows to its rules. -/
def Engine.AgreesOn (keep : Diagnostic → Bool) (engine engine' : Engine) : Prop :=
  ∀ ctx : Context, ctx.AttachedToSubmit → SameKept keep (engine.evaluate ctx) (engine'.evaluate ctx)

/-- The device with other rules. -/
def Device.withEngine (engine : Engine) (d : Device) : Device := { d with engine := engine }

/-- The session on the same device with other rules. -/
def Session.withEngine (engine : Engine) (s : Session) : Session :=
  s.withDevice (s.device.withEngine engine)

variable (hkeep : KeepsErrors keep) {engine engine' : Engine}
  (hagree : engine.AgreesOn keep engine')

include hagree

theorem Device.Shows.sameKept {d : Device} (hengine : d.engine = engine) {ctx : Context}
    (h : d.Shows ctx) :
    SameKept keep (d.engine.evaluate ctx) ((d.withEngine engine').engine.evaluate ctx) := by
  rw [hengine]
  exact hagree ctx h.attachedToSubmit

include hkeep

/-! ## Operations of devices -/

namespace Device

variable {d : Device} (hengine : d.engine = engine)

include hengine

/-- An operation that is performed in the same way after its validation has the same outcome. -/
theorem sameFor_guarded {α : Type} (operation : Operation)
    {perform perform' : Except Error (α × Device)}
    (hperform : perform' = perform.map (Prod.map id (withEngine engine'))) :
    Outcome.SameFor keep (withEngine engine') (d.guarded operation perform)
      ((d.withEngine engine').guarded operation perform') :=
  .guarded hkeep ((Shows.operation operation).sameKept hagree hengine) hperform

theorem sameFor_endCommandBuffer (recorder : Recorder) :
    Outcome.SameFor keep (withEngine engine') (d.endCommandBuffer recorder)
      ((d.withEngine engine').endCommandBuffer recorder) := by
  have hsame : SameKept keep (d.diagnoseRecording recorder.recording .endCommandBuffer)
      ((d.withEngine engine').diagnoseRecording recorder.recording .endCommandBuffer) :=
    (Shows.recording recorder.recording .endCommandBuffer).sameKept hagree hengine
  unfold endCommandBuffer
  exact .guarded hkeep hsame rfl

/-! ### Submitting and presenting -/

/-- A submission is admitted or not whatever is reported, and what it fails with is an error. -/
theorem sameFor_submitOne (queue : Queue) (handle : Handle .commandBuffer) :
    Outcome.SameFor keep (withEngine engine') (d.submitOne queue handle)
      ((d.withEngine engine').submitOne queue handle) := by
  have hregistry : (d.withEngine engine').registry = d.registry := rfl
  unfold submitOne
  rw [hregistry]
  cases d.registry.get handle with
  | error e => exact ⟨rfl, rfl, rfl⟩
  | ok commandBuffer =>
    have hsame := (Shows.submission queue handle
      (.of d.registry queue handle commandBuffer)).sameKept hagree hengine
    have hadmitted : (d.withEngine engine').admitted? queue commandBuffer
      = d.admitted? queue commandBuffer := rfl
    have hverdict := hsame.verdict_eq hkeep
    dsimp only
    rw [hadmitted]
    -- Admission looks at the command buffer and the queue alone, not at what was reported.
    cases d.admitted? queue commandBuffer with
    | some log => exact ⟨rfl, hsame, hverdict⟩
    | none => exact ⟨rfl, hsame, congrArg (· >>= fun _ => throw _) hverdict⟩

omit hengine in
/-- One submission after the other, the outcomes stay the same. -/
theorem sameFor_foldl_submitNext (entries : List (Queue × Handle .commandBuffer))
    {o o' : Outcome Device Unit} (hengine : o.state.engine = engine)
    (h : o.SameFor keep (withEngine engine') o') :
    Outcome.SameFor keep (withEngine engine') (entries.foldl submitNext o)
      (entries.foldl submitNext o') := by
  induction entries generalizing o o' with
  | nil => exact h
  | cons entry entries ih =>
    have hone := sameFor_submitOne hkeep hagree hengine entry.1 entry.2
    rw [← h.state] at hone
    have hresult : (do o'.result; (o'.state.submitOne entry.1 entry.2).result)
        = (do o.result; (o.state.submitOne entry.1 entry.2).result) := by
      rw [h.result, hone.result]
    have hnext : (submitNext o entry).SameFor keep (withEngine engine') (submitNext o' entry) :=
      ⟨hone.state, h.diagnostics.append hone.diagnostics, hresult⟩
    exact ih ((submitOne_engine o.state entry.1 entry.2).trans hengine) hnext

theorem sameFor_submit (batches : List SubmitBatch) :
    Outcome.SameFor keep (withEngine engine') (d.submit batches)
      ((d.withEngine engine').submit batches) := by
  have hsame : SameKept keep (d.diagnose (.submitBatches batches))
      ((d.withEngine engine').diagnose (.submitBatches batches)) :=
    (Shows.operation (.submitBatches batches)).sameKept hagree hengine
  unfold submit
  dsimp only
  rw [hsame.verdict_eq hkeep]
  cases verdict (d.diagnose (.submitBatches batches)) with
  | error e => exact ⟨rfl, hsame, rfl⟩
  | ok accepted =>
    cases submissionOrder? batches with
    | none => exact ⟨rfl, hsame, rfl⟩
    | some order => exact sameFor_foldl_submitNext hkeep hagree _ hengine ⟨rfl, hsame, rfl⟩

theorem sameFor_present (images : List PresentedImage) :
    Outcome.SameFor keep (withEngine engine') (d.present images)
      ((d.withEngine engine').present images) := by
  have hsame : SameKept keep (d.diagnose (.present images))
      ((d.withEngine engine').diagnose (.present images)) :=
    (Shows.operation (.present images)).sameKept hagree hengine
  unfold present
  dsimp only
  rw [hsame.verdict_eq hkeep]
  cases verdict (d.diagnose (.present images)) with
  | error e => exact ⟨rfl, hsame, rfl⟩
  | ok accepted => exact ⟨rfl, hsame, rfl⟩

/-! ### Recording -/

omit hagree hengine in
/-- Whether barriers are recorded is decided by the errors. -/
theorem sameFor_recordBarrier (recorder : Recorder) (registry : Registry) {l l' : List Diagnostic}
    (h : SameKept keep l l') (dependency : Dependency) :
    Outcome.SameFor keep id (recorder.recordBarrier registry l dependency)
      (recorder.recordBarrier registry l' dependency) := by
  unfold Recorder.recordBarrier
  rw [h.hasStructuralError_eq hkeep, h.verdict_eq hkeep]
  cases hasStructuralError l <;> exact ⟨rfl, h, rfl⟩

theorem sameFor_record (recorder : Recorder) (command : Command) :
    Outcome.SameFor keep id (recorder.record d command)
      (recorder.record (d.withEngine engine') command) := by
  have hsame : SameKept keep (d.diagnoseRecording recorder.recording (.record command))
      ((d.withEngine engine').diagnoseRecording recorder.recording (.record command)) :=
    (Shows.recording recorder.recording (.record command)).sameKept hagree hengine
  have hperform {perform : Except Error (Unit × Recorder)} :
      perform = perform.map (Prod.map id id) := by
    cases perform <;> rfl
  unfold Recorder.record
  cases command with
  | barrier dependency => exact sameFor_recordBarrier hkeep recorder d.registry hsame dependency
  | _ => exact .guarded hkeep hsame hperform

end Device

/-! ### Waiting -/

omit hkeep hagree in
/-- Queues are waited for in the same way whatever the rules are, if their order is the same. -/
theorem Device.waitIdle_withEngine (d : Device) (engine : Engine) (queues : List Queue) :
    (d.withEngine engine).waitIdle queues = (d.waitIdle queues).withEngine engine := by
  have hwaits (d : Device) (queues : List Queue) :
      queues.foldl queueWait (d.withEngine engine) = (queues.foldl queueWait d).withEngine engine := by
    induction queues generalizing d with
    | nil => rfl
    | cons queue queues ih => exact ih (d.queueWait queue)
  exact hwaits d (queues ++ d.pending.map PendingSubmission.queue)

/-! ## Calls of sessions -/

namespace Session

omit hagree hkeep in
theorem sameFor_onDevice (s : Session) {α : Type} {o o' : Outcome Device α} (reply : α → Reply)
    (h : o.SameFor keep (Device.withEngine engine') o') :
    Outcome.SameFor keep (withEngine engine') (s.onDevice reply o)
      ((s.withEngine engine').onDevice reply o') := by
  refine ⟨?_, h.diagnostics, congrArg (Except.map reply) h.result⟩
  simp only [onDevice, h.state]
  rfl

omit hagree hkeep in
theorem sameFor_opening (s : Session) {o o' : Outcome Device Recorder}
    (h : o.SameFor keep (Device.withEngine engine') o') :
    Outcome.SameFor keep (withEngine engine') (s.opening o) ((s.withEngine engine').opening o') := by
  unfold opening
  simp only [h.state, h.result]
  cases o.result with
  | error e => exact ⟨rfl, h.diagnostics, rfl⟩
  | ok recorder => exact ⟨rfl, h.diagnostics, rfl⟩

/-- Each call has the same outcome with either engine. -/
theorem sameFor_step {s : Session} (hengine : s.device.engine = engine) (call : Call) :
    Outcome.SameFor keep (withEngine engine') (s.step call) ((s.withEngine engine').step call) := by
  have hguarded {α : Type} (operation : Operation) {perform perform' : Except Error (α × Device)}
      (hperform : perform' = perform.map (Prod.map id (Device.withEngine engine'))) :
      Outcome.SameFor keep (Device.withEngine engine') (s.device.guarded operation perform)
        ((s.device.withEngine engine').guarded operation perform') :=
    Device.sameFor_guarded hkeep hagree hengine operation hperform
  have hquiet {o : Session} : Outcome.SameFor keep (withEngine engine') o.quietly
      (o.withEngine engine').quietly :=
    ⟨rfl, rfl, rfl⟩
  -- Most calls are guarded. What they perform never looks at the engine, and keeps it in the new device.
  cases call with
  | createImage info => exact s.sameFor_onDevice _ (hguarded _ rfl)
  | createImageView info =>
    exact s.sameFor_onDevice _ (hguarded _ (bind_eq_map_bind fun image => rfl))
  | createBuffer info => exact s.sameFor_onDevice _ (hguarded _ rfl)
  | createRenderPass info => exact s.sameFor_onDevice _ (hguarded _ rfl)
  | createFramebuffer info =>
    exact s.sameFor_onDevice _ (hguarded _ (bind_eq_map_bind fun renderPass => rfl))
  | createSwapchain info => exact s.sameFor_onDevice _ (hguarded _ rfl)
  | destroy type handle =>
    cases type with
    | swapchain => exact s.sameFor_onDevice _ (hguarded _ (bind_eq_map_bind fun swapchain => rfl))
    | _ => exact s.sameFor_onDevice _ (hguarded _ (bind_eq_map_bind fun object => rfl))
  | allocateHardwareBuffer info =>
    refine s.sameFor_onDevice _ (.guarded hkeep rfl ?_)
    simp only [apply_ite (Except.map _)]
    rfl
  | hardwareBufferProperties buffer => exact s.sameFor_onDevice _ (hguarded _ rfl)
  | allocateMemory info => exact s.sameFor_onDevice _ (hguarded _ (bind_eq_map_bind fun size => rfl))
  | exportMemory memory handleType =>
    exact s.sameFor_onDevice _ (hguarded _ (bind_eq_map_bind fun memory => rfl))
  | bindImage handle memory offset =>
    refine s.sameFor_onDevice _ (hguarded _ (bind_eq_map_bind fun image =>
      bind_eq_map_bind fun allocation => ?_))
    cases image.isBound <;> rfl
  | bindBuffer handle memory offset =>
    refine s.sameFor_onDevice _ (hguarded _ (bind_eq_map_bind fun buffer => ?_))
    cases buffer.isBound <;> rfl
  | imageRequirements image extended =>
    exact s.sameFor_onDevice _ (hguarded _ (bind_eq_map_bind fun image => rfl))
  | bufferRequirements handle =>
    exact s.sameFor_onDevice _ (.guarded hkeep rfl (bind_eq_map_bind fun buffer => rfl))
  | subresourceLayout handle subresource =>
    refine s.sameFor_onDevice _ (hguarded _ (bind_eq_map_bind fun image => ?_))
    cases image.info.hasSubresource subresource <;> rfl
  | beginCommandBuffer queue again usage =>
    cases again with
    | none => exact s.sameFor_opening (hguarded _ rfl)
    | some handle =>
      exact s.sameFor_opening (hguarded _ (bind_eq_map_bind fun commandBuffer => rfl))
  | record key command =>
    have hopen : (s.withEngine engine').recorder? key = s.recorder? key := rfl
    simp only [step, hopen]
    cases s.recorder? key with
    | none => exact hquiet
    | some recorder =>
      have hsame := Device.sameFor_record hkeep hagree hengine recorder command
      refine ⟨?_, hsame.diagnostics, congrArg (Except.map _) hsame.result⟩
      exact congrArg (fun recorder => (s.withEngine engine').setRecorder key recorder) hsame.state
  | endCommandBuffer key =>
    have hopen : (s.withEngine engine').recorder? key = s.recorder? key := rfl
    simp only [step, hopen]
    cases s.recorder? key with
    | none => exact hquiet
    | some recorder =>
      exact (s.closeRecorder key).sameFor_onDevice _
        (Device.sameFor_endCommandBuffer hkeep hagree hengine recorder)
  | dropRecorder key => exact hquiet
  | submit batches => exact s.sameFor_onDevice _ (Device.sameFor_submit hkeep hagree hengine batches)
  | queueWait queue => exact hquiet
  | waitIdle queues =>
    have hwait := s.device.waitIdle_withEngine engine' queues
    exact ⟨congrArg s.withDevice hwait, rfl, rfl⟩
  | acquireImage handle =>
    refine s.sameFor_onDevice _ (hguarded _ (bind_eq_map_bind fun swapchain => ?_))
    cases swapchain.nextIndex? <;> rfl
  | present images => exact s.sameFor_onDevice _ (Device.sameFor_present hkeep hagree hengine images)

/-- After the same calls, the sessions differ in their engines alone. -/
theorem run_withEngine {s : Session} (hengine : s.device.engine = engine) (calls : List Call) :
    (s.withEngine engine').run calls = (s.run calls).withEngine engine' := by
  induction calls generalizing s with
  | nil => rfl
  | cons call calls ih =>
    have hstep : ((s.withEngine engine').step call).state = (s.step call).state.withEngine engine' :=
      (sameFor_step hkeep hagree hengine call).state
    have hnext : (s.step call).state.device.engine = engine :=
      (s.step_transition call).engine.trans hengine
    show ((s.withEngine engine').step call).state.run calls = _
    rw [hstep]
    exact ih hnext

end Session

omit hkeep hagree

/-! ## Rules for errors -/

/-- Whether a diagnostic has the severity that operations are rejected for. -/
def Diagnostic.isError (diagnostic : Diagnostic) : Bool := diagnostic.severity == .error

theorem Rule.isError_of_mem_diagnostics {rule : Rule} {ctx : Context} {diagnostic : Diagnostic}
    (h : diagnostic ∈ rule.diagnostics ctx) :
    diagnostic.isError = (rule.severity == .error) := by
  obtain ⟨violation, -, rfl⟩ := List.mem_map.mp h
  rfl

namespace Engine

/-- The rules whose violations are errors, in order. -/
def errorRules (engine : Engine) : List Rule :=
  engine.rules.filter fun rule => rule.severity == .error

/-- The errors that an engine reports are the violations of its rules for errors. -/
theorem filter_isError_evaluate (engine : Engine) (ctx : Context) :
    (engine.evaluate ctx).filter Diagnostic.isError
      = (⟨engine.errorRules⟩ : Engine).evaluate ctx := by
  -- Rules below errors report no errors, and rules for errors report nothing else.
  have hbelow : ∀ rule ∈ engine.applicable ctx, (rule.severity == .error) = false →
      (rule.diagnostics ctx).filter Diagnostic.isError = [] := by
    intro rule _ hseverity
    refine List.filter_eq_nil_iff.mpr fun diagnostic hmem herror => ?_
    rw [Rule.isError_of_mem_diagnostics hmem, hseverity] at herror
    cases herror
  have herrors : ∀ rule ∈ (engine.applicable ctx).filter (fun rule => rule.severity == .error),
      (rule.diagnostics ctx).filter Diagnostic.isError = rule.diagnostics ctx := by
    intro rule hrule
    refine List.filter_eq_self.mpr fun diagnostic hmem => ?_
    rw [Rule.isError_of_mem_diagnostics hmem]
    exact (List.mem_filter.mp hrule).2
  have happlicable : (engine.applicable ctx).filter (fun rule => rule.severity == .error)
      = (⟨engine.errorRules⟩ : Engine).applicable ctx := by
    rw [applicable, applicable, errorRules, List.filter_filter, List.filter_filter]
    exact List.filter_congr fun rule _ => Bool.and_comm _ _
  rw [evaluate, List.filter_flatMap, ← flatMap_filter_eq hbelow, List.flatMap_def,
    List.map_congr_left herrors, ← List.flatMap_def, happlicable, evaluate]

/-- Two engines with the same rules for errors report the same errors. -/
theorem agreesOn_of_errorRules {engine engine' : Engine}
    (h : engine'.errorRules = engine.errorRules) :
    engine.AgreesOn Diagnostic.isError engine' := by
  intro ctx _
  rw [SameKept, filter_isError_evaluate, filter_isError_evaluate, h]

/-- No rule below errors calculates a number that does not fit its width. -/
def FitsBelowErrors (engine : Engine) : Prop :=
  ∀ rule ∈ engine.rules, rule.severity ≠ .error → ∀ ctx, rule.predicate.overflows ctx = false

/-- Numbers that do not fit are then those of the rules for errors. -/
theorem FitsBelowErrors.overflows_eq {engine : Engine} (h : engine.FitsBelowErrors) (ctx : Context) :
    engine.overflows ctx = (⟨engine.errorRules⟩ : Engine).overflows ctx := by
  rw [Bool.eq_iff_iff]
  simp only [overflows, applicable, errorRules, List.any_eq_true, List.mem_filter, beq_iff_eq]
  constructor
  · rintro ⟨rule, ⟨hrule, happlies⟩, hoverflow⟩
    have herror : rule.severity = .error := Decidable.byContradiction fun hbelow =>
      Bool.false_ne_true ((h rule hrule hbelow ctx).symm.trans hoverflow)
    exact ⟨rule, ⟨⟨hrule, herror⟩, happlies⟩, hoverflow⟩
  · rintro ⟨rule, ⟨⟨hrule, -⟩, happlies⟩, hoverflow⟩
    exact ⟨rule, ⟨hrule, happlies⟩, hoverflow⟩

end Engine

theorem keepsErrors_isError : KeepsErrors Diagnostic.isError :=
  fun _ herror => beq_iff_eq.mpr herror

/-- Whether a call has an outcome is decided by the rules for errors too, if those below them calculate
nothing that does not fit. -/
theorem Session.overflows_withEngine {s : Session} {engine' : Engine}
    (h : engine'.errorRules = s.device.engine.errorRules) (hfits : s.device.engine.FitsBelowErrors)
    (hfits' : engine'.FitsBelowErrors) (call : Call) :
    (s.withEngine engine').overflows call = s.overflows call := by
  have hoverflows (operation : Operation) :
      (s.withEngine engine').device.overflows operation = s.device.overflows operation := by
    rw [Device.overflows, Device.overflows, hfits.overflows_eq, ← h]
    exact hfits'.overflows_eq _
  have haccepts (operation : Operation) :
      (s.withEngine engine').device.accepts operation = s.device.accepts operation := by
    have hsame : SameKept Diagnostic.isError (s.device.diagnose operation)
        ((s.withEngine engine').device.diagnose operation) :=
      (Device.Shows.operation operation).sameKept (Engine.agreesOn_of_errorRules h) rfl
    rw [Device.accepts, Device.accepts, hsame.firstError?_eq keepsErrors_isError]
  -- The counters of uses are the same after the same submissions.
  have hsubmissions : (s.withEngine engine').submissionOverflows call = s.submissionOverflows call := by
    cases call with
    | submit batches =>
      have hsubmit : ((s.withEngine engine').device.submit batches).state
          = (s.device.submit batches).state.withEngine engine' :=
        (Device.sameFor_submit keepsErrors_isError (Engine.agreesOn_of_errorRules h) rfl batches).state
      rw [submissionOverflows, submissionOverflows, Device.submitOverflows, hsubmit]
      rfl
    | _ => rfl
  unfold overflows
  cases call.operation? with
  | none => exact hsubmissions
  | some operation => simp only [hoverflows, haccepts]

/-- Rules below errors never influence a device.  With two engines that have the same rules for errors, the
same calls lead to the same device and the same recorders, and each call has the same result and the same
errors in the same order; if the rules below errors always give an answer, so do the same calls.  In which
order a wait for all queues takes them is a part of the call, and thus the same on both devices. -/
theorem errors_alone_decide {engine engine' : Engine} (h : engine'.errorRules = engine.errorRules)
    (environment : Environment) (calls : List Call) (call : Call) :
    let s := (Session.start environment engine).run calls
    let s' := (Session.start environment engine').run calls
    s' = s.withEngine engine'
      ∧ (s'.step call).result = (s.step call).result
      ∧ (s'.step call).diagnostics.filter Diagnostic.isError
        = (s.step call).diagnostics.filter Diagnostic.isError
      ∧ (s'.step call).state = (s.step call).state.withEngine engine'
      ∧ (engine.FitsBelowErrors → engine'.FitsBelowErrors → s'.overflows call = s.overflows call) := by
  intro s s'
  have hagree : engine.AgreesOn Diagnostic.isError engine' := Engine.agreesOn_of_errorRules h
  have hengine : s.device.engine = engine := Session.run_engine (.start environment engine) calls
  have hs : s' = s.withEngine engine' :=
    Session.run_withEngine (s := .start environment engine) keepsErrors_isError hagree rfl calls
  have hstep := Session.sameFor_step keepsErrors_isError hagree hengine call
  rw [hs]
  refine ⟨rfl, hstep.result, hstep.diagnostics, hstep.state, fun hfits hfits' => ?_⟩
  rw [← hengine] at h hfits
  exact Session.overflows_withEngine h hfits hfits' call

/-- The standard engine with a warning about every operation. -/
def chattering : Engine where
  rules := Standard.engine.rules ++
    [{ name := "chatter", vuid := "UNASSIGNED-chatter", severity := .warning
       predicate := { check := fun _ => [⟨"an operation is performed", []⟩] } }]

/-- A buffer is destroyed twice, which fails in the same way whether or not there are warnings about
everything. -/
theorem chattering_decides_nothing :
    let calls := [.createBuffer { size := 64 }, .destroy .buffer (.ofSerial .buffer 1)]
    let again := Call.destroy .buffer (.ofSerial .buffer 1)
    let s := (Session.start {} Standard.engine).run calls
    let s' := (Session.start {} chattering).run calls
    chattering.errorRules = Standard.engine.errorRules
      ∧ (s.step again).diagnostics.length = 1 ∧ (s'.step again).diagnostics.length = 2
      ∧ (s'.step again).result = (s.step again).result
      ∧ (s'.step again).diagnostics.filter Diagnostic.isError
        = (s.step again).diagnostics.filter Diagnostic.isError
      ∧ s'.overflows again = s.overflows again := by
  intro calls again s s'
  have hrules : chattering.errorRules = Standard.engine.errorRules := by
    rw [Engine.errorRules, chattering, List.filter_append]
    exact List.append_nil _
  have hstandard : Standard.engine.FitsBelowErrors := fun rule hrule hbelow =>
    absurd (Standard.severity_of_mem_rules rule hrule) hbelow
  have hchattering : chattering.FitsBelowErrors := by
    intro rule hrule hbelow
    rcases List.mem_append.mp hrule with hold | hnew
    · exact hstandard rule hold hbelow
    · obtain rfl := List.mem_singleton.mp hnew
      exact fun _ => rfl
  obtain ⟨-, hresult, herrors, -, hoverflows⟩ := errors_alone_decide hrules {} calls again
  exact ⟨hrules, by decide +kernel, by decide +kernel, hresult, herrors,
    hoverflows hstandard hchattering⟩

/-! ## Sessions without checkpoints -/

/-- Without the checkpoints of the standard rules, the same calls have the same outcomes. -/
theorem Session.step_withoutCheckpoints (environment : Environment) (calls : List Call)
    (call : Call) :
    let s := (start environment Standard.engine).run calls
    let s' := (start environment Standard.engine.withoutCheckpoints).run calls
    s' = s.withEngine Standard.engine.withoutCheckpoints
      ∧ (s'.step call).result = (s.step call).result
      ∧ (s'.step call).diagnostics = (s.step call).diagnostics := by
  intro s s'
  have hkeep : KeepsErrors fun _ => true := fun _ _ => rfl
  have hagree : Standard.engine.AgreesOn (fun _ => true) Standard.engine.withoutCheckpoints := by
    intro ctx hctx
    rw [SameKept, Engine.evaluate_withoutCheckpoints_eq, Standard.evaluate_eq_flatMap hctx]
    rfl
  have hs : s' = s.withEngine Standard.engine.withoutCheckpoints :=
    run_withEngine (s := start environment Standard.engine) hkeep hagree rfl calls
  have hengine : s.device.engine = Standard.engine := run_engine (start environment Standard.engine) calls
  have hstep := sameFor_step hkeep hagree hengine call
  have hdiagnostics := hstep.diagnostics
  rw [SameKept, List.filter_eq_self.mpr fun _ _ => rfl, List.filter_eq_self.mpr fun _ _ => rfl]
    at hdiagnostics
  rw [hs]
  exact ⟨rfl, hstep.result, hdiagnostics⟩

end VulkanValidity
