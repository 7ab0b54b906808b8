/-
  VulkanValidity.Proofs.Parties

  Which families take part in transfers of ownership.  The role of a barrier follows from its transfer
  and from the family of the command buffer: the destination acquires, and any other family releases.  A
  family that the transfer does not name is taken for the source, and nothing reports it.  A barrier is
  played by a party of its transfer exactly if the transfer names the family (`barrierRole_isBy_iff`), so
  that in a run whose barriers keep to that, only the source releases, only the destination acquires, and
  no other family changes an owner.
-/

import Mathlib.Data.List.ReduceOption
import VulkanValidity.Proofs.Handover
import VulkanValidity.Proofs.Logs
import VulkanValidity.Proofs.Reports

namespace VulkanValidity

/-! ## Transfers and their parties -/

/-- Whether the transfer hands anything over: it is meant for exclusively shared resources, and its
families differ. -/
def OwnershipTransfer.handsOver (transfer : OwnershipTransfer) : Bool :=
  transfer.isExclusive && transfer.families.1 != transfer.families.2

/-- An access in a command buffer of `family` releases for that family, acquires for it, or transfers
nothing. -/
def AccessKind.IsBy (family : Nat) : AccessKind → Prop
  | .release src _ => family = src
  | .acquire _ dst => family = dst
  | .use | .barrier => True

/-- A barrier is played by a party of its transfer exactly if the transfer names the family, or hands
nothing over. -/
theorem barrierRole_isBy_iff (transfer : OwnershipTransfer) (family : Nat) :
    (barrierRole (some transfer) family).kind.IsBy family
      ↔ (transfer.handsOver = true → family ∈ transfer.localFamilies) := by
  cases transfer with
  | exclusiveBetweenLocal src dst =>
    rw [barrierRole, OwnershipTransfer.handsOver]
    by_cases hsame : src = dst
    · simp [hsame, AccessKind.IsBy, OwnershipTransfer.families]
    · by_cases hdst : family = dst
      · simp [hsame, hdst, AccessKind.IsBy, OwnershipTransfer.localFamilies]
      · simp [hsame, hdst, AccessKind.IsBy, OwnershipTransfer.families,
          OwnershipTransfer.localFamilies, OwnershipTransfer.isExclusive]
  | exclusiveToExternal src | exclusiveToForeign src =>
    -- The source is the only family of the device that the transfer names.
    rw [barrierRole, OwnershipTransfer.handsOver]
    split
    · next hsame => simp [hsame, AccessKind.IsBy, OwnershipTransfer.families]
    · next hsame => simp [hsame, AccessKind.IsBy, OwnershipTransfer.families,
        OwnershipTransfer.localFamilies, OwnershipTransfer.isExclusive]
  | exclusiveFromExternal dst | exclusiveFromForeign dst =>
    -- The destination is.
    rw [barrierRole, OwnershipTransfer.handsOver]
    split
    · next hsame => simp [hsame, AccessKind.IsBy, OwnershipTransfer.families]
    · next hsame => simp [Ne.symm hsame, AccessKind.IsBy, OwnershipTransfer.families,
        OwnershipTransfer.localFamilies, OwnershipTransfer.isExclusive]
  | _ => simp [barrierRole, AccessKind.IsBy, OwnershipTransfer.handsOver,
      OwnershipTransfer.isExclusive]

/-- A barrier without a transfer is played by any family. -/
theorem barrierRole_none_isBy (family : Nat) : (barrierRole none family).kind.IsBy family := trivial

/-! ## The machine -/

/-- What an event does to an owner if only the parties of transfers change it: it leaves it alone, it is
the first use, or its family gives the subresource up or takes it over, as the owner permits. -/
inductive Owner.Passes (owner : Owner) (event : OwnershipEvent) : Prop
  | kept (h : owner.access .exclusive event.family event.kind = owner)
  | claimed (hkind : event.kind = .use) (howner : owner = .ignored)
  | released (dst : Nat) (hkind : event.kind = .release event.family dst)
      (howner : owner = .ignored ∨ owner = .owned event.family)
  | acquired (src : Nat) (hkind : event.kind = .acquire src event.family)
      (howner : owner = .released src event.family ∨ QueueFamily.isOutside src = true)

/-- A permitted event that is by a party changes the owner as parties do. -/
theorem Owner.passes_of_isBy {owner : Owner} {event : OwnershipEvent}
    (hby : event.kind.IsBy event.family)
    (hpermitted : owner.accessProblem? .exclusive event.family event.kind = none) :
    owner.Passes event := by
  obtain ⟨family, kind⟩ := event
  cases kind with
  | barrier => exact .kept rfl
  | use =>
    rcases owned_of_use hpermitted with hignored | howned
    · exact .claimed rfl hignored
    · exact .kept (by rw [howned]; rfl)
  | release src dst =>
    obtain rfl : family = src := hby
    obtain ⟨hfree, howned⟩ := underway_of_release hpermitted
    refine .released dst rfl ?_
    cases owner with
    | ignored => exact Or.inl rfl
    | owned other => exact Or.inr (congrArg Owner.owned (howned other rfl))
    | released src' dst' => cases hfree
  | acquire src dst =>
    obtain rfl : family = dst := hby
    refine .acquired src rfl ?_
    simp only [accessProblem?, acquireProblem?] at hpermitted
    split at hpermitted
    · next h => simpa using h
    · cases hpermitted

/-! ## Rules about ownership -/

namespace Standard

theorem reports_ownership :
    engine.Reports .submission .ownershipViolation SubmissionRules.ownership :=
  reports_rule replayRules 1

theorem reports_acquireUnreleased (images : Bool) : engine.Reports .submission .ownershipViolation
    (SubmissionRules.findings .acquireUnreleased images) := by
  cases images with
  | true => exact reports_rule replayRules 2
  | false => exact reports_rule replayRules 3

theorem reports_duplicateRelease (images : Bool) : engine.Reports .submission .ownershipViolation
    (SubmissionRules.findings .duplicateRelease images) := by
  cases images with
  | true => exact reports_rule replayRules 4
  | false => exact reports_rule replayRules 5

end Standard

/-! ## Executions -/

namespace Device

/-- What is said about one submission is said about all of them. -/
theorem diagnostics_submitOne_subset {d : Device} {batches : List SubmitBatch}
    {before rest : List (Queue × Handle .commandBuffer)} {entry : Queue × Handle .commandBuffer}
    (h : d.submissions batches = before ++ entry :: rest) :
    ((d.submitAll before).submitOne entry.1 entry.2).diagnostics ⊆ (d.submit batches).diagnostics := by
  rw [submissions] at h
  rw [submit]
  cases hverdict : verdict (d.diagnose (.submitBatches batches)) with
  | error e => simp [hverdict] at h
  | ok u =>
    cases horder : submissionOrder? batches with
    | none => simp [hverdict, horder] at h
    | some order =>
      simp only [hverdict, horder] at h
      simp only [h, List.foldl_append, List.foldl_cons]
      refine List.Subset.trans ?_ (subset_diagnostics_submitNext _ rest)
      rw [submitNext, foldl_submitNext_state]
      exact List.subset_append_right _ _

/-- An execution by the standard engine about which no error is reported found nothing about the ownership
of resources. -/
theorem found_nothing_of_no_error {d : Device} (hengine : d.engine = Standard.engine) {queue : Queue}
    {handle : Handle .commandBuffer} {e : Execution} (he : d.execution? queue handle = some e)
    (hclean : ∀ diagnostic ∈ (d.submitOne queue handle).diagnostics, diagnostic.severity ≠ .error) :
    ∀ finding ∈ e.report.findings, finding.kind = .invalidLayout := by
  obtain ⟨-, hregistry, hlog, -⟩ := execution?_eq_some he
  obtain ⟨cb, hget, hcblog⟩ := Option.bind_eq_some_iff.mp hlog
  rw [submitOne_diagnostics hget, hengine] at hclean
  have hnone (diagnostic : Diagnostic) (hmem : diagnostic ∈ Standard.engine.evaluate
      { d.context (.submit queue handle) with
        submission := some (.of d.registry queue handle cb) }) : False :=
    hclean diagnostic hmem (Standard.severity_eq_error hmem)
  -- The rules about ownership look at the report of the execution.
  have hreport : (SubmissionContext.of d.registry queue handle cb).report = e.report := by
    rw [SubmissionContext.of, hcblog, Execution.report, hregistry]
    rfl
  have hfindings {kind : FindingKind} {images : Bool}
      (h : Standard.engine.Reports .submission .ownershipViolation
        (SubmissionRules.findings kind images)) : e.report.findingsOf kind images = [] := by
    have hcheck := h.check_eq_nil rfl fun diagnostic hmem => (hnone diagnostic hmem).elim
    rw [← hreport]
    exact List.map_eq_nil_iff.mp hcheck
  have hownership : e.report.findingsOf .ownership true = []
      ∧ e.report.findingsOf .ownership false = [] := by
    have hcheck := Standard.reports_ownership.check_eq_nil rfl
      fun diagnostic hmem => (hnone diagnostic hmem).elim
    obtain ⟨himages, hbuffers⟩ := List.append_eq_nil_iff.mp hcheck
    rw [← hreport]
    exact ⟨List.map_eq_nil_iff.mp himages, List.map_eq_nil_iff.mp hbuffers⟩
  intro finding hmem
  have hlisted : finding ∈ e.report.findingsOf finding.kind finding.resource.isImage :=
    List.mem_filter.mpr ⟨hmem, by simp⟩
  cases hkind : finding.kind with
  | invalidLayout => rfl
  | ownership =>
    rw [hkind] at hlisted
    cases himage : finding.resource.isImage with
    | true => rw [himage, hownership.1] at hlisted; cases hlisted
    | false => rw [himage, hownership.2] at hlisted; cases hlisted
  | acquireUnreleased =>
    rw [hkind, hfindings (Standard.reports_acquireUnreleased _)] at hlisted
    cases hlisted
  | duplicateRelease =>
    rw [hkind, hfindings (Standard.reports_duplicateRelease _)] at hlisted
    cases hlisted

end Device

/-! ## Runs -/

/-- Every transfer of a log is by the family of the command buffer. -/
def CommandLog.IsByParties (log : CommandLog) : Prop :=
  ∀ access ∈ log.accesses, access.effect.kind.IsBy log.family

namespace Session

/-- What a run executes, in order. -/
def executed (s : Session) : List Call → List Device.Execution
  | [] => []
  | call :: rest => s.executions call ++ (s.step call).state.executed rest

/-- The transfers that a call records, each with the family of the command buffer. -/
def recordedTransfers (s : Session) : Call → List (Nat × OwnershipTransfer)
  | .record key (.barrier dependency) =>
    match s.recorder? key with
    | some recorder => dependency.transfers.reduceOption.map (recorder.recording.family, ·)
    | none => []
  | _ => []

/-- The transfers that a run records. -/
def transfers (s : Session) : List Call → List (Nat × OwnershipTransfer)
  | [] => []
  | call :: rest => s.recordedTransfers call ++ (s.step call).state.transfers rest

/-- A call that records transfers for their parties only keeps all logs by parties. -/
theorem AllLogs.step_byParties {s : Session} (h : s.AllLogs fun _ log => log.IsByParties) {call : Call}
    (hparties : ∀ recorded ∈ s.recordedTransfers call,
      recorded.2.handsOver = true → recorded.1 ∈ recorded.2.localFamilies) :
    (s.step call).state.AllLogs fun _ log => log.IsByParties := by
  refine h.transition (s.step_transition call) (fun _ hlog => hlog) (fun family access haccess => ?_)
    (fun key command recorder hcall hr access haccess => ?_)
  · cases haccess
  · have hadds := recorder.record_adds s.device command
    show access.effect.kind.IsBy (recorder.record s.device command).state.recording.family
    rw [hadds.family]
    rcases hadds.accesses access haccess with hold | hnew
    · exact h.recordings key recorder hr access hold
    · rcases hnew with huse | ⟨dependency, rfl, transfer, htransfer, hrole⟩
      · rw [huse]
        trivial
      · rw [hrole]
        cases transfer with
        | none => exact barrierRole_none_isBy _
        | some transfer =>
          refine (barrierRole_isBy_iff transfer _).mpr
            (hparties (recorder.recording.family, transfer) ?_)
          rw [hcall, recordedTransfers, hr]
          exact List.mem_map_of_mem (List.reduceOption_mem_iff.mpr htransfer)

/-- An execution of a call is by parties, and permitted by the owners that it meets, if the logs are by
parties and no error is reported. -/
theorem executions_byParties {s : Session} (hs : s.WellFormed)
    (hengine : s.device.engine = Standard.engine) (h : s.AllLogs fun _ log => log.IsByParties)
    {call : Call} (hclean : ∀ diagnostic ∈ (s.step call).diagnostics, diagnostic.severity ≠ .error)
    {e : Device.Execution} (he : e ∈ s.executions call) :
    e.log.IsByParties
      ∧ ∀ resource i before, e.registry.sharing? resource = some .exclusive →
        e.registry.stateAt? resource i = some before → ∀ l event l',
          e.events resource i = l ++ event :: l' → (before.owner.after l).Passes event := by
  cases call with
  | submit batches =>
    obtain ⟨earlier, entry, later, hentries, he⟩ := Device.exists_of_mem_executions he
    obtain ⟨-, hregistry, hlog, -⟩ := Device.execution?_eq_some he
    rw [Device.log?_submitAll] at hlog
    have hbyParties := h.logs _ e.log hlog
    refine ⟨hbyParties, fun resource i before hsharing hbefore l event l' hevents => ?_⟩
    -- No replay found anything about ownership, so that every event is permitted.
    have hfound := Device.found_nothing_of_no_error
      ((Device.submitAll_engine s.device earlier).trans hengine) he
      fun diagnostic hmem => hclean diagnostic (Device.diagnostics_submitOne_subset hentries hmem)
    rw [hregistry] at hsharing hbefore
    have hpermits := e.permits_of_report (Device.submitAll_wellFormed hs.registry earlier) he
      hsharing hbefore fun finding hmem _ => hfound finding hmem
    rw [hevents] at hpermits
    have hevent : event ∈ e.events resource i := by
      rw [hevents]
      exact List.mem_append_right l List.mem_cons_self
    obtain ⟨access, haccess, rfl⟩ := List.mem_map.mp hevent
    exact Owner.passes_of_isBy (hbyParties access (List.mem_filter.mp haccess).1)
      (Owner.permits_append.mp hpermits).2.1
  | _ => cases he

end Session

/-- Only the parties of a transfer take part in it.  In a run on the standard engine without an error,
which records the transfers that hand something over into command buffers of families that they name,
every executed release is by the source and every executed acquisition by the destination; and whatever
an execution does to the owner of a subresource of an exclusive resource is its first use, or its family
gives the subresource up or takes it over. -/
theorem transfers_by_parties (environment : Environment) (calls : List Call)
    (hclean : ∀ diagnostic ∈ (Session.start environment Standard.engine).diagnostics calls,
      diagnostic.severity ≠ .error)
    (hparties : ∀ recorded ∈ (Session.start environment Standard.engine).transfers calls,
      recorded.2.handsOver = true → recorded.1 ∈ recorded.2.localFamilies) :
    ∀ e ∈ (Session.start environment Standard.engine).executed calls,
      (∀ access ∈ e.log.accesses, access.effect.kind.IsBy e.log.family)
      ∧ ∀ resource i before, e.registry.sharing? resource = some .exclusive →
        e.registry.stateAt? resource i = some before → ∀ l event l',
          e.events resource i = l ++ event :: l' → (before.owner.after l).Passes event := by
  have hrun : ∀ (s : Session), s.WellFormed → s.device.engine = Standard.engine →
      (s.AllLogs fun _ log => log.IsByParties) →
      (∀ diagnostic ∈ s.diagnostics calls, diagnostic.severity ≠ .error) →
      (∀ recorded ∈ s.transfers calls,
        recorded.2.handsOver = true → recorded.1 ∈ recorded.2.localFamilies) →
      ∀ e ∈ s.executed calls, e.log.IsByParties
        ∧ ∀ resource i before, e.registry.sharing? resource = some .exclusive →
          e.registry.stateAt? resource i = some before → ∀ l event l',
            e.events resource i = l ++ event :: l' → (before.owner.after l).Passes event := by
    clear hclean hparties
    -- The induction goes through the calls; that logs are by parties is kept by each of them.
    induction calls with
    | nil => exact fun s _ _ _ _ _ e he => by cases he
    | cons call calls ih =>
      intro s hs hengine hlogs hclean hparties e he
      rcases List.mem_append.mp he with hnow | hlater
      · exact Session.executions_byParties hs hengine hlogs
          (fun diagnostic hmem => hclean diagnostic (List.mem_append_left _ hmem)) hnow
      · exact ih (s.step call).state (hs.step call) ((s.step_transition call).engine.trans hengine)
          (hlogs.step_byParties fun recorded hmem => hparties recorded (List.mem_append_left _ hmem))
          (fun diagnostic hmem => hclean diagnostic (List.mem_append_right _ hmem))
          (fun recorded hmem => hparties recorded (List.mem_append_right _ hmem)) e hlater
  exact hrun _ (Session.wellFormed_start environment Standard.engine) rfl
    (Session.allLogs_start environment Standard.engine) hclean hparties

/-- A run in which family 0 fills a buffer and hands it over to family 1, which fills it again. -/
def partiesRun : List Call :=
  [.createBuffer { size := 64, usage := .transferDst },
    .allocateMemory { size := 4096 },
    .bindBuffer (.ofSerial .buffer 1) (.ofSerial .deviceMemory 2) 0,
    .beginCommandBuffer ⟨0, 0⟩ none .multipleSubmit,
    .record 0 (.fill (.ofSerial .buffer 1) 0),
    .record 0 (.barrier { bufferBarriers := [{
      buffer := .ofSerial .buffer 1, transfer := some (.exclusiveBetweenLocal 0 1) }] }),
    .endCommandBuffer 0,
    .beginCommandBuffer ⟨1, 0⟩ none .multipleSubmit,
    .record 1 (.barrier { bufferBarriers := [{
      buffer := .ofSerial .buffer 1, transfer := some (.exclusiveBetweenLocal 0 1) }] }),
    .record 1 (.fill (.ofSerial .buffer 1) 1),
    .endCommandBuffer 1,
    .submit [{ queue := ⟨0, 0⟩, commandBuffers := [.ofSerial .commandBuffer 3] },
      { queue := ⟨1, 0⟩, commandBuffers := [.ofSerial .commandBuffer 4] }]]

/-- The source releases the buffer, the destination acquires it, and the run has no error. -/
theorem partiesRun_by_parties :
    (∀ diagnostic ∈ (Session.start {} Standard.engine).diagnostics partiesRun,
      diagnostic.severity ≠ .error)
    ∧ (Session.start {} Standard.engine).transfers partiesRun
      = [(0, .exclusiveBetweenLocal 0 1), (1, .exclusiveBetweenLocal 0 1)]
    ∧ ((Session.start {} Standard.engine).executed partiesRun).map (fun e =>
        e.log.accesses.map fun access => access.effect.kind)
      = [[.use, .release 0 1], [.acquire 0 1, .use]]
    ∧ ∀ e ∈ (Session.start {} Standard.engine).executed partiesRun, ∀ access ∈ e.log.accesses,
        access.effect.kind.IsBy e.log.family := by
  have hclean : ∀ diagnostic ∈ (Session.start {} Standard.engine).diagnostics partiesRun,
      diagnostic.severity ≠ .error := by
    decide +kernel
  have hparties : ∀ recorded ∈ (Session.start {} Standard.engine).transfers partiesRun,
      recorded.2.handsOver = true → recorded.1 ∈ recorded.2.localFamilies := by
    decide +kernel
  have hby := transfers_by_parties {} partiesRun hclean hparties
  exact ⟨hclean, by decide +kernel, by decide +kernel, fun e he => (hby e he).1⟩

/-- A run in which family 2 records a transfer between the families 0 and 1. -/
def strangerRun : List Call :=
  [.createBuffer { size := 64 },
    .beginCommandBuffer ⟨2, 0⟩ none .multipleSubmit,
    .record 0 (.barrier { bufferBarriers := [{
      buffer := .ofSerial .buffer 1, transfer := some (.exclusiveBetweenLocal 0 1) }] }),
    .endCommandBuffer 0,
    .submit [{ queue := ⟨2, 0⟩, commandBuffers := [.ofSerial .commandBuffer 2] }]]

/-- A family that a transfer does not name is taken for its source.  It releases the buffer, and nothing
is reported. -/
theorem stranger_releases :
    (Session.start {} Standard.engine).diagnostics strangerRun = []
    ∧ (∃ e ∈ (Session.start {} Standard.engine).executed strangerRun, ∃ access ∈ e.log.accesses,
        access.effect.kind = .release 0 1 ∧ e.log.family = 2)
    ∧ (((Session.start {} Standard.engine).run strangerRun).device.registry.stateAt?
        (.buffer (.ofSerial .buffer 1)) 0).map SubresourceState.owner = some (.released 0 1) := by
  decide +kernel

end VulkanValidity
