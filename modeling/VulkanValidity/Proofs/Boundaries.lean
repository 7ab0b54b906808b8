/-
  VulkanValidity.Proofs.Boundaries

  The boundaries of command buffers.  A sequence of commands can be recorded into one command buffer, or it
  can be cut in two where no render pass is active and recorded into two command buffers.  If all of them
  are executed, the two one after the other, each subresource ends up in the same state
  (`boundaries_make_no_difference`).

  That the recordings fit together is shown in `VulkanValidity.Proofs.Cuts`.  Here the calls of a session
  are taken apart: beginning, recording and ending a command buffer gives it the log of its commands and
  leaves everything else as it is, and submissions change states by the logs that they execute.
-/

import VulkanValidity.Proofs.Cuts
import VulkanValidity.Proofs.Parties

namespace VulkanValidity

/-! ## Recording command buffers -/

/-- How a command buffer is begun. -/
structure Opening where
  queue : Queue
  /-- The command buffer that is begun again; none stands for a new one. -/
  again : Option (Handle .commandBuffer) := none
  usage : CommandBufferUsage := .multipleSubmit

/-- The call that opens the recording. -/
def Opening.call (opening : Opening) : Call :=
  .beginCommandBuffer opening.queue opening.again opening.usage

namespace Session

/-- Whether each call of a run succeeds. -/
def succeeds (s : Session) : List Call → Bool
  | [] => true
  | call :: rest => (s.step call).result.isOk && (s.step call).state.succeeds rest

/-- The calls that begin a command buffer and record commands into it. The recorder has the next key. -/
def recordingCalls (s : Session) (opening : Opening) (commands : List Command) : List Call :=
  opening.call :: commands.map (.record s.nextKey)

/-- The calls that record commands into a command buffer, up to its end. -/
def bufferCalls (s : Session) (opening : Opening) (commands : List Command) : List Call :=
  s.recordingCalls opening commands ++ [.endCommandBuffer s.nextKey]

/-- The session after a command buffer is recorded. -/
def recordBuffer (s : Session) (opening : Opening) (commands : List Command) : Session :=
  s.run (s.bufferCalls opening commands)

/-- Beginning to record opens a recorder for the command buffer, which is of the family. -/
def Opens (s : Session) (opening : Opening) (handle : Handle .commandBuffer) (family : Nat) : Prop :=
  (s.step opening.call).state.recorder? s.nextKey = some ⟨handle, { family := family }⟩

/-- The render pass that is active after commands are recorded into a command buffer. -/
def renderPassAfter (s : Session) (opening : Opening) (commands : List Command) :
    Option RenderPassInstance :=
  ((s.run (s.recordingCalls opening commands)).recorder? s.nextKey).bind fun recorder =>
    recorder.recording.renderPass

/-- The session after submissions of batches, one after the other. -/
def submitBatches (s : Session) (submissions : List (List SubmitBatch)) : Session :=
  s.run (submissions.map .submit)

/-- The command buffers that submissions execute, in order. -/
def executedBuffers (s : Session) (submissions : List (List SubmitBatch)) :
    List (Handle .commandBuffer) :=
  (s.executed (submissions.map .submit)).map Device.Execution.handle

theorem run_append (s : Session) (calls more : List Call) :
    s.run (calls ++ more) = (s.run calls).run more := List.foldl_append

theorem succeeds_append (s : Session) (calls more : List Call) :
    s.succeeds (calls ++ more) = (s.succeeds calls && (s.run calls).succeeds more) := by
  induction calls generalizing s with
  | nil => rfl
  | cons call calls ih =>
    rw [List.cons_append, succeeds, succeeds, ih, Bool.and_assoc]
    rfl

end Session

/-! ### Beginning and ending -/

namespace Device

/-- The device `d'` is `d` after the command buffer was recorded: it has the log, and nothing else has
changed that a submission looks at. -/
structure Records (d : Device) (handle : Handle .commandBuffer) (log : CommandLog) (d' : Device) :
    Prop where
  alike : d.Alike d'
  tracked : ∀ resource, d'.registry.tracked? resource = d.registry.tracked? resource
  log : d'.registry.log? handle = some log
  others : ∀ other, other ≠ handle → d'.registry.log? other = d.registry.log? other

/-- Beginning leaves alone what is tracked, and the logs of other command buffers. The command buffer
itself is alive. -/
theorem Begins.keeps {d d' : Device} {queue : Queue} {again : Option (Handle .commandBuffer)}
    {usage : CommandBufferUsage} {recorder : Recorder} (h : d.Begins queue usage again recorder d') :
    (∀ resource, d'.registry.tracked? resource = d.registry.tracked? resource)
      ∧ (∃ cb, d'.registry.get? recorder.handle = some cb)
      ∧ ∀ other, other ≠ recorder.handle → d'.registry.log? other = d.registry.log? other := by
  cases h with
  | fresh =>
    have hget (other : Handle .commandBuffer) := Registry.get?_add
      (d.registry.reserve .commandBuffer).2 (d.registry.reserve .commandBuffer).1
      (CommandBuffer.begin { family := queue.family } usage) other
    refine ⟨fun resource => by cases resource <;> rfl, ?_, fun other hne => ?_⟩
    · have hself := hget (d.registry.reserve .commandBuffer).1
      rw [if_pos rfl] at hself
      refine Option.isSome_iff_exists.mp ((congrArg Option.isSome hself).trans ?_)
      rw [Option.isSome_or, Option.isSome_some, Bool.or_true]
    · have hnew : other ≠ (d.registry.reserve .commandBuffer).1 := hne
      have hother := hget other
      rw [if_neg hnew, Option.or_none] at hother
      exact congrArg (Option.bind · CommandBuffer.log) hother
  | @again handle cb _ hfound =>
    have hget (other : Handle .commandBuffer) :=
      d.registry.get?_modify handle (fun cb => cb.begin usage) other
    refine ⟨fun resource => by cases resource <;> rfl, ⟨cb.begin usage, ?_⟩, fun other hne => ?_⟩
    · exact (hget handle).trans (by rw [if_pos rfl, hfound]; rfl)
    · have hother := hget other
      rw [if_neg hne] at hother
      exact congrArg (Option.bind · CommandBuffer.log) hother

/-- Beginning a command buffer and ending it with a recording. -/
theorem Begins.records {d d' : Device} {queue : Queue} {again : Option (Handle .commandBuffer)}
    {usage : CommandBufferUsage} {recorder : Recorder} (h : d.Begins queue usage again recorder d')
    (log : CommandLog) :
    d.Records recorder.handle log
      (d'.withRegistry (d'.registry.modify recorder.handle fun cb => cb.finish log)) := by
  obtain ⟨htracked, ⟨cb, hget⟩, hothers⟩ := h.keeps
  refine ⟨h.alike.trans ⟨rfl, rfl, d'.registry.alike_modify _ _⟩, fun resource => ?_, ?_,
    fun other hne => ?_⟩
  · exact (Registry.tracked?_finish _ _ _ resource).trans (htracked resource)
  · have hlive : d'.registry.commandBuffers.get? recorder.handle = some cb := hget
    refine (Registry.log?_finish _ _ _ recorder.handle).trans ?_
    rw [if_pos rfl, hlive, Option.map_some]
  · refine (Registry.log?_finish _ _ _ other).trans ?_
    rw [if_neg hne, hothers other hne]

end Device

theorem Standard.reports_endInside :
    engine.Reports .commandRecording .invalidParams CommandRules.endInside :=
  reports_rule commandRules 1

/-- On the standard engine a recording can end exactly outside of render passes. -/
theorem Device.endCommandBuffer_isOk {d : Device} (hengine : d.engine = Standard.engine)
    (recorder : Recorder) :
    (d.endCommandBuffer recorder).result.isOk = true ↔ recorder.recording.renderPass = none := by
  have hdiagnose : d.diagnoseRecording recorder.recording .endCommandBuffer
      = Standard.engine.evaluate
        { d.context .endCommandBuffer with recording := some recorder.recording } := by
    rw [diagnoseRecording, hengine]
  constructor
  · intro hok
    rcases Outcome.guarded_cases d _ _ with ⟨-, e, he⟩ | ⟨_, _, haccepted, -⟩
    · rw [endCommandBuffer, he] at hok
      cases hok
    · rw [hdiagnose] at haccepted
      have hcheck := Standard.check_eq_nil Standard.reports_endInside rfl haccepted
      simp only [CommandRules.endInside, CommandRules.outsideRenderPass, Device.context,
        Option.bind_some] at hcheck
      cases hpass : recorder.recording.renderPass with
      | none => rfl
      | some inst =>
        rw [hpass] at hcheck
        cases hcheck
  · intro hpass
    obtain ⟨handle, family, layouts, accesses, references, renderPass⟩ := recorder
    obtain rfl : renderPass = none := hpass
    -- No rule has anything else to say about the end of a recording.
    have hnone : Standard.engine.evaluate { d.context .endCommandBuffer with
        recording := some ⟨family, layouts, accesses, references, none⟩ } = [] := by
      rfl
    rw [endCommandBuffer, hdiagnose]
    simp only [hnone]
    rfl

/-! ### The calls one by one -/

namespace Session

theorem recorder?_openRecorder_self {s : Session} (hfree : s.recorder? s.nextKey = none)
    (recorder : Recorder) : (s.openRecorder recorder).recorder? s.nextKey = some recorder := by
  rw [recorder?_openRecorder, hfree, if_pos rfl, Option.none_or]

/-- A recorder that is opened comes from a command buffer that has begun. -/
theorem Opens.exists_begins {s : Session} (hs : s.WellFormed) {opening : Opening}
    {handle : Handle .commandBuffer} {family : Nat} (h : s.Opens opening handle family) :
    ∃ d, s.device.Begins opening.queue opening.usage opening.again ⟨handle, { family := family }⟩ d
      ∧ (s.step opening.call).state.device = d ∧ (s.step opening.call).result.isOk = true := by
  have hfree : s.recorder? s.nextKey = none := hs.keys s.nextKey (Nat.le_refl _)
  have hstep : s.step opening.call = s.opening
      (s.device.beginCommandBuffer opening.queue opening.again opening.usage) := rfl
  rw [Opens, hstep] at h
  rw [hstep]
  rcases s.device.beginCommandBuffer_cases opening.queue opening.again opening.usage with
    ⟨hstate, e, he⟩ | ⟨recorder, hok, hbegins⟩
  · -- Nothing is opened.
    simp only [Session.opening, he] at h
    exact absurd (h.symm.trans hfree) fun heq => by cases heq
  · simp only [Session.opening, hok] at h ⊢
    have hnew := recorder?_openRecorder_self (s := s.withDevice _) hfree recorder
    obtain rfl := Option.some.inj (hnew.symm.trans h)
    exact ⟨_, hbegins, rfl, rfl⟩

/-- Commands are recorded by their recorder, and change nothing else. -/
theorem run_record {s : Session} {key : Nat} {recorder : Recorder} (hr : s.recorder? key = some recorder)
    (commands : List Command) :
    (s.run (commands.map (.record key))).device = s.device
      ∧ (s.run (commands.map (.record key))).recorder? key
        = some (recorder.recordAll s.device commands)
      ∧ (s.succeeds (commands.map (.record key)) = true ↔ recorder.RecordsAll s.device commands) := by
  induction commands generalizing s recorder with
  | nil => exact ⟨rfl, hr, iff_of_true rfl trivial⟩
  | cons command commands ih =>
    have hstep := s.step_record hr command
    have hr' : (s.step (.record key command)).state.recorder? key
        = some (recorder.record s.device command).state := by
      rw [hstep, recorder?_setRecorder, if_pos rfl, hr, Option.map_some]
    have hdevice : (s.step (.record key command)).state.device = s.device := s.record_device key command
    obtain ⟨hrest, hrecorder, hsucceeds⟩ := ih hr'
    rw [hdevice] at hrest hrecorder hsucceeds
    refine ⟨hrest, hrecorder, ?_⟩
    rw [List.map_cons, succeeds, Bool.and_eq_true, hsucceeds, hstep, Recorder.RecordsAll]
    refine and_congr_left' ?_
    cases (recorder.record s.device command).result with
    | error e => exact ⟨fun h => (by cases h), fun h => by cases h⟩
    | ok value => exact iff_of_true rfl rfl

theorem step_endCommandBuffer {s : Session} {key : Nat} {recorder : Recorder}
    (hr : s.recorder? key = some recorder) : s.step (.endCommandBuffer key)
      = (s.closeRecorder key).creating (s.device.endCommandBuffer recorder) := by
  simp only [step]
  rw [hr]

/-- What the calls that record a command buffer do: they succeed if its recorder records each of the
commands and no render pass is active in the end, and then the command buffer has the log. -/
theorem Opens.exists_records {s : Session} (hs : s.WellFormed) (hengine : s.device.engine = Standard.engine)
    {opening : Opening} {handle : Handle .commandBuffer} {family : Nat}
    (h : s.Opens opening handle family) :
    ∃ d, s.device.Alike d ∧ ∀ commands,
      s.renderPassAfter opening commands
          = (Recorder.recordAll ⟨handle, { family := family }⟩ d commands).recording.renderPass
        ∧ (s.succeeds (s.bufferCalls opening commands) = true
          ↔ Recorder.RecordsAll d ⟨handle, { family := family }⟩ commands
            ∧ (Recorder.recordAll ⟨handle, { family := family }⟩ d commands).recording.renderPass = none)
        ∧ (s.succeeds (s.bufferCalls opening commands) = true →
          s.device.Records handle
            (Recorder.recordAll ⟨handle, { family := family }⟩ d commands).recording.finish
            (s.recordBuffer opening commands).device) := by
  obtain ⟨d, hbegins, rfl, hok⟩ := h.exists_begins hs
  refine ⟨_, hbegins.alike, fun commands => ?_⟩
  obtain ⟨hdevice, hrecorder, hsucceeds⟩ := run_record h commands
  generalize hd : (s.step opening.call).state.device = d at *
  generalize hrecorded : Recorder.recordAll ⟨handle, { family := family }⟩ d commands = recorder at *
  have hrun : s.run (s.recordingCalls opening commands)
      = (s.step opening.call).state.run (commands.map (.record s.nextKey)) := rfl
  -- The end of the recording comes after the commands.
  have hend := step_endCommandBuffer hrecorder
  rw [hdevice] at hend
  have hpasses : s.succeeds (s.bufferCalls opening commands) = true
      ↔ Recorder.RecordsAll d ⟨handle, { family := family }⟩ commands
        ∧ (d.endCommandBuffer recorder).result.isOk = true := by
    rw [bufferCalls, succeeds_append, recordingCalls, succeeds, hok, Bool.true_and, ← recordingCalls, hrun,
      succeeds, succeeds, Bool.and_true, hend, Bool.and_eq_true, hsucceeds]
    refine and_congr_right' ?_
    simp only [creating, onDevice]
    cases (d.endCommandBuffer recorder).result <;> rfl
  refine ⟨?_, ?_, fun hall => ?_⟩
  · rw [renderPassAfter, hrun, hrecorder]
    rfl
  · rw [hpasses, Device.endCommandBuffer_isOk (hbegins.alike.engine.trans hengine)]
  · have hstate : (s.recordBuffer opening commands).device = (d.endCommandBuffer recorder).state := by
      rw [recordBuffer, bufferCalls, run_append, hrun]
      exact congrArg (fun outcome => outcome.state.device) hend
    obtain ⟨-, hok⟩ := hpasses.mp hall
    have hhandle : recorder.handle = handle := by
      rw [← hrecorded]
      exact Recorder.recordAll_handle _ _ _
    rcases d.endCommandBuffer_cases recorder with ⟨-, e, he⟩ | ⟨hended, -⟩
    · rw [he] at hok
      cases hok
    · rw [hstate, hended, hhandle]
      exact hbegins.records recorder.recording.finish

end Session

/-! ## Submitting command buffers -/

namespace Device

theorem executions_append (d : Device) (entries more : List (Queue × Handle .commandBuffer)) :
    d.executions (entries ++ more) = d.executions entries ++ (d.submitAll entries).executions more := by
  induction entries generalizing d with
  | nil => rfl
  | cons entry entries ih =>
    rw [List.cons_append, executions, executions, ih, List.append_assoc]
    rfl

/-- What is executed is the log that the command buffer had before any of the submissions. -/
theorem log?_of_mem_executions {d : Device} {entries : List (Queue × Handle .commandBuffer)}
    {e : Execution} (h : e ∈ d.executions entries) : d.registry.log? e.handle = some e.log := by
  obtain ⟨before, entry, rest, -, he⟩ := exists_of_mem_executions h
  obtain ⟨hhandle, -, hlog, -⟩ := execution?_eq_some he
  rwa [log?_submitAll, ← hhandle] at hlog

/-- The sharing of a resource, or that of an exclusive one if it is not alive. -/
def sharingOf (d : Device) (resource : Resource) : Sharing :=
  (d.registry.sharing? resource).getD .exclusive

theorem Alike.sharingOf_eq {d d' : Device} (h : d.Alike d') (resource : Resource) :
    d'.sharingOf resource = d.sharingOf resource := by
  rw [sharingOf, h.registry.sharing?_eq, sharingOf]

theorem stateAt?_submitOne {d : Device} (h : d.registry.WellFormed) (queue : Queue)
    (handle : Handle .commandBuffer) (resource : Resource) (i : Nat) :
    (d.submitOne queue handle).state.registry.stateAt? resource i
      = (d.execution? queue handle).toList.foldl
        (fun state e => state.map (e.log.stateAfter (d.sharingOf resource) resource i))
        (d.registry.stateAt? resource i) := by
  rcases d.submitOne_cases queue handle with ⟨hnone, hs⟩ | ⟨log, hsome, -⟩
  · rw [hs, hnone]
    rfl
  · rw [hsome]
    exact (submitOne_executes queue hsome h).stateAt?_eq_getD h (execution_wellFormed queue hsome h) resource i

/-- Submissions change the state of a subresource as the logs that they execute do, one after the other. -/
theorem stateAt?_submitAll {d : Device} (h : d.registry.WellFormed)
    (entries : List (Queue × Handle .commandBuffer)) (resource : Resource) (i : Nat) :
    (d.submitAll entries).registry.stateAt? resource i
      = (d.executions entries).foldl
        (fun state e => state.map (e.log.stateAfter (d.sharingOf resource) resource i))
        (d.registry.stateAt? resource i) := by
  induction entries generalizing d with
  | nil => rfl
  | cons entry entries ih =>
    have hrest := ih (submitOne_wellFormed h entry.1 entry.2)
    rw [(d.alike_submitOne entry.1 entry.2).sharingOf_eq, stateAt?_submitOne h, ← List.foldl_append] at hrest
    exact hrest

end Device

namespace Session

theorem exists_submitAll (s : Session) (submissions : List (List SubmitBatch)) :
    ∃ entries, s.submitBatches submissions = s.withDevice (s.device.submitAll entries)
      ∧ s.executed (submissions.map .submit) = s.device.executions entries := by
  induction submissions generalizing s with
  | nil => exact ⟨[], rfl, rfl⟩
  | cons batches submissions ih =>
    obtain ⟨entries, hstate, hexecuted⟩ := ih (s.step (.submit batches)).state
    have hstep := s.step_submit batches
    refine ⟨s.device.submissions batches ++ entries, ?_, ?_⟩
    · rw [Device.submitAll_append]
      exact hstate.trans (by rw [hstep]; rfl)
    · rw [List.map_cons, executed, hexecuted, hstep, Device.executions_append]
      rfl

section Submit

variable (s : Session) (submissions : List (List SubmitBatch))

theorem alike_submitBatches : s.device.Alike (s.submitBatches submissions).device := by
  obtain ⟨entries, hstate, -⟩ := s.exists_submitAll submissions
  rw [hstate]
  exact s.device.alike_submitAll entries

theorem log?_submitBatches (handle : Handle .commandBuffer) :
    (s.submitBatches submissions).device.registry.log? handle = s.device.registry.log? handle := by
  obtain ⟨entries, hstate, -⟩ := s.exists_submitAll submissions
  rw [hstate]
  exact s.device.log?_submitAll entries handle

end Submit

/-- Submissions after a recording change the state of a subresource as the logs of the command buffers that
they execute do, one after the other. -/
theorem stateAt?_submitBatches {s : Session} (hs : s.WellFormed) {d : Device}
    {handle : Handle .commandBuffer} {log : CommandLog} (hrecords : d.Records handle log s.device)
    {submissions : List (List SubmitBatch)} {logs : List CommandLog}
    (hlogs : (s.executedBuffers submissions).map s.device.registry.log? = logs.map some)
    (resource : Resource) (i : Nat) :
    (s.submitBatches submissions).device.registry.stateAt? resource i
      = logs.foldl (fun state log => state.map (log.stateAfter (d.sharingOf resource) resource i))
        (d.registry.stateAt? resource i) := by
  obtain ⟨entries, hstate, hexecuted⟩ := s.exists_submitAll submissions
  have heq : (s.device.executions entries).map Device.Execution.log = logs := by
    refine List.map_injective_iff.mpr (fun _ _ => Option.some.inj) ?_
    rw [← hlogs, executedBuffers, hexecuted, List.map_map, List.map_map]
    exact List.map_congr_left fun e he => (Device.log?_of_mem_executions he).symm
  have hbefore : s.device.registry.stateAt? resource i = d.registry.stateAt? resource i := by
    rw [Registry.stateAt?, Registry.stateAt?, Registry.states?_eq, Registry.states?_eq,
      hrecords.tracked resource]
  rw [hstate, ← heq, List.foldl_map, ← hrecords.alike.sharingOf_eq, ← hbefore]
  exact Device.stateAt?_submitAll hs.registry entries resource i

/-- A submission that executes one command buffer after its recording. -/
theorem stateAt?_submitWhole {s : Session} (hs : s.WellFormed) {d : Device} {handle : Handle .commandBuffer}
    {log : CommandLog} (hrecords : d.Records handle log s.device) {submissions : List (List SubmitBatch)}
    (hexecuted : s.executedBuffers submissions = [handle]) (resource : Resource) (i : Nat) :
    (s.submitBatches submissions).device.registry.stateAt? resource i
      = (d.registry.stateAt? resource i).map (log.stateAfter (d.sharingOf resource) resource i) := by
  have hlogs : (s.executedBuffers submissions).map s.device.registry.log? = [log].map some := by
    rw [hexecuted]
    exact congrArg (· :: []) hrecords.log
  exact stateAt?_submitBatches hs hrecords hlogs resource i

/-- Submissions that execute two command buffers, one after the other: the first one before the second is
recorded, or after that. -/
theorem stateAt?_submitParts {s s' : Session} (hs : s.WellFormed) (hs' : s'.WellFormed) {d : Device}
    {a b : Handle .commandBuffer} {logA logB : CommandLog} {early late : List (List SubmitBatch)}
    {now later : List (Handle .commandBuffer)} (ha : d.Records a logA s.device)
    (hb : (s.submitBatches early).device.Records b logB s'.device) (hdistinct : a ≠ b)
    (hearly : s.executedBuffers early = now) (hlate : s'.executedBuffers late = later ++ [b])
    (honce : now ++ later = [a]) (resource : Resource) (i : Nat) :
    (s'.submitBatches late).device.registry.stateAt? resource i
      = (d.registry.stateAt? resource i).map (logB.stateAfter (d.sharingOf resource) resource i
        ∘ logA.stateAfter (d.sharingOf resource) resource i) := by
  have honly : ∀ handle ∈ now ++ later, handle = a := fun handle hmem => List.mem_singleton.mp (honce ▸ hmem)
  have hnow : (s.executedBuffers early).map s.device.registry.log? = (now.map fun _ => logA).map some := by
    rw [hearly, List.map_map]
    refine List.map_congr_left fun handle hmem => ?_
    rw [honly handle (List.mem_append_left later hmem)]
    exact ha.log
  have hlater : (s'.executedBuffers late).map s'.device.registry.log?
      = ((later.map fun _ => logA) ++ [logB]).map some := by
    rw [hlate, List.map_append, List.map_append, List.map_map]
    refine congrArg₂ _ (List.map_congr_left fun handle hmem => ?_) (congrArg (· :: []) hb.log)
    rw [honly handle (List.mem_append_right now hmem), hb.others a hdistinct, log?_submitBatches]
    exact ha.log
  have hsharing := (ha.alike.trans (s.alike_submitBatches early)).sharingOf_eq resource
  -- Together the first log is executed once, and then the second.
  rw [stateAt?_submitBatches hs' hb hlater, stateAt?_submitBatches hs ha hnow, hsharing, ← List.foldl_append,
    ← List.append_assoc, ← List.map_append, honce]
  exact Option.map_map _ _ _

end Session

/-! ## Cutting command buffers in two -/

/-- The boundaries of command buffers make no difference to the states that submissions leave.  On the
standard engine, let commands be recorded into one command buffer, each of them successfully, and let no
render pass be active after the first of them.  Then these and the rest can also be recorded into two
command buffers of the same family, the second of them before or after the first one is submitted; and if
all are executed, every subresource of every image and buffer is left in the same state both ways.  Such a
state is what the accesses make of the one before, step by step (`SubresourceState.advances_iff`). -/
theorem boundaries_make_no_difference {s : Session} (hreachable : s.Reachable)
    (hengine : s.device.engine = Standard.engine) {whole first second : Opening}
    {joint a b : Handle .commandBuffer} {family : Nat} {commands rest : List Command}
    {submissions early late : List (List SubmitBatch)} {now later : List (Handle .commandBuffer)}
    -- All commands are recorded into one command buffer, which is submitted.
    (hwhole : s.Opens whole joint family)
    (hsucceeds : s.succeeds (s.bufferCalls whole (commands ++ rest)) = true)
    (hcut : s.renderPassAfter whole commands = none)
    (hsubmitted : (s.recordBuffer whole (commands ++ rest)).executedBuffers submissions = [joint])
    -- Or they are recorded into two, which are submitted one after the other.
    (hfirst : s.Opens first a family)
    (hsecond : ((s.recordBuffer first commands).submitBatches early).Opens second b family)
    (hdistinct : a ≠ b)
    (hearly : (s.recordBuffer first commands).executedBuffers early = now)
    (hlate : (((s.recordBuffer first commands).submitBatches early).recordBuffer second
      rest).executedBuffers late = later ++ [b])
    (honce : now ++ later = [a]) :
    s.succeeds (s.bufferCalls first commands) = true
      ∧ ((s.recordBuffer first commands).submitBatches early).succeeds
        (((s.recordBuffer first commands).submitBatches early).bufferCalls second rest) = true
      ∧ ∀ resource i,
        ((((s.recordBuffer first commands).submitBatches early).recordBuffer second
          rest).submitBatches late).device.registry.stateAt? resource i
        = ((s.recordBuffer whole (commands ++ rest)).submitBatches
          submissions).device.registry.stateAt? resource i := by
  have hs := hreachable.wellFormed
  have hsH : (s.recordBuffer whole (commands ++ rest)).Reachable := hreachable.run _
  have hsA : (s.recordBuffer first commands).Reachable := hreachable.run _
  have hs₁ : ((s.recordBuffer first commands).submitBatches early).Reachable := hsA.run _
  have hsB : (((s.recordBuffer first commands).submitBatches early).recordBuffer second rest).Reachable :=
    hs₁.run _
  have hengine₁ : ((s.recordBuffer first commands).submitBatches early).device.engine = Standard.engine :=
    (Session.run_engine _ _).trans ((Session.run_engine _ _).trans hengine)
  -- The whole.
  obtain ⟨d, hd, hjoint⟩ := hwhole.exists_records hs hengine
  obtain ⟨hpass, -, -⟩ := hjoint commands
  obtain ⟨-, hall, hrecords⟩ := hjoint (commands ++ rest)
  obtain ⟨hall, hend⟩ := hall.mp hsucceeds
  replace hrecords := hrecords hsucceeds
  rw [hpass] at hcut
  have hdengine : d.engine = Standard.engine := hd.engine.trans hengine
  -- The first part.
  obtain ⟨dA, hdA, hpartA⟩ := hfirst.exists_records hs hengine
  obtain ⟨-, hsucceedsA, hrecordsA⟩ := hpartA commands
  obtain ⟨hallA, hjoinsA⟩ := Recorder.recordAll_first (hd.symm.trans hdA) hdengine a
    (Recorder.recordsAll_append.mp hall).1
  replace hsucceedsA := hsucceedsA.mpr ⟨hallA, hjoinsA.renderPass.trans hcut⟩
  replace hrecordsA := hrecordsA hsucceedsA
  have halike₁ : s.device.Alike ((s.recordBuffer first commands).submitBatches early).device :=
    hrecordsA.alike.trans (Session.alike_submitBatches _ early)
  -- The second part.
  obtain ⟨dB, hdB, hpartB⟩ := hsecond.exists_records hs₁.wellFormed hengine₁
  obtain ⟨-, hsucceedsB, hrecordsB⟩ := hpartB rest
  obtain ⟨hallB, hjoins⟩ := Recorder.recordAll_second (hd.symm.trans (halike₁.trans hdB)) hdengine b
    hall hjoinsA hcut
  replace hsucceedsB := hsucceedsB.mpr ⟨hallB, hjoins.renderPass.trans hend⟩
  replace hrecordsB := hrecordsB hsucceedsB
  refine ⟨hsucceedsA, hsucceedsB, fun resource i => ?_⟩
  have hnew := Recording.wellFormed_begin family
  have hafter := hjoins.stateAfter (Recorder.recordAll_wellFormed hnew dA commands)
    (Recorder.recordAll_wellFormed hnew dB rest) (Recorder.recordAll_wellFormed hnew d (commands ++ rest))
    (s.device.sharingOf resource) resource i
  rw [Session.stateAt?_submitWhole hsH.wellFormed hrecords hsubmitted, Session.stateAt?_submitParts
    hsA.wellFormed hsB.wellFormed hrecordsA hrecordsB hdistinct hearly hlate honce]
  exact congrArg (Option.map · _) (funext hafter).symm

/-- A session with an image of two mip levels that transfers can write. -/
def boundLevels : Session :=
  (Session.start {} Standard.engine).run
    [.createImage { format := .r8g8b8a8Unorm, extent := ⟨4, 4, 1⟩, mipLevels := 2, usage := .transferDst },
      .allocateMemory { size := 65536 },
      .bindImage (.ofSerial .image 1) (.ofSerial .deviceMemory 2) 0]

/-- Both levels are moved to the layout for transfers, and the first one is cleared. -/
def clearFirstLevel : List Command :=
  [.barrier { imageBarriers := [{ image := .ofSerial .image 1, newLayout := .transferDstOptimal }] },
    .clear { image := .ofSerial .image 1, regions := [⟨.color, ⟨0, 1⟩, ⟨0, 1⟩⟩] }]

/-- The second level is cleared, and the first one is moved on. -/
def clearSecondLevel : List Command :=
  [.clear { image := .ofSerial .image 1, regions := [⟨.color, ⟨1, 2⟩, ⟨0, 1⟩⟩] },
    .barrier { imageBarriers := [{
      image := .ofSerial .image 1, oldLayout := .transferDstOptimal, newLayout := .general
      range := ⟨.color, ⟨0, 1⟩, ⟨0, 1⟩⟩ }] }]

/-- The opening of a command buffer for the first queue. -/
def graphics : Opening := { queue := ⟨0, 0⟩ }

/-- The submission of one command buffer to the first queue. -/
def submitAlone (serial : Nat) : List SubmitBatch :=
  [{ queue := ⟨0, 0⟩, commandBuffers := [.ofSerial .commandBuffer serial] }]

/-- All commands in one command buffer. -/
def uncutLevels : Session := boundLevels.recordBuffer graphics (clearFirstLevel ++ clearSecondLevel)

/-- The commands in two command buffers, of which the first one has been submitted. -/
def cutLevels : Session :=
  ((boundLevels.recordBuffer graphics clearFirstLevel).submitBatches [submitAlone 3]).recordBuffer graphics
    clearSecondLevel

/-- The layouts that the second command buffer expects are those that the first one leaves. -/
theorem cut_between_levels :
    (∀ resource i, (cutLevels.submitBatches [submitAlone 4]).device.registry.stateAt? resource i
        = (uncutLevels.submitBatches [submitAlone 3]).device.registry.stateAt? resource i)
      ∧ ((uncutLevels.submitBatches [submitAlone 3]).device.registry.stateAt?
          (.image (.ofSerial .image 1)) 0).map SubresourceState.layout = some .general
      ∧ ((uncutLevels.submitBatches [submitAlone 3]).device.registry.stateAt?
          (.image (.ofSerial .image 1)) 1).map SubresourceState.layout = some .transferDstOptimal := by
  have hreachable : boundLevels.Reachable := (Session.Reachable.start {} Standard.engine).run _
  have hengine : boundLevels.device.engine = Standard.engine :=
    Session.run_engine (.start {} Standard.engine) _
  have hwhole : boundLevels.Opens graphics (.ofSerial .commandBuffer 3) 0 := by
    unfold Session.Opens
    decide +kernel
  have hsucceeds : boundLevels.succeeds
      (boundLevels.bufferCalls graphics (clearFirstLevel ++ clearSecondLevel)) = true := by
    decide +kernel
  have hcut : boundLevels.renderPassAfter graphics clearFirstLevel = none := by decide +kernel
  have hsubmitted : uncutLevels.executedBuffers [submitAlone 3] = [.ofSerial .commandBuffer 3] := by
    decide +kernel
  have hsecond : ((boundLevels.recordBuffer graphics clearFirstLevel).submitBatches [submitAlone 3]).Opens
      graphics (.ofSerial .commandBuffer 4) 0 := by
    unfold Session.Opens
    decide +kernel
  have hearly : (boundLevels.recordBuffer graphics clearFirstLevel).executedBuffers [submitAlone 3]
      = [.ofSerial .commandBuffer 3] := by
    decide +kernel
  have hlate : cutLevels.executedBuffers [submitAlone 4] = [] ++ [.ofSerial .commandBuffer 4] := by
    decide +kernel
  obtain ⟨-, -, hsame⟩ := boundaries_make_no_difference hreachable hengine hwhole hsucceeds hcut hsubmitted
    hwhole hsecond (by decide) hearly hlate rfl
  rw [cutLevels, uncutLevels]
  exact ⟨hsame, by decide +kernel, by decide +kernel⟩

end VulkanValidity
