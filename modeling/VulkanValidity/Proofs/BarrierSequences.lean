/-
  VulkanValidity.Proofs.BarrierSequences

  A barrier command next to the commands that add its barriers one by one.  Both record the same
  (`Recorder.recordAll_parts`), for a command adds its barriers one after the other, too.  Its old layouts
  are a different matter: they are all compared with the recording before the command, while in the sequence
  each barrier meets what the ones before it leave (`Recording.layoutAfter?`).  The two differ only for
  a barrier that shares a subresource with an earlier one that moves it.
-/

import VulkanValidity.Proofs.BarrierChecks
import VulkanValidity.Proofs.Cuts

namespace VulkanValidity

/-! ## Layouts after some barriers -/

/-- Whether the barrier covers a subresource of a live image. -/
def ImageBarrier.covers (registry : Registry) (barrier : ImageBarrier) (image : Handle .image) (i : Nat) :
    Bool :=
  barrier.image == image && (registry.get? image).any fun found =>
    (found.info.indexRanges barrier.range).any (·.contains i)

theorem ImageBarrier.covers_of_dead {registry : Registry} {barrier : ImageBarrier}
    (hget : registry.get? barrier.image = none) (image : Handle .image) (i : Nat) :
    barrier.covers registry image i = false := by
  rw [covers]
  by_cases himage : barrier.image = image
  · rw [← himage, hget, Option.any_none, Bool.and_false]
  · rw [beq_false_of_ne himage, Bool.false_and]

/-- Whether the barrier moves a subresource in a command buffer of `family`. A release between families of
the device leaves that to the acquisition. -/
def ImageBarrier.moves (registry : Registry) (family : Nat) (barrier : ImageBarrier)
    (image : Handle .image) (i : Nat) : Bool :=
  (barrierRole barrier.transfer family).transitions && barrier.covers registry image i

namespace Recording

/-- The layout that a subresource is known to be in after some image barriers: the last of them that moves
it says so, or else what was recorded before. -/
def layoutAfter? (recording : Recording) (registry : Registry) (barriers : List ImageBarrier)
    (image : Handle .image) (i : Nat) : Option ImageLayout :=
  ((barriers.reverse.find? fun barrier => barrier.moves registry recording.family image i).map
      ImageBarrier.newLayout).or
    ((recording.localLayout? image i).map LocalLayout.current)

theorem layoutAfter?_nil (recording : Recording) (registry : Registry) (image : Handle .image) (i : Nat) :
    recording.layoutAfter? registry [] image i
      = (recording.localLayout? image i).map LocalLayout.current := rfl

/-- The recording with some image barriers. -/
abbrev withImageBarriers (recording : Recording) (registry : Registry) (barriers : List ImageBarrier) :
    Recording :=
  recording.withBarriers registry { imageBarriers := barriers }

theorem current_imageBarrier {recording : Recording} (h : recording.WellFormed) {registry : Registry}
    {barrier : ImageBarrier} {found : Image} (hget : registry.get? barrier.image = some found)
    (image : Handle .image) (i : Nat) :
    ((recording.imageBarrier found.info barrier).localLayout? image i).map LocalLayout.current
      = if barrier.moves registry recording.family image i then some barrier.newLayout
        else (recording.localLayout? image i).map LocalLayout.current := by
  have hcovers : (LayoutStep.ofBarrier found.info barrier).covers image i
      = barrier.covers registry image i := by
    rw [LayoutStep.covers, ImageBarrier.covers]
    by_cases himage : barrier.image = image
    · subst himage
      rw [hget]
      rfl
    · rw [show (LayoutStep.ofBarrier found.info barrier).image = barrier.image from rfl,
        beq_false_of_ne himage, Bool.false_and, Bool.false_and]
  rw [localLayout?_imageBarrier h, ImageBarrier.moves, ← hcovers]
  cases (barrierRole barrier.transfer recording.family).transitions with
  | false => rfl
  | true =>
    show (LayoutStep.learn _ recording.localLayout? image i).map _ = _
    rw [LayoutStep.learn, Bool.true_and]
    split
    -- Whether or not its layout was known before, it is in the new one now.
    · cases recording.localLayout? image i <;> rfl
    · rfl

theorem layoutAfter?_cons (recording : Recording) (registry : Registry) (barrier : ImageBarrier)
    (barriers : List ImageBarrier) (image : Handle .image) (i : Nat) :
    recording.layoutAfter? registry (barrier :: barriers) image i
      = ((barriers.reverse.find? fun other => other.moves registry recording.family image i).map
          ImageBarrier.newLayout).or
        (if barrier.moves registry recording.family image i then some barrier.newLayout
          else recording.layoutAfter? registry [] image i) := by
  -- The search starts with the last barrier, so that this one is looked at after all the others.
  rw [layoutAfter?, List.reverse_cons, List.find?_append, List.find?_singleton]
  cases barriers.reverse.find? fun other => other.moves registry recording.family image i with
  | some last => rfl
  | none => split <;> rfl

/-- One barrier after the other, the layouts are as after all of them. -/
theorem current_withImageBarriers {recording : Recording} (h : recording.WellFormed) (registry : Registry)
    (barriers : List ImageBarrier) (image : Handle .image) (i : Nat) :
    ((recording.withImageBarriers registry barriers).localLayout? image i).map LocalLayout.current
      = recording.layoutAfter? registry barriers image i := by
  induction barriers generalizing recording with
  | nil => rfl
  | cons barrier barriers ih =>
    rw [layoutAfter?_cons]
    cases hget : registry.get? barrier.image with
    | none =>
      -- The barrier is left out, and moves nothing.
      have hskip : recording.withImageBarriers registry (barrier :: barriers)
          = recording.withImageBarriers registry barriers := by
        simp only [withImageBarriers, withBarriers, List.foldl_cons, hget]
      have hmoves : barrier.moves registry recording.family image i = false := by
        rw [ImageBarrier.moves, ImageBarrier.covers_of_dead hget, Bool.and_false]
      rw [hskip, ih h, hmoves]
      rfl
    | some found =>
      have hstep : recording.withImageBarriers registry (barrier :: barriers)
          = (recording.imageBarrier found.info barrier).withImageBarriers registry barriers := by
        simp only [withImageBarriers, withBarriers, List.foldl_cons, hget]
      rw [hstep, ih (h.imageBarrier found.info barrier), layoutAfter?, current_imageBarrier h hget,
        Recorder.imageBarrier_family]
      rfl

theorem wellFormed_withImageBarriers {recording : Recording} (h : recording.WellFormed)
    (registry : Registry) (barriers : List ImageBarrier) :
    (recording.withImageBarriers registry barriers).WellFormed := by
  refine List.foldlRecOn (motive := WellFormed) barriers _ h fun before hbefore barrier _ => ?_
  split
  · exact hbefore.imageBarrier _ _
  · exact hbefore

end Recording

/-! ## Old layouts -/

/-- Some subresource under the barrier is known to be in another layout than its old one, after earlier
barriers were added to the recording. -/
def ImageBarrier.Contradicted (registry : Registry) (recording : Recording) (earlier : List ImageBarrier)
    (barrier : ImageBarrier) : Prop :=
  barrier.oldLayout ≠ .undefined ∧ ∃ i current, barrier.covers registry barrier.image i = true
    ∧ recording.layoutAfter? registry earlier barrier.image i = some current ∧ current ≠ barrier.oldLayout

namespace Recording

variable {recording : Recording} (h : recording.WellFormed) (registry : Registry) (barrier : ImageBarrier)
include h

theorem contradiction?_ne_none_iff :
    recording.contradiction? registry barrier ≠ none ↔ barrier.Contradicted registry recording [] := by
  rw [contradiction?, ImageBarrier.Contradicted]
  simp only [layoutAfter?_nil, ImageBarrier.covers, beq_self_eq_true, Bool.true_and]
  cases registry.get? barrier.image with
  | none => simp
  | some found =>
    by_cases hold : barrier.oldLayout = .undefined
    · simp [hold]
    · simp only [Option.bind_eq_bind, Option.bind_some, hold, if_false, Option.any_some, ne_eq,
        layoutMismatch?_eq_none_iff h, not_false_eq_true, true_and, Option.map_eq_some_iff]
      constructor
      · intro hmismatch
        refine Classical.byContradiction fun hnone => hmismatch fun i l hi hl => ?_
        exact Classical.byContradiction fun hne => hnone ⟨i, l.current, hi, ⟨l, hl, rfl⟩, hne⟩
      · rintro ⟨i, _, hi, ⟨l, hl, rfl⟩, hne⟩ hall
        exact hne (hall i l hi hl)

/-- In the sequence a barrier is compared with what the ones before it leave. -/
theorem contradiction?_withImageBarriers_ne_none_iff (earlier : List ImageBarrier) :
    (recording.withImageBarriers registry earlier).contradiction? registry barrier ≠ none
      ↔ barrier.Contradicted registry recording earlier := by
  rw [contradiction?_ne_none_iff (wellFormed_withImageBarriers h registry earlier)]
  simp only [ImageBarrier.Contradicted, layoutAfter?_nil, current_withImageBarriers h]

end Recording

/-- Barriers that share no subresource with the barrier, or do not move theirs, make no difference. -/
theorem ImageBarrier.contradicted_iff_of_not_shares {registry : Registry} {recording : Recording}
    {earlier : List ImageBarrier} {barrier : ImageBarrier}
    (happart : ∀ other ∈ earlier, (barrierRole other.transfer recording.family).transitions = true →
      ¬ other.Shares registry barrier) :
    barrier.Contradicted registry recording earlier ↔ barrier.Contradicted registry recording [] := by
  have hlayout {i : Nat} (hcovers : barrier.covers registry barrier.image i = true) :
      recording.layoutAfter? registry earlier barrier.image i
        = recording.layoutAfter? registry [] barrier.image i := by
    have hnone : (earlier.reverse.find? fun other =>
        other.moves registry recording.family barrier.image i) = none := by
      refine List.find?_eq_none.mpr fun other hother hmoves => ?_
      rw [moves, Bool.and_eq_true] at hmoves
      refine happart other (List.mem_reverse.mp hother) hmoves.1 ?_
      -- What the other barrier moves here it shares with this one.
      simp only [covers, Bool.and_eq_true, beq_iff_eq, Option.any_eq_true] at hcovers hmoves
      obtain ⟨-, himage, found, hget, hi⟩ := hmoves
      obtain ⟨-, found', hget', hi'⟩ := hcovers
      obtain rfl := Option.some.inj (hget.symm.trans hget')
      exact ⟨himage, found, himage ▸ hget, i, hi, hi'⟩
    rw [Recording.layoutAfter?, hnone]
    rfl
  unfold Contradicted
  refine and_congr_right fun _ => exists_congr fun i => exists_congr fun current => ?_
  exact and_congr_right fun hcovers => by rw [hlayout hcovers]

/-! ## Sequences of commands -/

/-- The command that adds a single barrier. -/
def ImageBarrier.alone (barrier : ImageBarrier) : Dependency := { imageBarriers := [barrier] }

/-- The commands that add the image barriers of a command one by one, and then its buffer barriers as they
are divided up. -/
def Dependency.sequence (dependency : Dependency) (bufferCalls : List (List BufferBarrier)) :
    List Dependency :=
  dependency.imageBarriers.map ImageBarrier.alone
    ++ bufferCalls.map fun barriers => { bufferBarriers := barriers }

theorem ImageBarrier.isPart_alone {barrier : ImageBarrier} {dependency : Dependency}
    (hbarrier : barrier ∈ dependency.imageBarriers) : barrier.alone.IsPart dependency where
  images other hother := by rwa [List.mem_singleton.mp hother]
  buffers other hother := by cases hother

theorem Dependency.isPart_of_mem_sequence {dependency : Dependency}
    {bufferCalls : List (List BufferBarrier)} (hbuffers : bufferCalls.flatten = dependency.bufferBarriers) :
    ∀ part ∈ dependency.sequence bufferCalls, part.IsPart dependency := by
  intro part hpart
  rcases List.mem_append.mp hpart with hpart | hpart
  · obtain ⟨barrier, hbarrier, rfl⟩ := List.mem_map.mp hpart
    exact barrier.isPart_alone hbarrier
  · obtain ⟨barriers, hbarriers, rfl⟩ := List.mem_map.mp hpart
    refine ⟨fun other hother => (by cases hother), fun other hother => ?_⟩
    rw [← hbuffers]
    exact List.mem_flatten.mpr ⟨barriers, hbarriers, hother⟩

namespace Recording

/-- Adding single barriers one after the other is adding them all. -/
theorem foldl_withBarriers_alone (recording : Recording) (registry : Registry)
    (barriers : List ImageBarrier) :
    (barriers.map ImageBarrier.alone).foldl (fun recording part => recording.withBarriers registry part)
        recording
      = recording.withImageBarriers registry barriers :=
  List.foldl_map

theorem foldl_withBarriers_sequence (recording : Recording) (registry : Registry) {dependency : Dependency}
    {bufferCalls : List (List BufferBarrier)} (hbuffers : bufferCalls.flatten = dependency.bufferBarriers) :
    (dependency.sequence bufferCalls).foldl (fun recording part => recording.withBarriers registry part)
        recording
      = recording.withBarriers registry dependency := by
  rw [Dependency.sequence, List.foldl_append, foldl_withBarriers_alone, List.foldl_map, withBarriers,
    ← hbuffers, List.foldl_flatten]
  rfl

end Recording

namespace Recorder

section Parts

variable {d : Device} (hengine : d.engine = Standard.engine) {dependency : Dependency}
include hengine

/-- Parts of a command that has no other error than with layouts are recorded one after the other. -/
theorem recordAll_parts {recorder : Recorder}
    (h : hasStructuralError (recorder.record d (.barrier dependency)).diagnostics = false)
    {parts : List Dependency} (hparts : ∀ part ∈ parts, part.IsPart dependency) :
    recorder.recordAll d (parts.map .barrier) = recorder.withRecording
      (parts.foldl (fun recording part => recording.withBarriers d.registry part) recorder.recording) := by
  -- What is said of the command stays true after a part, which leaves the render pass as it is.
  induction parts generalizing recorder with
  | nil => rfl
  | cons part parts ih =>
    have hpart := hparts part List.mem_cons_self
    have hharmless := not_structural_part hengine h rfl hpart
    have hstate := (record_barrier_of_not_structural hengine hharmless).2
    have hpass : (recorder.record d (.barrier part)).state.recording.renderPass
        = recorder.recording.renderPass := by
      rw [hstate]
      exact Recording.withBarriers_renderPass _ _ _
    have hrest := ih (not_structural_part hengine h hpass (.refl dependency)) fun other hother =>
      hparts other (List.mem_cons_of_mem part hother)
    rw [List.map_cons, List.foldl_cons]
    refine hrest.trans ?_
    rw [hstate]
    rfl

theorem recordAll_parts_renderPass {recorder : Recorder}
    (h : hasStructuralError (recorder.record d (.barrier dependency)).diagnostics = false)
    {parts : List Dependency} (hparts : ∀ part ∈ parts, part.IsPart dependency) :
    (recorder.recordAll d (parts.map .barrier)).recording.renderPass = recorder.recording.renderPass := by
  rw [recordAll_parts hengine h hparts]
  exact foldl_keeps Recording.renderPass (fun recording part => recording.withBarriers_renderPass _ part)
    parts recorder.recording

/-- The recording after the commands that add some of the image barriers. -/
theorem recordAll_alone_recording {recorder : Recorder}
    (h : hasStructuralError (recorder.record d (.barrier dependency)).diagnostics = false)
    {barriers : List ImageBarrier} (hbarriers : ∀ barrier ∈ barriers, barrier ∈ dependency.imageBarriers) :
    (recorder.recordAll d ((barriers.map ImageBarrier.alone).map .barrier)).recording
      = recorder.recording.withImageBarriers d.registry barriers := by
  have hparts : ∀ part ∈ barriers.map ImageBarrier.alone, part.IsPart dependency := by
    intro part hpart
    obtain ⟨barrier, hbarrier, rfl⟩ := List.mem_map.mp hpart
    exact barrier.isPart_alone (hbarriers barrier hbarrier)
  rw [recordAll_parts hengine h hparts, Recording.foldl_withBarriers_alone]
  rfl

end Parts

end Recorder

/-- Recording a barrier command at once leaves the same recording as adding its image barriers one by one and
its buffer barriers after them, if it has no other error than with layouts. In both cases nothing but
the old layouts is reported. At once they are compared with what was recorded before the command, and in
the sequence with what the barriers before them leave; the outcome is the same for a barrier that shares no
subresource with an earlier one that moves it. -/
theorem barriers_in_sequence {s : Session} (hs : s.Reachable) (hengine : s.device.engine = Standard.engine)
    {key : Nat} {recorder : Recorder} (hrecorder : s.recorder? key = some recorder)
    {dependency : Dependency}
    (hharmless : hasStructuralError (recorder.record s.device (.barrier dependency)).diagnostics = false)
    {bufferCalls : List (List BufferBarrier)}
    (hbuffers : bufferCalls.flatten = dependency.bufferBarriers) :
    recorder.recordAll s.device ((dependency.sequence bufferCalls).map .barrier)
      = (recorder.record s.device (.barrier dependency)).state
    ∧ (recorder.record s.device (.barrier dependency)).diagnostics
      = recorder.recording.mismatches s.device.registry dependency
    ∧ (∀ before part after, dependency.sequence bufferCalls = before ++ part :: after →
        let earlier := recorder.recordAll s.device (before.map .barrier)
        (earlier.record s.device (.barrier part)).diagnostics
          = earlier.recording.mismatches s.device.registry part)
    ∧ ∀ before barrier after, dependency.imageBarriers = before ++ barrier :: after →
        let earlier := recorder.recordAll s.device ((before.map ImageBarrier.alone).map .barrier)
        (recorder.recording.contradiction? s.device.registry barrier ≠ none
          ↔ barrier.Contradicted s.device.registry recorder.recording [])
        ∧ (earlier.recording.contradiction? s.device.registry barrier ≠ none
          ↔ barrier.Contradicted s.device.registry recorder.recording before)
        ∧ ((∀ other ∈ before,
              (barrierRole other.transfer recorder.recording.family).transitions = true →
              ¬ other.Shares s.device.registry barrier) →
            (recorder.recording.contradiction? s.device.registry barrier ≠ none
              ↔ earlier.recording.contradiction? s.device.registry barrier ≠ none)) := by
  have hparts := Dependency.isPart_of_mem_sequence hbuffers
  have hwell := hs.wellFormed.recordings key recorder hrecorder
  refine ⟨?_, Recorder.barrier_diagnostics hengine hharmless, fun before part after heq => ?_,
    fun before barrier after heq => ?_⟩
  · rw [Recorder.recordAll_parts hengine hharmless hparts,
      Recording.foldl_withBarriers_sequence recorder.recording s.device.registry hbuffers,
      (Recorder.record_barrier_of_not_structural hengine hharmless).2]
  -- The calls before are parts of the one call as well, and leave the recorder in the same render pass.
  · have hbefore : ∀ other ∈ before, other.IsPart dependency := fun other hother =>
      hparts other (heq ▸ List.mem_append_left _ hother)
    have hpart : part.IsPart dependency := hparts part (heq ▸ List.mem_append_right _ List.mem_cons_self)
    exact Recorder.barrier_diagnostics hengine (Recorder.not_structural_part hengine hharmless
      (Recorder.recordAll_parts_renderPass hengine hharmless hbefore) hpart)
  -- At once a barrier is compared with the layouts before all of them, in sequence with those before it.
  · have hearlier := Recorder.recordAll_alone_recording hengine hharmless fun other hother =>
      (heq ▸ List.mem_append_left _ hother : other ∈ dependency.imageBarriers)
    have hatOnce := Recording.contradiction?_ne_none_iff hwell s.device.registry barrier
    have hinSequence :=
      Recording.contradiction?_withImageBarriers_ne_none_iff hwell s.device.registry barrier before
    rw [← hearlier] at hinSequence
    refine ⟨hatOnce, hinSequence, fun happart => ?_⟩
    exact hatOnce.trans ((ImageBarrier.contradicted_iff_of_not_shares happart).symm.trans hinSequence.symm)

/-- A run that creates an image with two levels and a buffer, and records that the first level is in layout
`General`. -/
def firstLevelRun : List Call :=
  [.createImage { format := .r8g8b8a8Unorm, extent := ⟨4, 4, 1⟩, mipLevels := 2 },
    .createBuffer { size := 64 },
    .beginCommandBuffer ⟨0, 0⟩ none .multipleSubmit,
    .record 0 (.barrier { imageBarriers := [{ image := .ofSerial .image 1, newLayout := .general }] })]

/-- A barrier of the first level of the image. -/
def firstLevelBarrier (oldLayout newLayout : ImageLayout) : ImageBarrier :=
  { image := .ofSerial .image 1, oldLayout, newLayout }

/-- A barrier of the second level of the image. -/
def secondLevelBarrier : ImageBarrier where
  image := .ofSerial .image 1
  oldLayout := .preinitialized
  newLayout := .general
  range := ⟨.color, ⟨1, 2⟩, ⟨0, 1⟩⟩

/-- Barriers of both levels of the image and of the buffer. -/
def levelsDependency : Dependency where
  imageBarriers := [secondLevelBarrier, firstLevelBarrier .transferDstOptimal .shaderReadOnlyOptimal]
  bufferBarriers := [{ buffer := .ofSerial .buffer 2 }]

/-- The image barriers touch different levels, so that the old layout of the first level is reported in
the sequence, too. -/
theorem levelsDependency_in_sequence :
    let s := (Session.start {} Standard.engine).run firstLevelRun
    ∃ recorder, s.recorder? 0 = some recorder
      ∧ recorder.recordAll s.device
          ((levelsDependency.sequence [levelsDependency.bufferBarriers]).map .barrier)
        = (recorder.record s.device (.barrier levelsDependency)).state
      ∧ (recorder.record s.device (.barrier levelsDependency)).diagnostics.map Diagnostic.kind
        = [.layoutMismatch]
      ∧ (recorder.recordAll s.device [.barrier secondLevelBarrier.alone]).recording.contradiction?
          s.device.registry (firstLevelBarrier .transferDstOptimal .shaderReadOnlyOptimal) ≠ none := by
  intro s
  obtain ⟨recorder, hr⟩ := Option.isSome_iff_exists.mp
    (show (s.recorder? 0).isSome = true by decide +kernel)
  have hs : s.Reachable := (Session.Reachable.start {} _).run _
  have hengine : s.device.engine = Standard.engine := Session.run_engine _ _
  have hharmless : ∀ recorder ∈ s.recorder? 0,
      hasStructuralError (recorder.record s.device (.barrier levelsDependency)).diagnostics = false := by
    decide +kernel
  have hmismatches : ∀ recorder ∈ s.recorder? 0,
      (recorder.recording.mismatches s.device.registry levelsDependency).map Diagnostic.kind
        = [.layoutMismatch]
      ∧ recorder.recording.contradiction? s.device.registry
          (firstLevelBarrier .transferDstOptimal .shaderReadOnlyOptimal) ≠ none := by
    decide +kernel
  have hranges : ∀ image ∈ s.device.registry.get? (.ofSerial .image 1),
      image.info.indexRanges secondLevelBarrier.range = [⟨1, 2⟩]
      ∧ image.info.indexRanges .first = [⟨0, 1⟩] := by
    decide +kernel
  obtain ⟨hstate, hdiagnostics, -, hreports⟩ :=
    barriers_in_sequence hs hengine hr (hharmless recorder hr)
      (show [levelsDependency.bufferBarriers].flatten = levelsDependency.bufferBarriers from rfl)
  obtain ⟨hkinds, hcontradiction⟩ := hmismatches recorder hr
  obtain ⟨-, -, hsame⟩ := hreports [secondLevelBarrier] _ [] rfl
  refine ⟨recorder, hr, hstate, hdiagnostics ▸ hkinds, (hsame fun other hother _ => ?_).mp hcontradiction⟩
  obtain rfl := List.mem_singleton.mp hother
  rintro ⟨-, image, hget, i, hsecond, hfirst⟩
  obtain ⟨hsecond', hfirst'⟩ := hranges image hget
  rw [hsecond'] at hsecond
  rw [show (firstLevelBarrier .transferDstOptimal .shaderReadOnlyOptimal).range = .first from rfl,
    hfirst'] at hfirst
  simp only [List.any_cons, List.any_nil, Bool.or_false, Interval.contains, Bool.and_eq_true,
    decide_eq_true_eq] at hsecond hfirst
  omega

/-- With two barriers of the same level the reports differ in both ways. After a barrier that moves the level
to `TransferDstOptimal`, a second one that expects `General` is reported in the sequence only, and one that
expects `TransferDstOptimal` is reported at once only. -/
theorem firstLevelBarriers_not_in_sequence :
    let s := (Session.start {} Standard.engine).run firstLevelRun
    let reported (recorder : Recorder) (barriers : List ImageBarrier) : List ErrorKind :=
      (recorder.record s.device (.barrier { imageBarriers := barriers })).diagnostics.map Diagnostic.kind
    let first := firstLevelBarrier .general .transferDstOptimal
    let wrong := firstLevelBarrier .general .shaderReadOnlyOptimal
    let right := firstLevelBarrier .transferDstOptimal .shaderReadOnlyOptimal
    s.Reachable ∧ s.device.engine = Standard.engine ∧ ∃ recorder, s.recorder? 0 = some recorder
      ∧ let after := recorder.recordAll s.device [.barrier first.alone]
        reported recorder [first, wrong] = [] ∧ reported after [wrong] = [.layoutMismatch]
        ∧ reported recorder [first, right] = [.layoutMismatch] ∧ reported after [right] = [] := by
  intro s reported first wrong right
  obtain ⟨recorder, hr⟩ := Option.isSome_iff_exists.mp
    (show (s.recorder? 0).isSome = true by decide +kernel)
  have hreported : ∀ recorder ∈ s.recorder? 0,
      let after := recorder.recordAll s.device [.barrier first.alone]
      reported recorder [first, wrong] = [] ∧ reported after [wrong] = [.layoutMismatch]
      ∧ reported recorder [first, right] = [.layoutMismatch] ∧ reported after [right] = [] := by
    decide +kernel
  exact ⟨(Session.Reachable.start {} _).run _, Session.run_engine _ _, recorder, hr,
    hreported recorder hr⟩

end VulkanValidity
