/-
  VulkanValidity.Proofs.LayoutReference

  The reference that the layout checks are measured by.  What a command has to do with layouts is a
  list of steps: each covers some subresources of an image, may declare the layout that they are in,
  and may set another one.  Steps run one after the other on a map from subresources to layouts, which
  knows nothing of recordings, expectations and replays.

  A command buffer knows the layouts of the subresources that it has touched, and expects layouts of
  them at its start.  `Explains` says that this knowledge is right about the steps so far: on a map that
  meets the expectations every declaration comes true, and the map afterwards is as known.  One more
  step keeps that (`Explains.snoc`) if what it declares agrees with what is known.
-/

import VulkanValidity.Recording

namespace VulkanValidity

/-! ## Steps -/

/-- The layouts of the subresources of all images. Subresources that do not exist have none. -/
abbrev LayoutMap := Handle .image → Nat → Option ImageLayout

/-- What a command has to do with the layouts of some subresources of an image. -/
structure LayoutStep where
  image : Handle .image
  ranges : List Interval
  /-- The layout that the subresources are to be in. -/
  declared : Option ImageLayout
  /-- The layout that they are moved to. -/
  sets : Option ImageLayout
  /-- Whether the step begins the use of an attachment. Its declaration is about the start of the
  command buffer, so that nothing is declared of what was touched before. -/
  attachment : Bool := false
deriving DecidableEq, Repr

namespace LayoutStep

/-- Whether the step covers a subresource. -/
def covers (step : LayoutStep) (image : Handle .image) (i : Nat) : Bool :=
  step.image == image && step.ranges.any (·.contains i)

/-- The layouts after the step. -/
def run (step : LayoutStep) (m : LayoutMap) : LayoutMap := fun image i =>
  if step.covers image i then (m image i).map step.sets.getD else m image i

/-- The layouts after a list of steps. -/
def runAll (m : LayoutMap) (steps : List LayoutStep) : LayoutMap :=
  steps.foldl (fun m step => step.run m) m

/-- Whether the step, after the steps of `past`, finds the subresources in the layout that it
declares. -/
def FindsDeclared (past : List LayoutStep) (m : LayoutMap) (step : LayoutStep) : Prop :=
  ∀ image i layout declared, step.covers image i = true → m image i = some layout →
    step.declared = some declared →
    (step.attachment = true → ∀ other ∈ past, other.covers image i = false) → layout = declared

/-- Whether each step of a list, which comes after the steps of `past`, finds what it declares. -/
def AllFindDeclared : List LayoutStep → LayoutMap → List LayoutStep → Prop
  | _, _, [] => True
  | past, m, step :: rest =>
    step.FindsDeclared past m ∧ AllFindDeclared (past ++ [step]) (step.run m) rest

theorem covers_iff {step : LayoutStep} {image : Handle .image} {i : Nat} :
    step.covers image i = true
      ↔ image = step.image ∧ step.ranges.any (·.contains i) = true := by
  rw [covers, Bool.and_eq_true, beq_iff_eq, eq_comm]

theorem runAll_append (m : LayoutMap) (steps more : List LayoutStep) :
    runAll m (steps ++ more) = runAll (runAll m steps) more := List.foldl_append

theorem allFindDeclared_append {past : List LayoutStep} {m : LayoutMap}
    {steps more : List LayoutStep} :
    AllFindDeclared past m (steps ++ more)
      ↔ AllFindDeclared past m steps ∧ AllFindDeclared (past ++ steps) (runAll m steps) more := by
  induction steps generalizing past m with
  | nil =>
    rw [List.nil_append, List.append_nil]
    exact (iff_of_eq (true_and _)).symm
  | cons step steps ih =>
    rw [List.cons_append, AllFindDeclared, AllFindDeclared, ih, and_assoc, List.append_assoc]
    rfl

end LayoutStep

/-! ## Knowledge -/

/-- What is known of the layouts of the subresources of all images. -/
abbrev LayoutKnowledge := Handle .image → Nat → Option LocalLayout

namespace LayoutKnowledge

/-- Whether the layouts are as expected, wherever they are expected to be something. -/
def Meets (known : LayoutKnowledge) (m : LayoutMap) : Prop :=
  ∀ image i l layout expected, known image i = some l → l.expected = some expected →
    m image i = some layout → layout = expected

/-- The layout of a subresource that was in `layout` at the start. -/
def layoutFrom (known : LayoutKnowledge) (image : Handle .image) (i : Nat) (layout : ImageLayout) :
    ImageLayout :=
  (known image i).elim layout LocalLayout.current

end LayoutKnowledge

namespace LayoutStep

/-- What is known of a covered subresource after the step. The first step expects what it declares. -/
def learned (step : LayoutStep) : Option LocalLayout → Option LocalLayout
  | some l => some { l with current := step.sets.getD l.current }
  | none => (step.sets.or step.declared).map fun current => ⟨step.declared, current⟩

/-- What is known after the step. -/
def learn (step : LayoutStep) (known : LayoutKnowledge) : LayoutKnowledge := fun image i =>
  if step.covers image i then step.learned (known image i) else known image i

/-- What is known after a list of steps. -/
def learnAll (known : LayoutKnowledge) (steps : List LayoutStep) : LayoutKnowledge :=
  steps.foldl (fun known step => step.learn known) known

/-- Whether what the step declares agrees with what is known. -/
def Agrees (step : LayoutStep) (known : LayoutKnowledge) : Prop :=
  step.attachment = true ∨ ∀ image i l declared, step.covers image i = true →
    known image i = some l → step.declared = some declared → l.current = declared

/-- Whether a step that agrees with what is known still does so after another one. -/
def AgreesAfter (other step : LayoutStep) : Prop :=
  ∀ known, step.Agrees known → step.Agrees (other.learn known)

theorem learn_of_covers {step : LayoutStep} {image : Handle .image} {i : Nat}
    (h : step.covers image i = true) (known : LayoutKnowledge) :
    step.learn known image i = step.learned (known image i) := by
  rw [learn, if_pos h]

theorem learn_of_not_covers {step : LayoutStep} {image : Handle .image} {i : Nat}
    (h : step.covers image i = false) (known : LayoutKnowledge) :
    step.learn known image i = known image i := by
  rw [learn, h]
  rfl

/-- A step never changes what is expected of a subresource that is known already. -/
theorem learn_of_some {known : LayoutKnowledge} {image : Handle .image} {i : Nat} {l : LocalLayout}
    (h : known image i = some l) (step : LayoutStep) :
    ∃ l', step.learn known image i = some l' ∧ l'.expected = l.expected := by
  cases hc : step.covers image i with
  | false => exact ⟨l, (learn_of_not_covers hc known).trans h, rfl⟩
  | true =>
    rw [learn_of_covers hc, h]
    exact ⟨_, rfl, rfl⟩

/-! ### Steps that agree after one another -/

/-- The beginning of the use of an attachment agrees with everything. -/
theorem agrees_of_attachment {step : LayoutStep} (h : step.attachment = true)
    (known : LayoutKnowledge) : step.Agrees known := Or.inl h

theorem agrees_of_declared_none {step : LayoutStep} (h : step.declared = none)
    (known : LayoutKnowledge) : step.Agrees known := by
  right
  intro image i l declared _ _ hdeclared
  rw [h] at hdeclared
  cases hdeclared

/-- Steps that share no subresource do not get in the way of one another. -/
theorem agreesAfter_of_disjoint {other step : LayoutStep}
    (h : ∀ image i, step.covers image i = true → other.covers image i = false) :
    AgreesAfter other step := by
  intro known hagrees
  refine hagrees.imp id fun hagrees image i l declared hc hk => ?_
  rw [learn_of_not_covers (h image i hc)] at hk
  exact hagrees image i l declared hc hk

/-- A step that sets nothing leaves what it touches first in the layout that it declares. -/
theorem agreesAfter_of_declares_same {other step : LayoutStep} (hsets : other.sets = none)
    (hdeclared : other.declared = step.declared) : AgreesAfter other step := by
  intro known hagrees
  refine hagrees.imp id fun hagrees image i l declared hc hk hd => ?_
  cases ho : other.covers image i with
  | false =>
    rw [learn_of_not_covers ho] at hk
    exact hagrees image i l declared hc hk hd
  | true =>
    -- What the other step taught here is the layout that this one declares, or what was known before.
    rw [learn_of_covers ho] at hk
    cases hknown : known image i with
    | none =>
      rw [hknown, learned, hsets, hdeclared, hd] at hk
      exact congrArg LocalLayout.current (Option.some.inj hk).symm
    | some l' =>
      rw [hknown, learned, hsets] at hk
      obtain rfl := Option.some.inj hk
      exact hagrees image i l' declared hc hknown hd

end LayoutStep

/-! ## Right knowledge -/

/-- What is known is right about the steps so far. -/
structure LayoutKnowledge.Explains (known : LayoutKnowledge) (steps : List LayoutStep) : Prop where
  /-- Only what was touched is known. -/
  touched : ∀ image i l, known image i = some l → ∃ step ∈ steps, step.covers image i = true
  /-- As far as the expectations are met, every step finds what it declares. -/
  declared : ∀ m, known.Meets m → LayoutStep.AllFindDeclared [] m steps
  /-- The layouts afterwards are as known. -/
  current : ∀ m, known.Meets m → ∀ image i,
    LayoutStep.runAll m steps image i = (m image i).map (known.layoutFrom image i)

namespace LayoutKnowledge

open LayoutStep

theorem explains_nil : Explains (fun _ _ => none) [] where
  touched image i l h := by cases h
  declared m _ := trivial
  current m _ image i := Option.map_id'.symm

/-- What is expected after a step was expected before, or is what the step declares of a subresource
that it touches first. -/
theorem Meets.of_learn {known : LayoutKnowledge} {m : LayoutMap} {step : LayoutStep}
    (h : Meets (step.learn known) m) : known.Meets m := by
  intro image i l layout expected hk hexpected hm
  obtain ⟨l', hl', heq⟩ := learn_of_some hk step
  exact h image i l' layout expected hl' (heq.trans hexpected) hm

variable {known : LayoutKnowledge} {steps : List LayoutStep} (h : known.Explains steps)
include h

/-- A step that agrees with what is known finds what it declares, on every map that meets the
expectations after it. -/
theorem Explains.findsDeclared {step : LayoutStep} (hagrees : step.Agrees known) {m : LayoutMap}
    (hm : Meets (step.learn known) m) : step.FindsDeclared steps (runAll m steps) := by
  intro image i layout declared hc hlayout hdeclared hfirst
  rw [h.current m hm.of_learn] at hlayout
  obtain ⟨start, hstart, hlayout⟩ := Option.map_eq_some_iff.mp hlayout
  cases hk : known image i with
  | none =>
    -- Nothing came before, so that the declaration is an expectation from now on.
    have hlearn : step.learn known image i
        = some ⟨some declared, step.sets.getD declared⟩ := by
      rw [learn_of_covers hc, hk, learned, hdeclared]
      cases step.sets <;> rfl
    have heq := hm image i _ start declared hlearn rfl hstart
    rw [layoutFrom, hk] at hlayout
    exact hlayout.symm.trans heq
  | some l =>
    rw [layoutFrom, hk] at hlayout
    rcases hagrees with hattachment | hagrees
    · -- An attachment declares nothing of what was touched.
      obtain ⟨other, hmem, hother⟩ := h.touched image i l hk
      rw [hfirst hattachment other hmem] at hother
      cases hother
    · exact hlayout.symm.trans (hagrees image i l declared hc hk hdeclared)

/-- One more step that agrees with what is known. -/
theorem Explains.snoc {step : LayoutStep} (hagrees : step.Agrees known) :
    Explains (step.learn known) (steps ++ [step]) where
  touched image i l hl := by
    cases hc : step.covers image i with
    | true => exact ⟨step, List.mem_append_right steps List.mem_cons_self, hc⟩
    | false =>
      rw [learn_of_not_covers hc] at hl
      obtain ⟨other, hmem, hother⟩ := h.touched image i l hl
      exact ⟨other, List.mem_append_left [step] hmem, hother⟩
  declared m hm := by
    rw [allFindDeclared_append]
    exact ⟨h.declared m hm.of_learn, h.findsDeclared hagrees hm, trivial⟩
  current m hm image i := by
    rw [runAll_append]
    show step.run (runAll m steps) image i = _
    rw [run, h.current m hm.of_learn]
    cases hc : step.covers image i with
    | false =>
      rw [if_neg Bool.false_ne_true]
      refine congrArg (fun f => (m image i).map f) (funext fun layout => ?_)
      rw [layoutFrom, layoutFrom, learn_of_not_covers hc]
    | true =>
      rw [if_pos rfl, Option.map_map]
      cases hstart : m image i with
      | none => rfl
      | some layout =>
        rw [Option.map_some, Option.map_some, Function.comp_apply, layoutFrom, layoutFrom,
          learn_of_covers hc]
        cases hk : known image i with
        | some l => rfl
        | none =>
          cases hsets : step.sets with
          | some new => simp [learned, hsets]
          | none =>
            -- The step only declares: the subresource is in that layout, as is expected from now on.
            cases hdeclared : step.declared with
            | none => simp [learned, hsets, hdeclared]
            | some declared =>
              have hlearn : step.learn known image i = some ⟨some declared, declared⟩ := by
                rw [learn_of_covers hc, hk, learned, hsets, hdeclared]
                rfl
              have heq := hm image i _ layout declared hlearn rfl hstart
              simp [learned, hsets, hdeclared, heq]

/-- More steps that agree with what is known, and go on doing so after one another. -/
theorem Explains.append {more : List LayoutStep} (hagrees : ∀ step ∈ more, step.Agrees known)
    (hafter : more.Pairwise AgreesAfter) :
    Explains (learnAll known more) (steps ++ more) := by
  induction more generalizing known steps with
  | nil =>
    rw [List.append_nil]
    exact h
  | cons step more ih =>
    obtain ⟨hstep, hmore⟩ := List.pairwise_cons.mp hafter
    have hnext := h.snoc (hagrees step List.mem_cons_self)
    rw [← List.singleton_append, ← List.append_assoc]
    refine ih hnext (fun other hother => ?_) hmore
    exact hstep other hother known (hagrees other (List.mem_cons_of_mem step hother))

end LayoutKnowledge

end VulkanValidity
