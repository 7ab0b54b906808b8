/-
  VulkanValidity.Proofs.LocalLayouts

  What a recording knows of a subresource after any sequence of transitions and uses.  The first step that
  covers it decides once and for all what is expected of it; the last transition that covers it decides
  the layout that it is left in.  `LayoutStep.learnAll_of_none` says this of layout steps as such, and
  `Recording.localLayout?_touchAll` of the ranges of images that transitions and uses name.
-/

import VulkanValidity.Proofs.Coverage
import VulkanValidity.Proofs.LayoutKnowledge

namespace VulkanValidity

/-! ## Many steps -/

namespace LayoutStep

/-- Steps that do not cover a subresource teach nothing about it. -/
theorem learnAll_of_not_covers {steps : List LayoutStep} {image : Handle .image} {i : Nat}
    (h : ∀ step ∈ steps, step.covers image i = false) (known : LayoutKnowledge) :
    learnAll known steps image i = known image i := by
  induction steps generalizing known with
  | nil => rfl
  | cons step steps ih =>
    have hstep := learn_of_not_covers (h step List.mem_cons_self) known
    have hsteps := ih (fun other hother => h other (List.mem_cons_of_mem step hother))
      (step.learn known)
    exact hsteps.trans hstep

/-- Steps that teach something make known what they cover, and nothing else. -/
theorem isSome_learnAll {steps : List LayoutStep} {image : Handle .image} {i : Nat}
    (hteach : ∀ step ∈ steps, (step.sets.or step.declared).isSome = true) (known : LayoutKnowledge) :
    (learnAll known steps image i).isSome = true
      ↔ (known image i).isSome = true ∨ ∃ step ∈ steps, step.covers image i = true := by
  induction steps generalizing known with
  | nil => simp [learnAll]
  | cons step steps ih =>
    show (learnAll (step.learn known) steps image i).isSome = true ↔ _
    rw [ih fun other hother => hteach other (List.mem_cons_of_mem step hother)]
    simp only [List.mem_cons, exists_eq_or_imp]
    cases hc : step.covers image i with
    | false => simp [learn_of_not_covers hc]
    | true =>
      have hlearned : (step.learn known image i).isSome = true := by
        rw [learn_of_covers hc]
        cases known image i with
        | some l => rfl
        | none => exact (Option.isSome_map ..).trans (hteach step List.mem_cons_self)
      simp [hlearned]

/-- The layout that a step moves a subresource to, if it moves it. -/
def moves? (step : LayoutStep) (image : Handle .image) (i : Nat) : Option ImageLayout :=
  if step.covers image i then step.sets else none

/-- The layout that the last of some steps that moves a subresource moves it to. -/
def lastMove? (steps : List LayoutStep) (image : Handle .image) (i : Nat) : Option ImageLayout :=
  steps.reverse.findSome? fun step => step.moves? image i

theorem lastMove?_cons (step : LayoutStep) (steps : List LayoutStep) (image : Handle .image) (i : Nat) :
    lastMove? (step :: steps) image i = (lastMove? steps image i).or (step.moves? image i) := by
  -- The search starts with the last step, so that the first one is looked at after all the others.
  rw [lastMove?, List.reverse_cons, List.findSome?_append, List.findSome?_singleton]
  rfl

theorem lastMove?_eq_none {steps : List LayoutStep} {image : Handle .image} {i : Nat}
    (h : ∀ step ∈ steps, step.moves? image i = none) : lastMove? steps image i = none := by
  rw [lastMove?, List.findSome?_eq_none_iff]
  intro step hmem
  exact h step (List.mem_reverse.mp hmem)

theorem lastMove?_eq_some {before after : List LayoutStep} {last : LayoutStep} {image : Handle .image}
    {i : Nat} {layout : ImageLayout} (hlast : last.moves? image i = some layout)
    (hafter : ∀ step ∈ after, step.moves? image i = none) :
    lastMove? (before ++ last :: after) image i = some layout := by
  induction before with
  | nil => rw [List.nil_append, lastMove?_cons, lastMove?_eq_none hafter, Option.none_or, hlast]
  | cons step before ih => rw [List.cons_append, lastMove?_cons, ih, Option.some_or]

/-- What was known before keeps its expectation, and is left where the last step moves it. -/
theorem learnAll_of_some {known : LayoutKnowledge} {image : Handle .image} {i : Nat} {l : LocalLayout}
    (h : known image i = some l) (steps : List LayoutStep) :
    learnAll known steps image i
      = some { l with current := (lastMove? steps image i).getD l.current } := by
  induction steps generalizing known l with
  | nil => exact h
  | cons step steps ih =>
    have hstep : step.learn known image i
        = some { l with current := (step.moves? image i).getD l.current } := by
      cases hc : step.covers image i with
      | false =>
        rw [learn_of_not_covers hc, h, moves?, hc]
        rfl
      | true =>
        rw [learn_of_covers hc, h, moves?, if_pos hc]
        rfl
    show learnAll (step.learn known) steps image i = _
    rw [ih hstep, lastMove?_cons]
    cases lastMove? steps image i <;> rfl

/-- What was not known before expects what the first step that covers it declares, and is left where the
last step moves it. -/
theorem learnAll_of_none {known : LayoutKnowledge} {image : Handle .image} {i : Nat}
    (h : known image i = none) {steps : List LayoutStep}
    (hteach : ∀ step ∈ steps, (step.sets.or step.declared).isSome = true) :
    learnAll known steps image i
      = ((steps.find? fun step => step.covers image i).bind fun first =>
          (lastMove? steps image i).or first.declared |>.map fun current =>
            ⟨first.declared, current⟩) := by
  induction steps generalizing known with
  | nil => exact h
  | cons step steps ih =>
    have hsteps := fun other hother => hteach other (List.mem_cons_of_mem step hother)
    show learnAll (step.learn known) steps image i = _
    rw [List.find?_cons, lastMove?_cons, moves?]
    cases hc : step.covers image i with
    | false =>
      rw [ih ((learn_of_not_covers hc known).trans h) hsteps]
      simp
    | true =>
      -- This is the first step, so that all that is left are moves.
      obtain ⟨current, hcurrent⟩ := Option.isSome_iff_exists.mp (hteach step List.mem_cons_self)
      have hstep : step.learn known image i = some ⟨step.declared, current⟩ := by
        rw [learn_of_covers hc, h, learned, hcurrent]
        rfl
      rw [learnAll_of_some hstep, if_pos rfl]
      show _ = (((lastMove? steps image i).or step.sets).or step.declared).map _
      rw [Option.or_assoc, hcurrent]
      cases lastMove? steps image i <;> rfl

end LayoutStep

/-! ## Transitions and uses -/

/-- What a command does with the layout of the subresources that it covers. -/
inductive LayoutChange
  | transition (oldLayout newLayout : ImageLayout)
  | use (layout : ImageLayout)
deriving DecidableEq, Repr

namespace LayoutChange

/-- The layout that is expected of a subresource that nothing has touched before, if any. -/
def expects : LayoutChange → Option ImageLayout
  | transition oldLayout _ => oldLayout.declares
  | use layout => some layout

/-- The layout that a transition moves to; a use moves nothing. -/
def moves? : LayoutChange → Option ImageLayout
  | transition _ newLayout => some newLayout
  | use _ => none

theorem moves?_eq_none {change : LayoutChange} :
    change.moves? = none ↔ ∃ layout, change = .use layout := by
  cases change with
  | transition oldLayout newLayout => exact iff_of_false (by simp [moves?]) (by simp)
  | use layout => exact iff_of_true rfl ⟨layout, rfl⟩

end LayoutChange

/-- A transition or a use of a range of an image. -/
structure LayoutTouch where
  image : Handle .image
  info : ImageInfo
  range : SubresourceRange
  change : LayoutChange
deriving DecidableEq, Repr

namespace LayoutTouch

/-- The touch is about a subresource of an image. -/
def Covers (touch : LayoutTouch) (image : Handle .image) (i : Nat) : Prop :=
  touch.image = image ∧ touch.info.Covers touch.range i

instance (touch : LayoutTouch) (image : Handle .image) (i : Nat) : Decidable (touch.Covers image i) :=
  inferInstanceAs (Decidable (_ ∧ _))

/-- The layout step of the touch. -/
def step (touch : LayoutTouch) : LayoutStep where
  image := touch.image
  ranges := touch.info.indexRanges touch.range
  declared := touch.change.expects
  sets := touch.change.moves?

/-- Every touch teaches something about what it covers. -/
theorem isSome_step (touch : LayoutTouch) : (touch.step.sets.or touch.step.declared).isSome = true := by
  obtain ⟨image, info, range, change⟩ := touch
  cases change <;> rfl

theorem covers_step (touch : LayoutTouch) (image : Handle .image) (i : Nat) :
    touch.step.covers image i = decide (touch.Covers image i) := by
  rw [Bool.eq_iff_iff, LayoutStep.covers_iff, decide_eq_true_iff, Covers, @eq_comm _ image]
  exact and_congr_right' (touch.info.any_contains_indexRanges touch.range i)

theorem moves?_step (touch : LayoutTouch) (image : Handle .image) (i : Nat) :
    touch.step.moves? image i = if touch.Covers image i then touch.change.moves? else none := by
  rw [LayoutStep.moves?, covers_step]
  simp only [decide_eq_true_eq]
  rfl

theorem moves?_steps_eq_none {touches : List LayoutTouch} {image : Handle .image} {i : Nat}
    (h : ∀ touch ∈ touches, touch.Covers image i → touch.change.moves? = none) :
    ∀ step ∈ touches.map LayoutTouch.step, step.moves? image i = none := by
  intro step hmem
  obtain ⟨touch, htouch, rfl⟩ := List.mem_map.mp hmem
  rw [moves?_step]
  split
  · next hcovers => exact h touch htouch hcovers
  · rfl

end LayoutTouch

namespace Recording

open LayoutStep

/-- A recording after a transition or a use. -/
def touch (recording : Recording) (touch : LayoutTouch) : Recording :=
  match touch.change with
  | .transition oldLayout newLayout =>
    recording.transition touch.image touch.info touch.range oldLayout newLayout
  | .use layout => recording.useLayout touch.image touch.info touch.range layout

/-- A recording after a list of transitions and uses. -/
def touchAll (recording : Recording) (touches : List LayoutTouch) : Recording :=
  touches.foldl Recording.touch recording

theorem WellFormed.touch {recording : Recording} (h : recording.WellFormed) (touch : LayoutTouch) :
    (recording.touch touch).WellFormed := by
  unfold Recording.touch
  split <;> exact h.updateLayouts _ _ _ _

theorem localLayout?_touch {recording : Recording} (h : recording.WellFormed) (touch : LayoutTouch) :
    (recording.touch touch).localLayout? = touch.step.learn recording.localLayout? := by
  obtain ⟨image, info, range, change⟩ := touch
  cases change with
  | transition oldLayout newLayout =>
    exact localLayout?_updateLayouts_eq_learn h.layouts (LayoutTouch.step ⟨image, info, range, _⟩) rfl
      (transition_or oldLayout newLayout rfl rfl)
  | use layout =>
    exact localLayout?_updateLayouts_eq_learn h.layouts (LayoutTouch.step ⟨image, info, range, _⟩) rfl
      (use_or layout rfl rfl)

theorem localLayout?_touchAll_eq_learnAll (family : Nat) (touches : List LayoutTouch) :
    (({ family := family } : Recording).touchAll touches).localLayout?
      = learnAll (fun _ _ => none) (touches.map LayoutTouch.step) :=
  localLayout?_foldl (fun _ touch h => h.touch touch) (fun _ touch h => localLayout?_touch h touch)
    touches (wellFormed_begin family)

section TouchAll

variable (family : Nat) {touches : List LayoutTouch} {image : Handle .image} {i : Nat}

theorem localLayout?_touchAll_eq_bind :
    (({ family := family } : Recording).touchAll touches).localLayout? image i
      = (touches.find? fun touch => touch.Covers image i).bind fun first =>
          ((lastMove? (touches.map LayoutTouch.step) image i).or first.change.expects).map fun current =>
            ⟨first.change.expects, current⟩ := by
  have hteach : ∀ step ∈ touches.map LayoutTouch.step, (step.sets.or step.declared).isSome = true := by
    intro step hmem
    obtain ⟨touch, -, rfl⟩ := List.mem_map.mp hmem
    exact touch.isSome_step
  have hfind : ((touches.map LayoutTouch.step).find? fun step => step.covers image i)
      = (touches.find? fun touch => touch.Covers image i).map LayoutTouch.step := by
    rw [List.find?_map]
    refine congrArg (fun p => (touches.find? p).map LayoutTouch.step) (funext fun touch => ?_)
    exact touch.covers_step image i
  rw [localLayout?_touchAll_eq_learnAll, learnAll_of_none rfl hteach, hfind]
  cases touches.find? fun touch => touch.Covers image i <;> rfl

theorem localLayout?_touchAll_of_uncovered (h : ∀ touch ∈ touches, ¬ touch.Covers image i) :
    (({ family := family } : Recording).touchAll touches).localLayout? image i = none := by
  have hfind : (touches.find? fun touch => touch.Covers image i) = none := by
    rw [List.find?_eq_none]
    intro touch hmem
    simpa using h touch hmem
  rw [localLayout?_touchAll_eq_bind, hfind]
  rfl

/-- The first step that covers a subresource decides what is expected of it. -/
theorem localLayout?_touchAll_of_find? {first : LayoutTouch}
    (hfirst : (touches.find? fun touch => touch.Covers image i) = some first) :
    ∃ current, (lastMove? (touches.map LayoutTouch.step) image i).or first.change.expects = some current
      ∧ (({ family := family } : Recording).touchAll touches).localLayout? image i
        = some ⟨first.change.expects, current⟩ := by
  rw [localLayout?_touchAll_eq_bind, hfirst]
  cases hlast : lastMove? (touches.map LayoutTouch.step) image i with
  | some current => exact ⟨current, rfl, rfl⟩
  | none =>
    -- A transition would have moved the subresource, so that the first step is a use.
    have hmem : first.step ∈ touches.map LayoutTouch.step :=
      List.mem_map_of_mem (List.mem_of_find?_eq_some hfirst)
    have hstays := List.findSome?_eq_none_iff.mp hlast first.step (List.mem_reverse.mpr hmem)
    have hcovers : first.Covers image i := by simpa using List.find?_some hfirst
    rw [LayoutTouch.moves?_step, if_pos hcovers] at hstays
    obtain ⟨layout, huse⟩ := LayoutChange.moves?_eq_none.mp hstays
    have hexpects : first.change.expects = some layout := by
      rw [huse]
      rfl
    refine ⟨layout, hexpects, ?_⟩
    rw [Option.bind_some, Option.none_or, hexpects]
    rfl

end TouchAll

/-- After any transitions and uses, in any order and with any overlaps, a new recording knows exactly the
subresources that some step covers.  What it expects of such a subresource depends on the first step that
covers it alone; it is left in the new layout of the last transition that covers it or, if all these steps
are uses, in the layout of the first of them. -/
theorem localLayout?_touchAll (family : Nat) (touches : List LayoutTouch) (image : Handle .image)
    (i : Nat) :
    ((({ family := family } : Recording).touchAll touches).localLayout? image i = none
        ↔ ∀ touch ∈ touches, ¬ touch.Covers image i)
      ∧ ∀ first, (touches.find? fun touch => touch.Covers image i) = some first →
        ∃ l, (({ family := family } : Recording).touchAll touches).localLayout? image i = some l
          ∧ l.expected = first.change.expects
          ∧ (∀ before last after oldLayout newLayout, touches = before ++ last :: after →
              last.Covers image i → last.change = .transition oldLayout newLayout →
              (∀ touch ∈ after, touch.Covers image i → touch.change.moves? = none) →
              l.current = newLayout)
          ∧ (∀ layout, first.change = .use layout →
              (∀ touch ∈ touches, touch.Covers image i → touch.change.moves? = none) →
              l.current = layout) := by
  constructor
  · refine ⟨fun hnone touch hmem hcovers => ?_, localLayout?_touchAll_of_uncovered family⟩
    -- Some step covers the subresource, and so some step is the first to do so.
    have hsome : (touches.find? fun touch => touch.Covers image i).isSome = true :=
      List.find?_isSome.mpr ⟨touch, hmem, decide_eq_true hcovers⟩
    obtain ⟨first, hfirst⟩ := Option.isSome_iff_exists.mp hsome
    obtain ⟨current, -, hl⟩ := localLayout?_touchAll_of_find? family hfirst
    rw [hnone] at hl
    cases hl
  · intro first hfirst
    obtain ⟨current, hcurrent, hl⟩ := localLayout?_touchAll_of_find? family hfirst
    refine ⟨_, hl, rfl, ?_, ?_⟩
    · intro before last after oldLayout newLayout hsplit hcovers hlast hafter
      have hmove : lastMove? (touches.map LayoutTouch.step) image i = some newLayout := by
        rw [hsplit, List.map_append, List.map_cons]
        refine lastMove?_eq_some ?_ (LayoutTouch.moves?_steps_eq_none hafter)
        rw [LayoutTouch.moves?_step, if_pos hcovers, hlast]
        rfl
      rw [hmove] at hcurrent
      exact (Option.some.inj hcurrent).symm
    · intro layout huse huses
      rw [lastMove?_eq_none (LayoutTouch.moves?_steps_eq_none huses), huse] at hcurrent
      exact (Option.some.inj hcurrent).symm

/-- A use of the first two of the four mip levels of an image. -/
def firstLevels : LayoutTouch where
  image := .ofSerial .image 1
  info := { format := .r8g8b8a8Unorm, extent := ⟨16, 16, 1⟩, mipLevels := 4 }
  range := ⟨.color, ⟨0, 2⟩, ⟨0, 1⟩⟩
  change := .use .transferDstOptimal

/-- A transition of levels of the same image, of which the first one is among those above. -/
def nextLevels : LayoutTouch :=
  { firstLevels with range := ⟨.color, ⟨1, 3⟩, ⟨0, 1⟩⟩, change := .transition .general .presentSrc }

/-- Where the two overlap, the use is what is expected, and the transition is what is left. -/
theorem localLayout?_touchAll_overlap :
    ∃ l, (({ family := 0 } : Recording).touchAll [firstLevels, nextLevels]).localLayout?
        (.ofSerial .image 1) 1 = some l
      ∧ l.expected = some .transferDstOptimal ∧ l.current = .presentSrc := by
  obtain ⟨l, hl, hexpected, hlast, -⟩ :=
    (localLayout?_touchAll 0 [firstLevels, nextLevels] (.ofSerial .image 1) 1).2 firstLevels (by decide)
  refine ⟨l, hl, hexpected, hlast [firstLevels] nextLevels [] .general .presentSrc rfl (by decide) rfl ?_⟩
  intro touch hmem
  cases hmem

end Recording

end VulkanValidity
