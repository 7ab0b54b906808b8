/-
  VulkanValidity.Proofs.Trail

  The sessions that a run goes through (`Session.trail`).  A call that submits several command buffers
  passes through a session after each of them, and these are counted as well.

  Some properties of sessions are lost by calls that nothing rejects.  What can be said about them is
  which calls those are: `Session.forall_trail_iff` says that a property holds all along a run exactly if
  none of its calls is one of them.
-/

import VulkanValidity.Proofs.Session

namespace VulkanValidity

namespace Device

/-- The devices after each of several submissions. -/
def stages (d : Device) : List (Queue × Handle .commandBuffer) → List Device
  | [] => []
  | entry :: rest =>
    let next := (d.submitOne entry.1 entry.2).state
    next :: next.stages rest

/-- What every submission keeps holds after each of several submissions, and after all of them. -/
theorem stages_keep {P : Device → Prop} {d : Device} (h : P d)
    (entries : List (Queue × Handle .commandBuffer))
    (hstep : ∀ before entry rest, entries = before ++ entry :: rest → P (d.submitAll before) →
      P ((d.submitAll before).submitOne entry.1 entry.2).state) :
    (∀ d' ∈ d.stages entries, P d') ∧ P (d.submitAll entries) := by
  induction entries generalizing d with
  | nil => exact ⟨fun d' hd' => absurd hd' List.not_mem_nil, h⟩
  | cons entry entries ih =>
    have hnext : P (d.submitOne entry.1 entry.2).state := hstep [] entry entries rfl h
    obtain ⟨hstages, hall⟩ := ih hnext fun before other rest heq =>
      hstep (entry :: before) other rest (congrArg (entry :: ·) heq)
    refine ⟨fun d' hd' => ?_, hall⟩
    rcases List.mem_cons.mp hd' with rfl | hlater
    · exact hnext
    · exact hstages d' hlater

theorem mem_stages (d : Device) (before : List (Queue × Handle .commandBuffer))
    (entry : Queue × Handle .commandBuffer) (rest : List (Queue × Handle .commandBuffer)) :
    ((d.submitAll before).submitOne entry.1 entry.2).state ∈ d.stages (before ++ entry :: rest) := by
  induction before generalizing d with
  | nil => exact List.mem_cons_self
  | cons first before ih => exact List.mem_cons_of_mem _ (ih _)

end Device

namespace Session

/-- The sessions that a call passes through before it is complete: those after each submission. -/
def stages (s : Session) : Call → List Session
  | .submit batches => (s.device.stages (s.device.submissions batches)).map s.withDevice
  | _ => []

/-- All sessions that a run goes through. -/
def trail (s : Session) : List Call → List Session
  | [] => [s]
  | call :: rest => s :: (s.stages call ++ (s.step call).state.trail rest)

/-- Whether each call of a run is fine in the session that it is made in. -/
def allCalls (fine : Session → Call → Bool) (s : Session) : List Call → Bool
  | [] => true
  | call :: rest => fine s call && (s.step call).state.allCalls fine rest

theorem mem_trail_self (s : Session) (calls : List Call) : s ∈ s.trail calls := by
  cases calls with
  | nil => exact List.mem_singleton_self s
  | cons call calls => exact List.mem_cons_self

theorem run_mem_trail (s : Session) (calls : List Call) : s.run calls ∈ s.trail calls := by
  induction calls generalizing s with
  | nil => exact List.mem_singleton_self s
  | cons call calls ih => exact List.mem_cons_of_mem _ (List.mem_append_right _ (ih _))

/-- What every fine call keeps holds all along a run of fine calls. -/
theorem trail_keeps_of_allCalls {P : Session → Prop} {fine : Session → Call → Bool}
    (hstep : ∀ s call, P s → fine s call = true →
      (∀ s' ∈ s.stages call, P s') ∧ P (s.step call).state)
    {s : Session} (h : P s) {calls : List Call} (hfine : s.allCalls fine calls = true) :
    ∀ s' ∈ s.trail calls, P s' := by
  induction calls generalizing s with
  | nil =>
    intro s' hs'
    obtain rfl := List.mem_singleton.mp hs'
    exact h
  | cons call calls ih =>
    intro s' hs'
    rw [allCalls, Bool.and_eq_true] at hfine
    obtain ⟨hstages, hnext⟩ := hstep s call h hfine.1
    rcases List.mem_cons.mp hs' with rfl | hs'
    · exact h
    · rcases List.mem_append.mp hs' with hnow | hlater
      · exact hstages s' hnow
      · exact ih hnext hfine.2 s' hlater

theorem allCalls_of_forall {fine : Session → Call → Bool} (h : ∀ s call, fine s call = true)
    (s : Session) (calls : List Call) : s.allCalls fine calls = true := by
  induction calls generalizing s with
  | nil => rfl
  | cons call calls ih => rw [allCalls, h, ih, Bool.and_true]

/-- What every call keeps holds all along a run. -/
theorem trail_keeps {P : Session → Prop}
    (hstep : ∀ s call, P s → (∀ s' ∈ s.stages call, P s') ∧ P (s.step call).state)
    {s : Session} (h : P s) (calls : List Call) : ∀ s' ∈ s.trail calls, P s' := by
  have hfine : s.allCalls (fun _ _ => true) calls = true := allCalls_of_forall (fun _ _ => rfl) s calls
  exact trail_keeps_of_allCalls (fun s call hs _ => hstep s call hs) h hfine

/-- A property holds all along a run exactly if every call of the run is fine, if fine calls keep an
invariant that implies the property, and every other call leads to a session without it. -/
theorem forall_trail_iff {I P : Session → Prop} {fine : Session → Call → Bool}
    (hgood : ∀ s, I s → P s)
    (hfine : ∀ s call, I s → fine s call = true →
      (∀ s' ∈ s.stages call, I s') ∧ I (s.step call).state)
    (hbad : ∀ s call, I s → fine s call = false →
      (∃ s' ∈ s.stages call, ¬ P s') ∨ ¬ P (s.step call).state)
    {s : Session} (h : I s) (calls : List Call) :
    (∀ s' ∈ s.trail calls, P s') ↔ s.allCalls fine calls = true := by
  induction calls generalizing s with
  | nil =>
    refine iff_of_true (fun s' hs' => ?_) rfl
    obtain rfl := List.mem_singleton.mp hs'
    exact hgood _ h
  | cons call calls ih =>
    rw [allCalls]
    cases hcall : fine s call with
    | false =>
      -- The property is lost with this call, whatever the rest of the run does.
      refine iff_of_false (fun hall => ?_) Bool.false_ne_true
      rcases hbad s call h hcall with ⟨s', hs', hnot⟩ | hnot
      · exact hnot (hall s' (List.mem_cons_of_mem _ (List.mem_append_left _ hs')))
      · exact hnot (hall _ (List.mem_cons_of_mem _ (List.mem_append_right _ (mem_trail_self _ calls))))
    | true =>
      -- The invariant goes on, and the rest of the run decides.
      obtain ⟨hstages, hnext⟩ := hfine s call h hcall
      rw [Bool.true_and, ← ih hnext]
      constructor
      · exact fun hall s' hs' => hall s' (List.mem_cons_of_mem _ (List.mem_append_right _ hs'))
      · intro hlater s' hs'
        rcases List.mem_cons.mp hs' with rfl | hs'
        · exact hgood _ h
        · rcases List.mem_append.mp hs' with hnow | hs'
          · exact hgood s' (hstages s' hnow)
          · exact hlater s' hs'

end Session

end VulkanValidity
