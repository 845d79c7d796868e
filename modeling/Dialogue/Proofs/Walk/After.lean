import Dialogue.Proofs.Walk.Reached

/-!
# Walks after so many steps

`Walk.after` is the walk without its ceiling: it stands after a number of steps, on its way or over.
No step of a walk is refused, so a run is the walk after as many steps as the ceiling allows, failed
if it is still on its way. What every step keeps holds after any number of them.
-/

namespace Dialogue.Walk

/-- The walk is over with `R`, or on its way with `I`. -/
def Progress.Meets (I R : Walk → Prop) : Progress → Prop
  | moving w => I w
  | settled w => R w

lemma Progress.Meets.and {I I' R R' : Walk → Prop} {p : Progress} (h : p.Meets I R)
    (h' : p.Meets I' R') : p.Meets (fun w => I w ∧ I' w) fun w => R w ∧ R' w := by
  cases p with
  | moving w => exact ⟨h, h'⟩
  | settled w => exact ⟨h, h'⟩

lemma Progress.Meets.imp {I I' R R' : Walk → Prop} {p : Progress} (h : p.Meets I R)
    (hI : ∀ w, I w → I' w) (hR : ∀ w, R w → R' w) : p.Meets I' R' := by
  cases p with
  | moving w => exact hI w h
  | settled w => exact hR w h

/-- The walk after so many steps, if it is not over before. -/
def after (w : Walk) (stimulus : Option Stimulus) : Nat → Progress
  | 0 => .moving w
  | n + 1 =>
    match w.step stimulus with
    | .moving v => v.after none n
    | .settled v => .settled v

/-- A walk that is still on its way fails for the ceiling. -/
def Progress.close (ceiling : Nat) : Progress → Walk
  | moving w => w.fail .infiniteLoop (ceilingReason ceiling w.session)
  | settled w => w

/-- The walk when its session has been set running. -/
def opened (w : Walk) : Walk := (w.edit (.setStatus .running)).edit (.setPending none)

variable {origin s : Session} {events : List Event} {w : Walk} {stimulus : Option Stimulus}

/-! ### One step -/

lemma perform_meets {I R : Walk → Prop} {step : Step}
    (moving : ∀ target, step.outcome = .goOn target → I (w.perform step).walk)
    (settled : (∀ target, step.outcome ≠ .goOn target) → R (w.perform step).walk) :
    (w.perform step).Meets I R := by
  simp only [perform] at moving settled ⊢
  cases houtcome : step.outcome with
  | goOn target =>
    rw [houtcome] at moving
    exact moving target rfl
  | _ =>
    rw [houtcome] at settled
    exact settled fun target heq => by cases heq

/-- What holds after a step: the node that is reached goes on or not, or there is no node. -/
lemma Reached.step_meets {I R : Walk → Prop} (h : Reached origin s events w)
    (moving : ∀ n target v, s.place? = some n →
      (Step.ofNode n s stimulus).outcome = .goOn target →
      Reached origin (s.perform (Step.ofNode n s stimulus))
        ((Step.ofNode n s stimulus).sent events) v → I v)
    (settled : ∀ n v, s.place? = some n →
      (∀ target, (Step.ofNode n s stimulus).outcome ≠ .goOn target) →
      Reached origin (s.perform (Step.ofNode n s stimulus))
        ((Step.ofNode n s stimulus).sent events) v → R v)
    (lost : ∀ reason v, s.place? = none →
      Reached origin (s.hear [.flowError .missingEdge reason]).close
        (events ++ [.flowError .missingEdge reason, .endOfConversation]) v → R v) :
    (w.step stimulus).Meets I R := by
  have hnode : w.node? = s.place? := by
    rw [← h.session]
    rfl
  simp only [step]
  rw [hnode, h.session]
  cases hplace : s.place? with
  | none => exact lost _ _ hplace (h.fail .missingEdge _)
  | some n =>
    have hreached := h.perform (Step.ofNode n s stimulus) fun target =>
      (Session.shape_of_place? hplace stimulus).found
    refine perform_meets (fun target hgo => ?_) fun hstay => ?_
    · exact moving n target _ hplace hgo hreached
    · exact settled n _ hplace hstay hreached

/-- No step is refused. -/
lemma Reached.step (h : Reached origin s events w) (stimulus : Option Stimulus) :
    (w.step stimulus).Meets (fun v => ∃ s events, Reached origin s events v)
      (fun v => ∃ s events, Reached origin s events v) :=
  h.step_meets (fun _ _ _ _ _ hv => ⟨_, _, hv⟩) (fun _ _ _ _ hv => ⟨_, _, hv⟩)
    fun _ _ _ hv => ⟨_, _, hv⟩

/-! ### Many steps -/

/-- What every step keeps, and what it brings about where the walk is over, holds after any number
of steps. -/
lemma after_meets {I R : Nat → Walk → Prop}
    (hstep : ∀ k v stimulus, I k v → (v.step stimulus).Meets (I (k + 1)) (R (k + 1)))
    {k : Nat} (h : I k w) (stimulus : Option Stimulus) (n : Nat) :
    (w.after stimulus n).Meets (I (k + n)) fun v => ∃ m ≤ k + n, R m v := by
  induction n generalizing k w stimulus with
  | zero => exact h
  | succ n ih =>
    have hnext := hstep k w stimulus h
    simp only [after]
    cases hw : w.step stimulus with
    | moving v =>
      rw [hw] at hnext
      have hrest : (v.after none n).Meets (I (k + 1 + n)) _ := ih hnext none
      rw [Nat.add_right_comm] at hrest
      exact hrest
    | settled v =>
      rw [hw] at hnext
      exact ⟨k + 1, by omega, hnext⟩

/-- What every step keeps holds after any number of them. -/
lemma after_keeps {I R : Walk → Prop}
    (hstep : ∀ v stimulus, I v → (v.step stimulus).Meets I R) (h : I w)
    (stimulus : Option Stimulus) (n : Nat) : (w.after stimulus n).Meets I R := by
  have hafter := after_meets (I := fun _ => I) (R := fun _ => R) (k := 0)
    (fun _ v stimulus hv => hstep v stimulus hv) h stimulus n
  exact hafter.imp (fun _ hv => hv) fun _ ⟨_, _, hv⟩ => hv

lemma Reached.reached_after (h : Reached origin s events w) (stimulus : Option Stimulus) (n : Nat) :
    (w.after stimulus n).Meets (fun v => ∃ s events, Reached origin s events v)
      (fun v => ∃ s events, Reached origin s events v) :=
  after_keeps (fun _ stimulus ⟨_, _, hv⟩ => hv.step stimulus) ⟨s, events, h⟩ stimulus n

/-- What holds of a walk in the end: what its last step brings about, or a failure at the
ceiling. -/
lemma Progress.Meets.close {I R P : Walk → Prop} {p : Progress} {ceiling : Nat} (h : p.Meets I R)
    (moving : ∀ v, I v → P (v.fail .infiniteLoop (ceilingReason ceiling v.session)))
    (settled : ∀ v, R v → P v) : P (p.close ceiling) := by
  cases p with
  | moving v => exact moving v h
  | settled v => exact settled v h

/-- However a walk ends, no step of it was refused. -/
lemma Reached.close (h : Reached origin s events w) (stimulus : Option Stimulus)
    (ceiling n : Nat) :
    ∃ s events, Reached origin s events ((w.after stimulus n).close ceiling) := by
  apply (h.reached_after stimulus n).close (P := fun v => ∃ s events, Reached origin s events v)
  · rintro v ⟨_, _, hv⟩
    exact ⟨_, _, hv.fail .infiniteLoop _⟩
  · intro v hv
    exact hv

/-! ### Runs -/

lemma Reached.steps_eq (h : Reached origin s events w) (ceiling n : Nat) :
    w.steps ceiling stimulus n = (w.after stimulus n).close ceiling := by
  induction n generalizing s events w stimulus with
  | zero => rfl
  | succ n ih =>
    have hnext := h.step stimulus
    simp only [Walk.steps, Walk.after]
    cases hw : w.step stimulus with
    | moving v =>
      rw [hw] at hnext
      obtain ⟨_, _, hv⟩ := hnext
      simp only [hv.accepted, Option.isSome_none, Bool.false_eq_true, if_false]
      exact ih hv
    | settled v => rfl

lemma Reached.opened (h : Reached origin s events w) :
    Reached origin { s with status := .running, pending := none } events w.opened :=
  (h.setStatus .running).setPending none

/-- A run is the walk after as many steps as the ceiling allows. -/
lemma Reached.run_eq (h : Reached origin s events w) (ceiling : Nat) :
    w.run ceiling stimulus = (w.opened.after stimulus ceiling).close ceiling :=
  h.opened.steps_eq ceiling ceiling

/-- What holds after a run: what the last step brings about, or a failure at the ceiling. -/
lemma Reached.run_meets {I R : Nat → Walk → Prop} {P : Walk → Prop}
    (h : Reached origin s events w) (ceiling : Nat) (stimulus : Option Stimulus)
    (hstep : ∀ k v stimulus, I k v → (v.step stimulus).Meets (I (k + 1)) (R (k + 1)))
    (hopened : I 0 w.opened)
    (moving : ∀ v, I ceiling v → P (v.fail .infiniteLoop (ceilingReason ceiling v.session)))
    (settled : ∀ m v, m ≤ ceiling → R m v → P v) : P (w.run ceiling stimulus) := by
  have hafter := after_meets hstep hopened stimulus ceiling
  rw [Nat.zero_add] at hafter
  rw [h.run_eq]
  exact hafter.close moving fun v ⟨m, hle, hv⟩ => settled m v hle hv

end Dialogue.Walk
